import Mathlib.Data.List.Basic
import Mathlib.Data.Nat.Find
import NodeTopology.Proofs.RetryRun
/-!
The whole course of a retry.  An invocation is final if it raised a fault, succeeded or asked to
stop; the first final one within the budget is the last.  Main statement: a retry invokes its
operation up to the first final invocation, or as often as its budget allows if none is final before
that; it ends as the last invocation did; and what it adds to the traces of the invocations is a
report of each that completed, and between each two a wait and an announcement.
-/

namespace NodeTopology

namespace Trace

def linesOf (level : Level) (trace : Trace) : List LogLine :=
  trace.logLines.filter fun line => line.level == level

/-- The line that an event is, if it is one of this level. -/
def lineOf? (level : Level) : Event → Option LogLine
  | .logged line => if line.level == level then some line else none
  | _ => none

theorem linesOf_eq_filterMap (level : Level) (trace : Trace) :
    trace.linesOf level = trace.filterMap (lineOf? level) := by
  rw [linesOf, logLines, List.filter_filterMap]
  congr 1
  funext event
  cases event with
  | logged line => simp [lineOf?, Option.filter]
  | _ => rfl

end Trace

namespace Retry

/-- So many stretches of a list, with a pause after each but the last. -/
def withPauses {β : Type} (stretch pause : Nat → List β) : Nat → List β
  | 0 => []
  | last + 1 => ((List.range last).flatMap fun i => stretch i ++ pause i) ++ stretch last

section Pauses

variable {β γ : Type} {stretch pause : Nat → List β}

theorem withPauses_add_two (last : Nat) :
    withPauses stretch pause (last + 2) =
      stretch 0 ++ pause 0 ++
        withPauses (fun i => stretch (i + 1)) (fun i => pause (i + 1)) (last + 1) := by
  rw [withPauses, withPauses, List.range_succ_eq_map, List.flatMap_cons, List.flatMap_map,
    List.append_assoc]

/-- A view of the whole is made of views of the parts. -/
theorem filterMap_withPauses (view : β → Option γ) (count : Nat) :
    (withPauses stretch pause count).filterMap view =
      withPauses (fun i => (stretch i).filterMap view) (fun i => (pause i).filterMap view)
        count := by
  cases count with
  | zero => rfl
  | succ last =>
      simp only [withPauses, List.filterMap_append, List.filterMap_flatMap]

/-- What stands after the last stretch does not count. -/
theorem withPauses_congr {stretch' pause' : Nat → List β} {count : Nat}
    (hstretch : ∀ i < count, stretch i = stretch' i)
    (hpause : ∀ i, i + 1 < count → pause i = pause' i) :
    withPauses stretch pause count = withPauses stretch' pause' count := by
  cases count with
  | zero => rfl
  | succ last =>
      rw [withPauses, withPauses, hstretch last (Nat.lt_add_one last)]
      congr 1
      apply List.flatMap_congr
      intro i hi
      rw [List.mem_range] at hi
      rw [hstretch i (Nat.lt_succ_of_lt hi), hpause i (Nat.succ_lt_succ hi)]

/-- Single members with the same pause between each two. -/
theorem withPauses_singletons (member : Nat → β) (between : β) (count : Nat) :
    withPauses (fun i => [member i]) (fun _ => [between]) count =
      ((List.range count).map member).intersperse between := by
  induction count generalizing member with
  | zero => rfl
  | succ last ih =>
      cases last with
      | zero => rfl
      | succ last =>
          rw [withPauses_add_two, ih]
          simp [List.range_succ_eq_map, Function.comp_def]

theorem withPauses_nil (count : Nat) :
    withPauses stretch (fun _ => []) count = (List.range count).flatMap stretch := by
  cases count with
  | zero => rfl
  | succ last => simp [withPauses, List.range_succ]

end Pauses

variable {σ ε α : Type}

/-- What the invocation of this number does, counted from zero. -/
def invocation (operation : Run σ (Attempt ε α)) (supply : σ) (i : Nat) :
    Outcome σ (Attempt ε α) :=
  operation (supplyAfter operation supply i)

theorem invocation_succ (operation : Run σ (Attempt ε α)) (supply : σ) (i : Nat) :
    invocation operation supply (i + 1) = invocation operation (operation supply).supply i := rfl

/-- The end of an invocation that no other may follow. -/
inductive IsFinal : Except Fault (Attempt ε α) → Prop
  | raised (fault : Fault) : IsFinal (.error fault)
  | succeeded (a : α) (stop : Bool) : IsFinal (.ok ⟨.ok a, stop⟩)
  | stopped (outcome : Except ε α) : IsFinal (.ok ⟨outcome, true⟩)

/-- Any other invocation failed and did not ask to stop. -/
theorem not_isFinal_iff {ending : Except Fault (Attempt ε α)} :
    ¬IsFinal ending ↔ ∃ e, ending = .ok (.failure e false) := by
  constructor
  · intro hfinal
    rcases ending with fault | ⟨_ | a, _ | _⟩
    · exact absurd (.raised fault) hfinal
    · exact ⟨_, rfl⟩
    · exact absurd (.stopped _) hfinal
    · exact absurd (.succeeded a _) hfinal
    · exact absurd (.stopped _) hfinal
  · rintro ⟨e, rfl⟩ hfinal
    cases hfinal

theorem isLast_of_isFinal {attempt : Attempt ε α} (hfinal : IsFinal (.ok attempt)) :
    attempt.isLast = true := by
  cases hfinal with
  | succeeded => simp [Attempt.isLast, Except.isOk, Except.toBool]
  | stopped => rfl

/-- Of these ends the one of this number is the first that no other may follow. -/
structure IsFirstFinal (endings : Nat → Except Fault (Attempt ε α)) (number : Nat) : Prop where
  final : IsFinal (endings number)
  earlier : ∀ i < number, ¬IsFinal (endings i)

theorem IsFirstFinal.unique {endings : Nat → Except Fault (Attempt ε α)} {number other : Nat}
    (hnumber : IsFirstFinal endings number) (hother : IsFirstFinal endings other) :
    number = other := by
  rcases Nat.lt_trichotomy number other with hlt | heq | hlt
  · exact absurd hnumber.final (hother.earlier number hlt)
  · exact heq
  · exact absurd hother.final (hnumber.earlier other hlt)

section Course

variable (describe : ε → String) (budget : Budget)

/-- The report of an invocation, if it completed. -/
def reportOf (number : Nat) : Except Fault (Attempt ε α) → Trace
  | .ok attempt => [.logged (reportLine describe number attempt)]
  | .error _ => []

/-- The wait after an invocation that another is to follow, and the announcement of that one. -/
def pauseAfter (number : Nat) : Except Fault (Attempt ε α) → Trace
  | .ok attempt => [.slept budget.intervalMs, .logged (againLine describe budget number attempt)]
  | .error _ => []

/-- The trace of so many invocations with these ends and traces of their own, the first of them of
the given number. -/
def course (endings : Nat → Except Fault (Attempt ε α)) (traces : Nat → Trace) (number : Nat)
    (count : Nat) : Trace :=
  withPauses (fun i => traces i ++ reportOf describe (i + number) (endings i))
    (fun i => pauseAfter describe budget (i + number) (endings i)) count

variable {describe budget} {endings : Nat → Except Fault (Attempt ε α)} {traces : Nat → Trace}
  {number : Nat}

theorem course_add_two (last : Nat) :
    course describe budget endings traces number (last + 2) =
      traces 0 ++ reportOf describe number (endings 0) ++
        pauseAfter describe budget number (endings 0) ++
        course describe budget (fun i => endings (i + 1)) (fun i => traces (i + 1)) (number + 1)
          (last + 1) := by
  have hnumber : ∀ i, i + 1 + number = i + (number + 1) := by
    intro i
    omega
  simp only [course, withPauses_add_two, hnumber, Nat.zero_add]

/-- A retry invokes its operation up to an invocation that is final, or that is the last of its
budget, and ends as this one does. -/
theorem attemptsFrom_apply {operation : Run σ (Attempt ε α)} {supply : σ} {last left : Nat}
    (hearlier : ∀ i < last, ¬IsFinal (invocation operation supply i).result)
    (hwithin : last < left)
    (hlast : IsFinal (invocation operation supply last).result ∨ last + 1 = left) (number : Nat) :
    attemptsFrom describe budget operation number left supply =
      ⟨(invocation operation supply last).result.map fun attempt => some attempt.outcome,
        course describe budget (fun i => (invocation operation supply i).result)
          (fun i => (invocation operation supply i).trace) number (last + 1),
        supplyAfter operation supply (last + 1)⟩ := by
  obtain ⟨left, rfl⟩ := Nat.exists_eq_succ_of_ne_zero (Nat.ne_zero_of_lt hwithin)
  induction last generalizing number left supply with
  | zero =>
      have hfirst : invocation operation supply 0 = operation supply := rfl
      rw [hfirst] at hlast ⊢
      rcases hattempt : operation supply with ⟨result, trace, rest⟩
      rw [hattempt] at hlast
      cases result with
      | error fault =>
          rw [attemptsFrom_of_fault hattempt]
          simp [course, withPauses, hfirst, hattempt, reportOf, supplyAfter, Except.map]
      | ok attempt =>
          have hstop : (attempt.isLast || left == 0) = true := by
            rcases hlast with hfinal | hleft
            · rw [isLast_of_isFinal hfinal, Bool.true_or]
            · obtain rfl : left = 0 := by omega
              simp
          rw [attemptsFrom_of_last hattempt number left hstop]
          simp [course, withPauses, hfirst, hattempt, reportOf, supplyAfter, Except.map]
  | succ last ih =>
      obtain ⟨left, rfl⟩ :=
        Nat.exists_eq_succ_of_ne_zero (Nat.ne_zero_of_lt (Nat.lt_of_succ_lt_succ hwithin))
      obtain ⟨e, hfirst⟩ := not_isFinal_iff.mp (hearlier 0 (Nat.succ_pos last))
      rcases hattempt : operation supply with ⟨result, trace, rest⟩
      have hzero : invocation operation supply 0 = ⟨result, trace, rest⟩ := hattempt
      rw [hzero] at hfirst
      cases hfirst
      have hlater : ∀ i, invocation operation supply (i + 1) = invocation operation rest i := by
        intro i
        rw [invocation_succ, hattempt]
      have hsupply : supplyAfter operation supply (last + 2) =
          supplyAfter operation rest (last + 1) := by
        rw [supplyAfter, hattempt]
      have hrest : attemptsFrom describe budget operation (number + 1) (left + 1) rest = _ :=
        ih (fun i hi => hlater i ▸ hearlier (i + 1) (Nat.succ_lt_succ hi)) (number + 1) left
          (Nat.lt_of_succ_lt_succ hwithin) (hlater last ▸ hlast.imp_right Nat.succ.inj)
      rw [attemptsFrom_of_again hattempt number _ rfl, hrest, course_add_two, hsupply]
      simp [hzero, hlater, reportOf, pauseAfter]

/-- A view that passes over waits and announcements shows the invocations and their reports. -/
theorem filterMap_course_of_reports {β : Type} {view : Event → Option β} {count : Nat}
    (hpause : ∀ i, (pauseAfter describe budget (i + number) (endings i)).filterMap view = []) :
    (course describe budget endings traces number count).filterMap view =
      (List.range count).flatMap fun i =>
        (traces i).filterMap view ++
          (reportOf describe (i + number) (endings i)).filterMap view := by
  simp only [course, filterMap_withPauses, List.filterMap_append, hpause, withPauses_nil]

end Course

section Run

variable (describe : ε → String) {budget : Budget} {operation : Run σ (Attempt ε α)} {supply : σ}

/-- The first final invocation is the last if the budget allows so many. -/
theorem run_of_isFirstFinal {first : Nat}
    (hfirst : IsFirstFinal (fun i => (invocation operation supply i).result) first)
    (hwithin : (first : Int) < budget.attempts) :
    run describe budget operation supply =
      ⟨(invocation operation supply first).result.map fun attempt => some attempt.outcome,
        course describe budget (fun i => (invocation operation supply i).result)
          (fun i => (invocation operation supply i).trace) 1 (first + 1),
        supplyAfter operation supply (first + 1)⟩ :=
  attemptsFrom_apply hfirst.earlier (by omega) (.inl hfirst.final) 1

/-- Without a final invocation within the budget the operation is invoked as often as the budget
allows, and the last of its errors is the end. -/
theorem run_of_forall_not_isFinal
    (hnone : ∀ i : Nat, (i : Int) < budget.attempts →
      ¬IsFinal (invocation operation supply i).result) :
    let run := run describe budget operation supply
    run.supply = supplyAfter operation supply budget.attempts.toNat ∧
      run.trace = course describe budget (fun i => (invocation operation supply i).result)
        (fun i => (invocation operation supply i).trace) 1 budget.attempts.toNat ∧
      (budget.attempts ≤ 0 → run.result = .ok none) ∧
      ∀ last : Nat, (last : Int) + 1 = budget.attempts →
        ∃ e, (invocation operation supply last).result = .ok (.failure e false) ∧
          run.result = .ok (some (.error e)) := by
  dsimp only
  by_cases hattempts : budget.attempts ≤ 0
  · rw [run_of_attempts_nonpos hattempts, Int.toNat_of_nonpos hattempts]
    exact ⟨rfl, rfl, fun _ => rfl, fun last hall => by omega⟩
  · obtain ⟨last, hlast⟩ : ∃ last : Nat, (last : Int) + 1 = budget.attempts :=
      ⟨budget.attempts.toNat - 1, by omega⟩
    have hcount : budget.attempts.toNat = last + 1 := by omega
    have hrun : attemptsFrom describe budget operation 1 (last + 1) supply = _ :=
      attemptsFrom_apply (fun i hi => hnone i (by omega)) (Nat.lt_add_one last) (.inr rfl) 1
    obtain ⟨e, hfailed⟩ := not_isFinal_iff.mp (hnone last (by omega))
    rw [run, hcount, hrun]
    refine ⟨rfl, rfl, fun hnonpos => absurd hnonpos hattempts, ?_⟩
    intro last' hlast'
    obtain rfl : last' = last := by omega
    exact ⟨e, hfailed, congrArg (Except.map _) hfailed⟩

end Run

end Retry

end NodeTopology
