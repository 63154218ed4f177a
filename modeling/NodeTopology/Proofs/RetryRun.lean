import NodeTopology.Proofs.RunTrace
/-!
Whole retries.  An operation that depends on a part of its supply only does so however often it is
run; failures that are worth another attempt use up attempts and nothing else; and what a retry
answers is what its last attempt came to, the attempts before it having failed.
-/

namespace NodeTopology

/-- The outcome seen over another supply. -/
def Outcome.mapSupply {σ τ α : Type} (f : σ → τ) (outcome : Outcome σ α) : Outcome τ α :=
  ⟨outcome.result, outcome.trace, f outcome.supply⟩

namespace Retry

variable {σ ε α β : Type} {describe : ε → String} {budget : Budget}
  {operation : Run σ (Attempt ε α)}

/-- A retry keeps to what its operation keeps to, if waits do and lines other than plain
information. -/
theorem attemptsFrom_emits {P : Event → Prop}
    (hlogged : ∀ line, line.level ≠ .info → P (.logged line))
    (hslept : ∀ milliseconds, P (.slept milliseconds)) (hoperation : operation.Emits P)
    (number left : Nat) : (attemptsFrom describe budget operation number left).Emits P := by
  induction left generalizing number with
  | zero => exact Run.Emits.pure none
  | succ left ih =>
      apply Run.Emits.bind hoperation
      intro attempt
      apply Run.Emits.bind (Run.Emits.emit (hlogged _ (fun hlevel => by cases hlevel)))
      intro _
      split
      · exact Run.Emits.pure _
      · apply Run.Emits.bind (Run.Emits.emit (hslept _))
        intro _
        apply Run.Emits.bind (Run.Emits.emit (hlogged _ (fun hlevel => by cases hlevel)))
        intro _
        exact ih (number + 1)

theorem run_emits {P : Event → Prop} (hlogged : ∀ line, line.level ≠ .info → P (.logged line))
    (hslept : ∀ milliseconds, P (.slept milliseconds)) (hoperation : operation.Emits P) :
    (run describe budget operation).Emits P :=
  attemptsFrom_emits hlogged hslept hoperation 1 budget.attempts.toNat

/-- A change of the supply that one attempt does not see is not seen by any number of them. -/
theorem attemptsFrom_mapSupply {f : σ → σ}
    (hoperation : ∀ supply, operation (f supply) = (operation supply).mapSupply f)
    (number left : Nat) (supply : σ) :
    attemptsFrom describe budget operation number left (f supply) =
      (attemptsFrom describe budget operation number left supply).mapSupply f := by
  induction left generalizing number supply with
  | zero => rfl
  | succ left ih =>
      have hstep := hoperation supply
      rcases hattempt : operation supply with ⟨result, trace, rest⟩
      rw [hattempt] at hstep
      cases result with
      | error fault =>
          rw [attemptsFrom_of_fault hstep, attemptsFrom_of_fault hattempt]
          rfl
      | ok attempt =>
          cases hlast : attempt.isLast || left == 0 with
          | true =>
              rw [attemptsFrom_of_last hstep number left hlast,
                attemptsFrom_of_last hattempt number left hlast]
              rfl
          | false =>
              rw [attemptsFrom_of_again hstep number left hlast,
                attemptsFrom_of_again hattempt number left hlast, ih (number + 1) rest]
              rfl

/-- What is left of the supply after an operation was run a number of times. -/
def supplyAfter (operation : Run σ α) (supply : σ) : Nat → σ
  | 0 => supply
  | n + 1 => supplyAfter operation (operation supply).supply n

/-- Failures that are worth another attempt only use up attempts, as long as one is left. -/
theorem result_attemptsFrom_of_failures (number failures left : Nat) (supply : σ)
    (hfail : ∀ i < failures, ∃ e,
      (operation (supplyAfter operation supply i)).result = .ok (.failure e false)) :
    (attemptsFrom describe budget operation number (failures + (left + 1)) supply).result =
      (attemptsFrom describe budget operation (number + failures) (left + 1)
        (supplyAfter operation supply failures)).result := by
  induction failures generalizing number supply with
  | zero =>
      rw [Nat.zero_add]
      rfl
  | succ failures ih =>
      obtain ⟨e, hfirst⟩ := hfail 0 (Nat.succ_pos failures)
      rcases hattempt : operation supply with ⟨result, trace, rest⟩
      rw [supplyAfter, hattempt] at hfirst
      cases hfirst
      have hrest : ∀ i < failures, ∃ e,
          (operation (supplyAfter operation rest i)).result = .ok (.failure e false) := by
        intro i hi
        have hnext := hfail (i + 1) (Nat.succ_lt_succ hi)
        rwa [supplyAfter, hattempt] at hnext
      have hagain : ((Attempt.failure e false : Attempt ε α).isLast ||
          failures + (left + 1) == 0) = false := by
        simp [Attempt.isLast, Attempt.failure, Except.isOk, Except.toBool]
      rw [Nat.add_right_comm failures 1 (left + 1),
        attemptsFrom_of_again hattempt number _ hagain, supplyAfter, hattempt]
      have hnumber : number + (failures + 1) = number + 1 + failures := by omega
      rw [hnumber]
      exact ih (number + 1) rest hrest

/-- What a retry succeeds with is what its last attempt succeeded with.  A view of the trace that
passes over lines, waits and failed attempts shows that last attempt and nothing else. -/
theorem attemptsFrom_ok_inv (view : Event → Option β) {a : α}
    (hlogged : ∀ line, view (.logged line) = none)
    (hslept : ∀ milliseconds, view (.slept milliseconds) = none)
    (hfailed : ∀ supply e stop, (operation supply).result = .ok ⟨.error e, stop⟩ →
      (operation supply).trace.filterMap view = [])
    {number left : Nat} {supply : σ}
    (hresult : (attemptsFrom describe budget operation number left supply).result =
      .ok (some (.ok a))) :
    ∃ last stop, (operation last).result = .ok ⟨.ok a, stop⟩ ∧
      (attemptsFrom describe budget operation number left supply).trace.filterMap view =
        (operation last).trace.filterMap view := by
  induction left generalizing number supply with
  | zero => cases hresult
  | succ left ih =>
      rcases hattempt : operation supply with ⟨result, trace, rest⟩
      cases result with
      | error fault =>
          rw [attemptsFrom_of_fault hattempt] at hresult
          cases hresult
      | ok attempt =>
          cases hlast : attempt.isLast || left == 0 with
          | true =>
              rw [attemptsFrom_of_last hattempt number left hlast] at hresult ⊢
              rcases attempt with ⟨outcome, stop⟩
              cases hresult
              refine ⟨supply, stop, by rw [hattempt], ?_⟩
              simp [hattempt, hlogged]
          | false =>
              rw [attemptsFrom_of_again hattempt number left hlast] at hresult ⊢
              obtain ⟨last, stop, hok, hview⟩ := ih hresult
              refine ⟨last, stop, hok, ?_⟩
              have hnothing : trace.filterMap view = [] := by
                rcases attempt with ⟨_ | _, stop⟩
                · have := hfailed supply
                  rw [hattempt] at this
                  exact this _ _ rfl
                · simp [Attempt.isLast, Except.isOk, Except.toBool] at hlast
              simp only [List.filterMap_append, List.filterMap_cons, hlogged, hslept, hnothing,
                List.nil_append]
              exact hview

end Retry

end NodeTopology
