import NodeTopology.Proofs.Truthfulness
/-!
What the success of an update rests on, for every copy of the node, policy and budget.  Main
statement: an update reports success exactly if one of its own writes was accepted, or if its first
write was lost, lost writes are to be tried again, and its budget allows no attempt; so a budget
without attempts is the only way to a success without a write.
-/

namespace NodeTopology

namespace Updater

def successLine (name : String) (placement : Placement) : LogLine :=
  ⟨.info, "Added required labels for the node " ++ name ++ ": " ++ placement.labels.text⟩

/-- The success of an update with these events of its own is earned: an accepted write goes with it,
unless the only write was lost and there was no attempt to try it again. -/
structure EarnsSuccess (updater : Updater) (name : String) (result : Except Fault Bool)
    (own : Trace) : Prop where
  earned : result = .ok true ↔
    (∃ call ∈ own, call.isAcceptedWrite = true) ∨
      updater.policy = .retry ∧ updater.budget.attempts ≤ 0 ∧ own.LosesOnlyWrite
  reported : (∃ placement, .logged (successLine name placement) ∈ own) ↔ result = .ok true

/-- An update that ends with a fault before it writes has no success to earn. -/
theorem EarnsSuccess.of_fault {updater : Updater} {name : String} (fault : Fault) :
    updater.EarnsSuccess name (.error fault) [] := by
  constructor
  · exact iff_of_false (by simp) (by simp [Trace.LosesOnlyWrite, Trace.writes])
  · exact iff_of_false (by simp) (by simp)

/-- A run reports success in its log exactly if it ends with true. -/
def Announces (name : String) (x : Run Outside Bool) : Prop :=
  ∀ outside, (∃ placement, .logged (successLine name placement) ∈ (x outside).trace) ↔
    (x outside).result = .ok true

/-- An event that is no line of plain information. -/
def IsQuiet : Event → Prop
  | .logged line => line.level ≠ .info
  | _ => True

section Announcing

variable {name : String} {placement : Placement}

theorem not_isQuiet_successLine : ¬IsQuiet (.logged (successLine name placement)) :=
  fun hquiet => hquiet rfl

theorem not_mem_of_forall_isQuiet {trace : Trace} (hquiet : ∀ event ∈ trace, IsQuiet event)
    (name : String) : ¬∃ placement, .logged (successLine name placement) ∈ trace := by
  rintro ⟨placement, hline⟩
  exact not_isQuiet_successLine (hquiet _ hline)

theorem Announces.throw (fault : Fault) : Announces name (throw fault) := by
  intro outside
  simp

/-- What goes before quietly does not change what is reported. -/
theorem Announces.bind {α : Type} {x : Run Outside α} {f : α → Run Outside Bool}
    (hquiet : x.Emits IsQuiet) (hthen : ∀ a, Announces name (f a)) : Announces name (x >>= f) := by
  intro outside
  have hsilent := not_mem_of_forall_isQuiet (hquiet outside) name
  rcases Run.bind_cases x f outside with ⟨fault, _, hbind⟩ | ⟨a, _, hbind⟩
  · rw [hbind]
    exact iff_of_false hsilent (by simp)
  · rw [hbind, ← hthen a (x outside).supply]
    constructor
    · rintro ⟨placement, hline⟩
      rcases List.mem_append.mp hline with hfirst | hlater
      · exact absurd ⟨placement, hfirst⟩ hsilent
      · exact ⟨placement, hlater⟩
    · rintro ⟨placement, hline⟩
      exact ⟨placement, List.mem_append_right _ hline⟩

theorem Announces.log_bind {level : Level} {text : String} {f : Unit → Run Outside Bool}
    (hlevel : level ≠ .info) (hthen : Announces name (f ())) :
    Announces name (Run.log level text >>= f) :=
  bind (Run.Emits.emit hlevel) fun _ => hthen

theorem Announces.left : Announces name (pure false) := by
  intro outside
  simp

end Announcing

section Reports

variable (updater : Updater) (name : String) (placement : Placement)

theorem write_isQuiet (body : Node) : (write name body).Emits IsQuiet := by
  intro outside event hevent
  rw [write_apply, List.mem_singleton] at hevent
  subst hevent
  trivial

theorem round_isQuiet : (round name placement).Emits IsQuiet := by
  intro outside event hevent
  rw [(round_apply name placement outside).2.1, ← ConflictRound.clusterCalls_calls] at hevent
  obtain ⟨_, hcall⟩ := Trace.mem_clusterCalls.mp hevent
  cases event with
  | logged => cases hcall
  | _ => trivial

theorem settle_isQuiet : (updater.settle name placement).Emits IsQuiet :=
  Run.Emits.bind
    (Retry.run_emits (fun _ hlevel => hlevel) (fun _ => trivial) (round_isQuiet name placement))
    fun _ => Run.Emits.pure _

theorem conclude_announces (outcome : Except RemoteError Unit) :
    Announces name (conclude name placement outcome) := by
  cases outcome with
  | error e => exact Announces.throw _
  | ok =>
      intro outside
      exact iff_of_true ⟨placement, List.mem_cons_self⟩ rfl

theorem follow_announces (first : Except RemoteError Unit) :
    Announces name (updater.follow name placement first) := by
  cases first with
  | ok => exact conclude_announces name placement _
  | error e =>
      rw [follow]
      split
      · exact conclude_announces name placement _
      · cases updater.policy with
        | ignore => exact Announces.log_bind (by decide) Announces.left
        | fail => exact conclude_announces name placement _
        | retry =>
            apply Announces.log_bind (by decide)
            exact Announces.bind (updater.settle_isQuiet name placement)
              (conclude_announces name placement)

/-- Whatever the first write comes to, the log reports success exactly if the update ends so. -/
theorem writeAndSettle_announces (body : Node) :
    Announces name (updater.writeAndSettle name placement body) :=
  Announces.bind (write_isQuiet name body) (updater.follow_announces name placement)

end Reports

section Writes

variable (updater : Updater) (name : String) (placement : Placement) (body : Node)
  (outside : Outside)

/-- With attempts to spare, success is an accepted write. -/
theorem result_eq_true_iff_of_attempts (hattempts : 0 < updater.budget.attempts) :
    let outcome := updater.writeAndSettle name placement body outside
    outcome.result = .ok true ↔ ∃ call ∈ outcome.trace, call.isAcceptedWrite = true := by
  obtain ⟨haccepted, hnone⟩ :=
    updater.accepted_writeAndSettle name placement hattempts body outside
  dsimp only at haccepted hnone ⊢
  rw [← List.countP_pos_iff]
  constructor
  · intro htrue
    rw [(haccepted htrue).1]
    exact Nat.one_pos
  · intro hsome
    apply Classical.byContradiction
    intro hfailed
    rw [hnone hfailed] at hsome
    exact absurd hsome (Nat.lt_irrefl 0)

/-- Without attempts the first write is the only one.  It is accepted, or else lost and taken for
settled if lost writes are to be tried again. -/
theorem result_eq_true_iff_of_no_attempts (hattempts : updater.budget.attempts ≤ 0) :
    let outcome := updater.writeAndSettle name placement body outside
    outcome.result = .ok true ↔ (∃ call ∈ outcome.trace, call.isAcceptedWrite = true) ∨
      updater.policy = .retry ∧ outcome.trace.LosesOnlyWrite := by
  obtain ⟨_, htrue, _⟩ := updater.writeAndSettle_spec name placement body outside
  have hcalls := updater.clusterCalls_writeAndSettle name placement body outside
  dsimp only at htrue hcalls ⊢
  generalize outside.replaces.first.answer body = answer at htrue hcalls
  have hrounds : updater.roundsAfter placement answer
      { outside with replaces := outside.replaces.rest } = [] := by
    apply Classical.byContradiction
    intro hsome
    have hpositive := ((updater.roundsAfter_ne_nil_iff placement answer _).mp hsome).2.2
    omega
  rw [hrounds] at htrue hcalls
  have hwrites := Trace.writes_clusterCalls
    (updater.writeAndSettle name placement body outside).trace
  rw [← List.countP_pos_iff, ← Trace.countP_isAcceptedWrite_clusterCalls, Trace.LosesOnlyWrite,
    ← hwrites, hcalls, htrue]
  cases answer with
  | ok kept => exact iff_of_true (Or.inl rfl) (Or.inl Nat.one_pos)
  | error e =>
      constructor
      · rintro (hok | ⟨hlost, hretry, _⟩)
        · cases hok
        · exact Or.inr ⟨hretry, name, body, e, rfl, hlost⟩
      · rintro (haccepted | ⟨hretry, _, _, _, honly, hlost⟩)
        · cases haccepted
        · cases honly
          exact Or.inr ⟨hlost, hretry, by simp⟩

/-- An update whose placement is known earns its success. -/
theorem writeAndSettle_earnsSuccess :
    let outcome := updater.writeAndSettle name placement body outside
    updater.EarnsSuccess name outcome.result outcome.trace := by
  refine ⟨?_, updater.writeAndSettle_announces name placement body outside⟩
  by_cases hattempts : 0 < updater.budget.attempts
  · have htrue := updater.result_eq_true_iff_of_attempts name placement body outside hattempts
    refine htrue.trans ⟨Or.inl, ?_⟩
    rintro (haccepted | ⟨_, hnone, _⟩)
    · exact haccepted
    · exact absurd hattempts (Int.not_lt.mpr hnone)
  · have hnone := Int.not_lt.mp hattempts
    have htrue := updater.result_eq_true_iff_of_no_attempts name placement body outside hnone
    simpa only [hnone, true_and] using htrue

end Writes

/-- An update reports success, in its result and in its log alike, exactly if one of its own writes
was accepted, or if its only write was lost, lost writes are to be tried again, and its budget
allows no attempt. -/
theorem success_takes_an_accepted_write (updater : Updater) (name : String) (outside : Outside) :
    let located := updater.resolver.placementOf (some name) outside
    let outcome := updater.update name outside
    ∃ own : Trace, outcome.trace = located.trace ++ own ∧
      updater.EarnsSuccess name outcome.result own := by
  dsimp only
  cases hplacement : (updater.resolver.placementOf (some name) outside).result with
  | error fault =>
      rw [update_apply_of_no_placement hplacement]
      exact ⟨[], (List.append_nil _).symm, EarnsSuccess.of_fault fault⟩
  | ok placement =>
      rw [update_eq, Run.bind_of_result_ok hplacement]
      refine ⟨_, rfl, ?_⟩
      dsimp only
      rw [labelled]
      cases updater.node.bind (·.withPlacement? placement) with
      | none => exact EarnsSuccess.of_fault (.misuse .noSuchMember)
      | some body => exact updater.writeAndSettle_earnsSuccess name placement body _

/-- Without attempts a lost write is reported as a success. -/
theorem lost_write_without_attempts_is_reported_as_success :
    let machine : Instance := ⟨"id-7", "worker", "running", some ⟨"us-south-1", ""⟩, none⟩
    let updater : Updater := ⟨some (.labelled none), .ofList [machine], .retry, ⟨0, 1000⟩⟩
    let conflict : RemoteError := .refused (.int 409) (.text "Conflict") .null
    let outside : Outside :=
      ⟨⟨.error conflict, []⟩, ⟨.ok (some (.labelled none)), []⟩, ⟨.failed conflict, []⟩⟩
    let outcome := updater.update "worker" outside
    outcome.result.toOption = some true ∧
      successLine "worker" ⟨"id-7", "us-south", "us-south-1"⟩ ∈ outcome.trace.logLines ∧
      outcome.trace.any Event.isAcceptedWrite = false := by
  intro machine updater conflict outside outcome
  dsimp +zetaDelta only
  decide +kernel

end Updater

end NodeTopology
