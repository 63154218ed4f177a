import NodeTopology.Proofs.RetryRun
/-!
Runs on terms: from a supply that is in order a run ends with a value that is promised or with a
fault that is allowed, leaves nothing but allowed events, and leaves the supply in order.  Main
statements: what is built of runs that keep to terms keeps to them, retries included.
-/

namespace NodeTopology

/-- What runs are to keep to: when a supply is in order, and which events and faults are allowed. -/
structure Terms (σ : Type) where
  supply : σ → Prop
  event : Event → Prop
  fault : Fault → Prop

/-- An outcome on terms, with a value that is promised. -/
structure Outcome.Meets {σ α : Type} (terms : Terms σ) (P : α → Prop)
    (outcome : Outcome σ α) : Prop where
  value : ∀ a, outcome.result = .ok a → P a
  fault : ∀ fault, outcome.result = .error fault → terms.fault fault
  events : ∀ event ∈ outcome.trace, terms.event event
  supply : terms.supply outcome.supply

/-- A run on terms: from any supply in order it has an outcome on them. -/
def Run.Meets {σ α : Type} (terms : Terms σ) (P : α → Prop) (x : Run σ α) : Prop :=
  ∀ supply, terms.supply supply → Outcome.Meets terms P (x supply)

namespace Run.Meets

variable {σ α β : Type} {terms : Terms σ} {P : α → Prop} {Q : β → Prop}

theorem pure {a : α} (ha : P a) : Meets terms P (Pure.pure a : Run σ α) := by
  intro supply hsupply
  constructor
  · rintro _ ⟨⟩
    exact ha
  · rintro _ ⟨⟩
  · rintro _ ⟨⟩
  · exact hsupply

theorem throw {fault : Fault} (hfault : terms.fault fault) :
    Meets terms P (MonadExcept.throw fault : Run σ α) := by
  intro supply hsupply
  constructor
  · rintro _ ⟨⟩
  · rintro _ ⟨⟩
    exact hfault
  · rintro _ ⟨⟩
  · exact hsupply

theorem emit {event : Event} (hevent : terms.event event) :
    Meets terms (fun _ => True) (Run.emit event : Run σ Unit) := by
  intro supply hsupply
  constructor
  · exact fun _ _ => trivial
  · rintro _ ⟨⟩
  · intro other hother
    rw [List.mem_singleton.mp hother]
    exact hevent
  · exact hsupply

theorem bind {x : Run σ α} {f : α → Run σ β} (hfirst : Meets terms P x)
    (hthen : ∀ a, P a → Meets terms Q (f a)) : Meets terms Q (x >>= f) := by
  intro supply hsupply
  obtain ⟨hvalue, hfault, hevents, hrest⟩ := hfirst supply hsupply
  rcases bind_cases x f supply with ⟨fault, hresult, hbind⟩ | ⟨a, hresult, hbind⟩
  · rw [hbind]
    refine ⟨?_, ?_, hevents, hrest⟩
    · rintro _ ⟨⟩
    · rintro _ ⟨⟩
      exact hfault fault hresult
  · obtain ⟨hvalue', hfault', hevents', hrest'⟩ := hthen a (hvalue a hresult) _ hrest
    rw [hbind]
    refine ⟨hvalue', hfault', ?_, hrest'⟩
    intro event hevent
    rcases List.mem_append.mp hevent with hfirst | hlater
    · exact hevents event hfirst
    · exact hevents' event hlater

theorem emit_bind {event : Event} {f : Unit → Run σ β} (hevent : terms.event event)
    (hthen : Meets terms Q (f ())) : Meets terms Q (Run.emit event >>= f) :=
  bind (emit hevent) fun _ _ => hthen

theorem mono {R : α → Prop} {x : Run σ α} (hmeets : Meets terms P x)
    (hpromise : ∀ a, P a → R a) : Meets terms R x := by
  intro supply hsupply
  obtain ⟨hvalue, hfault, hevents, hrest⟩ := hmeets supply hsupply
  exact ⟨fun a ha => hpromise a (hvalue a ha), hfault, hevents, hrest⟩

theorem ofExcept {ε : Type} {fault : ε → Fault} {value : Except ε α}
    (hvalue : ∀ a, value = .ok a → P a)
    (hfault : ∀ e, value = .error e → terms.fault (fault e)) :
    Meets terms P (Run.ofExcept fault value : Run σ α) := by
  cases value with
  | ok a => exact pure (hvalue a rfl)
  | error e => exact throw (hfault e rfl)

theorem between {opening closing : Event} {x : Run σ α} (hopening : terms.event opening)
    (hclosing : terms.event closing) (hinner : Meets terms P x) :
    Meets terms P (Run.between opening closing x) := by
  intro supply hsupply
  obtain ⟨hvalue, hfault, hevents, hrest⟩ := hinner supply hsupply
  refine ⟨hvalue, hfault, ?_, hrest⟩
  intro event hevent
  rw [trace_between, List.mem_cons, List.mem_append, List.mem_singleton] at hevent
  rcases hevent with rfl | hevent | rfl
  · exact hopening
  · exact hevents event hevent
  · exact hclosing

theorem use {x : Run σ α} (hopened : terms.event .sessionOpened)
    (hclosed : terms.event .sessionClosed) (session : Session) (hinner : Meets terms P x) :
    Meets terms P (session.use x) := by
  cases session with
  | given => exact hinner
  | own => exact between hopened hclosed hinner

end Run.Meets

namespace Retry

variable {σ ε α : Type} {terms : Terms σ} {describe : ε → String} {budget : Budget}
  {operation : Run σ (Attempt ε α)} {P : Except ε α → Prop}

/-- Attempts that keep to terms are repeated on them, and the last of them keeps its P. -/
theorem attemptsFrom_meets
    (hlogged : ∀ line, line.level ≠ .critical → terms.event (.logged line))
    (hslept : ∀ milliseconds, terms.event (.slept milliseconds))
    (hoperation : Run.Meets terms (fun attempt => P attempt.outcome) operation)
    (number left : Nat) :
    Run.Meets terms (fun answer => ∃ outcome, answer = some outcome ∧ P outcome)
      (attemptsFrom describe budget operation number (left + 1)) := by
  induction left generalizing number with
  | zero =>
      apply Run.Meets.bind hoperation
      intro attempt hattempt
      refine Run.Meets.emit_bind (hlogged _ fun hlevel => by cases hlevel) ?_
      rw [if_pos (by simp)]
      exact Run.Meets.pure ⟨_, rfl, hattempt⟩
  | succ left ih =>
      apply Run.Meets.bind hoperation
      intro attempt hattempt
      refine Run.Meets.emit_bind (hlogged _ fun hlevel => by cases hlevel) ?_
      split
      · exact Run.Meets.pure ⟨_, rfl, hattempt⟩
      · refine Run.Meets.emit_bind (hslept _) ?_
        exact Run.Meets.emit_bind (hlogged _ fun hlevel => by cases hlevel) (ih (number + 1))

theorem run_meets (hattempts : 0 < budget.attempts)
    (hlogged : ∀ line, line.level ≠ .critical → terms.event (.logged line))
    (hslept : ∀ milliseconds, terms.event (.slept milliseconds))
    (hoperation : Run.Meets terms (fun attempt => P attempt.outcome) operation) :
    Run.Meets terms (fun answer => ∃ outcome, answer = some outcome ∧ P outcome)
      (run describe budget operation) := by
  have hsome : budget.attempts.toNat = (budget.attempts.toNat - 1) + 1 := by omega
  rw [run, hsome]
  exact attemptsFrom_meets hlogged hslept hoperation 1 _

end Retry

end NodeTopology
