import NodeTopology.Proofs.RetryRun
/-!
Pairs of runs.  Two runs are alike if, from supplies that correspond, they end alike, show the same
to a given view of their events and leave supplies that correspond.  Main statements: runs built
alike from runs that are alike are alike, retries included.
-/

namespace NodeTopology

/-- Two ends agree: the same error, or values that correspond. -/
inductive Agree {ε α β : Type} (V : α → β → Prop) : Except ε α → Except ε β → Prop
  | ok {a : α} {b : β} (hvalues : V a b) : Agree V (.ok a) (.ok b)
  | error (e : ε) : Agree V (.error e) (.error e)

namespace Agree

variable {ε α β : Type} {V : α → β → Prop}

theorem refl (end_ : Except ε α) : Agree Eq end_ end_ := by
  cases end_ with
  | ok a => exact ok rfl
  | error e => exact error e

theorem eq {first second : Except ε α} (hagree : Agree Eq first second) : first = second := by
  cases hagree with
  | ok hvalues => rw [hvalues]
  | error e => rfl

theorem mono {W : α → β → Prop} {first : Except ε α} {second : Except ε β}
    (hagree : Agree V first second) (hvalues : ∀ a b, V a b → W a b) : Agree W first second := by
  cases hagree with
  | ok hab => exact ok (hvalues _ _ hab)
  | error e => exact error e

theorem isOk_eq {first : Except ε α} {second : Except ε β} (hagree : Agree V first second) :
    first.isOk = second.isOk := by
  cases hagree <;> rfl

theorem bind {α' β' : Type} {W : α' → β' → Prop} {x : Except ε α} {y : Except ε β}
    {f : α → Except ε α'} {g : β → Except ε β'} (hfirst : Agree V x y)
    (hthen : ∀ a b, V a b → Agree W (f a) (g b)) : Agree W (x >>= f) (y >>= g) := by
  cases hfirst with
  | ok hvalues => exact hthen _ _ hvalues
  | error e => exact error e

theorem bind_same {α' β' : Type} {W : α' → β' → Prop} (x : Except ε α) {f : α → Except ε α'}
    {g : α → Except ε β'} (hthen : ∀ a, Agree W (f a) (g a)) : Agree W (x >>= f) (x >>= g) := by
  refine bind (refl x) ?_
  rintro a _ rfl
  exact hthen a

end Agree

/-- Two outcomes are alike: their ends agree, a view of their events shows the same, and what is
left of their supplies corresponds. -/
structure Outcome.Alike {σ α β γ : Type} (S : σ → σ → Prop) (view : Event → γ) (V : α → β → Prop)
    (first : Outcome σ α) (second : Outcome σ β) : Prop where
  result : Agree V first.result second.result
  trace : first.trace.map view = second.trace.map view
  supply : S first.supply second.supply

/-- Two runs are alike: from supplies that correspond they have outcomes that are alike. -/
def Run.Alike {σ α β γ : Type} (S : σ → σ → Prop) (view : Event → γ) (V : α → β → Prop)
    (x : Run σ α) (y : Run σ β) : Prop :=
  ∀ ⦃first second : σ⦄, S first second → Outcome.Alike S view V (x first) (y second)

namespace Run.Alike

variable {σ α β γ α' β' : Type} {S : σ → σ → Prop} {view : Event → γ} {V : α → β → Prop}
  {W : α' → β' → Prop}

theorem pure {a : α} {b : β} (hvalues : V a b) :
    Alike S view V (Pure.pure a : Run σ α) (Pure.pure b) :=
  fun _ _ hsupply => ⟨.ok hvalues, rfl, hsupply⟩

theorem throw (fault : Fault) :
    Alike S view V (MonadExcept.throw fault : Run σ α) (MonadExcept.throw fault) :=
  fun _ _ hsupply => ⟨.error fault, rfl, hsupply⟩

theorem throw_bind (fault : Fault) (f : α → Run σ α') (g : β → Run σ β') :
    Alike S view W ((MonadExcept.throw fault : Run σ α) >>= f)
      ((MonadExcept.throw fault : Run σ β) >>= g) :=
  fun _ _ hsupply => ⟨.error fault, rfl, hsupply⟩

theorem emit (event : Event) : Alike S view Eq (Run.emit event : Run σ Unit) (Run.emit event) :=
  fun _ _ hsupply => ⟨.ok rfl, rfl, hsupply⟩

theorem bind {x : Run σ α} {y : Run σ β} {f : α → Run σ α'} {g : β → Run σ β'}
    (hfirst : Alike S view V x y) (hthen : ∀ a b, V a b → Alike S view W (f a) (g b)) :
    Alike S view W (x >>= f) (y >>= g) := by
  intro first second hsupply
  obtain ⟨hresult, htrace, hrest⟩ := hfirst hsupply
  generalize hends : (x first).result = left at hresult
  generalize hends' : (y second).result = right at hresult
  cases hresult with
  | error fault =>
      rw [bind_of_result_error hends, bind_of_result_error hends']
      exact ⟨.error fault, htrace, hrest⟩
  | @ok a b hvalues =>
      obtain ⟨hresult', htrace', hrest'⟩ := hthen a b hvalues hrest
      rw [bind_of_result_ok hends, bind_of_result_ok hends']
      refine ⟨hresult', ?_, hrest'⟩
      rw [List.map_append, List.map_append, htrace, htrace']

theorem bind_same {x y : Run σ α} {f : α → Run σ α'} {g : α → Run σ β'}
    (hfirst : Alike S view Eq x y) (hthen : ∀ a, Alike S view W (f a) (g a)) :
    Alike S view W (x >>= f) (y >>= g) := by
  refine bind hfirst ?_
  rintro a _ rfl
  exact hthen a

theorem emit_bind {event : Event} {f : Unit → Run σ α'} {g : Unit → Run σ β'}
    (hthen : Alike S view W (f ()) (g ())) :
    Alike S view W (Run.emit event >>= f) (Run.emit event >>= g) :=
  bind_same (emit event) fun _ => hthen

theorem log_bind {level : Level} {text : String} {f : Unit → Run σ α'} {g : Unit → Run σ β'}
    (hthen : Alike S view W (f ()) (g ())) :
    Alike S view W (Run.log level text >>= f) (Run.log level text >>= g) := emit_bind hthen

theorem ofExcept {ε : Type} (fault : ε → Fault) {first : Except ε α} {second : Except ε β}
    (hagree : Agree V first second) :
    Alike S view V (Run.ofExcept fault first : Run σ α) (Run.ofExcept fault second) := by
  cases hagree with
  | ok hvalues => exact pure hvalues
  | error e => exact throw (fault e)

theorem orMisuse (misuse : Misuse) (value : Option α) :
    Alike S view Eq (Run.orMisuse misuse value : Run σ α) (Run.orMisuse misuse value) := by
  cases value with
  | some a => exact pure rfl
  | none => exact throw (.misuse misuse)

theorem between (opening closing : Event) {x : Run σ α} {y : Run σ β}
    (hinner : Alike S view V x y) :
    Alike S view V (Run.between opening closing x) (Run.between opening closing y) := by
  intro first second hsupply
  obtain ⟨hresult, htrace, hrest⟩ := hinner hsupply
  refine ⟨hresult, ?_, hrest⟩
  simp [htrace]

theorem use (session : Session) {x : Run σ α} {y : Run σ β} (hinner : Alike S view V x y) :
    Alike S view V (session.use x) (session.use y) := by
  cases session with
  | given => exact hinner
  | own => exact between .sessionOpened .sessionClosed hinner

theorem mono {V' : α → β → Prop} {x : Run σ α} {y : Run σ β} (halike : Alike S view V x y)
    (hvalues : ∀ a b, V a b → V' a b) : Alike S view V' x y := by
  intro first second hsupply
  obtain ⟨hresult, htrace, hrest⟩ := halike hsupply
  exact ⟨hresult.mono hvalues, htrace, hrest⟩

end Run.Alike

/-- Two attempts are alike: their outcomes agree, and so does whether they are to be the last. -/
structure Attempt.Alike {ε α β : Type} (V : α → β → Prop) (first : Attempt ε α)
    (second : Attempt ε β) : Prop where
  outcome : Agree V first.outcome second.outcome
  stop : first.stop = second.stop

namespace Attempt.Alike

variable {ε α β : Type} {V : α → β → Prop}

theorem refl (attempt : Attempt ε α) : Alike Eq attempt attempt := ⟨.refl _, rfl⟩

theorem success {a : α} {b : β} (hvalues : V a b) :
    Alike V (Attempt.success a : Attempt ε α) (Attempt.success b) := ⟨.ok hvalues, rfl⟩

theorem failure (e : ε) (stop : Bool) :
    Alike V (Attempt.failure e stop : Attempt ε α) (Attempt.failure e stop) := ⟨.error e, rfl⟩

variable {first : Attempt ε α} {second : Attempt ε β}

theorem isLast_eq (halike : Alike V first second) : first.isLast = second.isLast := by
  rw [Attempt.isLast, Attempt.isLast, halike.stop, halike.outcome.isOk_eq]

theorem errorText_eq (halike : Alike V first second) (describe : ε → String) :
    first.errorText describe = second.errorText describe := by
  rcases first with ⟨outcome, stop⟩
  rcases second with ⟨outcome', stop'⟩
  obtain ⟨houtcome, _⟩ := halike
  cases houtcome <;> rfl

end Attempt.Alike

namespace Retry

variable {σ ε α β γ : Type} {S : σ → σ → Prop} {view : Event → γ} {V : α → β → Prop}
  {operation : Run σ (Attempt ε α)} {operation' : Run σ (Attempt ε β)}

theorem attemptsFrom_alike (describe : ε → String) (budget : Budget)
    (hoperation : Run.Alike S view (Attempt.Alike V) operation operation') (number left : Nat) :
    Run.Alike S view (Option.Rel (Agree V)) (attemptsFrom describe budget operation number left)
      (attemptsFrom describe budget operation' number left) := by
  induction left generalizing number with
  | zero => exact Run.Alike.pure Option.Rel.none
  | succ left ih =>
      apply Run.Alike.bind hoperation
      intro attempt attempt' halike
      have hreport : reportLine describe number attempt = reportLine describe number attempt' := by
        rw [reportLine, reportLine, halike.errorText_eq describe, halike.stop]
      have hagain : againLine describe budget number attempt =
          againLine describe budget number attempt' := by
        rw [againLine, againLine, halike.errorText_eq describe]
      rw [hreport, hagain, halike.isLast_eq]
      apply Run.Alike.emit_bind
      split
      · exact Run.Alike.pure (Option.Rel.some halike.outcome)
      · apply Run.Alike.emit_bind
        apply Run.Alike.emit_bind
        exact ih (number + 1)

theorem run_alike (describe : ε → String) (budget : Budget)
    (hoperation : Run.Alike S view (Attempt.Alike V) operation operation') :
    Run.Alike S view (Option.Rel (Agree V)) (run describe budget operation)
      (run describe budget operation') :=
  attemptsFrom_alike describe budget hoperation 1 budget.attempts.toNat

theorem run_alike_same {operation operation' : Run σ (Attempt ε α)} (describe : ε → String)
    (budget : Budget) (hoperation : Run.Alike S view (Attempt.Alike Eq) operation operation') :
    Run.Alike S view Eq (run describe budget operation) (run describe budget operation') := by
  apply (run_alike describe budget hoperation).mono
  intro outcome outcome' hrel
  cases hrel with
  | none => rfl
  | some hagree => rw [hagree.eq]

end Retry

end NodeTopology
