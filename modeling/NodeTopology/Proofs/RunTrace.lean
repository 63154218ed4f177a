import NodeTopology.Outside
/-!
What a run leaves in its trace.  Main statements: a sequence of runs either ends with the fault of
its first part or goes on from what that part left, and a property of events that every part of a
run keeps to is kept by the whole.
-/

namespace NodeTopology

theorem exists_of_except_bind {ε α β : Type} {x : Except ε α} {f : α → Except ε β} {b : β}
    (hresult : (x >>= f) = .ok b) : ∃ a, x = .ok a ∧ f a = .ok b := by
  cases x with
  | error e => cases hresult
  | ok a => exact ⟨a, rfl, hresult⟩

theorem except_bind_eq_ok_iff {ε α β : Type} {x : Except ε α} {f : α → Except ε β} {b : β} :
    (x >>= f) = .ok b ↔ ∃ a, x = .ok a ∧ f a = .ok b := by
  constructor
  · exact exists_of_except_bind
  · rintro ⟨a, rfl, hf⟩
    exact hf

theorem mapError_eq_ok_iff {ε ε' α : Type} {x : Except ε α} {f : ε → ε'} {a : α} :
    x.mapError f = .ok a ↔ x = .ok a := by
  constructor
  · intro hresult
    cases x with
    | error e => cases hresult
    | ok a' =>
        cases hresult
        rfl
  · rintro rfl
    rfl

theorem mapError_eq_error_iff {ε ε' α : Type} {x : Except ε α} {f : ε → ε'} {e' : ε'} :
    x.mapError f = .error e' ↔ ∃ e, x = .error e ∧ f e = e' := by
  constructor
  · intro hresult
    cases x with
    | error e =>
        cases hresult
        exact ⟨e, rfl, rfl⟩
    | ok a => cases hresult
  · rintro ⟨e, rfl, rfl⟩
    rfl

theorem eq_ok_of_toOption {ε α : Type} {x : Except ε α} {a : α} (hx : x.toOption = some a) :
    x = .ok a := by
  cases x with
  | error e => cases hx
  | ok a' =>
      cases hx
      rfl

/-- What is not in the first of two lists is in the second. -/
theorem exists_of_append_split {α : Type} {first second before after : List α} {a : α}
    (hsplit : first ++ second = before ++ a :: after) (hfirst : a ∉ first) :
    ∃ middle, before = first ++ middle ∧ second = middle ++ a :: after := by
  rcases List.append_eq_append_iff.mp hsplit with
    ⟨middle, hbefore, hsecond⟩ | ⟨_ | ⟨a', more⟩, hfirst', hafter⟩
  · exact ⟨middle, hbefore, hsecond⟩
  · exact ⟨[], by simpa using hfirst'.symm, by simpa using hafter.symm⟩
  · obtain ⟨rfl, _⟩ := List.cons.inj hafter
    exact absurd (by simp [hfirst']) hfirst

namespace Run

variable {σ α β : Type}

theorem bind_of_result_ok {x : Run σ α} {supply : σ} {a : α}
    (hresult : (x supply).result = .ok a) (f : α → Run σ β) :
    (x >>= f) supply =
      ⟨(f a (x supply).supply).result, (x supply).trace ++ (f a (x supply).supply).trace,
        (f a (x supply).supply).supply⟩ := by
  apply bind_apply_of_ok
  rw [← hresult]

theorem bind_of_result_error {x : Run σ α} {supply : σ} {fault : Fault}
    (hresult : (x supply).result = .error fault) (f : α → Run σ β) :
    (x >>= f) supply = ⟨.error fault, (x supply).trace, (x supply).supply⟩ := by
  apply bind_apply_of_error
  rw [← hresult]

/-- A sequence ends with the fault of its first run, or goes on from what that run left. -/
theorem bind_cases (x : Run σ α) (f : α → Run σ β) (supply : σ) :
    (∃ fault, (x supply).result = .error fault ∧
        (x >>= f) supply = ⟨.error fault, (x supply).trace, (x supply).supply⟩) ∨
      ∃ a, (x supply).result = .ok a ∧
        (x >>= f) supply =
          ⟨(f a (x supply).supply).result, (x supply).trace ++ (f a (x supply).supply).trace,
            (f a (x supply).supply).supply⟩ := by
  cases hresult : (x supply).result with
  | error fault => exact Or.inl ⟨fault, rfl, bind_of_result_error hresult f⟩
  | ok a => exact Or.inr ⟨a, rfl, bind_of_result_ok hresult f⟩

theorem exists_of_bind_ok {x : Run σ α} {f : α → Run σ β} {supply : σ} {b : β}
    (hresult : ((x >>= f) supply).result = .ok b) :
    ∃ a, (x supply).result = .ok a ∧ (f a (x supply).supply).result = .ok b ∧
      ((x >>= f) supply).trace = (x supply).trace ++ (f a (x supply).supply).trace := by
  rcases bind_cases x f supply with ⟨fault, _, hbind⟩ | ⟨a, ha, hbind⟩
  · rw [hbind] at hresult
    cases hresult
  · rw [hbind] at hresult ⊢
    exact ⟨a, ha, hresult, rfl⟩

theorem bind_pure_apply (x : Run σ α) (f : α → β) (supply : σ) :
    (x >>= fun a => pure (f a)) supply =
      ⟨(x supply).result.map f, (x supply).trace, (x supply).supply⟩ := by
  rcases bind_cases x (fun a => pure (f a)) supply with ⟨fault, hfault, hbind⟩ | ⟨a, ha, hbind⟩
  · rw [hbind, hfault]
    rfl
  · rw [hbind, ha]
    simp [Except.map]

/-- To go on with a value or a fault made of the value that a run ends with leaves no trace. -/
theorem bind_ofExcept_apply {ε : Type} (x : Run σ α) (fault : ε → Fault) (f : α → Except ε β)
    (supply : σ) :
    (x >>= fun a => Run.ofExcept fault (f a)) supply =
      ⟨(x supply).result >>= fun a => (f a).mapError fault, (x supply).trace,
        (x supply).supply⟩ := by
  rcases bind_cases x (fun a => Run.ofExcept fault (f a)) supply with
    ⟨e, he, hbind⟩ | ⟨a, ha, hbind⟩
  · rw [hbind, he]
    rfl
  · have hend : ∀ rest, (Run.ofExcept fault (f a) : Run σ β) rest =
        ⟨(f a).mapError fault, [], rest⟩ := by
      intro rest
      cases f a <;> rfl
    rw [hbind, ha, hend, List.append_nil]
    rfl

@[simp] theorem log_apply (level : Level) (text : String) (supply : σ) :
    log level text supply = ⟨.ok (), [.logged ⟨level, text⟩], supply⟩ := rfl

/-- Every event that a run leaves in its trace has a property, whatever the supply. -/
def Emits (P : Event → Prop) (x : Run σ α) : Prop :=
  ∀ supply, ∀ event ∈ (x supply).trace, P event

namespace Emits

variable {P Q : Event → Prop}

theorem pure (a : α) : Emits P (Pure.pure a : Run σ α) := by
  intro supply event hevent
  cases hevent

theorem throw (fault : Fault) : Emits P (MonadExcept.throw fault : Run σ α) := by
  intro supply event hevent
  cases hevent

theorem throw_bind (fault : Fault) (f : α → Run σ β) :
    Emits P ((MonadExcept.throw fault : Run σ α) >>= f) := by
  intro supply event hevent
  cases hevent

theorem emit {event : Event} (hevent : P event) : Emits P (Run.emit event : Run σ Unit) := by
  intro supply other hother
  rw [emit_apply, List.mem_singleton] at hother
  rw [hother]
  exact hevent

theorem bind {x : Run σ α} {f : α → Run σ β} (hx : x.Emits P) (hf : ∀ a, (f a).Emits P) :
    (x >>= f).Emits P := by
  intro supply event hevent
  rcases bind_cases x f supply with ⟨fault, _, hbind⟩ | ⟨a, _, hbind⟩
  · rw [hbind] at hevent
    exact hx supply event hevent
  · rw [hbind, List.mem_append] at hevent
    rcases hevent with hfirst | hsecond
    · exact hx supply event hfirst
    · exact hf a _ event hsecond

theorem ofExcept {ε : Type} (fault : ε → Fault) (value : Except ε α) :
    Emits P (Run.ofExcept fault value : Run σ α) := by
  cases value with
  | ok a => exact pure a
  | error e => exact throw (fault e)

theorem orMisuse (misuse : Misuse) (value : Option α) :
    Emits P (Run.orMisuse misuse value : Run σ α) := by
  cases value with
  | some a => exact pure a
  | none => exact throw (.misuse misuse)

theorem between {opening closing : Event} {x : Run σ α} (hopening : P opening)
    (hclosing : P closing) (hx : x.Emits P) : (Run.between opening closing x).Emits P := by
  intro supply event hevent
  rw [trace_between, List.mem_cons, List.mem_append, List.mem_singleton] at hevent
  rcases hevent with rfl | hinner | rfl
  · exact hopening
  · exact hx supply event hinner
  · exact hclosing

theorem use {x : Run σ α} (hopened : P .sessionOpened) (hclosed : P .sessionClosed)
    (session : Session) (hx : x.Emits P) : (session.use x).Emits P := by
  cases session with
  | given => exact hx
  | own => exact between hopened hclosed hx

end Emits

/-- What a run that keeps to a property leaves behind when the events that have it are dropped. -/
theorem Emits.filter_eq_nil {x : Run σ α} {p : Event → Bool}
    (hx : x.Emits fun event => p event = false) (supply : σ) :
    (x supply).trace.filter p = [] := by
  rw [List.filter_eq_nil_iff]
  intro event hevent
  simp [hx supply event hevent]

/-- A run ends in this way whatever the supply; it takes nothing of it and leaves nothing but
lines. -/
def Tells (x : Run σ α) (ending : Except Fault α) : Prop :=
  ∀ supply, ∃ lines : List LogLine, x supply = ⟨ending, lines.map .logged, supply⟩

namespace Tells

theorem pure (a : α) : Tells (Pure.pure a : Run σ α) (.ok a) := fun _ => ⟨[], rfl⟩

theorem throw (fault : Fault) : Tells (MonadExcept.throw fault : Run σ α) (.error fault) :=
  fun _ => ⟨[], rfl⟩

theorem ofExcept {ε : Type} (fault : ε → Fault) (value : Except ε α) :
    Tells (Run.ofExcept fault value : Run σ α) (value.mapError fault) := by
  cases value with
  | ok a => exact pure a
  | error e => exact throw (fault e)

theorem orMisuse (misuse : Misuse) (value : Option α) :
    Tells (Run.orMisuse misuse value : Run σ α) (value.elim (.error (.misuse misuse)) .ok) := by
  cases value with
  | some a => exact pure a
  | none => exact throw (.misuse misuse)

theorem bind {x : Run σ α} {ending : Except Fault α} {f : α → Run σ β}
    {next : α → Except Fault β} (hx : x.Tells ending) (hf : ∀ a, (f a).Tells (next a)) :
    (x >>= f).Tells (ending >>= next) := by
  intro supply
  obtain ⟨lines, hlines⟩ := hx supply
  cases ending with
  | error fault => exact ⟨lines, Run.bind_apply_of_error hlines f⟩
  | ok a =>
      obtain ⟨more, hmore⟩ := hf a supply
      refine ⟨lines ++ more, ?_⟩
      rw [Run.bind_apply_of_ok hlines, hmore, List.map_append]
      rfl

theorem error_bind {x : Run σ α} {fault : Fault} (hx : x.Tells (.error fault))
    (f : α → Run σ β) : (x >>= f).Tells (.error fault) := by
  intro supply
  obtain ⟨lines, hlines⟩ := hx supply
  exact ⟨lines, Run.bind_apply_of_error hlines f⟩

theorem log_bind {level : Level} {text : String} {f : Unit → Run σ α} {ending : Except Fault α}
    (hthen : (f ()).Tells ending) : (Run.log level text >>= f).Tells ending := by
  intro supply
  obtain ⟨lines, hlines⟩ := hthen supply
  refine ⟨⟨level, text⟩ :: lines, ?_⟩
  rw [Run.bind_apply_of_ok (Run.log_apply level text supply), hlines]
  rfl

end Tells

end Run

namespace Trace

/-- Lines do not show in a view that passes over them. -/
theorem filterMap_logged {β : Type} {view : Event → Option β}
    (hlogged : ∀ line, view (.logged line) = none) (lines : List LogLine) :
    (lines.map Event.logged).filterMap view = [] := by
  rw [List.filterMap_eq_nil_iff]
  intro event hevent
  obtain ⟨line, _, rfl⟩ := List.mem_map.mp hevent
  exact hlogged line

end Trace

namespace Session

variable {σ α β : Type} (session : Session) (work : Run σ α) (supply : σ)

theorem result_use : (session.use work supply).result = (work supply).result := by
  cases session <;> rfl

theorem filterMap_use {view : Event → Option β} (hopened : view .sessionOpened = none)
    (hclosed : view .sessionClosed = none) :
    (session.use work supply).trace.filterMap view = (work supply).trace.filterMap view := by
  cases session with
  | given => rfl
  | own => simp [use, hopened, hclosed]

end Session

end NodeTopology
