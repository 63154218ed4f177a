import NodeTopology.Event
/-!
Runs: computations that consume a supply of outside answers, leave a trace, and end with a value or
a fault.  A fault keeps the trace and the supply as they are at that point, so that what was done
before it stays visible.  Main statements: runs are a lawful monad, and a run that follows another
sees what that one left of the supply and adds its events after it.
-/

namespace NodeTopology

/-- How a run went: its end, its trace and what is left of the supply. -/
structure Outcome (σ α : Type) where
  result : Except Fault α
  trace : Trace
  supply : σ

/-- A computation over a supply. -/
def Run (σ α : Type) := σ → Outcome σ α

namespace Run

variable {σ α β : Type}

def done (a : α) : Run σ α := fun supply => ⟨.ok a, [], supply⟩

def fail (fault : Fault) : Run σ α := fun supply => ⟨.error fault, [], supply⟩

/-- Go on with the value of a run, unless it ended with a fault. -/
def andThen (x : Run σ α) (f : α → Run σ β) : Run σ β := fun supply =>
  match x supply with
  | ⟨.ok a, trace, rest⟩ =>
      let next := f a rest
      ⟨next.result, trace ++ next.trace, next.supply⟩
  | ⟨.error fault, trace, rest⟩ => ⟨.error fault, trace, rest⟩

instance : Monad (Run σ) where
  pure := done
  bind := andThen

instance : MonadExceptOf Fault (Run σ) where
  throw := fail
  tryCatch x handle := fun supply =>
    match x supply with
    | ⟨.ok a, trace, rest⟩ => ⟨.ok a, trace, rest⟩
    | ⟨.error fault, trace, rest⟩ =>
        let next := handle fault rest
        ⟨next.result, trace ++ next.trace, next.supply⟩

theorem ext {x y : Run σ α} (hsupply : ∀ supply, x supply = y supply) : x = y := funext hsupply

@[simp] theorem pure_apply (a : α) (supply : σ) :
    (pure a : Run σ α) supply = ⟨.ok a, [], supply⟩ := rfl

@[simp] theorem throw_apply (fault : Fault) (supply : σ) :
    (throw fault : Run σ α) supply = ⟨.error fault, [], supply⟩ := rfl

/-- What follows a value sees what is left of the supply, and its trace comes after. -/
theorem bind_apply_of_ok {x : Run σ α} {supply rest : σ} {a : α} {trace : Trace}
    (hx : x supply = ⟨.ok a, trace, rest⟩) (f : α → Run σ β) :
    (x >>= f) supply
      = ⟨(f a rest).result, trace ++ (f a rest).trace, (f a rest).supply⟩ := by
  change andThen x f supply = _
  rw [andThen, hx]

theorem bind_apply_of_error {x : Run σ α} {supply rest : σ} {fault : Fault} {trace : Trace}
    (hx : x supply = ⟨.error fault, trace, rest⟩) (f : α → Run σ β) :
    (x >>= f) supply = ⟨.error fault, trace, rest⟩ := by
  change andThen x f supply = _
  rw [andThen, hx]

instance : LawfulMonad (Run σ) :=
  LawfulMonad.mk' (Run σ)
    (by
      intro α x
      apply ext
      intro supply
      rcases hx : x supply with ⟨result, trace, rest⟩
      cases result with
      | error fault => exact bind_apply_of_error hx _
      | ok a => exact (bind_apply_of_ok hx _).trans (by simp [done]))
    (by
      intro α β a f
      apply ext
      intro supply
      exact (bind_apply_of_ok (pure_apply a supply) f).trans (by simp))
    (by
      intro α β γ x f g
      apply ext
      intro supply
      rcases hx : x supply with ⟨result, trace, rest⟩
      cases result with
      | error fault =>
          rw [bind_apply_of_error (bind_apply_of_error hx f) g, bind_apply_of_error hx]
      | ok a =>
          have hfirst := bind_apply_of_ok hx f
          rw [bind_apply_of_ok hx]
          rcases hf : f a rest with ⟨result', trace', rest'⟩
          rw [hf] at hfirst
          cases result' with
          | error fault =>
              rw [bind_apply_of_error hfirst g, bind_apply_of_error hf g]
          | ok b =>
              rw [bind_apply_of_ok hfirst g, bind_apply_of_ok hf g, List.append_assoc])

def emit (event : Event) : Run σ Unit := fun supply => ⟨.ok (), [event], supply⟩

def log (level : Level) (text : String) : Run σ Unit := emit (.logged ⟨level, text⟩)

def sleep (milliseconds : Int) : Run σ Unit := emit (.slept milliseconds)

/-- A value, or a fault of the given kind. -/
def ofExcept {ε : Type} (fault : ε → Fault) : Except ε α → Run σ α
  | .ok a => done a
  | .error e => fail (fault e)

/-- A value, or a misuse. -/
def orMisuse (misuse : Misuse) : Option α → Run σ α
  | some a => done a
  | none => fail (.misuse misuse)

/-- Run between an opening and a closing event; the closing one comes whatever the end. -/
def between (opening closing : Event) (x : Run σ α) : Run σ α := fun supply =>
  let inner := x supply
  ⟨inner.result, opening :: (inner.trace ++ [closing]), inner.supply⟩

/-- The end of a run as a value. -/
def observe (x : Run σ α) : Run σ (Except Fault α) := fun supply =>
  let inner := x supply
  ⟨.ok inner.result, inner.trace, inner.supply⟩

@[simp] theorem emit_apply (event : Event) (supply : σ) :
    emit event supply = ⟨.ok (), [event], supply⟩ := rfl

@[simp] theorem trace_between (opening closing : Event) (x : Run σ α) (supply : σ) :
    (between opening closing x supply).trace = opening :: ((x supply).trace ++ [closing]) := rfl

end Run

end NodeTopology
