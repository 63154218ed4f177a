import NodeTopology.Run
/-!
Trying again: an operation is run until it succeeds, asks not to be run again, or the attempts are
used up.  Between two attempts the run waits; it waits neither before the first nor after the last.
Main statements: one step of a retry, for an attempt that is the last, for one that is not, and for
one that ends in a fault.
-/

namespace NodeTopology

/-- How often an operation may be run, and how long to wait in between. -/
structure Budget where
  attempts : Int
  intervalMs : Int
deriving Repr, DecidableEq

/-- The budget of calls to the outside. -/
def Budget.standard : Budget := ⟨30, 10000⟩

/-- The budget of writes that lose against other writers. -/
def Budget.forConflicts : Budget := ⟨5, 1000⟩

/-- What one attempt came to, and whether it is to be the last even if it failed. -/
structure Attempt (ε α : Type) where
  outcome : Except ε α
  stop : Bool

namespace Attempt

variable {ε α : Type}

def success (a : α) : Attempt ε α := ⟨.ok a, true⟩

def failure (e : ε) (stop : Bool) : Attempt ε α := ⟨.error e, stop⟩

/-- Whether no further attempt may follow. -/
def isLast (attempt : Attempt ε α) : Bool := attempt.stop || attempt.outcome.isOk

/-- The error of an attempt as log lines show it. -/
def errorText (describe : ε → String) (attempt : Attempt ε α) : String :=
  match attempt.outcome with
  | .ok _ => "None"
  | .error e => describe e

end Attempt

namespace Retry

variable {σ ε α : Type}

def reportLine (describe : ε → String) (number : Nat) (attempt : Attempt ε α) : LogLine :=
  ⟨.debug, "Retry function result: attempt=" ++ toString number ++ ", error="
    ++ attempt.errorText describe ++ ", stop=" ++ Value.boolText attempt.stop⟩

def againLine (describe : ε → String) (budget : Budget) (number : Nat) (attempt : Attempt ε α) :
    LogLine :=
  ⟨.warning, "Retrying after error (" ++ toString number ++ "/" ++ toString budget.attempts ++ "): "
    ++ attempt.errorText describe⟩

/-- Attempts from the given number on, `left` of them at most. -/
def attemptsFrom (describe : ε → String) (budget : Budget) (operation : Run σ (Attempt ε α)) :
    Nat → Nat → Run σ (Option (Except ε α))
  | _, 0 => pure none
  | number, left + 1 => do
      let attempt ← operation
      Run.emit (.logged (reportLine describe number attempt))
      if attempt.isLast || left == 0 then
        pure (some attempt.outcome)
      else
        Run.sleep budget.intervalMs
        Run.emit (.logged (againLine describe budget number attempt))
        attemptsFrom describe budget operation (number + 1) left

section Steps

variable {describe : ε → String} {budget : Budget} {operation : Run σ (Attempt ε α)}
  {supply rest : σ} {trace : Trace} {attempt : Attempt ε α}

/-- An attempt that is to be the last is reported, and its outcome is the answer. -/
theorem attemptsFrom_of_last (hoperation : operation supply = ⟨.ok attempt, trace, rest⟩)
    (number left : Nat) (hlast : (attempt.isLast || left == 0) = true) :
    attemptsFrom describe budget operation number (left + 1) supply
      = ⟨.ok (some attempt.outcome), trace ++ [.logged (reportLine describe number attempt)],
          rest⟩ := by
  rw [attemptsFrom, Run.bind_apply_of_ok hoperation, hlast]
  rfl

/-- Any other attempt is reported and followed by a wait, an announcement, and the attempts that are
left. -/
theorem attemptsFrom_of_again (hoperation : operation supply = ⟨.ok attempt, trace, rest⟩)
    (number left : Nat) (hagain : (attempt.isLast || left == 0) = false) :
    attemptsFrom describe budget operation number (left + 1) supply
      = let next := attemptsFrom describe budget operation (number + 1) left rest
        ⟨next.result,
          trace ++ .logged (reportLine describe number attempt) :: .slept budget.intervalMs
            :: .logged (againLine describe budget number attempt) :: next.trace,
          next.supply⟩ := by
  rw [attemptsFrom, Run.bind_apply_of_ok hoperation, hagain]
  rfl

theorem attemptsFrom_of_fault {fault : Fault}
    (hoperation : operation supply = ⟨.error fault, trace, rest⟩) (number left : Nat) :
    attemptsFrom describe budget operation number (left + 1) supply
      = ⟨.error fault, trace, rest⟩ := by
  rw [attemptsFrom, Run.bind_apply_of_error hoperation]

end Steps

/-- Run an operation within a budget: the outcome of its last attempt, or nothing if the budget
allows no attempt. -/
def run (describe : ε → String) (budget : Budget) (operation : Run σ (Attempt ε α)) :
    Run σ (Option (Except ε α)) :=
  attemptsFrom describe budget operation 1 budget.attempts.toNat

theorem run_of_attempts_nonpos {budget : Budget} (hattempts : budget.attempts ≤ 0)
    (describe : ε → String) (operation : Run σ (Attempt ε α)) :
    run describe budget operation = pure none := by
  rw [run, Int.toNat_of_nonpos hattempts, attemptsFrom]

end Retry

end NodeTopology
