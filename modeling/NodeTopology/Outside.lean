import NodeTopology.Retry
/-!
The outside of a run: an HTTP service and a cluster, each given by the answers it is going to give.
Every call takes the next answer; the last one is given again and again.
-/

namespace NodeTopology

/-- Answers in the order in which they will be given; the last one repeats for ever. -/
structure Script (α : Type) where
  first : α
  later : List α
deriving Repr, DecidableEq

namespace Script

variable {α : Type}

/-- What is left of a script after its first answer was given. -/
def rest (script : Script α) : Script α :=
  match script.later with
  | [] => script
  | next :: later => ⟨next, later⟩

/-- The number of answers before the last one repeats. -/
def length (script : Script α) : Nat := script.later.length + 1

/-- The script of some answers, or of one answer if there are none. -/
def ofList (fallback : α) : List α → Script α
  | [] => ⟨fallback, []⟩
  | first :: later => ⟨first, later⟩

end Script

/-- How the cluster answers a write. -/
inductive ReplaceReply where
  /-- It keeps what was sent and gives it back. -/
  | kept
  /-- It gives back something else. -/
  | other (node : Option Node)
  | failed (error : RemoteError)

/-- The answer to a write of the given node. -/
def ReplaceReply.answer (sent : Node) : ReplaceReply → Except RemoteError (Option Node)
  | kept => .ok (some sent)
  | other node => .ok node
  | failed e => .error e

structure Outside where
  http : Script (Except RemoteError Response)
  reads : Script (Except RemoteError (Option Node))
  replaces : Script ReplaceReply

namespace Outside

def call (request : Request) : Run Outside (Except RemoteError Response) := fun outside =>
  let answer := outside.http.first
  ⟨.ok answer, [.requested request answer], { outside with http := outside.http.rest }⟩

def readNode (name : String) : Run Outside (Except RemoteError (Option Node)) := fun outside =>
  let answer := outside.reads.first
  ⟨.ok answer, [.nodeRead name answer], { outside with reads := outside.reads.rest }⟩

def replaceNode (name : String) (node : Node) : Run Outside (Except RemoteError (Option Node)) :=
  fun outside =>
    let answer := outside.replaces.first.answer node
    ⟨.ok answer, [.nodeReplaced name node answer],
      { outside with replaces := outside.replaces.rest }⟩

end Outside

/-- Whether a caller brings a session of its own for HTTP calls, or one is opened for each piece of
work and closed after it. -/
inductive Session where
  | given
  | own
deriving Repr, DecidableEq

def Session.use {σ α : Type} (session : Session) (work : Run σ α) : Run σ α :=
  match session with
  | given => work
  | own => Run.between .sessionOpened .sessionClosed work

/-- Send a request again and again while there is no connection.  Nothing if the budget allows no
attempt; a failure that is none of the request's ends the run. -/
def Outside.request (budget : Budget) (prepare : Run Outside Request) :
    Run Outside (Option (Except RemoteError Response)) :=
  Retry.run RemoteError.text budget do
    match ← Outside.call (← prepare) with
    | .ok response => pure (.success response)
    | .error e =>
        if e.isRequest then pure (.failure e (!e.isConnection)) else throw (.escaped e)

end NodeTopology
