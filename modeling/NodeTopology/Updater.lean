import NodeTopology.Resolver
import NodeTopology.Settings
/-!
Writing the labels of a node's placement to the cluster.  The node is written as it was read, with
the labels laid over it.  A write that loses against another writer is settled by the policy: to
read the node afresh and try again, to leave it, or to fail.
-/

namespace NodeTopology

/-- What an update works with: its copy of the node, the source of placements, and how to deal with
conflicts. -/
structure Updater where
  node : Option Node
  resolver : Resolver
  policy : ConflictPolicy
  budget : Budget

namespace Updater

def labelled (node : Option Node) (placement : Placement) : Run Outside Node :=
  Run.orMisuse .noSuchMember (node.bind (·.withPlacement? placement))

/-- Write a node.  Failures of the cluster are an answer, any other ends the run. -/
def write (name : String) (node : Node) : Run Outside (Except RemoteError Unit) := do
  match ← Outside.replaceNode name node with
  | .ok _ => return .ok ()
  | .error e => if e.isCluster then return .error e else throw (.escaped e)

/-- One round after a conflict: read the node afresh, lay the labels over it, write it.  Only
another conflict is worth a further round. -/
def round (name : String) (placement : Placement) : Run Outside (Attempt RemoteError Unit) := do
  match ← Outside.readNode name with
  | .error e => if e.isCluster then return .failure e true else throw (.escaped e)
  | .ok fresh =>
      match ← write name (← labelled fresh placement) with
      | .ok () => return .success ()
      | .error e => return .failure e (!e.isConflict)

/-- Rounds until one settles the write; without any round the write counts as settled. -/
def settle (updater : Updater) (name : String) (placement : Placement) :
    Run Outside (Except RemoteError Unit) := do
  return (← Retry.run RemoteError.text updater.budget (round name placement)).getD (.ok ())

def conclude (name : String) (placement : Placement) : Except RemoteError Unit → Run Outside Bool
  | .error e => throw (.node (.unwritable name e))
  | .ok () => do
      Run.log .info ("Added required labels for the node " ++ name ++ ": "
        ++ placement.labels.text)
      return true

/-- Label a node: true if the labels were written, false if a conflict was left alone. -/
def update (updater : Updater) (name : String) : Run Outside Bool := do
  let placement ← updater.resolver.placementOf (some name)
  let first ← write name (← labelled updater.node placement)
  match first with
  | .ok () => conclude name placement first
  | .error e =>
      if !e.isConflict then conclude name placement first
      else match updater.policy with
        | .ignore => do
            Run.log .warning
              ("Node " ++ name ++ " was modified concurrently; leaving labels as they are")
            return false
        | .fail => conclude name placement first
        | .retry => do
            Run.log .warning
              ("Node " ++ name ++ " was modified concurrently; re-reading and re-applying")
            conclude name placement (← updater.settle name placement)

/-- The copy of the node after one event: what was read, what the cluster gave back, or what was
sent in vain. -/
def copyAfterEvent (node : Option Node) : Event → Option Node
  | .nodeRead _ (.ok fresh) => fresh
  | .nodeReplaced _ _ (.ok kept) => kept
  | .nodeReplaced _ sent (.error _) => some sent
  | _ => node

/-- The copy of the node after a run. -/
def copyAfter (node : Option Node) (trace : Trace) : Option Node :=
  trace.foldl copyAfterEvent node

def after (updater : Updater) (trace : Trace) : Updater :=
  { updater with node := copyAfter updater.node trace }

/-- Label a node and keep the updater as it is after that, whatever the end. -/
def step (updater : Updater) (name : String) : Run Outside (Except Fault Bool × Updater) :=
  fun outside =>
    let outcome := updater.update name outside
    ⟨.ok (outcome.result, updater.after outcome.trace), outcome.trace, outcome.supply⟩

/-- Label nodes one after the other, each with its result and the updater after it. -/
def steps : Updater → List String → Run Outside (List (Except Fault Bool × Updater))
  | _, [] => return []
  | updater, name :: rest => do
      let done ← updater.step name
      return done :: (← steps done.2 rest)

end Updater

end NodeTopology
