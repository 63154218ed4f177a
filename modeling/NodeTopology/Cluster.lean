import NodeTopology.Outside
/-!
Reaching the cluster: its configuration comes from inside the cluster or else from the user's file;
a node is read again and again until it is there or known not to be.
-/

namespace NodeTopology.Cluster

/-- What loading each source of configuration comes to: nothing, or a failure. -/
structure Configs where
  inCluster : Option RemoteError
  kubeconfig : Option RemoteError

def connect {σ : Type} (configs : Configs) : Run σ Unit := do
  Run.emit (.configLoaded .inCluster)
  match configs.inCluster with
  | none => return ()
  | some (.configuration text) =>
      Run.log .error ("Failed to create in-cluster config: " ++ text)
      Run.emit (.configLoaded .kubeconfig)
      match configs.kubeconfig with
      | none => return ()
      | some e =>
          if e.isMissingConfiguration then
            throw (.configuration (.noCluster (.configuration text) e))
          else throw (.escaped e)
  | some e => throw (.escaped e)

/-- One attempt to read a node.  Everything but a missing node is worth another attempt. -/
def readAttempt (name : String) : Run Outside (Attempt RemoteError (Option Node)) := do
  match ← Outside.readNode name with
  | .ok node => return .success node
  | .error e =>
      if !e.isCluster then throw (.escaped e)
      if e.isNotFound then
        Run.log .error ("Node " ++ name ++ " no longer exists in the cluster")
      return .failure e e.isNotFound

def node (budget : Budget) (name : String) : Run Outside Node := do
  match ← Retry.run RemoteError.text budget (readAttempt name) with
  | some (.ok (some node)) => return node
  | some (.ok none) => throw (.node (.unreadable name none))
  | some (.error e) => throw (.node (.unreadable name (some e)))
  | none => throw (.node (.unreadable name none))

end NodeTopology.Cluster
