import NodeTopology.Cluster
import NodeTopology.Resolver.Paged
import NodeTopology.SecretSource
import NodeTopology.Updater
/-!
The whole program: settings from the environment, a connection to the cluster, and the labelling of
one node.  A node that carries its labels already is left alone before any secret is touched.
-/

namespace NodeTopology

abbrev ResolverFactory := Credentials → Run Outside Resolver

namespace ResolverFactory

/-- Resolvers that ask the infrastructure service, each piece of work in a session of its own. -/
def service : ResolverFactory := fun credentials =>
  return InstanceService.resolver ⟨credentials, .own, .standard⟩

/-- Resolvers over a fixed list, which note the credentials they were made for. -/
def ofList (instances : List Instance) : ResolverFactory := fun credentials => do
  Run.emit (.resolverMade credentials)
  return .ofList instances

end ResolverFactory

namespace Program

def watcherName : String := "vpc-node-label-updater"

def labelNode (settings : Settings) (node : Node) (source : SecretSource)
    (factory : ResolverFactory) : Run Outside Bool := do
  let credentials ← Credentials.obtain settings source .own .standard
  let resolver ← factory credentials
  let updater : Updater := ⟨some node, resolver, settings.policy, .forConflicts⟩
  updater.update settings.nodeName

/-- Label the node that the settings name: true if labels were written. -/
def updateNodeLabels (settings : Settings) (source : SecretSource) (factory : ResolverFactory) :
    Run Outside Bool := do
  if settings.nodeName.isEmpty then throw (.configuration .noNodeName)
  Run.log .info "Getting node details"
  let node ← Cluster.node .standard settings.nodeName
  match node.metadata with
  | none => throw (.misuse .noSuchMember)
  | some metadata =>
      if Node.isComplete metadata.labels then do
        Run.log .info "Required labels already present on the worker node"
        return false
      else labelNode settings node source factory

inductive Exit where
  | success
  | failure
deriving Repr, DecidableEq

def Exit.code : Exit → Nat
  | success => 0
  | failure => 1

/-- Connect and label, from a given secret file. -/
def work (settings : Settings) (configs : Cluster.Configs) (file : SecretFile) :
    Run Outside Unit := do
  Cluster.connect configs
  let _ ← updateNodeLabels settings (.file file) ResolverFactory.service

/-- Report a fault as the last line of the log.  A fault of no reported family ends the program with
an error. -/
def reportFault (settings : Settings) (fault : Fault) : Run Outside Exit :=
  if fault.isReported then do
    Run.log .critical ("Error in updating labels for node " ++ settings.nodeName ++ ": "
      ++ fault.message.getD "")
    return .failure
  else throw fault

def runWith (settings : Settings) (configs : Cluster.Configs) (file : SecretFile) :
    Run Outside Exit := do
  Run.log .info "Starting controller for adding node labels"
  match ← (work settings configs file).observe with
  | .ok () => return .success
  | .error fault => reportFault settings fault

def run (environment : Environment) (configs : Cluster.Configs) (file : SecretFile) :
    Run Outside Exit :=
  match Settings.ofEnvironment environment with
  | .ok settings => runWith settings configs file
  | .error fault => do
      Run.log .critical ("Invalid configuration: " ++ fault.message)
      return .failure

/-- Whether a line is written: debug lines only when debugging. -/
def isWritten (debug : Bool) (line : LogLine) : Bool := debug || line.level != .debug

/-- Whether the environment asks for debug lines; faulty settings do not. -/
def debugs (environment : Environment) : Bool :=
  match Settings.ofEnvironment environment with
  | .ok settings => settings.debug
  | .error _ => false

def writtenLines (environment : Environment) (trace : Trace) : List LogLine :=
  trace.logLines.filter (isWritten (debugs environment))

end Program

end NodeTopology
