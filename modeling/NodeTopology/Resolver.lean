import NodeTopology.Address
import NodeTopology.Outside
import NodeTopology.Region
/-!
Finding the machine behind a worker node.  A worker whose name is an address literal is looked for
among the addresses of all instances, any other by name.  The first instance that matches decides:
if its zone has no region the search has failed.  A worker without a name is never found.
-/

namespace NodeTopology

/-- A source of instances; a filter asks for those of one name. -/
structure Resolver where
  list : Option String → Run Outside (List Instance)

namespace Resolver

def placement (machine : Instance) : Except LookupFault Placement :=
  match Region.ofZone? machine.zoneName with
  | some region => .ok ⟨machine.id, region, machine.zoneName⟩
  | none => .error (.invalidZone (some machine.zoneName))

def reportPlacement (machine : Instance) : Run Outside Placement := do
  let found ← Run.ofExcept .lookup (placement machine)
  Run.log .info ("Successfully fetched node detail from VPC provider: " ++ found.text)
  return found

def byAddress (resolver : Resolver) (worker : Option String) : Run Outside Placement := do
  let instances ← resolver.list none
  match instances.find? fun machine => some machine.address == worker with
  | some machine =>
      Run.log .info ("Successfully found instance " ++ machine.id)
      reportPlacement machine
  | none => throw (.lookup (.workerNotFound worker))

/-- The placement of the first instance with this name.  The source filters by name already; it is
checked again here. -/
def byName (resolver : Resolver) (worker : Option String) : Run Outside Placement := do
  let instances ← resolver.list worker
  match instances.find? fun machine => some machine.name == worker with
  | some machine => reportPlacement machine
  | none => throw (.lookup (.workerNotFound worker))

def placementOf (resolver : Resolver) (worker : Option String) : Run Outside Placement :=
  if worker.any isAddress then do
    Run.log .info
      "Worker node name is in ip format. Getting instance detail by ipv4 from vpc provider"
    resolver.byAddress worker
  else do
    Run.log .info
      "Worker node name is not in ip format. Getting instance detail by name from vpc provider"
    resolver.byName worker

inductive Query where
  | placement (worker : Option String)
  | placementByAddress (worker : Option String)
  | placementByName (worker : Option String)
  | instances (filter : Option String)
deriving Repr, DecidableEq

inductive Finding where
  | placement (found : Placement)
  | instances (found : List Instance)
deriving Repr, DecidableEq

def ask (resolver : Resolver) : Query → Run Outside Finding
  | .placement worker => do return .placement (← resolver.placementOf worker)
  | .placementByAddress worker => do return .placement (← resolver.byAddress worker)
  | .placementByName worker => do return .placement (← resolver.byName worker)
  | .instances filter => do return .instances (← resolver.list filter)

/-- Answer queries one after the other; one that fails does not keep the next from being asked. -/
def askAll (resolver : Resolver) : List Query → Run Outside (List (Except Fault Finding))
  | [] => return []
  | query :: rest => do
      let found ← (resolver.ask query).observe
      return found :: (← resolver.askAll rest)

/-- A list with something in it. -/
def orNone (instances : List Instance) : Except LookupFault (List Instance) :=
  if instances.isEmpty then .error .noInstances else .ok instances

def passes (filter : Option String) (machine : Instance) : Bool :=
  match filter with
  | some name => machine.name == name
  | none => true

def ofList (instances : List Instance) : Resolver where
  list filter := do
    Run.emit (.instancesListed filter)
    Run.ofExcept .lookup (orNone (instances.filter (passes filter)))

end Resolver

end NodeTopology
