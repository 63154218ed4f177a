import NodeTopology.Shape
import NodeTopology.Text.Quoted
/-!
The virtual machines behind cluster nodes, as the infrastructure service describes them page by
page.  Only the fields that matter here are read; whatever else a payload holds is passed over.
-/

namespace NodeTopology

structure Zone where
  name : String
  href : String
deriving Repr, DecidableEq

structure NetworkInterface where
  id : String
  name : String
  primaryAddress : String
deriving Repr, DecidableEq

/-- One virtual machine. -/
structure Instance where
  id : String
  name : String
  status : String
  zone : Option Zone
  interface : Option NetworkInterface
deriving Repr, DecidableEq

/-- One page of the instance list, with the address of the next page if there is one. -/
structure Page where
  instances : List Instance
  totalCount : Int
  limit : Int
  next : Option String
deriving Repr, DecidableEq

/-- What a node's labels are made of. -/
structure Placement where
  instanceId : String
  region : String
  zone : String
deriving Repr, DecidableEq

namespace Zone

def ofValue (value : Value) : Except ShapeFault Zone := do
  let entries ← value.asObject "zone"
  return {
    name := ← Value.textField entries "name"
    href := ← Value.textField entries "href" }

end Zone

namespace NetworkInterface

def ofValue (value : Value) : Except ShapeFault NetworkInterface := do
  let entries ← value.asObject "primary_network_interface"
  return {
    id := ← Value.textField entries "id"
    name := ← Value.textField entries "name"
    primaryAddress := ← Value.textField entries "primary_ipv4_address" }

end NetworkInterface

namespace Instance

def ofValue (value : Value) : Except ShapeFault Instance := do
  let entries ← value.asObject "instance"
  return {
    id := ← Value.textField entries "id"
    name := ← Value.textField entries "name"
    status := ← Value.textField entries "status"
    zone := ← Value.recordField Zone.ofValue entries "zone"
    interface := ← Value.recordField NetworkInterface.ofValue entries
      "primary_network_interface" }

/-- The address of the instance's network interface; without an interface it is empty. -/
def address (machine : Instance) : String :=
  match machine.interface with
  | some interface => interface.primaryAddress
  | none => ""

/-- The name of the instance's zone; without a zone it is empty. -/
def zoneName (machine : Instance) : String :=
  match machine.zone with
  | some zone => zone.name
  | none => ""

end Instance

namespace Page

/-- The address in a reference to the next page; an empty address leads nowhere. -/
def nextOfValue (value : Value) : Except ShapeFault (Option String) := do
  let entries ← value.asObject "next"
  let href ← Value.textField entries "href"
  return if href.isEmpty then none else some href

def ofValue (value : Value) : Except ShapeFault Page := do
  let entries ← value.asObject "instance list payload"
  let items ← Value.listField entries "instances"
  return {
    instances := ← items.mapM Instance.ofValue
    totalCount := ← Value.intField entries "total_count"
    limit := ← Value.intField entries "limit"
    next := (← Value.recordField nextOfValue entries "next").join }

end Page

namespace Placement

/-- A placement as log lines show it. -/
def text (placement : Placement) : String :=
  "NodeInfo(instance_id=" ++ Text.quoted placement.instanceId
    ++ ", region=" ++ Text.quoted placement.region
    ++ ", zone=" ++ Text.quoted placement.zone ++ ")"

end Placement

end NodeTopology
