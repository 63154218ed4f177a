import NodeTopology.Value
/-!
A configuration file while it is read: a tree of keys that knows how each table came to be.  A table
may be declared by a header once; one that was opened by dotted keys may be extended only in the
section that opened it; a value, an inline table or an array written as a value stays as it is.
-/

namespace NodeTopology.Toml

/-- How a table came to be. -/
inductive Standing where
  /-- Only as a parent in a header; a header may still declare it. -/
  | implied
  /-- By dotted keys in the section of this number. -/
  | dotted (opened : Nat)
  /-- By a header of its own. -/
  | declared
deriving Repr, DecidableEq

inductive Entry where
  | value (v : Value)
  | table (standing : Standing) (children : List (String × Entry))
  /-- An array of tables; the first of the list is the last in the file. -/
  | tables (newest : List (String × Entry)) (older : List (List (String × Entry)))

/-- The keys of one table with what stands under them. -/
abbrev Children := Entries Entry

/-- Whether dotted keys of a section may go through a table. -/
def Standing.admits (current : Nat) : Standing → Bool
  | .implied => true
  | .dotted opened => opened == current
  | .declared => false

/-- Write a value under a dotted key.  Refused when the key is taken, or when the way to it leads
through a value, an array of tables or a table that is closed to this section. -/
def assign (current : Nat) (v : Value) : List String → Children → Option Children
  | [], _ => none
  | [key], children =>
      if children.has key then none else some (children.put key (.value v))
  | key :: path, children =>
      match children.get? key with
      | none => do
          let inner ← assign current v path []
          some (children.put key (.table (.dotted current) inner))
      | some (.table standing inner) =>
          if standing.admits current then do
            let inner ← assign current v path inner
            some (children.put key (.table (.dotted current) inner))
          else none
      | some _ => none

/-- Change the table at the end of a path of headers; parents that are missing come to be, and an
array of tables stands for its newest table. -/
def within (change : Children → Option Children) : List String → Children → Option Children
  | [], children => change children
  | key :: path, children =>
      match children.get? key with
      | none => do
          let inner ← within change path []
          some (children.put key (.table .implied inner))
      | some (.table standing inner) => do
          let inner ← within change path inner
          some (children.put key (.table standing inner))
      | some (.tables newest older) => do
          let newest ← within change path newest
          some (children.put key (.tables newest older))
      | some (.value _) => none

/-- Declare the table of a header. -/
def declare (key : String) (children : Children) : Option Children :=
  match children.get? key with
  | none => some (children.put key (.table .declared []))
  | some (.table .implied inner) => some (children.put key (.table .declared inner))
  | some _ => none

def beginTable (key : String) (children : Children) : Option Children :=
  match children.get? key with
  | none => some (children.put key (.tables [] []))
  | some (.tables newest older) => some (children.put key (.tables [] (newest :: older)))
  | some _ => none

mutual

def Entry.toValue : Entry → Value
  | .value v => v
  | .table _ children => .table (childValues children)
  | .tables newest older => .list ((tableValues older).reverse ++ [.table (childValues newest)])

def childValues : List (String × Entry) → Entries Value
  | [] => []
  | (key, entry) :: rest => (key, entry.toValue) :: childValues rest

def tableValues : List (List (String × Entry)) → List Value
  | [] => []
  | children :: rest => .table (childValues children) :: tableValues rest

end

end NodeTopology.Toml
