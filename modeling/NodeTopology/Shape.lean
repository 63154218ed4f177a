import NodeTopology.Value
/-!
Taking records out of payloads.  A record is a table; a field that is absent or null takes the empty
default of its kind, and a field of another kind is refused.
-/

namespace NodeTopology

/-- Why a payload does not have the shape of a record. -/
inductive ShapeFault where
  /-- The thing of this name is no table. -/
  | notObject (what : String)
  /-- The field of this name is no text. -/
  | notText (key : String)
  /-- The field of this name is no integer. -/
  | notInteger (key : String)
  /-- The field of this name is no list. -/
  | notList (key : String)
  /-- The field of this name is empty or absent and must not be. -/
  | absent (key : String)
deriving Repr, DecidableEq

def ShapeFault.message : ShapeFault → String
  | .notObject what => what ++ " is not an object"
  | .notText key => key ++ " is not a string"
  | .notInteger key => key ++ " is not an integer"
  | .notList key => key ++ " field is not a list"
  | .absent key => key ++ " missing from response"

namespace Value

def asObject (what : String) : Value → Except ShapeFault (Entries Value)
  | table entries => .ok entries
  | _ => .error (.notObject what)

/-- A text field; absent or null it is empty. -/
def textField (entries : Entries Value) (key : String) : Except ShapeFault String :=
  match field entries key with
  | null => .ok ""
  | text s => .ok s
  | _ => .error (.notText key)

/-- An integer field; absent or null it is zero. -/
def intField (entries : Entries Value) (key : String) : Except ShapeFault Int :=
  match field entries key with
  | null => .ok 0
  | int n => .ok n
  | _ => .error (.notInteger key)

/-- A list field; absent or null it is empty. -/
def listField (entries : Entries Value) (key : String) :
    Except ShapeFault (List Value) :=
  match field entries key with
  | null => .ok []
  | list items => .ok items
  | _ => .error (.notList key)

/-- A field that holds a record; absent or null there is none. -/
def recordField {α : Type} (read : Value → Except ShapeFault α) (entries : Entries Value)
    (key : String) : Except ShapeFault (Option α) :=
  match field entries key with
  | null => .ok none
  | value => (read value).map some

end Value

end NodeTopology
