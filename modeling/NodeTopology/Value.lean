import NodeTopology.Calendar
import NodeTopology.Entries
/-!
Values of data files: what a JSON body or a configuration file can hold.  Tables keep the order in
which their keys first appeared.
-/

namespace NodeTopology

/-- One value of a JSON document or of a configuration file. -/
inductive Value where
  | null
  | bool (b : Bool)
  | int (n : Int)
  | float (x : Float)
  | text (s : String)
  | list (items : List Value)
  | table (entries : List (String × Value))
  | date (d : Date)
  | time (t : TimeOfDay)
  | dateTime (d : Date) (t : TimeOfDay) (offset : Option Int)
deriving Inhabited

namespace Value

/-- The value of a key of a table; an absent key reads as null. -/
def field (entries : Entries Value) (key : String) : Value := (entries.get? key).getD null

/-- Values that count as missing where something is required: null, false, zero and whatever is
empty.  No date or time does. -/
def isVoid : Value → Bool
  | null => true
  | bool b => !b
  | int n => n == 0
  | float x => x == 0.0
  | text s => s.isEmpty
  | list items => items.isEmpty
  | table entries => entries.isEmpty
  | date _ => false
  | time _ => false
  | dateTime _ _ _ => false

def text? : Value → Option String
  | text s => some s
  | _ => none

def entries? : Value → Option (Entries Value)
  | table entries => some entries
  | _ => none

/-- The entries of a table that holds nothing but texts. -/
def texts? (value : Value) : Option (Entries String) := do
  (← value.entries?).mapM fun entry => do return (entry.1, ← entry.2.text?)

/-- Whether a value equals an integer; booleans count as zero and one. -/
def equalsInt (n : Int) : Value → Bool
  | int m => m == n
  | float x => x == Float.ofInt n
  | bool b => (if b then 1 else 0) == n
  | _ => false

/-- Lists and tables can change, so they do not serve as keys. -/
def isKeyable : Value → Bool
  | list _ => false
  | table _ => false
  | _ => true

end Value

end NodeTopology
