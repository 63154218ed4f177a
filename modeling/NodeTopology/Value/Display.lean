import NodeTopology.Decimal.Notation
import NodeTopology.Text.Quoted
import NodeTopology.Value
/-!
The text of a value in messages and headers.  The plain text of a text is the text itself; inside a
list or a table, and wherever a message asks for it, texts stand in quotes.
-/

namespace NodeTopology.Value

/-- The words for the two truth values. -/
def boolText (b : Bool) : String := if b then "True" else "False"

mutual

def quoted : Value → String
  | null => "None"
  | bool b => boolText b
  | int n => toString n
  | float x => Decimal.textOfFloat x
  | text s => Text.quoted s
  | list items => "[" ++ ", ".intercalate (quotedItems items) ++ "]"
  | table entries => "\x7b" ++ ", ".intercalate (quotedEntries entries) ++ "\x7d"
  | date d => d.quoted
  | time t => t.quoted
  | dateTime d t offset => dateTimeQuoted d t offset

def quotedItems : List Value → List String
  | [] => []
  | item :: rest => quoted item :: quotedItems rest

def quotedEntries : List (String × Value) → List String
  | [] => []
  | (key, value) :: rest => (Text.quoted key ++ ": " ++ quoted value) :: quotedEntries rest

end

/-- The plain text of a value. -/
def plain : Value → String
  | text s => s
  | date d => d.text
  | time t => t.text
  | dateTime d t offset => dateTimeText d t offset
  | value => value.quoted

/-- The most decimal digits an integer may have to be read or shown. -/
def maxDigits : Nat := 4300

/-- How many calls deeper a run usually can go where it reads or shows a value: all but twenty of a
thousand. -/
def usualRoom : Nat := 980

/-- Whether an integer has no more decimal digits than can be shown. -/
def intIsShowable (n : Int) : Bool := n.natAbs < Nat.pow 10 maxDigits

/-- What keeps a value from being shown. -/
inductive Obstacle where
  /-- An integer has too many digits. -/
  | longInteger
  /-- Lists and tables are nested deeper than there is room for. -/
  | tooDeep
deriving Repr, DecidableEq

mutual

/-- The first obstacle to showing a value, with room for so many lists and tables one in the other.
-/
def obstacle? : Nat → Value → Option Obstacle
  | _, int n => if intIsShowable n then none else some .longInteger
  | 0, list _ => some .tooDeep
  | room + 1, list items => itemsObstacle? room items
  | 0, table _ => some .tooDeep
  | room + 1, table entries => entriesObstacle? room entries
  | _, _ => none

def itemsObstacle? (room : Nat) : List Value → Option Obstacle
  | [] => none
  | item :: rest => (obstacle? room item).or (itemsObstacle? room rest)

def entriesObstacle? (room : Nat) : List (String × Value) → Option Obstacle
  | [] => none
  | (_, value) :: rest => (obstacle? room value).or (entriesObstacle? room rest)

end

theorem obstacle?_text (room : Nat) (s : String) : obstacle? room (text s) = none := by
  cases room <;> rfl

end NodeTopology.Value
