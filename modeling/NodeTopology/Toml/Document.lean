import NodeTopology.Toml.Scalar
import NodeTopology.Toml.Section
/-!
Reading a whole configuration file, line by line: blank lines and comments, assignments under bare,
quoted and dotted keys, headers of tables and of arrays of tables.  A carriage return before a line
feed is ignored.  The first fault of the file decides why it is refused.
-/

namespace NodeTopology.Toml

/-- A comment up to the end of its line; without a comment nothing is passed over. -/
def skipComment : List Char → Except Refusal (List Char)
  | '#' :: rest =>
      let comment := rest.takeWhile (· != '\n')
      if comment.any isControl then .error .malformed else .ok (rest.drop comment.length)
  | text => .ok text

/-- Blanks, line ends and comments between the items of an array. -/
def skipBetweenItems : Nat → List Char → Except Refusal (List Char)
  | 0, text => .ok text
  | rounds + 1, text =>
      match skipLines text with
      | '#' :: rest => do skipBetweenItems rounds (← skipComment ('#' :: rest))
      | after => .ok after

def isBare (c : Char) : Bool :=
  Text.isDecimal c || ('a' ≤ c && c ≤ 'z') || ('A' ≤ c && c ≤ 'Z') || c = '-' || c = '_'

def readKeyPart (text : List Char) : Except Refusal (String × List Char) :=
  match text with
  | '\'' :: rest => do
      let (chars, after) ← readUntil ['\''] isControl rest
      .ok (String.ofList chars, after)
  | '"' :: rest => do
      let (chars, after) ← readBasic (rest.length + 1) rest
      .ok (String.ofList chars, after)
  | _ =>
      let chars := text.takeWhile isBare
      if chars.isEmpty then .error .malformed
      else .ok (String.ofList chars, text.drop chars.length)

/-- A key of one part or of several with points between, and the blanks after it. -/
def readKey : Nat → List Char → Except Refusal (List String × List Char)
  | 0, _ => .error .malformed
  | rounds + 1, text => do
      let (part, after) ← readKeyPart text
      match skipSpaces after with
      | '.' :: rest =>
          let (parts, last) ← readKey rounds (skipSpaces rest)
          .ok (part :: parts, last)
      | rest => .ok ([part], rest)

/-- A key, the equals sign and the blanks around it. -/
def readAssignedKey (text : List Char) : Except Refusal (List String × List Char) := do
  let (key, after) ← readKey (text.length + 1) text
  match after with
  | '=' :: rest => .ok (key, skipSpaces rest)
  | _ => .error .malformed

/-- How many calls deeper an array is read than what it stands in. -/
def arrayCalls : Nat := 2

/-- How many calls deeper an inline table is read than what it stands in. -/
def inlineCalls : Nat := 3

mutual

/-- A value; `depth` bounds how many more readers may be entered, `room` how many calls deeper the
reader may go. -/
def readValue : Nat → Nat → List Char → Except Refusal (Value × List Char)
  | 0, _, _ => .error .malformed
  | depth + 1, room, text =>
      match text with
      | '[' :: rest =>
          if room < arrayCalls then .error .tooDeep
          else do
            let inner ← skipBetweenItems (rest.length + 1) rest
            let (items, after) ← readItems depth (room - arrayCalls) inner
            .ok (.list items, after)
      | '\x7b' :: rest =>
          if room < inlineCalls then .error .tooDeep
          else
            match skipSpaces rest with
            | '\x7d' :: after => .ok (.table [], after)
            | inner => readInline depth (room - inlineCalls) [] inner
      | _ => readScalar text

/-- The items of an array from the next one on, to the closing bracket. -/
def readItems : Nat → Nat → List Char → Except Refusal (List Value × List Char)
  | 0, _, _ => .error .malformed
  | _ + 1, _, ']' :: after => .ok ([], after)
  | depth + 1, room, text => do
      let (item, afterItem) ← readValue depth room text
      let after ← skipBetweenItems (afterItem.length + 1) afterItem
      match after with
      | ']' :: last => .ok ([item], last)
      | ',' :: rest =>
          let next ← skipBetweenItems (rest.length + 1) rest
          let (items, last) ← readItems depth room next
          .ok (item :: items, last)
      | _ => .error .malformed

/-- The entries of an inline table from the next one on, to the closing bracket. -/
def readInline : Nat → Nat → Children → List Char → Except Refusal (Value × List Char)
  | 0, _, _, _ => .error .malformed
  | depth + 1, room, children, text => do
      let (key, beforeValue) ← readAssignedKey text
      let (value, after) ← readValue depth room beforeValue
      match assign 0 value key children with
      | none => .error .malformed
      | some more =>
          match skipSpaces after with
          | '\x7d' :: last => .ok (.table (childValues more), last)
          | ',' :: rest => readInline depth room more (skipSpaces rest)
          | _ => .error .malformed

end

/-- A file as far as it is read: the keys so far, the header in force and the number of headers. -/
structure Progress where
  root : Children
  header : List String
  headers : Nat

/-- Accept a change of the tree, or refuse the file. -/
def orMalformed (change : Option Children) : Except Refusal Children :=
  match change with
  | some children => .ok children
  | none => .error .malformed

/-- Enter a header: what its last part does happens in the table that the other parts lead to. -/
def Progress.enter (p : Progress) (key : List String)
    (change : String → Children → Option Children) : Except Refusal Progress := do
  let last := key.getLast?.getD ""
  let root ← orMalformed (within (change last) key.dropLast p.root)
  .ok ⟨root, key, p.headers + 1⟩

/-- One statement: a header, an assignment, or nothing. -/
def readStatement (room : Nat) (p : Progress) (text : List Char) :
    Except Refusal (Progress × List Char) :=
  match text with
  | '[' :: '[' :: rest => do
      let (key, after) ← readKey (rest.length + 1) (skipSpaces rest)
      let next ← p.enter key beginTable
      match after with
      | ']' :: ']' :: last => .ok (next, last)
      | _ => .error .malformed
  | '[' :: rest => do
      let (key, after) ← readKey (rest.length + 1) (skipSpaces rest)
      let next ← p.enter key declare
      match after with
      | ']' :: last => .ok (next, last)
      | _ => .error .malformed
  | '#' :: _ => .ok (p, text)
  | '\n' :: _ => .ok (p, text)
  | [] => .ok (p, text)
  | _ => do
      let (key, beforeValue) ← readAssignedKey text
      let (value, after) ← readValue (2 * beforeValue.length + 2) room beforeValue
      let root ← orMalformed (within (assign p.headers value key) p.header p.root)
      .ok ({ p with root }, after)

/-- All statements; each round reads one line or more. -/
def readStatements (room : Nat) : Nat → Progress → List Char → Except Refusal Children
  | 0, p, _ => .ok p.root
  | rounds + 1, p, text => do
      let (next, after) ← readStatement room p (skipSpaces text)
      let rest ← skipComment (skipSpaces after)
      match rest with
      | [] => .ok next.root
      | '\n' :: more => readStatements room rounds next more
      | _ => .error .malformed

def joinLineEnds : List Char → List Char
  | '\r' :: '\n' :: rest => '\n' :: joinLineEnds rest
  | c :: rest => c :: joinLineEnds rest
  | [] => []

/-- The table that a configuration file holds, to a reader that can go some calls deep.  Only arrays
and inline tables are counted: keys are read one part after the other, and the few calls that any
scalar takes are not part of the room. -/
def read (room : Nat) (file : String) : Except Refusal (Entries Value) := do
  let text := joinLineEnds file.toList
  let children ← readStatements room (text.length + 1) ⟨[], [], 0⟩ text
  .ok (childValues children)

end NodeTopology.Toml
