/-!
Bytes as UTF-8 text.  The strict reading refuses any fault.  The lenient reading puts one
replacement character for each maximal run of bytes that begins a scalar value and breaks off, and
for each byte that begins none.  Main statement: the strict reading accepts the UTF-8 form of a
text and nothing else.
-/

namespace NodeTopology.Text

def utf8Bytes (text : String) : List UInt8 := text.toUTF8.data.toList

def ofUtf8? (bytes : List UInt8) : Option String := String.fromUTF8? ⟨bytes.toArray⟩

theorem ofUtf8?_utf8Bytes (text : String) : ofUtf8? (utf8Bytes text) = some text := by
  have hvalid : text.toByteArray.IsValidUTF8 := text.isValidUTF8
  simp only [ofUtf8?, utf8Bytes, String.fromUTF8?, String.toUTF8, Array.toArray_toList]
  exact dif_pos hvalid

/-- Only the UTF-8 form of a text reads as that text. -/
theorem ofUtf8?_eq_some_iff {bytes : List UInt8} {text : String} :
    ofUtf8? bytes = some text ↔ bytes = utf8Bytes text := by
  constructor
  · intro hread
    simp only [ofUtf8?, String.fromUTF8?] at hread
    split at hread
    · cases hread
      rfl
    · cases hread
  · intro hbytes
    rw [hbytes, ofUtf8?_utf8Bytes]

/-- A scalar value whose first bytes have been read: `more` bytes are still to come, the next of
them from `low` to `high`, and `value` collects the bits so far. -/
structure PendingScalar where
  more : Nat
  low : Nat
  high : Nat
  value : Nat

/-- What the first byte of a scalar value of several bytes announces. -/
def PendingScalar.ofLead? (lead : Nat) : Option PendingScalar :=
  if 0xC2 ≤ lead ∧ lead ≤ 0xDF then some ⟨1, 0x80, 0xBF, lead - 0xC0⟩
  else if lead = 0xE0 then some ⟨2, 0xA0, 0xBF, 0⟩
  else if lead = 0xED then some ⟨2, 0x80, 0x9F, 0xD⟩
  else if 0xE1 ≤ lead ∧ lead ≤ 0xEF then some ⟨2, 0x80, 0xBF, lead - 0xE0⟩
  else if lead = 0xF0 then some ⟨3, 0x90, 0xBF, 0⟩
  else if 0xF1 ≤ lead ∧ lead ≤ 0xF3 then some ⟨3, 0x80, 0xBF, lead - 0xF0⟩
  else if lead = 0xF4 then some ⟨3, 0x80, 0x8F, 4⟩
  else none

def replacement : Char := '\uFFFD'

/-- Read a byte that begins a scalar value: the characters that are now complete, and what is
pending. -/
def beginScalar (byte : Nat) : List Char × Option PendingScalar :=
  if byte < 0x80 then ([Char.ofNat byte], none)
  else match PendingScalar.ofLead? byte with
    | some pending => ([], some pending)
    | none => ([replacement], none)

/-- Read one byte. -/
def lenientStep : Option PendingScalar → Nat → List Char × Option PendingScalar
  | none, byte => beginScalar byte
  | some pending, byte =>
      if pending.low ≤ byte ∧ byte ≤ pending.high then
        let value := pending.value * 64 + (byte - 0x80)
        if pending.more ≤ 1 then ([Char.ofNat value], none)
        else ([], some ⟨pending.more - 1, 0x80, 0xBF, value⟩)
      else
        let next := beginScalar byte
        (replacement :: next.1, next.2)

/-- Read bytes leniently, some bytes of a scalar value being read already. -/
def lenientFrom (pending : Option PendingScalar) : List UInt8 → List Char
  | [] => if pending.isSome then [replacement] else []
  | byte :: rest =>
      let step := lenientStep pending byte.toNat
      step.1 ++ lenientFrom step.2 rest

/-- The text that bytes show when every fault is replaced. -/
def ofUtf8Lenient (bytes : List UInt8) : String := String.ofList (lenientFrom none bytes)

end NodeTopology.Text
