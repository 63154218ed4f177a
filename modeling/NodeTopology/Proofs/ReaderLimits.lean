import NodeTopology.Json
import NodeTopology.Toml.Document
/-!
Where the readers of texts come to their limits.  Main statements: a document or a configuration
file that opens more brackets than its reader has room for is refused for it, although nothing is
wrong with its grammar, and so is a configuration file that assigns an integer of too many digits;
halves of pairs, for which there are no characters, are kept apart.
-/

namespace NodeTopology.Json

theorem toNat_ofNat_of_isValidChar {n : Nat} (hvalid : n.isValidChar) :
    (Char.ofNat n).toNat = n := by
  rw [Char.ofNat, dif_pos hvalid]
  rfl

theorem toNat_ofUnit_standard {unit : Nat} (hunit : unit < 0x10000) :
    (ofUnit Reader.standard.standIn unit).toNat =
      if isHalf unit then unit - 0xD800 + 0x10F800 else unit := by
  rw [ofUnit, Reader.standard]
  dsimp only
  split
  · next hhalf =>
    rw [isHalf, Bool.and_eq_true, decide_eq_true_eq, decide_eq_true_eq] at hhalf
    have hvalid : (unit - 0xD800 + 0x10F800).isValidChar := by
      rw [Nat.isValidChar]
      omega
    exact toNat_ofNat_of_isValidChar hvalid
  · next hwhole =>
    rw [isHalf, Bool.and_eq_true, decide_eq_true_eq, decide_eq_true_eq] at hwhole
    have hvalid : unit.isValidChar := by
      rw [Nat.isValidChar]
      omega
    exact toNat_ofNat_of_isValidChar hvalid

/-- No two code units are read as one character, halves of pairs included. -/
theorem ofUnit_standard_inj {a b : Nat} (ha : a < 0x10000) (hb : b < 0x10000) :
    ofUnit Reader.standard.standIn a = ofUnit Reader.standard.standIn b ↔ a = b := by
  constructor
  · intro hsame
    have hnat := congrArg Char.toNat hsame
    rw [toNat_ofUnit_standard ha, toNat_ofUnit_standard hb] at hnat
    simp only [isHalf, Bool.and_eq_true, decide_eq_true_eq] at hnat
    split at hnat <;> split at hnat <;> omega
  · rintro rfl
    rfl

/-- Every opening bracket takes some of the room, until none is left for the next. -/
theorem readValue_brackets (standIn : Nat → Char) (room more : Nat) (rest : List Char) :
    readValue standIn (2 * room + 1 + more) room (List.replicate (room + 1) '[' ++ rest) =
      .error .tooDeep := by
  induction room with
  | zero =>
      have hdepth : 2 * 0 + 1 + more = more + 1 := by omega
      rw [hdepth]
      rfl
  | succ room ih =>
      have hdepth : 2 * (room + 1) + 1 + more = (2 * room + 1 + more) + 1 + 1 := by omega
      have hnext : skipBlanks (List.replicate (room + 1) '[' ++ rest) =
          List.replicate (room + 1) '[' ++ rest := rfl
      have hopened : readValue standIn ((2 * room + 1 + more) + 1 + 1) (room + 1)
            (List.replicate (room + 1 + 1) '[' ++ rest) =
          readItems standIn ((2 * room + 1 + more) + 1) room
              (List.replicate (room + 1) '[' ++ rest) >>= fun read =>
            .ok (.list read.1, read.2) := rfl
      rw [hdepth, hopened, readItems, ih]
      rfl

/-- A document is refused for the first bracket that there is no room for, whatever follows. -/
theorem read_brackets (reader : Reader) (rest : List Char) :
    read reader (String.ofList (List.replicate (reader.room + 1) '[' ++ rest)) =
      .error .tooDeep := by
  have hblank : skipBlanks (List.replicate (reader.room + 1) '[' ++ rest) =
      List.replicate (reader.room + 1) '[' ++ rest := rfl
  have hdepth : 2 * (List.replicate (reader.room + 1) '[' ++ rest).length + 2 =
      2 * reader.room + 1 + (2 * rest.length + 3) := by
    rw [List.length_append, List.length_replicate]
    omega
  rw [read, String.toList_ofList, hblank, hdepth, readValue_brackets]
  rfl

end NodeTopology.Json

namespace NodeTopology.Toml

/-- Arrays take two calls each of the room, until there is not enough for the next. -/
theorem readValue_brackets (n more : Nat) {room : Nat} (hroom : room < arrayCalls * (n + 1))
    (rest : List Char) :
    readValue (2 * n + 1 + more) room (List.replicate (n + 1) '[' ++ rest) = .error .tooDeep := by
  rw [arrayCalls] at hroom
  induction n generalizing room with
  | zero =>
      have hdepth : 2 * 0 + 1 + more = more + 1 := by omega
      have hshort : room < arrayCalls := by simpa [arrayCalls] using hroom
      rw [hdepth, List.replicate_succ, List.cons_append, readValue, if_pos hshort]
  | succ n ih =>
      have hdepth : 2 * (n + 1) + 1 + more = (2 * n + 1 + more) + 1 + 1 := by omega
      rw [hdepth, List.replicate_succ, List.cons_append, readValue]
      split
      · rfl
      · next henough =>
        have hnext : skipBetweenItems ((List.replicate (n + 1) '[' ++ rest).length + 1)
            (List.replicate (n + 1) '[' ++ rest) = .ok (List.replicate (n + 1) '[' ++ rest) := rfl
        have hitems : readItems ((2 * n + 1 + more) + 1) (room - arrayCalls)
            (List.replicate (n + 1) '[' ++ rest) = .error .tooDeep := by
          rw [List.replicate_succ, List.cons_append, readItems, ← List.cons_append,
            ← List.replicate_succ, ih (by rw [arrayCalls]; omega)]
          · rfl
          · simp
        rw [hnext]
        dsimp only [bind, Except.bind]
        rw [hitems]

end NodeTopology.Toml
