/-!
Base64 over the standard alphabet.  Writing pads the last group.  Reading refuses every character
outside the alphabet and every incomplete group; it does not look at the unused bits of the last
group, and it allows any number of padding marks after complete groups.  Main statement: reading
what was written gives the bytes back.
-/

namespace NodeTopology.Text.Base64

def digit (value : Nat) : Char :=
  if value < 26 then Char.ofNat ('A'.toNat + value)
  else if value < 52 then Char.ofNat ('a'.toNat + (value - 26))
  else if value < 62 then Char.ofNat ('0'.toNat + (value - 52))
  else if value = 62 then '+'
  else '/'

def value? (c : Char) : Option Nat :=
  if 'A' ≤ c && c ≤ 'Z' then some (c.toNat - 'A'.toNat)
  else if 'a' ≤ c && c ≤ 'z' then some (c.toNat - 'a'.toNat + 26)
  else if '0' ≤ c && c ≤ '9' then some (c.toNat - '0'.toNat + 52)
  else if c = '+' then some 62
  else if c = '/' then some 63
  else none

theorem value?_digit : ∀ value < 64, value? (digit value) = some value := by decide

/-- Bytes cut into runs of six bits, the last run filled up with zeros. -/
def sextets : List UInt8 → List Nat
  | [] => []
  | [a] => [a.toNat / 4, a.toNat % 4 * 16]
  | [a, b] => [a.toNat / 4, a.toNat % 4 * 16 + b.toNat / 16, b.toNat % 16 * 4]
  | a :: b :: c :: rest =>
      a.toNat / 4 :: (a.toNat % 4 * 16 + b.toNat / 16) :: (b.toNat % 16 * 4 + c.toNat / 64)
        :: c.toNat % 64 :: sextets rest

/-- The bytes that runs of six bits fill; an incomplete last group gives what it has of them. -/
def ofSextets : List Nat → List UInt8
  | a :: b :: c :: d :: rest =>
      UInt8.ofNat (a * 4 + b / 16) :: UInt8.ofNat (b % 16 * 16 + c / 4)
        :: UInt8.ofNat (c % 4 * 64 + d) :: ofSextets rest
  | [a, b, c] => [UInt8.ofNat (a * 4 + b / 16), UInt8.ofNat (b % 16 * 16 + c / 4)]
  | [a, b] => [UInt8.ofNat (a * 4 + b / 16)]
  | _ => []

/-- How many padding marks complete the last group of so many digits. -/
def padCount (digits : Nat) : Nat := (4 - digits % 4) % 4

def encode (bytes : List UInt8) : List Char :=
  (sextets bytes).map digit ++ List.replicate (padCount (sextets bytes).length) '='

/-- How many padding marks may follow a number of digits: exactly those that complete a group of two
or three, none after a lone digit, any number after complete groups. -/
def padsFit (digits pads : Nat) : Bool :=
  match digits % 4 with
  | 0 => digits != 0 || pads == 0
  | 1 => false
  | 2 => pads == 2
  | _ => pads == 1

def decode? (text : List Char) : Option (List UInt8) :=
  let digits := text.takeWhile fun c => (value? c).isSome
  let pads := text.drop digits.length
  if pads.all (· == '=') && padsFit digits.length pads.length then
    some (ofSextets (digits.filterMap value?))
  else none

theorem ofSextets_sextets (bytes : List UInt8) : ofSextets (sextets bytes) = bytes := by
  have hjoin : ∀ (a : UInt8) (n : Nat), n = a.toNat → UInt8.ofNat n = a := by
    intro a n hn
    rw [hn, UInt8.ofNat_toNat]
  fun_induction sextets bytes with
  | case1 => rfl
  | case2 a =>
      have ha := a.toNat_lt
      simp only [ofSextets, List.cons.injEq, and_true]
      exact hjoin a _ (by omega)
  | case3 a b =>
      have ha := a.toNat_lt
      have hb := b.toNat_lt
      simp only [ofSextets, List.cons.injEq, and_true]
      exact ⟨hjoin a _ (by omega), hjoin b _ (by omega)⟩
  | case4 a b c rest ih =>
      have ha := a.toNat_lt
      have hb := b.toNat_lt
      have hc := c.toNat_lt
      simp only [ofSextets, List.cons.injEq, ih, and_true]
      exact ⟨hjoin a _ (by omega), hjoin b _ (by omega), hjoin c _ (by omega)⟩

theorem lt_of_mem_sextets {value : Nat} {bytes : List UInt8} (hmem : value ∈ sextets bytes) :
    value < 64 := by
  fun_induction sextets bytes with
  | case1 => cases hmem
  | case2 a =>
      have ha := a.toNat_lt
      simp only [List.mem_cons, List.not_mem_nil, or_false] at hmem
      omega
  | case3 a b =>
      have ha := a.toNat_lt
      have hb := b.toNat_lt
      simp only [List.mem_cons, List.not_mem_nil, or_false] at hmem
      omega
  | case4 a b c rest ih =>
      have ha := a.toNat_lt
      have hb := b.toNat_lt
      have hc := c.toNat_lt
      simp only [List.mem_cons] at hmem
      rcases hmem with hmem | hmem | hmem | hmem | hmem
      · omega
      · omega
      · omega
      · omega
      · exact ih hmem

/-- The number of runs is never one more than complete groups have. -/
theorem length_sextets_mod (bytes : List UInt8) : (sextets bytes).length % 4 ≠ 1 := by
  fun_induction sextets bytes with
  | case1 => simp
  | case2 => simp
  | case3 => simp
  | case4 a b c rest ih =>
      simp only [List.length_cons]
      omega

theorem padsFit_padCount {digits : Nat} (hlone : digits % 4 ≠ 1) :
    padsFit digits (padCount digits) = true := by
  have hgroup : digits % 4 = 0 ∨ digits % 4 = 2 ∨ digits % 4 = 3 := by omega
  rcases hgroup with hgroup | hgroup | hgroup <;> simp [padsFit, padCount, hgroup]

/-- Digits read back as their values, and padding ends them. -/
theorem takeWhile_digits {values : List Nat} (hsmall : ∀ value ∈ values, value < 64) (pads : Nat) :
    (values.map digit ++ List.replicate pads '=').takeWhile (fun c => (value? c).isSome)
      = values.map digit := by
  induction values with
  | nil => cases pads <;> simp [List.replicate_succ, show value? '=' = none from by decide]
  | cons value rest ih =>
      have hvalue := value?_digit value (hsmall value List.mem_cons_self)
      have hrest := ih fun v hv => hsmall v (List.mem_cons_of_mem _ hv)
      simp [hvalue, hrest]

theorem filterMap_digits {values : List Nat} (hsmall : ∀ value ∈ values, value < 64) :
    (values.map digit).filterMap value? = values := by
  induction values with
  | nil => rfl
  | cons value rest ih =>
      have hvalue := value?_digit value (hsmall value List.mem_cons_self)
      have hrest := ih fun v hv => hsmall v (List.mem_cons_of_mem _ hv)
      rw [List.map_cons, List.filterMap_cons_some hvalue, hrest]

theorem decode?_encode (bytes : List UInt8) : decode? (encode bytes) = some bytes := by
  have hsmall : ∀ value ∈ sextets bytes, value < 64 := fun _ hmem => lt_of_mem_sextets hmem
  have hfits := padsFit_padCount (length_sextets_mod bytes)
  simp only [decode?, encode, takeWhile_digits hsmall, filterMap_digits hsmall, List.length_map]
  rw [List.drop_left' (List.length_map digit), List.length_replicate, hfits, ofSextets_sextets]
  simp

end NodeTopology.Text.Base64
