import Mathlib.Data.List.Induction
import NodeTopology.Proofs.WorkerSearch
/-!
Literals of addresses of version 4 as numbers.  A field has one numeral without leading zeros, and a
literal splits at its points into four of them in one way only.  Main statements: the literals are
exactly the canonical texts of the addresses, so that two of them are the same text exactly if they
are the same number; and the search for a worker whose name is such a literal, which compares texts,
ends with the first instance at the same number.
-/

namespace NodeTopology

namespace Text

theorem hexValue?_digitChar : ∀ value < 10, hexValue? (Nat.digitChar value) = some value := by
  decide

theorem exists_digitChar_of_isDecimal {c : Char} (hdecimal : isDecimal c = true) :
    ∃ value < 10, c = Nat.digitChar value := by
  simp only [isDecimal, Bool.and_eq_true, decide_eq_true_eq] at hdecimal
  obtain ⟨hlow, hhigh⟩ := hdecimal
  have hlow : 48 ≤ c.toNat := hlow
  have hhigh : c.toNat ≤ 57 := hhigh
  have hchars : ∀ value < 10, Char.ofNat (48 + value) = Nat.digitChar value := by decide
  refine ⟨c.toNat - 48, by omega, ?_⟩
  rw [← hchars _ (by omega), Nat.add_sub_cancel' hlow, Char.ofNat_toNat]

/-- One more digit counts as units, and those before it as tens. -/
theorem numeral_append_digitChar (digits : List Char) {value : Nat} (hvalue : value < 10) :
    numeral 10 (digits ++ [Nat.digitChar value]) = 10 * numeral 10 digits + value := by
  rw [numeral, List.foldl_append, List.foldl_cons, List.foldl_nil, hexValue?_digitChar value hvalue,
    Nat.mul_comm]
  rfl

theorem numeral_toDigits (n : Nat) : numeral 10 (Nat.toDigits 10 n) = n := by
  induction n using Nat.strongRecOn with
  | ind n ih =>
      by_cases hsmall : n < 10
      · rw [Nat.toDigits_of_lt_base hsmall]
        exact (numeral_append_digitChar [] hsmall).trans (Nat.zero_add n)
      · rw [Nat.toDigits_of_base_le (by decide) (Nat.not_lt.mp hsmall),
          numeral_append_digitChar _ (Nat.mod_lt n (by decide)), ih (n / 10) (by omega)]
        exact Nat.div_add_mod n 10

/-- No number but zero has a leading zero among its digits. -/
theorem eq_zero_of_head?_toDigits {n : Nat}
    (hlead : (Nat.toDigits 10 n).head? = some '0') : n = 0 := by
  induction n using Nat.strongRecOn with
  | ind n ih =>
      by_cases hsmall : n < 10
      · have hdigits : ∀ value < 10, Nat.digitChar value = '0' → value = 0 := by decide
        rw [Nat.toDigits_of_lt_base hsmall] at hlead
        exact hdigits n hsmall (Option.some.inj hlead)
      · rw [Nat.toDigits_of_base_le (by decide) (Nat.not_lt.mp hsmall),
          List.head?_append, Option.or_of_isSome (by simp)] at hlead
        have hnone := ih (n / 10) (by omega) hlead
        omega

theorem isDecimal_of_mem_toDigits {n : Nat} {c : Char} (hdigit : c ∈ Nat.toDigits 10 n) :
    isDecimal c = true :=
  Nat.isDigit_of_mem_toDigits (by decide) (by decide) hdigit

/-- Digits without a leading zero are those of the number that they denote. -/
theorem toDigits_numeral {digits : List Char} (hdigits : ∀ c ∈ digits, isDecimal c = true)
    (hfull : digits ≠ []) (hlead : digits.head? ≠ some '0') :
    Nat.toDigits 10 (numeral 10 digits) = digits := by
  -- The last digit comes off first, since the number grows by units at that end.
  induction digits using List.reverseRecOn with
  | nil => exact absurd rfl hfull
  | append_singleton digits c ih =>
      obtain ⟨value, hvalue, rfl⟩ := exists_digitChar_of_isDecimal (hdigits c (by simp))
      rw [numeral_append_digitChar digits hvalue]
      by_cases hfirst : digits = []
      · rw [hfirst]
        exact (congrArg _ (Nat.zero_add value)).trans (Nat.toDigits_of_lt_base hvalue)
      · rw [List.head?_append, Option.or_of_isSome (by simpa using hfirst)] at hlead
        have hsame := ih (fun other hother => hdigits other (List.mem_append_left _ hother))
          hfirst hlead
        have hpos : 0 < numeral 10 digits := by
          rw [Nat.pos_iff_ne_zero]
          intro hzero
          rw [hzero] at hsame
          exact hlead (hsame ▸ rfl)
        rw [← Nat.toDigits_append_toDigits (by decide) hpos hvalue, hsame,
          Nat.toDigits_of_lt_base hvalue]

end Text

namespace Address4

/-- The fields of a literal are exactly the digits of the parts of an address. -/
theorem field?_eq_some_iff {text : List Char} {part : UInt8} :
    field? text = some part ↔ text = Nat.toDigits 10 part.toNat := by
  constructor
  · intro hfield
    unfold field? at hfield
    split at hfield
    · cases hfield
    · next hshape =>
      split at hfield
      · cases hfield
      · next hlead =>
        simp only [Option.ite_none_right_eq_some, Option.some.injEq] at hfield
        obtain ⟨hsmall, rfl⟩ := hfield
        simp only [Bool.or_eq_true, List.isEmpty_iff, Bool.not_eq_true', not_or,
          Bool.not_eq_false, List.all_eq_true] at hshape
        rw [UInt8.toNat_ofNat_of_lt' (Nat.lt_succ_of_le hsmall)]
        by_cases hzero : text = ['0']
        · subst hzero
          rfl
        · simp only [hzero, Bool.and_eq_true, beq_iff_eq, bne_iff_ne, ne_eq, not_false_eq_true,
            and_true] at hlead
          exact (Text.toDigits_numeral hshape.2 hshape.1.1 hlead).symm
  · rintro rfl
    have hpart : part.toNat < 256 := part.toNat_lt
    have hshape : ((Nat.toDigits 10 part.toNat).isEmpty ||
        decide (3 < (Nat.toDigits 10 part.toNat).length) ||
          !(Nat.toDigits 10 part.toNat).all Text.isDecimal) = false := by
      have hlength : (Nat.toDigits 10 part.toNat).length ≤ 3 :=
        (Nat.length_toDigits_le_iff (by decide) (by decide)).mpr (by omega)
      simpa [hlength] using fun c => Text.isDecimal_of_mem_toDigits
    have hlead : ((Nat.toDigits 10 part.toNat).head? == some '0' &&
        Nat.toDigits 10 part.toNat != ['0']) = false := by
      by_cases hzero : (Nat.toDigits 10 part.toNat).head? = some '0'
      · rw [Text.eq_zero_of_head?_toDigits hzero]
        rfl
      · simp [hzero]
    rw [field?, hshape, hlead, Text.numeral_toDigits]
    simp [Nat.le_of_lt_succ hpart]

theorem not_mem_toDigits (part : UInt8) : '.' ∉ Nat.toDigits 10 part.toNat := by
  intro hpoint
  exact absurd (Text.isDecimal_of_mem_toDigits hpoint) (by decide)

/-- The literals that denote an address are exactly its canonical text. -/
theorem ofLiteral?_eq_some_iff {text : List Char} {address : Address4} :
    ofLiteral? text = some address ↔ text = address.literal := by
  constructor
  · intro haddress
    unfold ofLiteral? at haddress
    split at haddress
    · next a b c d hsplit =>
      simp only [Option.bind_eq_bind, Option.bind_eq_some_iff, Option.some.injEq] at haddress
      obtain ⟨first, hfirst, second, hsecond, third, hthird, fourth, hfourth, rfl⟩ := haddress
      rw [field?_eq_some_iff] at hfirst hsecond hthird hfourth
      have hjoined : ['.'].intercalate (text.splitOn '.') = text :=
        List.intercalate_splitOn '.'
      rw [← hjoined, hsplit, hfirst, hsecond, hthird, hfourth]
      simp [List.intercalate, literal]
    · cases haddress
  · rintro rfl
    have hsplit : address.literal.splitOn '.' =
        [Nat.toDigits 10 address.a.toNat, Nat.toDigits 10 address.b.toNat,
          Nat.toDigits 10 address.c.toNat, Nat.toDigits 10 address.d.toNat] := by
      rw [literal, List.splitOn_append_cons_self_of_not_mem (not_mem_toDigits _),
        List.splitOn_append_cons_self_of_not_mem (not_mem_toDigits _),
        List.splitOn_append_cons_self_of_not_mem (not_mem_toDigits _),
        List.splitOn_eq_singleton (not_mem_toDigits _)]
    have hfield : ∀ part : UInt8, field? (Nat.toDigits 10 part.toNat) = some part :=
      fun part => field?_eq_some_iff.mpr rfl
    rw [ofLiteral?, hsplit]
    simp only [hfield, Option.bind_eq_bind, Option.bind_some]

/-- A text is the literal of an address. -/
def IsDenotedBy (address : Address4) (text : String) : Prop :=
  ofLiteral? text.toList = some address

theorem isDenotedBy_iff {address : Address4} {text : String} :
    address.IsDenotedBy text ↔ text = String.ofList address.literal := by
  rw [IsDenotedBy, ofLiteral?_eq_some_iff, ← String.toList_inj, String.toList_ofList]

/-- An address has one literal, and a literal denotes one address. -/
theorem IsDenotedBy.eq_iff {one other : Address4} {text text' : String}
    (hone : one.IsDenotedBy text) (hother : other.IsDenotedBy text') :
    one = other ↔ text = text' := by
  constructor
  · rintro rfl
    rw [isDenotedBy_iff.mp hone, isDenotedBy_iff.mp hother]
  · rintro rfl
    exact Option.some.inj (hone.symm.trans hother)

/-- Literals of addresses are taken for addresses. -/
theorem IsDenotedBy.isAddress {address : Address4} {text : String}
    (htext : address.IsDenotedBy text) : isAddress text = true := by
  have hslash : '/' ∉ text.toList := by
    rw [isDenotedBy_iff.mp htext, String.toList_ofList, literal]
    have hpart : ∀ part : UInt8, '/' ∉ Nat.toDigits 10 part.toNat :=
      fun part hslash => absurd (Text.isDecimal_of_mem_toDigits hslash) (by decide)
    simp [hpart]
  have hliteral : ofLiteral? text.toList = some address := htext
  simp [NodeTopology.isAddress, hslash, hliteral]

theorem toNat_lt (address : Address4) : address.toNat < 0x100000000 := by
  have ha := address.a.toNat_lt
  have hb := address.b.toNat_lt
  have hc := address.c.toNat_lt
  have hd := address.d.toNat_lt
  rw [toNat]
  omega

theorem toNat_inj {one other : Address4} : one.toNat = other.toNat ↔ one = other := by
  constructor
  · intro hnumber
    rcases one with ⟨a, b, c, d⟩
    rcases other with ⟨a', b', c', d'⟩
    have hb := b.toNat_lt
    have hb' := b'.toNat_lt
    have hc := c.toNat_lt
    have hc' := c'.toNat_lt
    have hd := d.toNat_lt
    have hd' := d'.toNat_lt
    simp only [toNat] at hnumber
    simp only [mk.injEq, ← UInt8.toNat_inj]
    omega
  · rintro rfl
    rfl

theorem exists_toNat_eq {number : Nat} (hnumber : number < 0x100000000) :
    ∃ address : Address4, address.toNat = number := by
  refine ⟨⟨UInt8.ofNat (number / 0x1000000), UInt8.ofNat (number / 0x10000),
    UInt8.ofNat (number / 0x100), UInt8.ofNat number⟩, ?_⟩
  simp only [toNat, UInt8.toNat_ofNat']
  omega

end Address4

/-- An instance is at the address of this number: its own address is a literal that denotes it. -/
def Instance.IsAt (number : Nat) (machine : Instance) : Prop :=
  ∃ address : Address4, address.IsDenotedBy machine.address ∧ address.toNat = number

theorem Instance.isAt_iff_any {number : Nat} {machine : Instance} :
    machine.IsAt number ↔
      (Address4.ofLiteral? machine.address.toList).any (·.toNat == number) = true := by
  simp only [IsAt, Address4.IsDenotedBy, Option.any_eq_true, beq_iff_eq]

instance (number : Nat) (machine : Instance) : Decidable (machine.IsAt number) :=
  decidable_of_iff _ Instance.isAt_iff_any.symm

/-- To compare a worker's literal with an instance's address as texts is to compare the numbers. -/
theorem Instance.isAt_iff {worker : String} {address : Address4}
    (hworker : address.IsDenotedBy worker) {machine : Instance} :
    machine.IsAt address.toNat ↔ machine.IsMachineOf worker := by
  have hanswers : machine.IsMachineOf worker ↔ machine.address = worker := by
    rw [← answersTo_iff, answersTo, if_pos hworker.isAddress, beq_iff_eq]
  rw [hanswers]
  constructor
  · rintro ⟨other, hother, hnumber⟩
    exact (hother.eq_iff hworker).mp (Address4.toNat_inj.mp hnumber)
  · intro hsame
    exact ⟨address, hsame ▸ hworker, rfl⟩

namespace Resolver

/-- The first instance on a list at the address of this number. -/
def IsFirstAt (number : Nat) (machines : List Instance) (machine : Instance) : Prop :=
  machine.IsAt number ∧ ∃ before after, machines = before ++ machine :: after ∧
    ∀ other ∈ before, ¬other.IsAt number

section Search

variable {worker : String} {address : Address4} (hworker : address.IsDenotedBy worker)
  {machines : List Instance}
include hworker

theorem isFirstAt_iff {machine : Instance} :
    IsFirstAt address.toNat machines machine ↔ IsFirst worker machines machine := by
  simp only [IsFirstAt, IsFirst, Instance.isAt_iff hworker]

/-- The search on a list finds nobody exactly if nobody is at the worker's number: an instance that
is there without a region fails in another way. -/
theorem chosen_eq_workerNotFound_iff :
    chosen worker machines = .error (.lookup (.workerNotFound (some worker))) ↔
      ∀ machine ∈ machines, ¬machine.IsAt address.toNat := by
  simp only [Instance.isAt_iff hworker]
  constructor
  · intro hnobody machine hmachine hits
    have hdecides := decides_chosen worker machines
    rw [hnobody] at hdecides
    cases hdecides with
    | nobody hnone => exact hnone machine hmachine hits
  · intro hnone
    exact (Decides.nobody hnone).eq_chosen.symm

end Search

theorem result_ofList_of_ne_nil {machines : List Instance} (hfull : machines ≠ [])
    (outside : Outside) : ((ofList machines).list none outside).result = .ok machines := by
  have hall : machines.filter (passes none) = machines :=
    List.filter_eq_self.mpr fun _ _ => rfl
  rw [result_ofList, hall, orNone, if_neg (by simpa using hfull)]
  rfl

/-- Literals are matched as texts, and that is to match them as addresses.  Two literals of version
4 are the same text exactly if they denote the same number, and the canonical text of every number
of 32 bits is taken for an address.  So the search for a worker whose name is such a literal ends
with the first instance listed at the same number, whatever is written in the addresses of the
others, and finds nobody exactly if nobody is there; and a fixed list with something on it is
listed. -/
theorem literals_match_as_addresses :
    (∀ {one other : Address4} {text text' : String}, one.IsDenotedBy text →
      other.IsDenotedBy text' →
      (one.toNat = other.toNat ↔ text = text') ∧ isAddress text = true) ∧
    (∀ number < 0x100000000, ∃ address : Address4, address.toNat = number ∧
      address.IsDenotedBy (String.ofList address.literal) ∧
      isAddress (String.ofList address.literal) = true) ∧
    (∀ {resolver : Resolver} {worker : String} {address : Address4} {outside : Outside}
      {machines : List Instance}, address.IsDenotedBy worker →
      (resolver.list none outside).result = .ok machines →
      let run := resolver.placementOf (some worker) outside
      (∀ machine, IsFirstAt address.toNat machines machine →
        run.result = (placement machine).mapError .lookup) ∧
      (run.result = .error (.lookup (.workerNotFound (some worker))) ↔
        ∀ machine ∈ machines, ¬machine.IsAt address.toNat)) ∧
    ∀ {machines : List Instance}, machines ≠ [] → ∀ outside : Outside,
      ((ofList machines).list none outside).result = .ok machines := by
  refine ⟨?_, ?_, ?_, fun hfull => result_ofList_of_ne_nil hfull⟩
  · intro one other text text' hone hother
    exact ⟨Address4.toNat_inj.trans (hone.eq_iff hother), hone.isAddress⟩
  · intro number hnumber
    obtain ⟨address, haddress⟩ := Address4.exists_toNat_eq hnumber
    have hliteral : address.IsDenotedBy (String.ofList address.literal) :=
      Address4.isDenotedBy_iff.mpr rfl
    exact ⟨address, haddress, hliteral, hliteral.isAddress⟩
  · intro resolver worker address outside machines hworker hlisted
    obtain ⟨opening, lines, hrun⟩ := resolver.placementOf_apply worker outside
    have hasked : askedFor worker = none := if_pos hworker.isAddress
    have hresult : (resolver.placementOf (some worker) outside).result =
        chosen worker machines := by
      rw [hrun, hasked, hlisted]
      rfl
    dsimp only
    rw [hresult]
    refine ⟨?_, chosen_eq_workerNotFound_iff hworker⟩
    intro machine hfirst
    exact chosen_of_isFirst ((isFirstAt_iff hworker).mp hfirst)

/-- The second of three instances is found, and at another number nobody. -/
theorem worker_is_found_at_its_number :
    let machines : List Instance := [⟨"a", "", "", none, some ⟨"", "", "10.0.0.12"⟩⟩,
      ⟨"b", "", "", some ⟨"us-south-1", ""⟩, some ⟨"", "", "10.0.0.1"⟩⟩,
      ⟨"c", "", "", none, some ⟨"", "", "10.0.0.1"⟩⟩]
    let outside : Outside := ⟨⟨.error (.system ""), []⟩, ⟨.ok none, []⟩, ⟨.kept, []⟩⟩
    ((ofList machines).placementOf (some "10.0.0.1") outside).result =
        .ok ⟨"b", "us-south", "us-south-1"⟩ ∧
      ((ofList machines).placementOf (some "10.0.0.2") outside).result =
        .error (.lookup (.workerNotFound (some "10.0.0.2"))) := by
  intro machines outside
  obtain ⟨_, _, hsearch, hlists⟩ := literals_match_as_addresses
  have hlisted := hlists (by simp [machines] : machines ≠ []) outside
  have hfound : Address4.IsDenotedBy ⟨10, 0, 0, 1⟩ "10.0.0.1" := by
    rw [Address4.IsDenotedBy]
    decide +kernel
  have hmissed : Address4.IsDenotedBy ⟨10, 0, 0, 2⟩ "10.0.0.2" := by
    rw [Address4.IsDenotedBy]
    decide +kernel
  refine ⟨?_, ?_⟩
  · rw [(hsearch hfound hlisted).1 ⟨"b", "", "", some ⟨"us-south-1", ""⟩, some ⟨"", "", "10.0.0.1"⟩⟩
      ⟨by decide +kernel, [machines[0]], [machines[2]], rfl, by decide +kernel⟩]
    have hregion : Region.ofZone? "us-south-1" = some "us-south" := by decide
    rw [placement]
    dsimp only [Instance.zoneName]
    rw [hregion]
    rfl
  · exact (hsearch hmissed hlisted).2.mpr (by decide +kernel)

end Resolver

end NodeTopology
