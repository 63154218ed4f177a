import Mathlib.Data.List.Forall2
import NodeTopology.Proofs.RecordFields
import NodeTopology.Proofs.RunPairs
/-!
Grammars of payloads.  A grammar says of what kind a value is and, of a table, which fields are
looked at; a field may always be left out or be null.  Main statements: a field can be read exactly
if its grammar admits what it holds, and fields that are the same to the grammar read the same.
-/

namespace NodeTopology

/-- What may stand in a payload, as far as its reader looks: of a table it looks at some fields. -/
inductive Grammar where
  | text
  | integer
  | listOf (item : Grammar)
  | record (fields : List (String × Grammar))

namespace Grammar

/-- The values of a grammar.  A field may be left out or null, and what else a table holds is
free. -/
inductive Admits : Grammar → Value → Prop
  | text (s : String) : Admits .text (.text s)
  | integer (n : Int) : Admits .integer (.int n)
  | list {item : Grammar} {items : List Value} (hitems : ∀ value ∈ items, Admits item value) :
      Admits (.listOf item) (.list items)
  | table {fields : List (String × Grammar)} {entries : Entries Value}
      (hfields : ∀ field ∈ fields, ∀ value, entries.get? field.1 = some value → value ≠ .null →
        Admits field.2 value) :
      Admits (.record fields) (.table entries)

/-- What a field may hold: nothing, null or a value of its grammar. -/
def AdmitsField (entries : Entries Value) (field : String × Grammar) : Prop :=
  ∀ value, entries.get? field.1 = some value → value ≠ .null → field.2.Admits value

/-- Two values that differ in nothing a grammar names.  A field that is left out is the same as one
that is null. -/
inductive Same : Grammar → Value → Value → Prop
  | refl (grammar : Grammar) (value : Value) : Same grammar value value
  | list {item : Grammar} {items others : List Value} (hlength : items.length = others.length)
      (hitems : ∀ pair ∈ items.zip others, Same item pair.1 pair.2) :
      Same (.listOf item) (.list items) (.list others)
  | table {fields : List (String × Grammar)} {entries others : Entries Value}
      (hfields : ∀ field ∈ fields,
        Same field.2 (Value.field entries field.1) (Value.field others field.1)) :
      Same (.record fields) (.table entries) (.table others)

section Admitted

variable {value : Value} {item : Grammar} {fields : List (String × Grammar)}

theorem admits_text_iff : text.Admits value ↔ ∃ s, value = .text s := by
  constructor
  · intro hadmits
    cases hadmits with
    | text s => exact ⟨s, rfl⟩
  · rintro ⟨s, rfl⟩
    exact .text s

theorem admits_integer_iff : integer.Admits value ↔ ∃ n, value = .int n := by
  constructor
  · intro hadmits
    cases hadmits with
    | integer n => exact ⟨n, rfl⟩
  · rintro ⟨n, rfl⟩
    exact .integer n

theorem admits_listOf_iff :
    (listOf item).Admits value ↔ ∃ items, value = .list items ∧ ∀ v ∈ items, item.Admits v := by
  constructor
  · intro hadmits
    cases hadmits with
    | list hitems => exact ⟨_, rfl, hitems⟩
  · rintro ⟨items, rfl, hitems⟩
    exact .list hitems

theorem admits_record_iff :
    (record fields).Admits value ↔
      ∃ entries, value = .table entries ∧ ∀ field ∈ fields, AdmitsField entries field := by
  constructor
  · intro hadmits
    cases hadmits with
    | table hfields => exact ⟨_, rfl, hfields⟩
  · rintro ⟨entries, rfl, hfields⟩
    exact .table hfields

theorem admitsField_iff {entries : Entries Value} {key : String} :
    AdmitsField entries (key, item) ↔
      entries.get? key = none ∨ entries.get? key = some .null ∨
        ∃ value, entries.get? key = some value ∧ item.Admits value := by
  rw [AdmitsField]
  constructor
  · intro hfield
    cases hkey : entries.get? key with
    | none => exact .inl rfl
    | some value =>
        by_cases hnull : value = .null
        · exact .inr (.inl (congrArg some hnull))
        · exact .inr (.inr ⟨value, rfl, hfield value hkey hnull⟩)
  · rintro (habsent | hnull | ⟨given, hgiven, hadmits⟩) value hvalue hfull
    · simp [habsent] at hvalue
    · simp only [hnull, Option.some.injEq] at hvalue
      exact absurd hvalue.symm hfull
    · rw [hgiven, Option.some.injEq] at hvalue
      exact hvalue ▸ hadmits

end Admitted

section Edits

variable {entries : Entries Value} {fields : List (String × Grammar)} {key : String}

/-- Tables are the same if they hold the same under every key that the grammar names. -/
theorem same_of_fields {others : Entries Value}
    (hfields : ∀ field ∈ fields, Value.field entries field.1 = Value.field others field.1) :
    (record fields).Same (.table entries) (.table others) := by
  apply Same.table
  intro field hfield
  rw [hfields field hfield]
  exact .refl _ _

/-- A key that the grammar does not name may be added or changed. -/
theorem same_put_of_unnamed (hunnamed : key ∉ fields.map Prod.fst) (value : Value) :
    (record fields).Same (.table entries) (.table (entries.put key value)) := by
  apply same_of_fields
  intro field hfield
  have hother : field.1 ≠ key := by
    rintro rfl
    exact hunnamed (List.mem_map_of_mem hfield)
  rw [Value.field, Value.field, Entries.get?_put, if_neg hother]

/-- A key that is left out may be given as null. -/
theorem same_put_null (habsent : entries.get? key = none) :
    (record fields).Same (.table entries) (.table (entries.put key .null)) := by
  apply same_of_fields
  intro field _
  rw [Value.field, Value.field, Entries.get?_put]
  split
  · next hkey => rw [hkey, habsent]; rfl
  · rfl

end Edits

end Grammar

/-- What a field holds that is read as a record: none if it is left out or null, and otherwise the
record of its table. -/
inductive OptionalRecord {α : Type} (entries : Entries Value) (key : String)
    (IsRecord : Entries Value → α → Prop) : Option α → Prop
  | absent (habsent : entries.get? key = none) : OptionalRecord entries key IsRecord none
  | null (hnull : entries.get? key = some .null) : OptionalRecord entries key IsRecord none
  | given {fields : Entries Value} {record : α} (hgiven : entries.get? key = some (.table fields))
      (hrecord : IsRecord fields record) : OptionalRecord entries key IsRecord (some record)

section Fields

variable {α : Type} {entries others : Entries Value} {key : String} {grammar : Grammar}
  {IsRecord : Entries Value → α → Prop} {read : Value → Except ShapeFault α}

theorem listField_eq_ok_iff {items : List Value} :
    Value.listField entries key = .ok items ↔ OptionalField entries key .list [] items := by
  rw [optionalField_iff (by simp), Value.listField]
  cases Value.field entries key <;> simp

theorem recordField_eq_ok_iff
    (hread : ∀ {value record}, read value = .ok record ↔
      ∃ fields, value = .table fields ∧ IsRecord fields record)
    {found : Option α} :
    Value.recordField read entries key = .ok found ↔
      OptionalRecord entries key IsRecord found := by
  rw [Value.recordField, Value.field]
  constructor
  · cases hkey : entries.get? key with
    | none =>
        intro hfound
        cases hfound
        exact .absent hkey
    | some value =>
        by_cases hnull : value = .null
        · subst hnull
          intro hfound
          cases hfound
          exact .null hkey
        · intro hfound
          have hmap : (read value).map some = .ok found := by
            simpa [hnull] using hfound
          cases hvalue : read value with
          | error => rw [hvalue] at hmap; cases hmap
          | ok record =>
              rw [hvalue] at hmap
              cases hmap
              obtain ⟨fields, rfl, hrecord⟩ := hread.mp hvalue
              exact .given hkey hrecord
  · rintro (habsent | hnull | ⟨hgiven, hrecord⟩)
    · rw [habsent]
      rfl
    · rw [hnull]
      rfl
    · rw [hgiven]
      simp [hread.mpr ⟨_, rfl, hrecord⟩, Except.map]

/-- A field of one kind can be read exactly if it holds nothing, null or a value of that kind. -/
theorem exists_optionalField_iff {kind : α → Value} {nothing : α}
    (hkind : ∀ {value}, grammar.Admits value ↔ ∃ a, value = kind a) :
    (∃ a, OptionalField entries key kind nothing a) ↔
      Grammar.AdmitsField entries (key, grammar) := by
  rw [Grammar.admitsField_iff]
  constructor
  · rintro ⟨a, habsent | hnull | hgiven⟩
    · exact .inl habsent
    · exact .inr (.inl hnull)
    · exact .inr (.inr ⟨kind a, hgiven, hkind.mpr ⟨a, rfl⟩⟩)
  · rintro (habsent | hnull | ⟨value, hgiven, hadmits⟩)
    · exact ⟨nothing, .absent habsent⟩
    · exact ⟨nothing, .null hnull⟩
    · obtain ⟨a, rfl⟩ := hkind.mp hadmits
      exact ⟨a, .given hgiven⟩

theorem exists_textField_iff :
    (∃ text, OptionalField entries key .text "" text) ↔ Grammar.AdmitsField entries (key, .text) :=
  exists_optionalField_iff Grammar.admits_text_iff

theorem exists_intField_iff :
    (∃ number, OptionalField entries key .int 0 number) ↔
      Grammar.AdmitsField entries (key, .integer) :=
  exists_optionalField_iff Grammar.admits_integer_iff

/-- A list field can be read item by item exactly if it holds nothing, null or a list of its
grammar. -/
theorem exists_listField_iff :
    (∃ items, OptionalField entries key .list [] items ∧ ∀ item ∈ items, grammar.Admits item) ↔
      Grammar.AdmitsField entries (key, .listOf grammar) := by
  rw [Grammar.admitsField_iff]
  constructor
  · rintro ⟨items, habsent | hnull | hgiven, hitems⟩
    · exact .inl habsent
    · exact .inr (.inl hnull)
    · exact .inr (.inr ⟨_, hgiven, .list hitems⟩)
  · rintro (habsent | hnull | ⟨value, hgiven, hadmits⟩)
    · exact ⟨[], .absent habsent, by simp⟩
    · exact ⟨[], .null hnull, by simp⟩
    · obtain ⟨items, rfl, hitems⟩ := Grammar.admits_listOf_iff.mp hadmits
      exact ⟨items, .given hgiven, hitems⟩

/-- A field with a record can be read exactly if it holds nothing, null or a value of the record's
grammar. -/
theorem exists_optionalRecord_iff
    (hgrammar : ∀ {value}, grammar.Admits value ↔
      ∃ fields, value = .table fields ∧ ∃ record, IsRecord fields record) :
    (∃ found, OptionalRecord entries key IsRecord found) ↔
      Grammar.AdmitsField entries (key, grammar) := by
  rw [Grammar.admitsField_iff]
  constructor
  · rintro ⟨found, habsent | hnull | ⟨hgiven, hrecord⟩⟩
    · exact .inl habsent
    · exact .inr (.inl hnull)
    · exact .inr (.inr ⟨_, hgiven, hgrammar.mpr ⟨_, rfl, _, hrecord⟩⟩)
  · rintro (habsent | hnull | ⟨value, hgiven, hadmits⟩)
    · exact ⟨none, .absent habsent⟩
    · exact ⟨none, .null hnull⟩
    · obtain ⟨fields, rfl, record, hrecord⟩ := hgrammar.mp hadmits
      exact ⟨some record, .given hgiven hrecord⟩

theorem textField_of_same
    (hsame : Grammar.text.Same (Value.field entries key) (Value.field others key)) :
    Value.textField entries key = Value.textField others key := by
  rw [Value.textField, Value.textField]
  generalize Value.field entries key = value at hsame
  generalize Value.field others key = other at hsame
  cases hsame
  rfl

theorem intField_of_same
    (hsame : Grammar.integer.Same (Value.field entries key) (Value.field others key)) :
    Value.intField entries key = Value.intField others key := by
  rw [Value.intField, Value.intField]
  generalize Value.field entries key = value at hsame
  generalize Value.field others key = other at hsame
  cases hsame
  rfl

theorem listField_of_same
    (hsame : (Grammar.listOf grammar).Same (Value.field entries key) (Value.field others key)) :
    Agree (List.Forall₂ grammar.Same) (Value.listField entries key)
      (Value.listField others key) := by
  rw [Value.listField, Value.listField]
  generalize Value.field entries key = value at hsame
  generalize Value.field others key = other at hsame
  have hrefl (items : List Value) : List.Forall₂ grammar.Same items items :=
    List.forall₂_same.mpr fun item _ => .refl grammar item
  cases hsame with
  | refl => split <;> first | exact .ok (hrefl _) | exact .error _
  | list hlength hitems =>
      exact .ok (List.forall₂_iff_zip.mpr ⟨hlength, fun hpair => hitems _ hpair⟩)

theorem recordField_of_same
    (hread : ∀ {value other}, grammar.Same value other → read value = read other)
    (hsame : grammar.Same (Value.field entries key) (Value.field others key)) :
    Value.recordField read entries key = Value.recordField read others key := by
  rw [Value.recordField, Value.recordField]
  generalize Value.field entries key = value at hsame
  generalize Value.field others key = other at hsame
  cases hsame with
  | refl => rfl
  | list hlength hitems => exact congrArg (Except.map some) (hread (.list hlength hitems))
  | table hfields => exact congrArg (Except.map some) (hread (.table hfields))

end Fields

section Items

variable {α β ε : Type} {f : α → Except ε β}

/-- A list is read item by item: the results stand in the order of the items. -/
theorem mapM_eq_ok_iff {items : List α} {results : List β} :
    items.mapM f = .ok results ↔
      List.Forall₂ (fun item result => f item = .ok result) items results := by
  induction items generalizing results with
  | nil => simp [pure, Except.pure, eq_comm]
  | cons item items ih =>
      simp only [List.mapM_cons, except_bind_eq_ok_iff, ih, List.forall₂_cons_left_iff]
      constructor
      · rintro ⟨result, hresult, others, hothers, hends⟩
        cases hends
        exact ⟨result, others, hresult, hothers, rfl⟩
      · rintro ⟨result, others, hresult, hothers, rfl⟩
        exact ⟨result, hresult, others, hothers, rfl⟩

theorem exists_forall₂_iff {R : α → β → Prop} {items : List α} :
    (∃ results, List.Forall₂ R items results) ↔ ∀ item ∈ items, ∃ result, R item result := by
  induction items with
  | nil => simp
  | cons item items ih =>
      rw [List.forall_mem_cons, ← ih]
      constructor
      · rintro ⟨_, _ | ⟨hresult, hresults⟩⟩
        exact ⟨⟨_, hresult⟩, _, hresults⟩
      · rintro ⟨⟨result, hresult⟩, results, hresults⟩
        exact ⟨result :: results, .cons hresult hresults⟩

theorem mapM_congr {items others : List α}
    (hitems : List.Forall₂ (fun item other => f item = f other) items others) :
    items.mapM f = others.mapM f := by
  induction hitems with
  | nil => rfl
  | cons hhead _ ih => rw [List.mapM_cons, List.mapM_cons, hhead, ih]

end Items

end NodeTopology
