import NodeTopology.Instance
import NodeTopology.Proofs.RecordGrammar
/-!
What the reader of a page of machines accepts, and what it makes of it.  Main statement: exactly the
values of the grammar read as a page, every other value is refused, the page holds what the fields
hold, and values that differ in nothing the grammar names read as the same page.
-/

namespace NodeTopology

structure IsZoneRecord (entries : Entries Value) (zone : Zone) : Prop where
  name : OptionalField entries "name" .text "" zone.name
  href : OptionalField entries "href" .text "" zone.href

structure IsInterfaceRecord (entries : Entries Value) (interface : NetworkInterface) : Prop where
  id : OptionalField entries "id" .text "" interface.id
  name : OptionalField entries "name" .text "" interface.name
  primaryAddress : OptionalField entries "primary_ipv4_address" .text "" interface.primaryAddress

structure IsInstanceRecord (entries : Entries Value) (machine : Instance) : Prop where
  id : OptionalField entries "id" .text "" machine.id
  name : OptionalField entries "name" .text "" machine.name
  status : OptionalField entries "status" .text "" machine.status
  zone : OptionalRecord entries "zone" IsZoneRecord machine.zone
  interface :
    OptionalRecord entries "primary_network_interface" IsInterfaceRecord machine.interface

/-- Where a reference leads: nowhere if it has no address or an empty one. -/
inductive IsReference (entries : Entries Value) : Option String → Prop
  | nowhere (hempty : OptionalField entries "href" .text "" "") : IsReference entries none
  | onward {href : String} (hfull : href ≠ "")
      (hgiven : entries.get? "href" = some (.text href)) : IsReference entries (some href)

def IsMachineItem (item : Value) (machine : Instance) : Prop :=
  ∃ entries, item = .table entries ∧ IsInstanceRecord entries machine

/-- A table is the record of a page.  The machines stand in the order of the items. -/
structure IsPageRecord (entries : Entries Value) (page : Page) : Prop where
  instances : ∃ items, OptionalField entries "instances" .list [] items ∧
    List.Forall₂ IsMachineItem items page.instances
  totalCount : OptionalField entries "total_count" .int 0 page.totalCount
  limit : OptionalField entries "limit" .int 0 page.limit
  next : ∃ found, OptionalRecord entries "next" IsReference found ∧ page.next = found.join

section Records

variable {value other : Value}

namespace Zone

/-- What is looked at of a zone. -/
def grammar : Grammar := .record [("name", .text), ("href", .text)]

theorem ofValue_eq_ok_iff {zone : Zone} :
    ofValue value = .ok zone ↔ ∃ entries, value = .table entries ∧ IsZoneRecord entries zone := by
  unfold ofValue
  constructor
  · intro hread
    obtain ⟨entries, hentries, hread⟩ := exists_of_except_bind hread
    obtain ⟨name, hname, hread⟩ := exists_of_except_bind hread
    obtain ⟨href, hhref, hread⟩ := exists_of_except_bind hread
    cases hread
    exact ⟨entries, eq_table_of_asObject hentries, textField_eq_ok_iff.mp hname,
      textField_eq_ok_iff.mp hhref⟩
  · rintro ⟨entries, rfl, hrecord⟩
    simp [Value.asObject, except_bind_eq_ok_iff, textField_eq_ok_iff.mpr hrecord.name,
      textField_eq_ok_iff.mpr hrecord.href, Functor.map, Except.map]

/-- Exactly the values of the grammar are records of zones. -/
theorem admits_grammar_iff :
    grammar.Admits value ↔
      ∃ entries, value = .table entries ∧ ∃ zone, IsZoneRecord entries zone := by
  simp only [grammar, Grammar.admits_record_iff, List.forall_mem_cons, ← exists_textField_iff]
  refine exists_congr fun entries => and_congr_right' ?_
  constructor
  · rintro ⟨⟨name, hname⟩, ⟨href, hhref⟩, -⟩
    exact ⟨⟨name, href⟩, hname, hhref⟩
  · rintro ⟨zone, hrecord⟩
    exact ⟨⟨_, hrecord.name⟩, ⟨_, hrecord.href⟩, by simp⟩

theorem ofValue_of_same (hsame : grammar.Same value other) : ofValue value = ofValue other := by
  cases hsame with
  | refl => rfl
  | table hfields =>
      have hname := textField_of_same (hfields ("name", .text) (by simp))
      have hhref := textField_of_same (hfields ("href", .text) (by simp))
      dsimp only [ofValue, Value.asObject, bind, Except.bind]
      rw [hname, hhref]

end Zone

namespace NetworkInterface

/-- What is looked at of a network interface. -/
def grammar : Grammar :=
  .record [("id", .text), ("name", .text), ("primary_ipv4_address", .text)]

theorem ofValue_eq_ok_iff {interface : NetworkInterface} :
    ofValue value = .ok interface ↔
      ∃ entries, value = .table entries ∧ IsInterfaceRecord entries interface := by
  unfold ofValue
  constructor
  · intro hread
    obtain ⟨entries, hentries, hread⟩ := exists_of_except_bind hread
    obtain ⟨id, hid, hread⟩ := exists_of_except_bind hread
    obtain ⟨name, hname, hread⟩ := exists_of_except_bind hread
    obtain ⟨address, haddress, hread⟩ := exists_of_except_bind hread
    cases hread
    exact ⟨entries, eq_table_of_asObject hentries, textField_eq_ok_iff.mp hid,
      textField_eq_ok_iff.mp hname, textField_eq_ok_iff.mp haddress⟩
  · rintro ⟨entries, rfl, hrecord⟩
    simp [Value.asObject, except_bind_eq_ok_iff, textField_eq_ok_iff.mpr hrecord.id,
      textField_eq_ok_iff.mpr hrecord.name, textField_eq_ok_iff.mpr hrecord.primaryAddress,
      Functor.map, Except.map]

/-- Exactly the values of the grammar are records of network interfaces. -/
theorem admits_grammar_iff :
    grammar.Admits value ↔
      ∃ entries, value = .table entries ∧ ∃ interface, IsInterfaceRecord entries interface := by
  simp only [grammar, Grammar.admits_record_iff, List.forall_mem_cons, ← exists_textField_iff]
  refine exists_congr fun entries => and_congr_right' ?_
  constructor
  · rintro ⟨⟨id, hid⟩, ⟨name, hname⟩, ⟨address, haddress⟩, -⟩
    exact ⟨⟨id, name, address⟩, hid, hname, haddress⟩
  · rintro ⟨interface, hrecord⟩
    exact ⟨⟨_, hrecord.id⟩, ⟨_, hrecord.name⟩, ⟨_, hrecord.primaryAddress⟩, by simp⟩

theorem ofValue_of_same (hsame : grammar.Same value other) : ofValue value = ofValue other := by
  cases hsame with
  | refl => rfl
  | table hfields =>
      have hid := textField_of_same (hfields ("id", .text) (by simp))
      have hname := textField_of_same (hfields ("name", .text) (by simp))
      have haddress := textField_of_same (hfields ("primary_ipv4_address", .text) (by simp))
      dsimp only [ofValue, Value.asObject, bind, Except.bind]
      rw [hid, hname, haddress]

end NetworkInterface

namespace Instance

/-- What is looked at of a machine. -/
def grammar : Grammar :=
  .record [("id", .text), ("name", .text), ("status", .text), ("zone", Zone.grammar),
    ("primary_network_interface", NetworkInterface.grammar)]

theorem ofValue_eq_ok_iff {machine : Instance} :
    ofValue value = .ok machine ↔ IsMachineItem value machine := by
  unfold ofValue
  constructor
  · intro hread
    obtain ⟨entries, hentries, hread⟩ := exists_of_except_bind hread
    obtain ⟨id, hid, hread⟩ := exists_of_except_bind hread
    obtain ⟨name, hname, hread⟩ := exists_of_except_bind hread
    obtain ⟨status, hstatus, hread⟩ := exists_of_except_bind hread
    obtain ⟨zone, hzone, hread⟩ := exists_of_except_bind hread
    obtain ⟨interface, hinterface, hread⟩ := exists_of_except_bind hread
    cases hread
    exact ⟨entries, eq_table_of_asObject hentries, textField_eq_ok_iff.mp hid,
      textField_eq_ok_iff.mp hname, textField_eq_ok_iff.mp hstatus,
      (recordField_eq_ok_iff Zone.ofValue_eq_ok_iff).mp hzone,
      (recordField_eq_ok_iff NetworkInterface.ofValue_eq_ok_iff).mp hinterface⟩
  · rintro ⟨entries, rfl, hrecord⟩
    have hzone := (recordField_eq_ok_iff Zone.ofValue_eq_ok_iff).mpr hrecord.zone
    have hinterface :=
      (recordField_eq_ok_iff NetworkInterface.ofValue_eq_ok_iff).mpr hrecord.interface
    simp [Value.asObject, except_bind_eq_ok_iff, textField_eq_ok_iff.mpr hrecord.id,
      textField_eq_ok_iff.mpr hrecord.name, textField_eq_ok_iff.mpr hrecord.status, hzone,
      hinterface, Functor.map, Except.map]

/-- Exactly the values of the grammar are records of machines. -/
theorem admits_grammar_iff : grammar.Admits value ↔ ∃ machine, IsMachineItem value machine := by
  simp only [grammar, Grammar.admits_record_iff, List.forall_mem_cons, ← exists_textField_iff,
    ← exists_optionalRecord_iff Zone.admits_grammar_iff,
    ← exists_optionalRecord_iff NetworkInterface.admits_grammar_iff]
  constructor
  · rintro ⟨entries, rfl, ⟨id, hid⟩, ⟨name, hname⟩, ⟨status, hstatus⟩, ⟨zone, hzone⟩,
      ⟨interface, hinterface⟩, -⟩
    exact ⟨⟨id, name, status, zone, interface⟩, entries, rfl, hid, hname, hstatus, hzone,
      hinterface⟩
  · rintro ⟨machine, entries, rfl, hrecord⟩
    exact ⟨entries, rfl, ⟨_, hrecord.id⟩, ⟨_, hrecord.name⟩, ⟨_, hrecord.status⟩,
      ⟨_, hrecord.zone⟩, ⟨_, hrecord.interface⟩, by simp⟩

theorem ofValue_of_same (hsame : grammar.Same value other) : ofValue value = ofValue other := by
  cases hsame with
  | refl => rfl
  | table hfields =>
      have hid := textField_of_same (hfields ("id", .text) (by simp))
      have hname := textField_of_same (hfields ("name", .text) (by simp))
      have hstatus := textField_of_same (hfields ("status", .text) (by simp))
      have hzone := recordField_of_same Zone.ofValue_of_same
        (hfields ("zone", Zone.grammar) (by simp))
      have hinterface := recordField_of_same NetworkInterface.ofValue_of_same
        (hfields ("primary_network_interface", NetworkInterface.grammar) (by simp))
      dsimp only [ofValue, Value.asObject, bind, Except.bind]
      rw [hid, hname, hstatus, hzone, hinterface]

end Instance

namespace Page

/-- What is looked at of a reference to the next page. -/
def referenceGrammar : Grammar := .record [("href", .text)]

theorem nextOfValue_eq_ok_iff {next : Option String} :
    nextOfValue value = .ok next ↔
      ∃ entries, value = .table entries ∧ IsReference entries next := by
  unfold nextOfValue
  constructor
  · intro hread
    obtain ⟨entries, hentries, hread⟩ := exists_of_except_bind hread
    obtain ⟨href, hhref, hread⟩ := exists_of_except_bind hread
    refine ⟨entries, eq_table_of_asObject hentries, ?_⟩
    by_cases hempty : href = ""
    · subst hempty
      cases hread
      exact .nowhere (textField_eq_ok_iff.mp hhref)
    · rw [if_neg (by simpa using hempty)] at hread
      cases hread
      exact .onward hempty ((textField_eq_ok_iff_of_ne_empty hempty).mp hhref)
  · rintro ⟨entries, rfl, hempty | ⟨hfull, hgiven⟩⟩
    · simp [Value.asObject, except_bind_eq_ok_iff, textField_eq_ok_iff.mpr hempty, pure,
        Except.pure]
    · simp [Value.asObject, except_bind_eq_ok_iff,
        (textField_eq_ok_iff_of_ne_empty hfull).mpr hgiven, hfull, pure, Except.pure]

/-- Exactly the values of the grammar are references. -/
theorem admits_referenceGrammar_iff :
    referenceGrammar.Admits value ↔
      ∃ entries, value = .table entries ∧ ∃ next, IsReference entries next := by
  simp only [referenceGrammar, Grammar.admits_record_iff, List.forall_mem_singleton,
    ← exists_textField_iff]
  refine exists_congr fun entries => and_congr_right' ?_
  constructor
  · rintro ⟨href, hhref⟩
    by_cases hempty : href = ""
    · exact ⟨none, .nowhere (hempty ▸ hhref)⟩
    · exact ⟨some href, .onward hempty
        ((textField_eq_ok_iff_of_ne_empty hempty).mp (textField_eq_ok_iff.mpr hhref))⟩
  · rintro ⟨next, hempty | ⟨_, hgiven⟩⟩
    · exact ⟨"", hempty⟩
    · exact ⟨_, .given hgiven⟩

theorem nextOfValue_of_same (hsame : referenceGrammar.Same value other) :
    nextOfValue value = nextOfValue other := by
  cases hsame with
  | refl => rfl
  | table hfields =>
      have hhref := textField_of_same (hfields ("href", .text) (by simp))
      dsimp only [nextOfValue, Value.asObject, bind, Except.bind]
      rw [hhref]

/-- What is looked at of a page. -/
def grammar : Grammar :=
  .record [("instances", .listOf Instance.grammar), ("total_count", .integer), ("limit", .integer),
    ("next", referenceGrammar)]

theorem ofValue_eq_ok_iff {page : Page} :
    ofValue value = .ok page ↔ ∃ entries, value = .table entries ∧ IsPageRecord entries page := by
  unfold ofValue
  constructor
  · intro hread
    obtain ⟨entries, hentries, hread⟩ := exists_of_except_bind hread
    obtain ⟨items, hitems, hread⟩ := exists_of_except_bind hread
    obtain ⟨machines, hmachines, hread⟩ := exists_of_except_bind hread
    obtain ⟨totalCount, hcount, hread⟩ := exists_of_except_bind hread
    obtain ⟨limit, hlimit, hread⟩ := exists_of_except_bind hread
    obtain ⟨found, hfound, hread⟩ := exists_of_except_bind hread
    cases hread
    simp only [mapM_eq_ok_iff, Instance.ofValue_eq_ok_iff] at hmachines
    exact ⟨entries, eq_table_of_asObject hentries,
      ⟨items, listField_eq_ok_iff.mp hitems, hmachines⟩,
      intField_eq_ok_iff.mp hcount, intField_eq_ok_iff.mp hlimit,
      ⟨found, (recordField_eq_ok_iff nextOfValue_eq_ok_iff).mp hfound, rfl⟩⟩
  · rintro ⟨entries, rfl, ⟨items, hitems, hmachines⟩, hcount, hlimit, ⟨found, hfound, hnext⟩⟩
    have hread : items.mapM Instance.ofValue = .ok page.instances := by
      simpa only [mapM_eq_ok_iff, Instance.ofValue_eq_ok_iff] using hmachines
    have hreference := (recordField_eq_ok_iff nextOfValue_eq_ok_iff).mpr hfound
    simp [Value.asObject, except_bind_eq_ok_iff, listField_eq_ok_iff.mpr hitems, hread,
      intField_eq_ok_iff.mpr hcount, intField_eq_ok_iff.mpr hlimit, hreference, ← hnext,
      Functor.map, Except.map]

/-- Exactly the values of the grammar are records of pages. -/
theorem admits_grammar_iff :
    grammar.Admits value ↔
      ∃ entries, value = .table entries ∧ ∃ page, IsPageRecord entries page := by
  simp only [grammar, Grammar.admits_record_iff, List.forall_mem_cons, ← exists_intField_iff,
    ← exists_listField_iff, Instance.admits_grammar_iff, ← exists_forall₂_iff,
    ← exists_optionalRecord_iff admits_referenceGrammar_iff]
  refine exists_congr fun entries => and_congr_right' ?_
  constructor
  · rintro ⟨⟨items, hitems, machines, hmachines⟩, ⟨totalCount, hcount⟩, ⟨limit, hlimit⟩,
      ⟨found, hfound⟩, -⟩
    exact ⟨⟨machines, totalCount, limit, found.join⟩, ⟨items, hitems, hmachines⟩, hcount, hlimit,
      found, hfound, rfl⟩
  · rintro ⟨page, ⟨items, hitems, hmachines⟩, hcount, hlimit, ⟨found, hfound, -⟩⟩
    exact ⟨⟨items, hitems, _, hmachines⟩, ⟨_, hcount⟩, ⟨_, hlimit⟩, ⟨found, hfound⟩, by simp⟩

theorem ofValue_of_same (hsame : grammar.Same value other) : ofValue value = ofValue other := by
  cases hsame with
  | refl => rfl
  | @table _ entries others hfields =>
      have hitems := listField_of_same
        (hfields ("instances", .listOf Instance.grammar) (by simp))
      have hcount := intField_of_same (hfields ("total_count", .integer) (by simp))
      have hlimit := intField_of_same (hfields ("limit", .integer) (by simp))
      have hnext := recordField_of_same nextOfValue_of_same
        (hfields ("next", referenceGrammar) (by simp))
      apply Agree.eq
      change Agree Eq (Value.listField entries "instances" >>= _)
        (Value.listField others "instances" >>= _)
      refine Agree.bind hitems ?_
      intro items others hall
      rw [mapM_congr (hall.imp fun _ _ => Instance.ofValue_of_same), hcount, hlimit, hnext]
      exact Agree.refl _

/-- A page never leads on to an empty address. -/
theorem next_ne_empty {entries : Entries Value} {page : Page}
    (hrecord : IsPageRecord entries page) : page.next ≠ some "" := by
  obtain ⟨found, hfound, hnext⟩ := hrecord.next
  rw [hnext]
  rcases hfound with _ | _ | ⟨_, _ | ⟨hfull, _⟩⟩
  · simp
  · simp
  · simp
  · simpa using hfull

/-- Exactly the values of the grammar read as a page, every other value is refused, and a page holds
what the fields of its table hold: its machines in the order of the items, and as the way on nothing
or an address that is not empty.  What the grammar does not name makes no difference, nor whether a
field is left out or null: a key that is not named may be put into the table, and a key that is left
out may be put there as null. -/
theorem reads_its_grammar (value : Value) :
    ((∃ page, ofValue value = .ok page) ↔ grammar.Admits value) ∧
      ((∃ fault, ofValue value = .error fault) ↔ ¬ grammar.Admits value) ∧
      (∀ page, ofValue value = .ok page ↔
        ∃ entries, value = .table entries ∧ IsPageRecord entries page) ∧
      (∀ page, ofValue value = .ok page → page.next ≠ some "") ∧
      (∀ other, grammar.Same value other → ofValue value = ofValue other) ∧
      ∀ (entries : Entries Value) (key : String), value = .table entries →
        (key ∉ ["instances", "total_count", "limit", "next"] → ∀ added,
          ofValue (.table (entries.put key added)) = ofValue value) ∧
        (entries.get? key = none → ofValue (.table (entries.put key .null)) = ofValue value) := by
  have haccepted : (∃ page, ofValue value = .ok page) ↔ grammar.Admits value := by
    rw [admits_grammar_iff]
    constructor
    · rintro ⟨page, hread⟩
      obtain ⟨entries, hvalue, hrecord⟩ := ofValue_eq_ok_iff.mp hread
      exact ⟨entries, hvalue, page, hrecord⟩
    · rintro ⟨entries, hvalue, page, hrecord⟩
      exact ⟨page, ofValue_eq_ok_iff.mpr ⟨entries, hvalue, hrecord⟩⟩
  refine ⟨haccepted, ?_, fun page => ofValue_eq_ok_iff, ?_, fun other => ofValue_of_same, ?_⟩
  · rw [← haccepted]
    cases ofValue value <;> simp
  · intro page hread
    obtain ⟨_, _, hrecord⟩ := ofValue_eq_ok_iff.mp hread
    exact next_ne_empty hrecord
  · rintro entries key rfl
    constructor
    · intro hunnamed added
      exact (ofValue_of_same (Grammar.same_put_of_unnamed hunnamed added)).symm
    · intro habsent
      exact (ofValue_of_same (Grammar.same_put_null habsent)).symm

/-- A zone that is null is none at all, an empty one is a zone without a name. -/
example :
    ofValue (.table [("instances", .list [.table [("zone", .null)], .table [("zone", .table [])]]),
      ("first", .bool true)]) =
        .ok ⟨[⟨"", "", "", none, none⟩, ⟨"", "", "", some ⟨"", ""⟩, none⟩], 0, 0, none⟩ := rfl

end Page

end Records

end NodeTopology
