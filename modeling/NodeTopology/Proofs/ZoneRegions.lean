import NodeTopology.Resolver
/-!
Zones and the regions that they name.  A zone can be cut at its last hyphen in at most one way, and
what such a cut leaves in front is its region.  Main statement: the regions that are found are
exactly those in front of a last hyphen, and the zones that are refused are exactly those without
such a cut: no zone at all, an empty one, one without a hyphen, and one whose only hyphen comes
first.
-/

namespace NodeTopology

namespace Region

/-- A zone names a region: it is the region, a hyphen and a rest without one. -/
structure Names (zone region : String) : Prop where
  named : region ≠ ""
  last : ∃ rest : String, '-' ∉ rest.toList ∧ zone = region ++ "-" ++ rest

/-- Zones that name no region. -/
inductive NamesNone : Option String → Prop
  | missing : NamesNone none
  | empty : NamesNone (some "")
  | unbroken {zone : String} (hwhole : '-' ∉ zone.toList) : NamesNone (some zone)
  | headless {rest : String} (honly : '-' ∉ rest.toList) : NamesNone (some ("-" ++ rest))

/-- The region that is found is the one that the zone names. -/
theorem ofZone?_eq_some_iff {zone region : String} :
    ofZone? zone = some region ↔ Names zone region := by
  constructor
  · intro hregion
    obtain ⟨chars, hchars, rfl⟩ := Option.map_eq_some_iff.mp hregion
    obtain ⟨hnamed, rest, hlast, hzone⟩ := eq_append_of_ofZoneChars? hchars
    refine ⟨by simpa using hnamed, String.ofList rest, by simpa using hlast, ?_⟩
    rw [← String.toList_inj, hzone]
    simp
  · rintro ⟨hnamed, rest, hlast, rfl⟩
    have hfull : region.toList ≠ [] := by simpa using hnamed
    have hchars : (region ++ "-" ++ rest).toList = region.toList ++ '-' :: rest.toList := by
      simp
    rw [ofZone?, hchars, ofZoneChars?_append_hyphen hfull hlast, Option.map_some,
      String.ofList_toList]

theorem Names.unique {zone region other : String} (hregion : Names zone region)
    (hother : Names zone other) : region = other := by
  rw [← ofZone?_eq_some_iff] at hregion hother
  exact Option.some.inj (hregion.symm.trans hother)

/-- A zone with a hyphen names what stands before the last one, if anything does. -/
theorem names_or_namesNone (zone : String) :
    (∃ region, Names zone region) ∨ NamesNone (some zone) := by
  by_cases hhyphen : '-' ∈ zone.toList
  · -- The last hyphen is the first one from behind.
    obtain ⟨behind, before, hcut, hlast⟩ :=
      List.eq_append_cons_of_mem (List.mem_reverse.mpr hhyphen)
    have hzone : zone = String.ofList before.reverse ++ "-" ++ String.ofList behind.reverse := by
      rw [← String.toList_inj]
      simpa using congrArg List.reverse hcut
    have hrest : '-' ∉ (String.ofList behind.reverse).toList := by simpa using hlast
    by_cases hfirst : before = []
    · right
      rw [hzone, hfirst]
      exact .headless hrest
    · have hnamed : String.ofList before.reverse ≠ "" := by simpa using hfirst
      exact Or.inl ⟨_, hnamed, _, hrest, hzone⟩
  · exact Or.inr (.unbroken hhyphen)

theorem NamesNone.not_names {zone region : String} (hnone : NamesNone (some zone)) :
    ¬Names zone region := by
  rintro ⟨hnamed, rest, hlast, hzone⟩
  have hchars : zone.toList = region.toList ++ '-' :: rest.toList := by
    rw [hzone]
    simp
  cases hnone with
  | empty => simp at hchars
  | unbroken hwhole => simp [hchars] at hwhole
  | @headless rest' honly =>
      cases hregion : region.toList with
      | nil => exact hnamed (by simpa using hregion)
      | cons first more =>
          have hcons : '-' = first ∧ rest'.toList = more ++ '-' :: rest.toList := by
            simpa [hregion] using hchars
          simp [hcons.2] at honly

/-- The zones that name no region are exactly those that cannot be cut. -/
theorem namesNone_iff {zone : Option String} :
    NamesNone zone ↔ ¬∃ text region, zone = some text ∧ Names text region := by
  constructor
  · rintro hnone ⟨text, region, rfl, hnames⟩
    exact hnone.not_names hnames
  · intro huncut
    cases zone with
    | none => exact .missing
    | some text =>
        refine (names_or_namesNone text).resolve_left ?_
        rintro ⟨region, hnames⟩
        exact huncut ⟨text, region, rfl, hnames⟩

theorem ofZone_eq_ok_iff {zone : Option String} {region : String} :
    ofZone zone = .ok region ↔ ∃ text, zone = some text ∧ Names text region := by
  have hfound : ofZone zone = .ok region ↔ zone.bind ofZone? = some region := by
    unfold ofZone
    split <;> simp [*]
  rw [hfound, Option.bind_eq_some_iff]
  simp only [ofZone?_eq_some_iff]

/-- A zone is refused exactly if it names no region, and it is the zone that is at fault. -/
theorem ofZone_eq_error_iff {zone : Option String} {fault : LookupFault} :
    ofZone zone = .error fault ↔ NamesNone zone ∧ fault = .invalidZone zone := by
  have hrefused : NamesNone zone ↔ ¬∃ region, ofZone zone = .ok region := by
    rw [namesNone_iff, exists_comm]
    simp only [ofZone_eq_ok_iff]
  rw [hrefused]
  unfold ofZone
  split <;> simp [eq_comm]

/-- The region of a machine's placement is that of its zone. -/
theorem placement_eq_map_ofZone (machine : Instance) :
    Resolver.placement machine =
      (ofZone (some machine.zoneName)).map fun region =>
        ⟨machine.id, region, machine.zoneName⟩ := by
  unfold Resolver.placement ofZone
  cases hregion : ofZone? machine.zoneName <;> simp [hregion, Except.map]

/-- A zone's region is what stands before its last hyphen.  A region is found exactly if the zone is
that region, a hyphen and a rest without one, and a zone can be cut like that in one way only.
Every other zone is refused as invalid, with itself as what is wrong; these are exactly no zone, the
empty one, those without a hyphen and those with their only hyphen in first place.  So whatever text
is put together from a region, a hyphen and a rest without one has that region; and the machines of
a zone are placed in its region, or refused with it. -/
theorem region_ends_at_last_hyphen :
    (∀ zone region : String, ofZone (some zone) = .ok region ↔ Names zone region) ∧
    (∀ zone region other : String, Names zone region → Names zone other → region = other) ∧
    (∀ zone : Option String,
      (ofZone zone = .error (.invalidZone zone) ↔
        ¬∃ text region, zone = some text ∧ Names text region) ∧
      (ofZone zone = .error (.invalidZone zone) ↔ NamesNone zone) ∧
      ∀ fault, ofZone zone = .error fault → fault = .invalidZone zone) ∧
    (∀ region rest : String, region ≠ "" → '-' ∉ rest.toList →
      ofZone (some (region ++ "-" ++ rest)) = .ok region) ∧
    ∀ machine : Instance, Resolver.placement machine =
      (ofZone (some machine.zoneName)).map fun region =>
        ⟨machine.id, region, machine.zoneName⟩ := by
  have hfound : ∀ zone region : String, ofZone (some zone) = .ok region ↔ Names zone region := by
    intro zone region
    simp [ofZone_eq_ok_iff]
  refine ⟨hfound, fun _ _ _ => Names.unique, ?_, ?_, placement_eq_map_ofZone⟩
  · intro zone
    have hrefused : ofZone zone = .error (.invalidZone zone) ↔ NamesNone zone := by
      simp [ofZone_eq_error_iff]
    exact ⟨hrefused.trans namesNone_iff, hrefused, fun _ herror =>
      (ofZone_eq_error_iff.mp herror).2⟩
  · intro region rest hnamed hlast
    exact (hfound _ _).mpr ⟨hnamed, rest, hlast, rfl⟩

/-- Of two hyphens at the end the last one cuts, and a hyphen in first place leaves no region. -/
theorem zone_of_two_hyphens_is_cut_at_the_second :
    ofZone (some "eu--") = .ok "eu-" ∧ ¬Names "eu--" "eu" ∧
      ofZone (some "-1") = .error (.invalidZone (some "-1")) := by
  obtain ⟨hfound, hunique, hrefused, hcut, _⟩ := region_ends_at_last_hyphen
  have hlast : ofZone (some "eu--") = .ok "eu-" := hcut "eu-" "" (by decide) (by decide)
  refine ⟨hlast, ?_, ?_⟩
  · intro hfirst
    have hsame := hunique "eu--" "eu" "eu-" hfirst ((hfound _ _).mp hlast)
    exact absurd hsame (by decide)
  · have honly : '-' ∉ "1".toList := by decide
    exact (hrefused (some "-1")).2.1.mpr (.headless honly)

end Region

end NodeTopology
