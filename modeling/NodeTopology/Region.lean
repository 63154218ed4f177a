import NodeTopology.Fault
/-!
Regions are read off zone names: the region is what stands before the last hyphen, as in `us-south`
for the zone `us-south-1`.  A zone name without a hyphen, or with its only hyphen in first place,
has none.  Main statement: a region is what a last hyphen cuts off, and each such cut is found.
-/

namespace NodeTopology.Region

/-- The text before the last hyphen, if there is a hyphen with text before it. -/
def ofZoneChars? (zone : List Char) : Option (List Char) :=
  match zone.reverse.dropWhile (· != '-') with
  | _ :: before => if before.isEmpty then none else some before.reverse
  | [] => none

/-- Whatever stands before the last hyphen is the region. -/
theorem ofZoneChars?_append_hyphen {region rest : List Char} (hregion : region ≠ [])
    (hlast : '-' ∉ rest) : ofZoneChars? (region ++ '-' :: rest) = some region := by
  have hskipped : (region ++ '-' :: rest).reverse.dropWhile (· != '-') = '-' :: region.reverse := by
    have hrest : ∀ c ∈ rest.reverse, (c != '-') = true := by
      intro c hc
      have hmem : c ∈ rest := List.mem_reverse.1 hc
      exact bne_iff_ne.2 fun hhyphen => hlast (hhyphen ▸ hmem)
    rw [List.reverse_append, List.reverse_cons, List.append_assoc,
      List.dropWhile_append_of_pos hrest]
    rfl
  rw [ofZoneChars?, hskipped]
  simp [hregion]

/-- A region is followed by a hyphen and a rest without one. -/
theorem eq_append_of_ofZoneChars? {zone region : List Char}
    (hzone : ofZoneChars? zone = some region) :
    region ≠ [] ∧ ∃ rest, '-' ∉ rest ∧ zone = region ++ '-' :: rest := by
  have hwhole := List.takeWhile_append_dropWhile (p := (· != '-')) (l := zone.reverse)
  unfold ofZoneChars? at hzone
  split at hzone
  · next c before hfound =>
    have hhyphen : c = '-' := by
      have hstop := List.head?_dropWhile_not (p := (· != '-')) (l := zone.reverse)
      simpa [hfound] using hstop
    split at hzone
    · cases hzone
    · next hregion =>
      cases hzone
      refine ⟨by simpa using hregion, (zone.reverse.takeWhile (· != '-')).reverse, ?_, ?_⟩
      · intro hmem
        have hall := List.all_takeWhile (p := (· != '-')) (l := zone.reverse)
        have hhyphens := List.all_eq_true.1 hall '-' (List.mem_reverse.1 hmem)
        simp at hhyphens
      · have hback := congrArg List.reverse hwhole
        rw [hfound, hhyphen] at hback
        simpa using hback.symm
  · cases hzone

def ofZone? (zone : String) : Option String := (ofZoneChars? zone.toList).map String.ofList

/-- The region of a zone that may be missing; where there is none, the zone is at fault. -/
def ofZone (zone : Option String) : Except LookupFault String :=
  match zone.bind ofZone? with
  | some region => .ok region
  | none => .error (.invalidZone zone)

end NodeTopology.Region
