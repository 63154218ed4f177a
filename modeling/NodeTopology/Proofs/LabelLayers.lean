import NodeTopology.Proofs.LabelOverlay
/-!
Labels laid over a node again and again.  Entries with the keys of earlier ones take their places,
so of several layers with the same keys only the last is seen.  Main statement: after any placements
a node is labelled as if the last of them had been laid over it alone; its seven labels are that
placement's, all others what they were before the first, and it counts as complete.
-/

namespace NodeTopology

namespace Entries

variable {α : Type}

/-- What is put under a key takes the place of what was put there before. -/
theorem put_put (entries : Entries α) (key : String) (value later : α) :
    (entries.put key value).put key later = entries.put key later := by
  induction entries with
  | nil => simp [put]
  | cons entry rest ih =>
      rcases entry with ⟨k, v⟩
      by_cases hhere : k = key
      · simp [put, hhere]
      · simp [put, hhere, ih]

/-- A key that is there already keeps its place, whatever is put under another one first. -/
theorem put_comm {entries : Entries α} {key other : String} (hkey : entries.has key = true)
    (hother : key ≠ other) (value later : α) :
    (entries.put key value).put other later = (entries.put other later).put key value := by
  induction entries with
  | nil => simp [has] at hkey
  | cons entry rest ih =>
      rcases entry with ⟨k, v⟩
      by_cases hhere : k = key
      · simp [put, hhere, hother]
      · by_cases hthere : k = other
        · simp [put, hthere, hother.symm]
        · have hrest : has rest key = true := by
            simpa [has, get?_cons, Ne.symm hhere] using hkey
          simp [put, hhere, hthere, ih hrest]

theorem has_put (entries : Entries α) (key : String) (value : α) (other : String) :
    (entries.put key value).has other = (decide (other = key) || entries.has other) := by
  rw [has, has, get?_put]
  by_cases hsame : other = key <;> simp [hsame]

/-- A key that is there already and is not laid over may as well be put first. -/
theorem overlay_put {upper : Entries α} {key : String} (hupper : key ∉ upper.map Prod.fst)
    {base : Entries α} (hkey : base.has key = true) (value : α) :
    (base.overlay upper).put key value = (base.put key value).overlay upper := by
  induction upper generalizing base with
  | nil => rfl
  | cons entry upper ih =>
      simp only [List.map_cons, List.mem_cons, not_or] at hupper
      have hnext : (base.put entry.1 entry.2).has key = true := by simp [has_put, hkey]
      rw [overlay_cons, overlay_cons, ih hupper.2 hnext, put_comm hkey hupper.1]

/-- Of two layers with the same keys only the upper one is seen. -/
theorem overlay_overlay {lower upper : Entries α}
    (hkeys : lower.map Prod.fst = upper.map Prod.fst) (hdistinct : (upper.map Prod.fst).Nodup)
    (base : Entries α) : (base.overlay lower).overlay upper = base.overlay upper := by
  induction lower generalizing upper base with
  | nil => simp [List.map_eq_nil_iff.mp hkeys.symm]
  | cons entry lower ih =>
      obtain ⟨⟨key, later⟩, upper, rfl, hkey, hrest⟩ := List.map_eq_cons_iff.mp hkeys.symm
      rcases entry with ⟨_, value⟩
      obtain rfl : key = _ := hkey
      rw [List.map_cons, List.nodup_cons] at hdistinct
      have hlower : key ∉ lower.map Prod.fst := hrest ▸ hdistinct.1
      have hplaced : (base.put key value).has key = true := by simp [has_put]
      calc ((base.put key value).overlay lower).overlay ((key, later) :: upper)
          = (((base.put key value).overlay lower).put key later).overlay upper := rfl
        _ = (((base.put key value).put key later).overlay lower).overlay upper := by
            rw [overlay_put hlower hplaced]
        _ = ((base.put key later).overlay lower).overlay upper := by rw [put_put]
        _ = (base.put key later).overlay upper := ih hrest.symm hdistinct.2 _

theorem map_fst_put (entries : Entries α) (key : String) (value : α) :
    (entries.put key value).map Prod.fst =
      if key ∈ entries.map Prod.fst then entries.map Prod.fst
      else entries.map Prod.fst ++ [key] := by
  induction entries with
  | nil => rfl
  | cons entry rest ih =>
      rcases entry with ⟨k, v⟩
      by_cases hhere : k = key
      · simp [put, hhere]
      · by_cases hrest : key ∈ rest.map Prod.fst
        · simp [put, hhere, ih, hrest]
        · simp [put, hhere, ih, hrest, Ne.symm hhere]

theorem nodup_overlay {base : Entries α} (hdistinct : (base.map Prod.fst).Nodup)
    (upper : Entries α) : ((base.overlay upper).map Prod.fst).Nodup := by
  induction upper generalizing base with
  | nil => exact hdistinct
  | cons entry upper ih =>
      apply ih
      rw [map_fst_put]
      split
      · exact hdistinct
      · next hnew =>
        have hapart : ∀ key ∈ base.map Prod.fst, key ≠ entry.1 :=
          fun _ hkey hsame => hnew (hsame ▸ hkey)
        simpa [List.nodup_append, hdistinct] using hapart

end Entries

/-- Of two placements that are laid over a node only the later one is seen. -/
theorem Metadata.overlaid_overlaid (metadata : Metadata) (earlier placement : Placement) :
    Metadata.overlaid ⟨some (metadata.overlaid earlier)⟩ placement =
      metadata.overlaid placement := by
  have hkeys := earlier.map_fst_labels.trans placement.map_fst_labels.symm
  exact Entries.overlay_overlay hkeys placement.nodup_labels metadata.labelEntries

namespace Node

theorem withPlacement?_of_metadata (metadata : Metadata) (placement : Placement) :
    withPlacement? ⟨some metadata⟩ placement =
      some (.labelled (some (metadata.overlaid placement))) := rfl

/-- After any number of placements a node is as if only the last had been laid over it. -/
theorem withPlacement?_of_foldlM (metadata : Metadata) (earlier : List Placement)
    (placement : Placement) :
    (earlier.foldlM withPlacement? ⟨some metadata⟩).bind (·.withPlacement? placement) =
      withPlacement? ⟨some metadata⟩ placement := by
  induction earlier generalizing metadata with
  | nil => rfl
  | cons first earlier ih =>
      rw [List.foldlM_cons, withPlacement?_of_metadata]
      refine (ih ⟨some (metadata.overlaid first)⟩).trans ?_
      rw [withPlacement?_of_metadata, withPlacement?_of_metadata, Metadata.overlaid_overlaid]

/-- The last placement decides the labels of a node.  Whatever was laid over the node before, one
placement or many, laying another over it comes to the same labels as that one alone; without
labels of its own the node starts from none.  Each of the seven keys then holds what the last
placement says, every other key is as it was, present with its value or absent; keys that were
distinct still are; and the node counts as complete. -/
theorem last_placement_decides_labels (metadata : Metadata) (earlier placement : Placement) :
    let node : Node := ⟨some metadata⟩
    let before : Labels := metadata.labels.getD []
    ∃ labels : Labels,
      node.withPlacement? placement = some (.labelled (some labels)) ∧
      (node.withPlacement? earlier).bind (·.withPlacement? placement) =
        some (.labelled (some labels)) ∧
      (∀ history : List Placement,
        (history.foldlM withPlacement? node).bind (·.withPlacement? placement) =
          some (.labelled (some labels))) ∧
      labels.Describe placement.instanceId placement.region placement.zone ∧
      (∀ key ∉ LabelKey.all, labels.get? key = before.get? key) ∧
      ((before.map Prod.fst).Nodup → (labels.map Prod.fst).Nodup) ∧
      isComplete (some labels) = true := by
  intro node before
  have hdescribe := metadata.overlaid_describe placement
  have hlast : ∀ history : List Placement,
      (history.foldlM withPlacement? node).bind (·.withPlacement? placement) =
        some (.labelled (some (metadata.overlaid placement))) :=
    fun history => withPlacement?_of_foldlM metadata history placement
  refine ⟨metadata.overlaid placement, rfl, ?_, hlast, hdescribe, ?_, ?_, hdescribe.areComplete⟩
  · simpa using hlast [earlier]
  · intro key hkey
    exact metadata.get?_overlaid_of_not_mem placement hkey
  · intro hdistinct
    exact Entries.nodup_overlay hdistinct placement.labels

/-- A node that another machine was labelled on, and that had a label of its own and a stale one
before, carries nothing of the other machine. -/
theorem labels_of_earlier_machine_are_gone :
    let node : Node := .labelled (some [("pool", "a"), (LabelKey.workerId, "old")])
    let labels : Labels := [("pool", "a"), (LabelKey.workerId, "id-2"),
      (LabelKey.instanceId, "id-2"), (LabelKey.failureRegion, "eu-de"),
      (LabelKey.failureZone, "eu-de-2"), (LabelKey.topologyRegion, "eu-de"),
      (LabelKey.topologyZone, "eu-de-2"), (LabelKey.marker, "true")]
    (node.withPlacement? ⟨"id-1", "us-south", "us-south-1"⟩).bind
        (·.withPlacement? ⟨"id-2", "eu-de", "eu-de-2"⟩) = some (.labelled (some labels)) ∧
      ("pool" ∉ LabelKey.all ∧ labels.get? "pool" = some "a") ∧
      (labels.map Prod.fst).Nodup := by
  intro node labels
  obtain ⟨found, honce, htwice, _, _, hothers, hdistinct, _⟩ :=
    last_placement_decides_labels ⟨some [("pool", "a"), (LabelKey.workerId, "old")]⟩
      ⟨"id-1", "us-south", "us-south-1"⟩ ⟨"id-2", "eu-de", "eu-de-2"⟩
  have hlaid : node.withPlacement? ⟨"id-2", "eu-de", "eu-de-2"⟩ =
      some (.labelled (some labels)) := by decide
  have hfound : found = labels := by simpa [labelled] using honce.symm.trans hlaid
  rw [hfound] at htwice hothers hdistinct
  have hforeign : "pool" ∉ LabelKey.all := by decide
  exact ⟨htwice, ⟨hforeign, (hothers "pool" hforeign).trans rfl⟩, hdistinct (by decide)⟩

end Node

end NodeTopology
