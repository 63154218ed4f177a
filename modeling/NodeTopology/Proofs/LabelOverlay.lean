import NodeTopology.Node
/-!
The seven labels on a node.  Main statements: what is found under a key after laying entries with
distinct keys over others; each of the seven keys then holds the placement's value and every other
key what it held before; and a node with the seven labels is complete.
-/

namespace NodeTopology

namespace Entries

variable {α : Type}

/-- Entries with distinct keys that are laid over others are found first. -/
theorem get?_overlay {upper : Entries α} (hdistinct : (upper.map Prod.fst).Nodup)
    (base : Entries α) (key : String) :
    (base.overlay upper).get? key = (upper.get? key).or (base.get? key) := by
  induction upper generalizing base with
  | nil => rfl
  | cons entry upper ih =>
      rcases entry with ⟨k, value⟩
      rw [List.map_cons, List.nodup_cons] at hdistinct
      rw [overlay_cons, ih hdistinct.2, get?_put, get?_cons]
      by_cases hkey : key = k
      · subst hkey
        have habsent : Entries.get? upper key = none := by
          rw [get?, List.lookup_eq_none_iff]
          intro entry hentry
          rw [bne_iff_ne]
          intro hsame
          exact hdistinct.1 (List.mem_map.mpr ⟨entry, hentry, hsame.symm⟩)
        simp [habsent]
      · simp [hkey]

end Entries

def LabelKey.all : List String :=
  [workerId, instanceId, failureRegion, failureZone, topologyRegion, topologyZone, marker]

theorem LabelKey.all_nodup : LabelKey.all.Nodup := by decide

theorem Placement.map_fst_labels (placement : Placement) :
    placement.labels.map Prod.fst = LabelKey.all := rfl

theorem Placement.nodup_labels (placement : Placement) :
    (placement.labels.map Prod.fst).Nodup := LabelKey.all_nodup

/-- Labels say where a machine is: each of the seven keys holds what is known of the machine. -/
structure Labels.Describe (labels : Labels) (id region zone : String) : Prop where
  workerId : labels.get? LabelKey.workerId = some id
  instanceId : labels.get? LabelKey.instanceId = some id
  failureRegion : labels.get? LabelKey.failureRegion = some region
  failureZone : labels.get? LabelKey.failureZone = some zone
  topologyRegion : labels.get? LabelKey.topologyRegion = some region
  topologyZone : labels.get? LabelKey.topologyZone = some zone
  marker : labels.get? LabelKey.marker = some "true"

namespace Metadata

/-- The labels of metadata; labels that were never set are empty. -/
def labelEntries (metadata : Metadata) : Labels := metadata.labels.getD []

/-- The metadata's labels with those of a placement laid over them. -/
def overlaid (metadata : Metadata) (placement : Placement) : Labels :=
  metadata.labelEntries.overlay placement.labels

/-- The node that is sent for a placement. -/
def withPlacement (metadata : Metadata) (placement : Placement) : Node :=
  .labelled (some (metadata.overlaid placement))

theorem get?_overlaid (metadata : Metadata) (placement : Placement) (key : String) :
    (metadata.overlaid placement).get? key =
      (placement.labels.get? key).or (metadata.labelEntries.get? key) :=
  Entries.get?_overlay placement.nodup_labels metadata.labelEntries key

/-- Every label outside the seven stays as it is. -/
theorem get?_overlaid_of_not_mem (metadata : Metadata) (placement : Placement) {key : String}
    (hkey : key ∉ LabelKey.all) :
    (metadata.overlaid placement).get? key = metadata.labelEntries.get? key := by
  apply Entries.get?_overlay_of_forall_ne
  intro entry hentry hsame
  apply hkey
  rw [hsame, ← placement.map_fst_labels]
  exact List.mem_map_of_mem hentry

/-- The seven labels hold what the placement says, whatever was there before. -/
theorem overlaid_describe (metadata : Metadata) (placement : Placement) :
    (metadata.overlaid placement).Describe placement.instanceId placement.region
      placement.zone := by
  constructor <;>
  · rw [get?_overlaid]
    rfl

end Metadata

/-- A node has the labels of earlier metadata, but for the seven labels, which say where a machine
is. -/
def Node.Relabels (node : Node) (base : Metadata) (id region zone : String) : Prop :=
  ∃ labels : Labels, node = .labelled (some labels) ∧ labels.Describe id region zone ∧
    ∀ key ∉ LabelKey.all, labels.get? key = base.labelEntries.get? key

/-- The node that is sent for a placement has what was there before, and the placement. -/
theorem Metadata.withPlacement_relabels (metadata : Metadata) (placement : Placement) :
    (metadata.withPlacement placement).Relabels metadata placement.instanceId placement.region
      placement.zone :=
  ⟨_, rfl, metadata.overlaid_describe placement,
    fun _ hkey => metadata.get?_overlaid_of_not_mem placement hkey⟩

/-- Labels that describe a machine need no further labelling. -/
theorem Labels.Describe.areComplete {labels : Labels} {id region zone : String}
    (hdescribe : labels.Describe id region zone) : labels.areComplete = true := by
  rw [Labels.areComplete, Entries.has, Entries.has, hdescribe.marker, hdescribe.instanceId]
  rfl

theorem Labels.areComplete_iff (labels : Labels) :
    labels.areComplete = true ↔
      labels.has LabelKey.marker = true ∧ labels.has LabelKey.instanceId = true := by
  rw [Labels.areComplete, Bool.and_eq_true]

end NodeTopology
