import NodeTopology.Proofs.ConflictProtocol
import NodeTopology.Proofs.InstanceListing
import NodeTopology.Proofs.PageGrammar
import NodeTopology.Proofs.ZoneRegions
/-!
What incomplete records of machines come to.  A zone that is left out or has no region ends the
search for a worker, an identity that is left out does not.  Main statement: whatever the source of
machines, no placement lacks its region or its zone; and an update sends labels that count as
complete although one of them is empty exactly if the record of the worker's machine has no
identity.
-/

namespace NodeTopology

/-- A region and the zone it is read off are never empty. -/
theorem Region.ne_empty_of_ofZone? {zone region : String} (hregion : ofZone? zone = some region) :
    region ≠ "" ∧ zone ≠ "" := by
  obtain ⟨hnamed, rest, _, rfl⟩ := ofZone?_eq_some_iff.mp hregion
  exact ⟨hnamed, by simp [String.append_eq_empty_iff]⟩

/-- An item of a list has no identity: its id is left out, null or empty. -/
def LacksIdentity (item : Value) : Prop :=
  ∃ entries, item = .table entries ∧ OptionalField entries "id" .text "" ""

/-- A machine is without an id exactly if its record is. -/
theorem IsMachineItem.id_eq_empty_iff {item : Value} {machine : Instance}
    (hitem : IsMachineItem item machine) : machine.id = "" ↔ LacksIdentity item := by
  obtain ⟨entries, rfl, hrecord⟩ := hitem
  constructor
  · intro hempty
    exact ⟨entries, rfl, hempty ▸ hrecord.id⟩
  · rintro ⟨_, hsame, hempty⟩
    cases hsame
    have hread := textField_eq_ok_iff.mpr hrecord.id
    rw [textField_eq_ok_iff.mpr hempty] at hread
    exact (Except.ok.inj hread).symm

/-- Labels with a gap: they carry the marker of labelled nodes, and one of the seven is empty. -/
structure Labels.HaveGap (labels : Labels) : Prop where
  marked : labels.has LabelKey.marker = true
  empty : ∃ key ∈ LabelKey.all, labels.get? key = some ""

/-- Labels that say where a machine is have a gap exactly if something about it is empty. -/
theorem Labels.Describe.haveGap_iff {labels : Labels} {id region zone : String}
    (hdescribe : labels.Describe id region zone) :
    labels.HaveGap ↔ id = "" ∨ region = "" ∨ zone = "" := by
  have hempty : (∃ key ∈ LabelKey.all, labels.get? key = some "") ↔
      id = "" ∨ region = "" ∨ zone = "" := by
    simp only [LabelKey.all, List.mem_cons, List.not_mem_nil, or_false, exists_eq_or_imp,
      exists_eq_left, hdescribe.workerId, hdescribe.instanceId, hdescribe.failureRegion,
      hdescribe.failureZone, hdescribe.topologyRegion, hdescribe.topologyZone, hdescribe.marker]
    simp
    tauto
  have hmarked : labels.has LabelKey.marker = true := by
    rw [Entries.has, hdescribe.marker]
    rfl
  exact ⟨fun hgap => hempty.mp hgap.empty, fun hpart => ⟨hmarked, hempty.mpr hpart⟩⟩

namespace Resolver

variable {resolver : Resolver} {worker : String} {outside : Outside} {placement : Placement}

/-- A placement is that of the first machine of the worker on the list that the source gave. -/
theorem exists_first_of_placement
    (hfound : (resolver.placementOf (some worker) outside).result = .ok placement) :
    ∃ machines machine, (resolver.list (askedFor worker) outside).result = .ok machines ∧
      IsFirst worker machines machine ∧ Locates machine placement := by
  obtain ⟨_, _, hrun⟩ := resolver.placementOf_apply worker outside
  rw [hrun] at hfound
  obtain ⟨machines, hlisted, hchosen⟩ := exists_of_except_bind hfound
  obtain ⟨machine, hfind, hlocates⟩ := locates_of_chosen hchosen
  exact ⟨machines, machine, hlisted, find?_answersTo_eq_some_iff.mp hfind, hlocates⟩

theorem placement_ne_empty
    (hfound : (resolver.placementOf (some worker) outside).result = .ok placement) :
    placement.region ≠ "" ∧ placement.zone ≠ "" := by
  obtain ⟨_, machine, _, _, hlocates⟩ := exists_first_of_placement hfound
  rw [hlocates.zone]
  exact Region.ne_empty_of_ofZone? hlocates.region

/-- A search ends with a placement that lacks its identity exactly if the first machine of the
worker does, while its zone has a region. -/
theorem finds_without_identity_iff :
    (∃ placement, (resolver.placementOf (some worker) outside).result = .ok placement ∧
        placement.instanceId = "") ↔
      ∃ machines machine, (resolver.list (askedFor worker) outside).result = .ok machines ∧
        IsFirst worker machines machine ∧ machine.id = "" ∧
        (Region.ofZone? machine.zoneName).isSome = true := by
  constructor
  · rintro ⟨placement, hfound, hempty⟩
    obtain ⟨machines, machine, hlisted, hfirst, hlocates⟩ := exists_first_of_placement hfound
    exact ⟨machines, machine, hlisted, hfirst, hlocates.instanceId ▸ hempty,
      Option.isSome_of_eq_some hlocates.region⟩
  · rintro ⟨machines, machine, hlisted, hfirst, hempty, hregion⟩
    obtain ⟨region, hregion⟩ := Option.isSome_iff_exists.mp hregion
    obtain ⟨_, _, hrun⟩ := resolver.placementOf_apply worker outside
    refine ⟨⟨machine.id, region, machine.zoneName⟩, ?_, hempty⟩
    rw [hrun]
    dsimp only
    rw [hlisted]
    change chosen worker machines = _
    rw [chosen_of_isFirst hfirst, placement, hregion]
    rfl

end Resolver

namespace Updater

variable {updater : Updater} {worker : String} {outside : Outside}

theorem exists_write (updater : Updater) (worker : String) (placement : Placement) (body : Node)
    (outside : Outside) : ∃ asked sent answer,
      .nodeReplaced asked sent answer ∈
        (updater.writeAndSettle worker placement body outside).trace := by
  have hcalls := updater.clusterCalls_writeAndSettle worker placement body outside
  dsimp only at hcalls
  refine ⟨worker, body, outside.replaces.first.answer body, ?_⟩
  refine (Trace.mem_clusterCalls.mp ?_).1
  rw [hcalls]
  exact List.mem_cons_self

/-- What an update writes itself, after the search for its machine, says where the machine is. -/
theorem own_writes_describe (updater : Updater) (worker : String) (outside : Outside) :
    let located := updater.resolver.placementOf (some worker) outside
    ∃ own : Trace, (updater.update worker outside).trace = located.trace ++ own ∧
      (∀ asked sent answer, .nodeReplaced asked sent answer ∈ own →
        ∃ placement labels, located.result = .ok placement ∧ sent = .labelled (some labels) ∧
          labels.Describe placement.instanceId placement.region placement.zone) ∧
      ((∃ asked sent answer, .nodeReplaced asked sent answer ∈ own) ↔
        (∃ placement, located.result = .ok placement) ∧
          ∃ metadata, updater.node = some ⟨some metadata⟩) := by
  dsimp only
  cases hfound : (updater.resolver.placementOf (some worker) outside).result with
  | error fault =>
      rw [update_apply_of_no_placement hfound]
      exact ⟨[], by simp⟩
  | ok placement =>
      by_cases hnode : ∃ metadata, updater.node = some ⟨some metadata⟩
      · obtain ⟨metadata, hnode⟩ := hnode
        rw [update_apply_of_placement hnode hfound]
        dsimp only
        generalize (updater.resolver.placementOf (some worker) outside).supply = supply
        refine ⟨_, rfl, ?_, ?_⟩
        · intro asked sent answer hwrite
          obtain ⟨before, after, hsplit⟩ := List.append_of_mem hwrite
          obtain ⟨base, _, rfl⟩ := updater.sent_writeAndSettle worker placement metadata supply
            (Trace.clusterCalls_of_split hsplit)
          exact ⟨placement, _, rfl, rfl, base.overlaid_describe placement⟩
        · exact iff_of_true (updater.exists_write worker placement _ supply)
            ⟨⟨placement, rfl⟩, metadata, hnode⟩
      · have hnowhere : updater.node.bind (·.withPlacement? placement) = none := by
          rcases hcopy : updater.node with _ | ⟨_ | metadata⟩
          · rfl
          · rfl
          · exact absurd ⟨metadata, hcopy⟩ hnode
        rw [update_eq, Run.bind_of_result_ok hfound, labelled, hnowhere]
        refine ⟨[], rfl, by simp, ?_⟩
        exact iff_of_false (by simp) fun hboth => hnode hboth.2

/-- Where gaps come from, for every source of machines, worker, copy of the node and policy.  A
placement never lacks its region or its zone; it lacks its identity exactly if the first machine of
the worker does.  Whatever an update sends counts as complete; and it sends labels with a gap
exactly if it has a node to send and the placement lacks its identity.  A machine read off a page
lacks its identity exactly if the id of its item is left out, null or empty. -/
theorem gaps_come_from_missing_identities (updater : Updater) (worker : String)
    (outside : Outside) :
    let listing := updater.resolver.list (Resolver.askedFor worker) outside
    let located := updater.resolver.placementOf (some worker) outside
    (∀ placement, located.result = .ok placement →
      placement.region ≠ "" ∧ placement.zone ≠ "") ∧
    ((∃ placement, located.result = .ok placement ∧ placement.instanceId = "") ↔
      ∃ machines machine, listing.result = .ok machines ∧
        Resolver.IsFirst worker machines machine ∧ machine.id = "" ∧
        (Region.ofZone? machine.zoneName).isSome = true) ∧
    (∃ own : Trace, (updater.update worker outside).trace = located.trace ++ own ∧
      (∀ asked sent answer, .nodeReplaced asked sent answer ∈ own →
        ∃ labels, sent = .labelled (some labels) ∧ labels.areComplete = true) ∧
      ((∃ asked labels answer,
          .nodeReplaced asked (.labelled (some labels)) answer ∈ own ∧ labels.HaveGap) ↔
        (∃ placement, located.result = .ok placement ∧ placement.instanceId = "") ∧
          ∃ metadata, updater.node = some ⟨some metadata⟩)) ∧
    ∀ value page, Page.ofValue value = .ok page →
      ∃ entries items, value = .table entries ∧
        OptionalField entries "instances" .list [] items ∧
        List.Forall₂ (fun item machine => machine.id = "" ↔ LacksIdentity item)
          items page.instances := by
  dsimp only
  refine ⟨fun _ => Resolver.placement_ne_empty, Resolver.finds_without_identity_iff, ?_, ?_⟩
  · obtain ⟨own, htrace, hdescribe, hwrites⟩ := updater.own_writes_describe worker outside
    refine ⟨own, htrace, ?_, ?_⟩
    · intro asked sent answer hwrite
      obtain ⟨_, labels, _, hsent, hlabels⟩ := hdescribe asked sent answer hwrite
      exact ⟨labels, hsent, hlabels.areComplete⟩
    · constructor
      · rintro ⟨asked, labels, answer, hwrite, hgap⟩
        obtain ⟨placement, _, hfound, hsent, hlabels⟩ := hdescribe asked _ answer hwrite
        cases hsent
        obtain ⟨hregion, hzone⟩ := Resolver.placement_ne_empty hfound
        have hempty : placement.instanceId = "" := by
          simpa [hregion, hzone] using hlabels.haveGap_iff.mp hgap
        exact ⟨⟨placement, hfound, hempty⟩, (hwrites.mp ⟨asked, _, answer, hwrite⟩).2⟩
      · rintro ⟨⟨placement, hfound, hempty⟩, hnode⟩
        obtain ⟨asked, sent, answer, hwrite⟩ := hwrites.mpr ⟨⟨placement, hfound⟩, hnode⟩
        obtain ⟨other, labels, hother, rfl, hlabels⟩ := hdescribe asked sent answer hwrite
        obtain rfl : placement = other := Except.ok.inj (hfound.symm.trans hother)
        exact ⟨asked, labels, answer, hwrite, hlabels.haveGap_iff.mpr (.inl hempty)⟩
  · intro value page hread
    obtain ⟨entries, hvalue, hrecord⟩ := Page.ofValue_eq_ok_iff.mp hread
    obtain ⟨items, hitems, hmachines⟩ := hrecord.instances
    exact ⟨entries, items, hvalue, hitems, hmachines.imp fun _ _ => IsMachineItem.id_eq_empty_iff⟩

/-- A machine without an id is found by its name, and its node is labelled with gaps for good. -/
theorem node_is_labelled_without_identity :
    let item : Value :=
      .table [("name", .text "worker"), ("zone", .table [("name", .text "us-south-1")])]
    let machine : Instance := ⟨"", "worker", "", some ⟨"us-south-1", ""⟩, none⟩
    let updater : Updater :=
      ⟨some (.labelled none), .ofList [machine], .retry, .forConflicts⟩
    let outside : Outside :=
      ⟨⟨.error (.system ""), []⟩, ⟨.ok none, []⟩, ⟨.kept, []⟩⟩
    let labels : Labels := Placement.labels ⟨"", "us-south", "us-south-1"⟩
    let outcome := updater.update "worker" outside
    Page.ofValue (.table [("instances", .list [item])]) = .ok ⟨[machine], 0, 0, none⟩ ∧
      (updater.resolver.placementOf (some "worker") outside).result =
        .ok ⟨"", "us-south", "us-south-1"⟩ ∧
      outcome.result = .ok true ∧
      outcome.trace.clusterCalls =
        [.nodeReplaced "worker" (.labelled (some labels)) (.ok (some (.labelled (some labels))))] ∧
      labels.areComplete = true ∧ labels.HaveGap := by
  dsimp only
  refine ⟨rfl, rfl, rfl, rfl, by decide, ?_⟩
  exact ⟨by decide, LabelKey.workerId, by decide, by decide⟩

end Updater

end NodeTopology
