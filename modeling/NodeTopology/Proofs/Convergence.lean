import NodeTopology.Proofs.Provenance
import NodeTopology.Proofs.Truthfulness
/-!
A labelled node is never touched again.  Main statements: a run that reads a node with the marker
and the instance label does nothing else, whatever the secrets and the HTTP service would have been;
a run that reads any other node goes on to the secrets; and what a run leaves accepted on the
cluster is a node of the first kind, so that a second run leaves it alone.
-/

namespace NodeTopology

/-- The line with which a run turns to its secrets. -/
def Credentials.secretLine : LogLine := ⟨.info, "Fetching secret configuration"⟩

namespace Trace

theorem requests_append (first second : Trace) :
    requests (first ++ second) = first.requests ++ second.requests :=
  List.filterMap_append ..

theorem logLines_append (first second : Trace) :
    logLines (first ++ second) = first.logLines ++ second.logLines :=
  List.filterMap_append ..

end Trace

/-- Labels that were never set, or that lack one of the two keys, are not complete. -/
theorem Node.isComplete_eq_false_of_lacking {labels : Option Labels}
    (hlacking : ∀ given, labels = some given →
      given.has LabelKey.marker = false ∨ given.has LabelKey.instanceId = false) :
    Node.isComplete labels = false := by
  cases labels with
  | none => rfl
  | some given =>
      rw [Node.isComplete, Labels.areComplete]
      rcases hlacking given rfl with hmarker | hinstance
      · rw [hmarker, Bool.false_and]
      · rw [hinstance, Bool.and_false]

namespace Program

variable {settings : Settings} {source : SecretSource} {factory : ResolverFactory}
  {outside : Outside}

/-- A run left everything alone: it ended with false, and made no HTTP call, looked at no secret and
wrote no node. -/
structure LeavesAlone (outcome : Outcome Outside Bool) : Prop where
  result : outcome.result = .ok false
  requests : outcome.trace.requests = []
  secrets : Credentials.secretLine ∉ outcome.trace.logLines
  writes : outcome.trace.writes = []

theorem requests_reading (settings : Settings) (outside : Outside) :
    (reading settings outside).trace.requests = [] := by
  rw [Trace.requests, List.filterMap_eq_nil_iff]
  intro event hevent
  have hbelongs := Cluster.node_emits .standard settings.nodeName outside event hevent
  cases event with
  | requested => cases hbelongs
  | _ => rfl

theorem level_of_mem_logLines_reading {settings : Settings} {outside : Outside} {line : LogLine}
    (hline : line ∈ (reading settings outside).trace.logLines) : line.level ≠ .info := by
  obtain ⟨event, hevent, hlogged⟩ := List.mem_filterMap.mp hline
  have hbelongs := Cluster.node_emits .standard settings.nodeName outside event hevent
  cases event <;> cases hlogged
  exact hbelongs

/-- A run that finds its node complete leaves everything alone. -/
theorem leavesAlone_of_complete (hname : settings.nodeName ≠ "") {metadata : Metadata}
    (hread : (reading settings outside).result = .ok ⟨some metadata⟩)
    (hcomplete : Node.isComplete metadata.labels = true) :
    LeavesAlone (updateNodeLabels settings source factory outside) := by
  rw [updateNodeLabels_of_complete hname hread hcomplete]
  refine ⟨rfl, ?_, ?_, writes_complete settings outside⟩
  · change Trace.requests ((reading settings outside).trace ++ [.logged completeLine]) = []
    rw [Trace.requests_append, requests_reading]
    rfl
  · change Credentials.secretLine ∉
      openingLine :: Trace.logLines ((reading settings outside).trace ++ [.logged completeLine])
    rw [Trace.logLines_append, List.mem_cons, List.mem_append, not_or, not_or]
    refine ⟨by decide, ?_, by decide⟩
    intro hmem
    exact level_of_mem_logLines_reading hmem rfl

/-- A run that finds its node complete does so whatever the HTTP service answers, and leaves the
same trace. -/
theorem trace_of_complete (hname : settings.nodeName ≠ "") {metadata : Metadata}
    (hread : (reading settings outside).result = .ok ⟨some metadata⟩)
    (hcomplete : Node.isComplete metadata.labels = true) (source' : SecretSource)
    (factory' : ResolverFactory) (http : Script (Except RemoteError Response)) :
    (updateNodeLabels settings source' factory' { outside with http := http }).trace =
      (updateNodeLabels settings source factory outside).trace := by
  have hsame : reading settings { outside with http := http } =
      (reading settings outside).mapSupply fun outside => { outside with http := http } :=
    @Cluster.node_mapSupply (fun outside => { outside with http := http }) (fun _ => rfl)
      (fun _ => rfl) .standard settings.nodeName outside
  have hread' : (reading settings { outside with http := http }).result =
      .ok ⟨some metadata⟩ := by
    rw [hsame]
    exact hread
  rw [updateNodeLabels_of_complete hname hread hcomplete,
    updateNodeLabels_of_complete hname hread' hcomplete, hsame]
  rfl

theorem secretLine_mem_obtaining (settings : Settings) (source : SecretSource) (outside : Outside) :
    Credentials.secretLine ∈ (obtaining settings source outside).trace.logLines := by
  unfold obtaining Credentials.obtain
  rw [Run.bind_apply_of_ok (Run.log_apply _ _ _)]
  exact List.mem_cons_self

/-- A run that finds its node incomplete goes on to the credentials. -/
theorem trace_of_incomplete (hname : settings.nodeName ≠ "") {metadata : Metadata}
    (hread : (reading settings outside).result = .ok ⟨some metadata⟩)
    (hincomplete : Node.isComplete metadata.labels = false) :
    ∃ rest, (updateNodeLabels settings source factory outside).trace =
      .logged openingLine :: ((reading settings outside).trace ++
        ((obtaining settings source outside).trace ++ rest)) := by
  rw [updateNodeLabels_of_incomplete hname hread hincomplete]
  cases hobtained : (obtaining settings source outside).result with
  | error fault =>
      rw [labelNode_of_unobtained hobtained]
      exact ⟨[], by rw [List.append_nil]⟩
  | ok credentials =>
      have hobtain : (Credentials.obtain settings source .own .standard
          (reading settings outside).supply).result = .ok credentials := hobtained
      rw [labelNode, Run.bind_of_result_ok hobtain]
      exact ⟨_, rfl⟩

/-- A run that finds its node incomplete says that it turns to its secrets. -/
theorem secretLine_of_incomplete (hname : settings.nodeName ≠ "") {metadata : Metadata}
    (hread : (reading settings outside).result = .ok ⟨some metadata⟩)
    (hincomplete : Node.isComplete metadata.labels = false) :
    Credentials.secretLine ∈
      (updateNodeLabels settings source factory outside).trace.logLines := by
  obtain ⟨rest, htrace⟩ := trace_of_incomplete hname hread hincomplete
  rw [htrace]
  change _ ∈ openingLine :: Trace.logLines _
  rw [Trace.logLines_append, Trace.logLines_append, List.mem_cons, List.mem_append,
    List.mem_append]
  exact Or.inr (Or.inr (Or.inl (secretLine_mem_obtaining settings source outside)))

/-- A run that ends with true leaves one accepted write, of a node with the labels laid over it. -/
theorem Ending.accepted {trace : Trace}
    (hending : Ending settings source outside (.ok true) trace) :
    ∃ (base : Metadata) (placement : Placement) (kept : Option Node),
      trace.filter Event.isAcceptedWrite =
        [.nodeReplaced settings.nodeName (base.withPlacement placement) (.ok kept)] := by
  have hone := (hending.truthful.1.mp rfl).1
  rw [List.countP_eq_length_filter, List.length_eq_one_iff] at hone
  obtain ⟨event, hevent⟩ := hone
  obtain ⟨hmem, haccepted⟩ := List.mem_filter.mp (hevent ▸ List.mem_singleton_self event)
  rcases hending.unwritten_or_written with ⟨_, hresult⟩ | ⟨_, _, placement, hwritten⟩
  · exact absurd rfl hresult
  · cases event with
    | nodeReplaced asked sent answer =>
        cases answer with
        | error e => cases haccepted
        | ok kept =>
            obtain ⟨before, after, hsplit⟩ := List.append_of_mem hmem
            obtain ⟨base, _, hsent⟩ := hwritten.sent hsplit
            have hasked : asked = settings.nodeName := hending.isFor _ hmem
            exact ⟨base, placement, kept, by rw [hevent, hasked, hsent]⟩
    | _ => cases haccepted

/-- A run that reads a node with the marker and the instance label leaves everything alone, and its
trace depends neither on the secrets nor on the HTTP service.  One that reads a node without them
goes on to the secrets.  After a run that ended with true, the one node that the cluster accepted is
of the first kind, so that any run against a cluster that serves it leaves everything alone. -/
theorem labelled_nodes_are_left_alone :
    (∀ (settings : Settings) (outside : Outside) (labels : Labels), settings.nodeName ≠ "" →
      outside.Serves (.labelled (some labels)) → labels.has LabelKey.marker = true →
      labels.has LabelKey.instanceId = true →
      ∀ (source : SecretSource) (factory : ResolverFactory),
        LeavesAlone (updateNodeLabels settings source factory outside) ∧
        ∀ (source' : SecretSource) (factory' : ResolverFactory)
            (http : Script (Except RemoteError Response)),
          (updateNodeLabels settings source' factory' { outside with http := http }).trace =
            (updateNodeLabels settings source factory outside).trace) ∧
    (∀ (settings : Settings) (outside : Outside) (labels : Option Labels), settings.nodeName ≠ "" →
      outside.Serves (.labelled labels) →
      (∀ given, labels = some given →
        given.has LabelKey.marker = false ∨ given.has LabelKey.instanceId = false) →
      ∀ (source : SecretSource) (factory : ResolverFactory),
        let trace := (updateNodeLabels settings source factory outside).trace
        Credentials.secretLine ∈ trace.logLines ∧
        ∃ rest, trace = .logged openingLine :: ((reading settings outside).trace ++
          ((obtaining settings source outside).trace ++ rest))) ∧
    ∀ (settings : Settings) (source : SecretSource) (outside : Outside),
      let first := updateNodeLabels settings source ResolverFactory.service outside
      first.result = .ok true →
      ∃ (labels : Labels) (kept : Option Node),
        first.trace.filter Event.isAcceptedWrite =
          [.nodeReplaced settings.nodeName (.labelled (some labels)) (.ok kept)] ∧
        labels.has LabelKey.marker = true ∧ labels.has LabelKey.instanceId = true ∧
        ∀ (settings' : Settings) (source' : SecretSource) (factory' : ResolverFactory)
            (outside' : Outside), settings'.nodeName ≠ "" →
          outside'.Serves (.labelled (some labels)) →
          LeavesAlone (updateNodeLabels settings' source' factory' outside') := by
  refine ⟨?_, ?_, ?_⟩
  · intro settings outside labels hname hserves hmarker hinstance source factory
    have hcomplete := labels.areComplete_iff.mpr ⟨hmarker, hinstance⟩
    have hread := Cluster.result_node_of_serves hserves settings.nodeName
    exact ⟨leavesAlone_of_complete hname hread hcomplete,
      trace_of_complete hname hread hcomplete⟩
  · intro settings outside labels hname hserves hlacking source factory
    have hincomplete := Node.isComplete_eq_false_of_lacking hlacking
    have hread := Cluster.result_node_of_serves hserves settings.nodeName
    exact ⟨secretLine_of_incomplete hname hread hincomplete,
      trace_of_incomplete hname hread hincomplete⟩
  · intro settings source outside first htrue
    have hending : Ending settings source outside (.ok true) first.trace :=
      htrue ▸ updateNodeLabels_ending settings source outside
    obtain ⟨base, placement, kept, haccepted⟩ := hending.accepted
    have hcomplete := (base.overlaid_describe placement).areComplete
    obtain ⟨hmarker, hinstance⟩ := (Labels.areComplete_iff _).mp hcomplete
    refine ⟨base.overlaid placement, kept, haccepted, hmarker, hinstance, ?_⟩
    intro settings' source' factory' outside' hname hserves
    exact leavesAlone_of_complete hname (Cluster.result_node_of_serves hserves _) hcomplete

/-- A labelled node is left alone although the first attempt to read it fails. -/
theorem labelled_node_is_left_alone_after_a_failed_read :
    let settings : Settings := ⟨"worker", "/etc/secret", false, false, false, .retry⟩
    let labels : Labels := [(LabelKey.marker, "true"), (LabelKey.instanceId, "id-7")]
    let busy : RemoteError := .refused (.int 503) (.text "Unavailable") .null
    let outside : Outside :=
      ⟨⟨.error busy, []⟩, ⟨.error busy, [.ok (some (.labelled (some labels)))]⟩, ⟨.kept, []⟩⟩
    LeavesAlone
      (updateNodeLabels settings (.file .absent) ResolverFactory.service outside) := by
  intro settings labels busy outside
  have hserves : outside.Serves (.labelled (some labels)) := by
    refine ⟨1, by decide, fun i hi => ⟨busy, ?_, rfl⟩, rfl⟩
    rw [Nat.lt_one_iff] at hi
    rw [hi]
    rfl
  exact (labelled_nodes_are_left_alone.1 settings outside labels (by decide) hserves rfl rfl _ _).1

end Program

end NodeTopology
