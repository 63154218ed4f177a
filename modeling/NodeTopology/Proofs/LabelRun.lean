import NodeTopology.Program
import NodeTopology.Proofs.ConflictProtocol
import NodeTopology.Proofs.InstanceListing
/-!
The stages of a whole run.  A run reads its node, obtains credentials, finds the machine behind the
node and writes; each stage begins where the one before it ended well.  Main statement: every run
ends in one of seven ways, each with all the events of the stages that it went through.
-/

namespace NodeTopology

namespace Program

/-- The first line of every run that has a node to label. -/
def openingLine : LogLine := ⟨.info, "Getting node details"⟩

def completeLine : LogLine := ⟨.info, "Required labels already present on the worker node"⟩

def reading (settings : Settings) (outside : Outside) : Outcome Outside Node :=
  Cluster.node .standard settings.nodeName outside

/-- The credentials stage. -/
def obtaining (settings : Settings) (source : SecretSource) (outside : Outside) :
    Outcome Outside Credentials :=
  Credentials.obtain settings source .own .standard (reading settings outside).supply

/-- The search for the machine. -/
def locating (settings : Settings) (source : SecretSource) (outside : Outside)
    (credentials : Credentials) : Outcome Outside Placement :=
  (InstanceService.resolver ⟨credentials, .own, .standard⟩).placementOf (some settings.nodeName)
    (obtaining settings source outside).supply

def updaterFor (settings : Settings) (metadata : Metadata) (credentials : Credentials) : Updater :=
  ⟨some ⟨some metadata⟩, InstanceService.resolver ⟨credentials, .own, .standard⟩, settings.policy,
    .forConflicts⟩

theorem attempts_updaterFor_pos (settings : Settings) (metadata : Metadata)
    (credentials : Credentials) : 0 < (updaterFor settings metadata credentials).budget.attempts :=
  show 0 < Budget.forConflicts.attempts by decide

/-- The writing of the labels, which is the last stage. -/
def writing (settings : Settings) (source : SecretSource) (outside : Outside) (metadata : Metadata)
    (credentials : Credentials) (placement : Placement) : Outcome Outside Bool :=
  (updaterFor settings metadata credentials).writeAndSettle settings.nodeName placement
    (metadata.withPlacement placement) (locating settings source outside credentials).supply

/-- A run that came to write: each stage before ended well. -/
structure Written (settings : Settings) (source : SecretSource) (outside : Outside)
    (metadata : Metadata) (credentials : Credentials) (placement : Placement)
    (result : Except Fault Bool) (trace : Trace) : Prop where
  read : (reading settings outside).result = .ok ⟨some metadata⟩
  obtained : (obtaining settings source outside).result = .ok credentials
  located : (locating settings source outside credentials).result = .ok placement
  result_eq : result = (writing settings source outside metadata credentials placement).result
  trace_eq : trace =
    .logged openingLine :: ((reading settings outside).trace ++
      ((obtaining settings source outside).trace ++
        ((locating settings source outside credentials).trace ++
          (writing settings source outside metadata credentials placement).trace)))

/-- The ways in which a run can end, with the events that it leaves. -/
inductive Ending (settings : Settings) (source : SecretSource) (outside : Outside) :
    Except Fault Bool → Trace → Prop where
  | nameless (hname : settings.nodeName = "") :
      Ending settings source outside (.error (.configuration .noNodeName)) []
  | unread (hname : settings.nodeName ≠ "") (fault : Fault)
      (hread : (reading settings outside).result = .error fault) :
      Ending settings source outside (.error fault)
        (.logged openingLine :: (reading settings outside).trace)
  | bare (hname : settings.nodeName ≠ "")
      (hread : (reading settings outside).result = .ok ⟨none⟩) :
      Ending settings source outside (.error (.misuse .noSuchMember))
        (.logged openingLine :: (reading settings outside).trace)
  | complete (hname : settings.nodeName ≠ "") (metadata : Metadata)
      (hread : (reading settings outside).result = .ok ⟨some metadata⟩)
      (hcomplete : Node.isComplete metadata.labels = true) :
      Ending settings source outside (.ok false)
        (.logged openingLine :: ((reading settings outside).trace ++ [.logged completeLine]))
  | unobtained (hname : settings.nodeName ≠ "") (metadata : Metadata) (fault : Fault)
      (hread : (reading settings outside).result = .ok ⟨some metadata⟩)
      (hincomplete : Node.isComplete metadata.labels = false)
      (hobtained : (obtaining settings source outside).result = .error fault) :
      Ending settings source outside (.error fault)
        (.logged openingLine :: ((reading settings outside).trace ++
          (obtaining settings source outside).trace))
  | unlocated (hname : settings.nodeName ≠ "") (metadata : Metadata) (credentials : Credentials)
      (fault : Fault) (hread : (reading settings outside).result = .ok ⟨some metadata⟩)
      (hincomplete : Node.isComplete metadata.labels = false)
      (hobtained : (obtaining settings source outside).result = .ok credentials)
      (hlocated : (locating settings source outside credentials).result = .error fault) :
      Ending settings source outside (.error fault)
        (.logged openingLine :: ((reading settings outside).trace ++
          ((obtaining settings source outside).trace ++
            (locating settings source outside credentials).trace)))
  | written (hname : settings.nodeName ≠ "") {metadata : Metadata} {credentials : Credentials}
      {placement : Placement} {result : Except Fault Bool} {trace : Trace}
      (hincomplete : Node.isComplete metadata.labels = false)
      (hwritten : Written settings source outside metadata credentials placement result trace) :
      Ending settings source outside result trace

section Stages

variable {settings : Settings} {source : SecretSource} {factory : ResolverFactory}
  {outside : Outside}

theorem updateNodeLabels_of_nameless (hname : settings.nodeName = "") :
    updateNodeLabels settings source factory outside =
      ⟨.error (.configuration .noNodeName), [], outside⟩ := by
  unfold updateNodeLabels
  rw [hname]
  rfl

/-- What follows the reading of the node. -/
def labelUnlessComplete (settings : Settings) (source : SecretSource) (factory : ResolverFactory)
    (node : Node) : Run Outside Bool :=
  match node.metadata with
  | none => throw (.misuse .noSuchMember)
  | some metadata =>
      if Node.isComplete metadata.labels then do
        Run.log .info "Required labels already present on the worker node"
        return false
      else labelNode settings node source factory

theorem updateNodeLabels_of_name (hname : settings.nodeName ≠ "") :
    updateNodeLabels settings source factory = (do
      Run.log .info "Getting node details"
      let node ← Cluster.node .standard settings.nodeName
      labelUnlessComplete settings source factory node) :=
  if_neg (by simpa using hname)

theorem updateNodeLabels_of_unread (hname : settings.nodeName ≠ "") {fault : Fault}
    (hread : (reading settings outside).result = .error fault) :
    updateNodeLabels settings source factory outside =
      ⟨.error fault, .logged openingLine :: (reading settings outside).trace,
        (reading settings outside).supply⟩ := by
  have hfailed : (Cluster.node .standard settings.nodeName outside).result = .error fault := hread
  rw [updateNodeLabels_of_name hname, Run.bind_apply_of_ok (Run.log_apply _ _ _),
    Run.bind_of_result_error hfailed]
  rfl

theorem updateNodeLabels_of_read (hname : settings.nodeName ≠ "") {node : Node}
    (hread : (reading settings outside).result = .ok node) :
    let next := labelUnlessComplete settings source factory node (reading settings outside).supply
    updateNodeLabels settings source factory outside =
      ⟨next.result, .logged openingLine :: ((reading settings outside).trace ++ next.trace),
        next.supply⟩ := by
  have hfound : (Cluster.node .standard settings.nodeName outside).result = .ok node := hread
  rw [updateNodeLabels_of_name hname, Run.bind_apply_of_ok (Run.log_apply _ _ _),
    Run.bind_of_result_ok hfound]
  rfl

theorem updateNodeLabels_of_complete (hname : settings.nodeName ≠ "") {metadata : Metadata}
    (hread : (reading settings outside).result = .ok ⟨some metadata⟩)
    (hcomplete : Node.isComplete metadata.labels = true) :
    updateNodeLabels settings source factory outside =
      ⟨.ok false,
        .logged openingLine :: ((reading settings outside).trace ++ [.logged completeLine]),
        (reading settings outside).supply⟩ := by
  rw [updateNodeLabels_of_read hname hread, labelUnlessComplete]
  simp only [hcomplete, ↓reduceIte]
  rfl

theorem updateNodeLabels_of_incomplete (hname : settings.nodeName ≠ "") {metadata : Metadata}
    (hread : (reading settings outside).result = .ok ⟨some metadata⟩)
    (hincomplete : Node.isComplete metadata.labels = false) :
    let labelling := labelNode settings ⟨some metadata⟩ source factory
      (reading settings outside).supply
    updateNodeLabels settings source factory outside =
      ⟨labelling.result,
        .logged openingLine :: ((reading settings outside).trace ++ labelling.trace),
        labelling.supply⟩ := by
  rw [updateNodeLabels_of_read hname hread, labelUnlessComplete]
  simp only [hincomplete, Bool.false_eq_true, ↓reduceIte]

theorem labelNode_of_unobtained {node : Node} {fault : Fault}
    (hobtained : (obtaining settings source outside).result = .error fault) :
    labelNode settings node source factory (reading settings outside).supply =
      ⟨.error fault, (obtaining settings source outside).trace,
        (obtaining settings source outside).supply⟩ :=
  Run.bind_of_result_error hobtained _

theorem labelNode_of_obtained {metadata : Metadata} {credentials : Credentials}
    (hobtained : (obtaining settings source outside).result = .ok credentials) :
    let updated := (updaterFor settings metadata credentials).update settings.nodeName
      (obtaining settings source outside).supply
    labelNode settings ⟨some metadata⟩ source ResolverFactory.service
        (reading settings outside).supply =
      ⟨updated.result, (obtaining settings source outside).trace ++ updated.trace,
        updated.supply⟩ :=
  Run.bind_of_result_ok hobtained _

theorem update_of_unlocated {metadata : Metadata} {credentials : Credentials} {fault : Fault}
    (hlocated : (locating settings source outside credentials).result = .error fault) :
    (updaterFor settings metadata credentials).update settings.nodeName
        (obtaining settings source outside).supply =
      ⟨.error fault, (locating settings source outside credentials).trace,
        (locating settings source outside credentials).supply⟩ :=
  Updater.update_apply_of_no_placement hlocated

theorem update_of_located {metadata : Metadata} {credentials : Credentials} {placement : Placement}
    (hlocated : (locating settings source outside credentials).result = .ok placement) :
    let written := writing settings source outside metadata credentials placement
    (updaterFor settings metadata credentials).update settings.nodeName
        (obtaining settings source outside).supply =
      ⟨written.result, (locating settings source outside credentials).trace ++ written.trace,
        written.supply⟩ :=
  Updater.update_apply_of_placement rfl hlocated

/-- Every run ends in one of the seven ways. -/
theorem updateNodeLabels_ending (settings : Settings) (source : SecretSource) (outside : Outside) :
    Ending settings source outside
      (updateNodeLabels settings source ResolverFactory.service outside).result
      (updateNodeLabels settings source ResolverFactory.service outside).trace := by
  by_cases hname : settings.nodeName = ""
  · rw [updateNodeLabels_of_nameless hname]
    exact .nameless hname
  cases hread : (reading settings outside).result with
  | error fault =>
      rw [updateNodeLabels_of_unread hname hread]
      exact .unread hname fault hread
  | ok node =>
      rcases node with ⟨_ | metadata⟩
      · have hrun : updateNodeLabels settings source ResolverFactory.service outside =
            ⟨.error (.misuse .noSuchMember),
              .logged openingLine :: ((reading settings outside).trace ++ []),
              (reading settings outside).supply⟩ := updateNodeLabels_of_read hname hread
        rw [hrun, List.append_nil]
        exact .bare hname hread
      · cases hcomplete : Node.isComplete metadata.labels with
        | true =>
            rw [updateNodeLabels_of_complete hname hread hcomplete]
            exact .complete hname metadata hread hcomplete
        | false =>
            rw [updateNodeLabels_of_incomplete hname hread hcomplete]
            cases hobtained : (obtaining settings source outside).result with
            | error fault =>
                rw [labelNode_of_unobtained hobtained]
                exact .unobtained hname metadata fault hread hcomplete hobtained
            | ok credentials =>
                rw [labelNode_of_obtained hobtained]
                cases hlocated : (locating settings source outside credentials).result with
                | error fault =>
                    rw [update_of_unlocated hlocated]
                    exact .unlocated hname metadata credentials fault hread hcomplete hobtained
                      hlocated
                | ok placement =>
                    rw [update_of_located hlocated]
                    exact .written hname hcomplete ⟨hread, hobtained, hlocated, rfl, rfl⟩

end Stages

section Traces

variable (settings : Settings) (source : SecretSource) (outside : Outside)
  (credentials : Credentials)

theorem writes_reading : (reading settings outside).trace.writes = [] := by
  rw [Trace.writes, List.filter_eq_nil_iff]
  intro event hevent
  have hbelongs := Cluster.node_emits .standard settings.nodeName outside event hevent
  rw [hbelongs.isWrite_eq_false]
  exact Bool.false_ne_true

/-- A run that finds its node complete calls the cluster for nothing but its reading. -/
theorem clusterCalls_complete :
    Trace.clusterCalls
        (.logged openingLine :: ((reading settings outside).trace ++ [.logged completeLine])) =
      (reading settings outside).trace.clusterCalls := by
  simp

theorem writes_complete :
    Trace.writes
        (.logged openingLine :: ((reading settings outside).trace ++ [.logged completeLine])) =
      [] := by
  rw [← Trace.writes_clusterCalls, clusterCalls_complete, Trace.writes_clusterCalls,
    writes_reading]

theorem machines_reading : (reading settings outside).trace.machines = [] := by
  apply Trace.machines_of_forall
  intro event hevent
  have hbelongs := Cluster.node_emits .standard settings.nodeName outside event hevent
  exact hbelongs.belongsToUpdate.page?_eq_none

theorem clusterCalls_obtaining : (obtaining settings source outside).trace.clusterCalls = [] :=
  Trace.clusterCalls_of_forall_isAside (Credentials.obtain_emits settings source .own .standard _)

theorem machines_obtaining : (obtaining settings source outside).trace.machines = [] :=
  Trace.machines_of_forall fun event hevent =>
    (Credentials.obtain_emits settings source .own .standard _ event hevent).2

theorem clusterCalls_locating :
    (locating settings source outside credentials).trace.clusterCalls = [] := by
  refine Trace.clusterCalls_of_emits (Resolver.placementOf_emits (fun _ => rfl) ?_ _) _
  exact InstanceService.instances_emits (InstanceService.permits_isClusterCall_eq_false _)

theorem machines_writing (metadata : Metadata) (placement : Placement) :
    (writing settings source outside metadata credentials placement).trace.machines = [] := by
  apply Trace.machines_of_forall
  intro event hevent
  exact (Updater.writeAndSettle_emits _ _ _ _ _ event hevent).page?_eq_none

end Traces

section Written

variable {settings : Settings} {source : SecretSource} {outside : Outside} {metadata : Metadata}
  {credentials : Credentials} {placement : Placement} {result : Except Fault Bool} {trace : Trace}

/-- The calls of a run that writes are those of its reading and of its writing. -/
theorem Written.clusterCalls_eq
    (hwritten : Written settings source outside metadata credentials placement result trace) :
    trace.clusterCalls = (reading settings outside).trace.clusterCalls ++
      (writing settings source outside metadata credentials placement).trace.clusterCalls := by
  rw [hwritten.trace_eq]
  simp [clusterCalls_obtaining, clusterCalls_locating]

/-- The instances that a run fetches are those of its search. -/
theorem Written.machines_eq
    (hwritten : Written settings source outside metadata credentials placement result trace) :
    trace.machines = (locating settings source outside credentials).trace.machines := by
  rw [hwritten.trace_eq]
  simp [machines_reading, machines_obtaining, machines_writing]

/-- A run that does not write calls the cluster for nothing but its reading. -/
theorem Ending.read_only_or_written (hending : Ending settings source outside result trace) :
    (trace.clusterCalls = [] ∨
        trace.clusterCalls = (reading settings outside).trace.clusterCalls) ∧
        result ≠ .ok true ∨
      ∃ metadata credentials placement,
        Written settings source outside metadata credentials placement result trace := by
  cases hending with
  | nameless => exact Or.inl ⟨Or.inl rfl, by simp⟩
  | unread => exact Or.inl ⟨Or.inr (by simp), by simp⟩
  | bare => exact Or.inl ⟨Or.inr (by simp), by simp⟩
  | complete => exact Or.inl ⟨Or.inr (clusterCalls_complete _ _), by simp⟩
  | unobtained => exact Or.inl ⟨Or.inr (by simp [clusterCalls_obtaining]), by simp⟩
  | unlocated =>
      exact Or.inl ⟨Or.inr (by simp [clusterCalls_obtaining, clusterCalls_locating]), by simp⟩
  | written hname hincomplete hwritten => exact Or.inr ⟨_, _, _, hwritten⟩

/-- A run writes nothing but in its last stage. -/
theorem Ending.unwritten_or_written (hending : Ending settings source outside result trace) :
    trace.writes = [] ∧ result ≠ .ok true ∨
      ∃ metadata credentials placement,
        Written settings source outside metadata credentials placement result trace := by
  rcases hending.read_only_or_written with ⟨hcalls, hresult⟩ | hwritten
  · refine Or.inl ⟨?_, hresult⟩
    rw [← Trace.writes_clusterCalls]
    rcases hcalls with hcalls | hcalls
    · rw [hcalls]
      rfl
    · rw [hcalls, Trace.writes_clusterCalls, writes_reading]
  · exact Or.inr hwritten

end Written

end Program

end NodeTopology
