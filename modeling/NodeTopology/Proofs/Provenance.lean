import NodeTopology.Proofs.LabelRun
/-!
Where every write of a run comes from.  Main statements: a run calls the cluster for no node but its
own; it writes only after credentials were obtained and a machine was found; and every write sends
the node read last before it, with the seven labels of one machine laid over it, namely of the first
on all pages that were fetched that answers to the node's name.
-/

namespace NodeTopology

namespace Event

/-- A call on the cluster is for the node of this name. -/
def IsFor (name : String) : Event → Prop
  | nodeRead asked _ => asked = name
  | nodeReplaced asked _ _ => asked = name
  | _ => True

theorem BelongsToUpdate.isFor {name : String} {event : Event}
    (hbelongs : event.BelongsToUpdate name) : event.IsFor name := by
  cases event with
  | nodeRead => exact hbelongs
  | nodeReplaced => exact hbelongs
  | _ => trivial

theorem isFor_of_isClusterCall_eq_false {name : String} {event : Event}
    (hcall : event.isClusterCall = false) : event.IsFor name := by
  cases event with
  | nodeRead => cases hcall
  | nodeReplaced => cases hcall
  | _ => trivial

end Event

/-- What is not in the first part of a trace comes after all of it. -/
theorem Trace.exists_between {first second before after : Trace} {event : Event}
    (hsplit : first ++ second = before ++ event :: after) (hfirst : event ∉ first) :
    ∃ between, before = first ++ between ∧ second = between ++ event :: after := by
  rcases List.append_eq_append_iff.mp hsplit with ⟨between, hbefore, hsecond⟩ |
    ⟨rest, hrest, hafter⟩
  · exact ⟨between, hbefore, hsecond⟩
  · cases rest with
    | nil =>
        rw [List.append_nil] at hrest
        exact ⟨[], by rw [hrest, List.append_nil], hafter.symm⟩
    | cons other rest =>
        rw [List.cons_append, List.cons.injEq] at hafter
        refine absurd ?_ hfirst
        rw [hrest, hafter.1]
        exact List.mem_append_right _ List.mem_cons_self

namespace Program

variable {settings : Settings} {source : SecretSource} {outside : Outside}
  {result : Except Fault Bool} {trace : Trace}

/-- A run calls the cluster for no node but its own. -/
theorem Ending.isFor (hending : Ending settings source outside result trace) :
    ∀ event ∈ trace, event.IsFor settings.nodeName := by
  have hreading : ∀ call ∈ (reading settings outside).trace.clusterCalls,
      call.IsFor settings.nodeName := fun call hcall =>
    (Cluster.node_emits .standard settings.nodeName outside call
      (Trace.mem_clusterCalls.mp hcall).1).belongsToUpdate.isFor
  have hcalls : ∀ call ∈ trace.clusterCalls, call.IsFor settings.nodeName := by
    rcases hending.read_only_or_written with ⟨hnone | hread, _⟩ | ⟨_, _, _, hwritten⟩
    · rw [hnone]
      intro call hcall
      cases hcall
    · rw [hread]
      exact hreading
    · rw [hwritten.clusterCalls_eq]
      intro call hcall
      rcases List.mem_append.mp hcall with hcall | hcall
      · exact hreading call hcall
      · exact (Updater.writeAndSettle_emits _ _ _ _ _ call
          (Trace.mem_clusterCalls.mp hcall).1).isFor
  intro event hevent
  cases hcall : event.isClusterCall with
  | true => exact hcalls event (Trace.mem_clusterCalls.mpr ⟨hevent, hcall⟩)
  | false => exact Event.isFor_of_isClusterCall_eq_false hcall

section Written

variable {metadata : Metadata} {credentials : Credentials} {placement : Placement}

/-- Every write of a run sends the node read last before it, with the labels laid over it. -/
theorem Written.sent
    (hwritten : Written settings source outside metadata credentials placement result trace)
    {before after : Trace} {asked : String} {sent : Node}
    {answer : Except RemoteError (Option Node)}
    (hsplit : trace = before ++ .nodeReplaced asked sent answer :: after) :
    ∃ base, before.nodesRead.getLast? = some (some ⟨some base⟩) ∧
      sent = base.withPlacement placement := by
  have hcalls := Trace.clusterCalls_of_split hsplit
  rw [hwritten.clusterCalls_eq] at hcalls
  have hread : Event.nodeReplaced asked sent answer ∉
      (reading settings outside).trace.clusterCalls := by
    intro hmem
    have hwrites := writes_reading settings outside
    rw [Trace.writes, List.filter_eq_nil_iff] at hwrites
    exact hwrites _ (Trace.mem_clusterCalls.mp hmem).1 rfl
  obtain ⟨between, hbefore, hwriting⟩ := Trace.exists_between hcalls hread
  obtain ⟨base, hbase, hsent⟩ := Updater.sent_writeAndSettle _ _ _ metadata _ hwriting
  have hfirst : (reading settings outside).trace.nodesRead = [some ⟨some metadata⟩] :=
    Cluster.nodesRead_node hwritten.read
  refine ⟨base, ?_, hsent⟩
  rw [← Trace.nodesRead_clusterCalls, hbefore, Trace.nodesRead_append,
    Trace.nodesRead_clusterCalls, hfirst, List.singleton_append, List.getLast?_cons, hbase]

/-- The machine of a run is the first on all its pages that answers to the node's name. -/
theorem Written.machine
    (hwritten : Written settings source outside metadata credentials placement result trace) :
    ∃ machine, trace.machines.find? (·.answersTo settings.nodeName) = some machine ∧
      Resolver.Locates machine placement := by
  rw [hwritten.machines_eq]
  exact Resolver.placementOf_ok (InstanceService.showsWhatItLists _) hwritten.located

end Written

/-- Where the writes of a run come from.  All its calls on the cluster are for the node that the
settings name.  If it writes at all, its credentials were obtained and its machine was found: the
first on all pages of the run that answers to the name.  Every write then sends the node read last
before it, with the seven labels of this machine and all its other labels as they were.  Without
credentials or without a machine nothing is written. -/
theorem every_write_is_for_the_machine_found (settings : Settings) (source : SecretSource)
    (outside : Outside) :
    let trace := (updateNodeLabels settings source ResolverFactory.service outside).trace
    let obtained := obtaining settings source outside
    (∀ event ∈ trace, event.IsFor settings.nodeName) ∧
      (trace.writes ≠ [] → ∃ credentials placement machine,
        obtained.result = .ok credentials ∧
        (locating settings source outside credentials).result = .ok placement ∧
        (∃ rest, trace = .logged openingLine :: ((reading settings outside).trace ++
          (obtained.trace ++ ((locating settings source outside credentials).trace ++ rest)))) ∧
        trace.machines.find? (·.answersTo settings.nodeName) = some machine ∧
        Resolver.Locates machine placement ∧
        ∀ (before after : Trace) (asked : String) (sent : Node)
            (answer : Except RemoteError (Option Node)),
          trace = before ++ .nodeReplaced asked sent answer :: after →
          ∃ base, before.nodesRead.getLast? = some (some ⟨some base⟩) ∧
            sent = base.withPlacement placement ∧
            sent.Relabels base machine.id placement.region machine.zoneName) ∧
      (∀ fault, obtained.result = .error fault → trace.writes = []) ∧
      ∀ credentials fault, obtained.result = .ok credentials →
        (locating settings source outside credentials).result = .error fault →
        trace.writes = [] := by
  have hending := updateNodeLabels_ending settings source outside
  dsimp only
  generalize (updateNodeLabels settings source ResolverFactory.service outside).trace = trace
    at hending ⊢
  refine ⟨hending.isFor, ?_, ?_, ?_⟩
  · intro hwrites
    rcases hending.unwritten_or_written with ⟨hnone, _⟩ |
      ⟨metadata, credentials, placement, hwritten⟩
    · exact absurd hnone hwrites
    · obtain ⟨machine, hfirst, hlocates⟩ := hwritten.machine
      refine ⟨credentials, placement, machine, hwritten.obtained, hwritten.located,
        ⟨_, hwritten.trace_eq⟩, hfirst, hlocates, ?_⟩
      intro before after asked sent answer hsplit
      obtain ⟨base, hbase, hsent⟩ := hwritten.sent hsplit
      refine ⟨base, hbase, hsent, ?_⟩
      rw [hsent, ← hlocates.instanceId, ← hlocates.zone]
      exact base.withPlacement_relabels placement
  · intro fault hfault
    rcases hending.unwritten_or_written with ⟨hnone, _⟩ | ⟨_, _, _, hwritten⟩
    · exact hnone
    · rw [hwritten.obtained] at hfault
      cases hfault
  · intro credentials fault hobtained hfault
    rcases hending.unwritten_or_written with ⟨hnone, _⟩ | ⟨_, _, _, hwritten⟩
    · exact hnone
    · rw [hwritten.obtained] at hobtained
      cases hobtained
      rw [hwritten.located] at hfault
      cases hfault

end Program

end NodeTopology
