import NodeTopology.Proofs.LabelRun
/-!
What the end of a run says about the node.  Main statements: a run ends with true exactly if one
write was accepted and nothing was asked of the cluster after it; any other end means that no write
was accepted; it ends with false only if the node was complete or a lost write was to be left; and
the process succeeds only in one of these three situations.
-/

namespace NodeTopology

namespace Trace

/-- One write was accepted, and it is the last call on the cluster. -/
def EndsWithOnlyAcceptedWrite (trace : Trace) : Prop :=
  trace.countP Event.isAcceptedWrite = 1 ∧
    ∃ call ∈ trace.clusterCalls.getLast?, call.isAcceptedWrite = true

/-- The node that was read carries the marker and the instance label, and nothing was written. -/
def FindsComplete (trace : Trace) : Prop :=
  ∃ labels : Labels, trace.nodesRead = [some (.labelled (some labels))] ∧
    labels.has LabelKey.marker = true ∧ labels.has LabelKey.instanceId = true ∧ trace.writes = []

/-- The only write was lost against another writer. -/
def LosesOnlyWrite (trace : Trace) : Prop :=
  ∃ name sent e, trace.writes = [.nodeReplaced name sent (.error e)] ∧ e.isConflict = true

section Views

variable {first second : Trace}

/-- What a run leaves on the cluster shows in its calls on the cluster alone. -/
theorem EndsWithOnlyAcceptedWrite.of_clusterCalls_eq
    (hcalls : second.clusterCalls = first.clusterCalls)
    (hfirst : first.EndsWithOnlyAcceptedWrite) : second.EndsWithOnlyAcceptedWrite := by
  rw [EndsWithOnlyAcceptedWrite, ← countP_isAcceptedWrite_clusterCalls] at hfirst ⊢
  rw [hcalls]
  exact hfirst

theorem FindsComplete.of_clusterCalls_eq (hcalls : second.clusterCalls = first.clusterCalls)
    (hfirst : first.FindsComplete) : second.FindsComplete := by
  rw [FindsComplete, ← nodesRead_clusterCalls, ← writes_clusterCalls] at hfirst ⊢
  rw [hcalls]
  exact hfirst

theorem LosesOnlyWrite.of_clusterCalls_eq (hcalls : second.clusterCalls = first.clusterCalls)
    (hfirst : first.LosesOnlyWrite) : second.LosesOnlyWrite := by
  rw [LosesOnlyWrite, ← writes_clusterCalls] at hfirst ⊢
  rw [hcalls]
  exact hfirst

end Views

end Trace

namespace Program

variable {settings : Settings} {source : SecretSource} {outside : Outside}
  {result : Except Fault Bool} {trace : Trace}

/-- A run that ends with false without a write has found the node complete. -/
theorem Ending.findsComplete_or_written
    (hending : Ending settings source outside (.ok false) trace) :
    trace.FindsComplete ∨ ∃ metadata credentials placement,
      Written settings source outside metadata credentials placement (.ok false) trace := by
  cases hending with
  | complete hname metadata hread hcomplete =>
      rcases metadata with ⟨_ | labels⟩
      · cases hcomplete
      · obtain ⟨hmarker, hinstance⟩ := labels.areComplete_iff.mp hcomplete
        refine Or.inl ⟨labels, ?_, hmarker, hinstance, writes_complete settings outside⟩
        rw [← Trace.nodesRead_clusterCalls, clusterCalls_complete, Trace.nodesRead_clusterCalls]
        exact Cluster.nodesRead_node hread
  | written hname hincomplete hwritten => exact Or.inr ⟨_, _, _, hwritten⟩

section Written

variable {metadata : Metadata} {credentials : Credentials} {placement : Placement}

/-- Of the calls of a run that writes, the accepted ones are those of the writing. -/
theorem Written.countP_isAcceptedWrite
    (hwritten : Written settings source outside metadata credentials placement result trace) :
    trace.countP Event.isAcceptedWrite =
      (writing settings source outside metadata credentials placement).trace.countP
        Event.isAcceptedWrite := by
  have hreading :=
    Trace.countP_isAcceptedWrite_of_writes_eq_nil (writes_reading settings outside)
  rw [← Trace.countP_isAcceptedWrite_clusterCalls, hwritten.clusterCalls_eq, List.countP_append,
    Trace.countP_isAcceptedWrite_clusterCalls, Trace.countP_isAcceptedWrite_clusterCalls, hreading,
    Nat.zero_add]

/-- A run that writes and ends with true ends with its only accepted write. -/
theorem Written.endsWithOnlyAcceptedWrite
    (hwritten : Written settings source outside metadata credentials placement (.ok true) trace) :
    trace.EndsWithOnlyAcceptedWrite := by
  have hattempts := attempts_updaterFor_pos settings metadata credentials
  obtain ⟨honly, _⟩ := Updater.accepted_writeAndSettle _ settings.nodeName placement hattempts
    (metadata.withPlacement placement) (locating settings source outside credentials).supply
  obtain ⟨hone, call, hlast, haccepted⟩ := honly hwritten.result_eq.symm
  refine ⟨hwritten.countP_isAcceptedWrite.trans hone, call, ?_, haccepted⟩
  have hlast' : (writing settings source outside metadata credentials
      placement).trace.clusterCalls.getLast? = some call := hlast
  rw [hwritten.clusterCalls_eq, List.getLast?_append, hlast']
  rfl

/-- A run that writes and does not end with true leaves no accepted write. -/
theorem Written.countP_eq_zero
    (hwritten : Written settings source outside metadata credentials placement result trace)
    (hfailed : result ≠ .ok true) : trace.countP Event.isAcceptedWrite = 0 := by
  have hattempts := attempts_updaterFor_pos settings metadata credentials
  obtain ⟨_, hnone⟩ := Updater.accepted_writeAndSettle _ settings.nodeName placement hattempts
    (metadata.withPlacement placement) (locating settings source outside credentials).supply
  rw [hwritten.countP_isAcceptedWrite]
  exact hnone fun htrue => hfailed (hwritten.result_eq.trans htrue)

/-- A run that writes and ends with false lost its only write and was to leave it so. -/
theorem Written.losesOnlyWrite
    (hwritten : Written settings source outside metadata credentials placement (.ok false) trace) :
    settings.policy = .ignore ∧ trace.LosesOnlyWrite := by
  obtain ⟨hpolicy, e, hconflict, honlyCall⟩ :=
    Updater.writeAndSettle_left _ _ _ hwritten.result_eq.symm
  refine ⟨hpolicy, settings.nodeName, metadata.withPlacement placement, e, ?_, hconflict⟩
  rw [← Trace.writes_clusterCalls, hwritten.clusterCalls_eq, Trace.writes_append,
    Trace.writes_clusterCalls, writes_reading]
  exact congrArg Trace.writes honlyCall

end Written

theorem Ending.countP_eq_zero (hending : Ending settings source outside result trace)
    (hfailed : result ≠ .ok true) : trace.countP Event.isAcceptedWrite = 0 := by
  rcases hending.unwritten_or_written with ⟨hwrites, _⟩ | ⟨_, _, _, hwritten⟩
  · exact Trace.countP_isAcceptedWrite_of_writes_eq_nil hwrites
  · exact hwritten.countP_eq_zero hfailed

theorem Ending.truthful (hending : Ending settings source outside result trace) :
    (result = .ok true ↔ trace.EndsWithOnlyAcceptedWrite) ∧
      (result ≠ .ok true → trace.countP Event.isAcceptedWrite = 0) ∧
      (result = .ok false →
        trace.FindsComplete ∨ settings.policy = .ignore ∧ trace.LosesOnlyWrite) := by
  refine ⟨⟨?_, ?_⟩, hending.countP_eq_zero, ?_⟩
  · rintro rfl
    rcases hending.unwritten_or_written with ⟨_, hresult⟩ | ⟨_, _, _, hwritten⟩
    · exact absurd rfl hresult
    · exact hwritten.endsWithOnlyAcceptedWrite
  · rintro ⟨hone, _⟩
    by_cases htrue : result = .ok true
    · exact htrue
    · rw [hending.countP_eq_zero htrue] at hone
      exact absurd hone Nat.zero_ne_one
  · rintro rfl
    rcases hending.findsComplete_or_written with hcomplete | ⟨_, _, _, hwritten⟩
    · exact Or.inl hcomplete
    · exact Or.inr hwritten.losesOnlyWrite

end Program

namespace Cluster

theorem connect_emits {σ : Type} (configs : Configs) :
    (connect configs : Run σ Unit).Emits fun event => event.isClusterCall = false := by
  refine Run.Emits.bind (Run.Emits.emit rfl) fun _ => ?_
  split
  · exact Run.Emits.pure _
  · refine Run.Emits.bind (Run.Emits.emit rfl) fun _ => ?_
    refine Run.Emits.bind (Run.Emits.emit rfl) fun _ => ?_
    split
    · exact Run.Emits.pure _
    · split
      · exact Run.Emits.throw _
      · exact Run.Emits.throw _
  · exact Run.Emits.throw _

end Cluster

namespace Program

theorem result_reportFault_ne_success (settings : Settings) (fault : Fault) (outside : Outside) :
    (reportFault settings fault outside).result ≠ .ok .success := by
  unfold reportFault
  cases fault.isReported with
  | false => simp
  | true =>
      intro hsuccess
      cases hsuccess

/-- A process that succeeds has labelled its node, with the same calls on the cluster. -/
theorem run_success {environment : Environment} {configs : Cluster.Configs} {file : SecretFile}
    {outside : Outside} (hsuccess : (run environment configs file outside).result = .ok .success) :
    ∃ settings rest labelled, Settings.ofEnvironment environment = .ok settings ∧
      (updateNodeLabels settings (.file file) ResolverFactory.service rest).result =
        .ok labelled ∧
      (run environment configs file outside).trace.clusterCalls =
        (updateNodeLabels settings (.file file) ResolverFactory.service
          rest).trace.clusterCalls := by
  unfold run at hsuccess ⊢
  cases hsettings : Settings.ofEnvironment environment with
  | error fault =>
      rw [hsettings] at hsuccess
      cases hsuccess
  | ok settings =>
      rw [hsettings] at hsuccess
      dsimp only at hsuccess ⊢
      unfold runWith at hsuccess ⊢
      obtain ⟨_, _, hworked, htrace⟩ := Run.exists_of_bind_ok hsuccess
      obtain ⟨ended, hended, hreported, hlater⟩ := Run.exists_of_bind_ok hworked
      cases ended with
      | error fault => exact absurd hreported (result_reportFault_ne_success settings fault _)
      | ok =>
          have hwork : (work settings configs file outside).result = .ok () :=
            Except.ok.inj hended
          obtain ⟨_, hconnected, hlabelling, hfirst⟩ := Run.exists_of_bind_ok hwork
          obtain ⟨labelled, hlabelled, _, hsecond⟩ := Run.exists_of_bind_ok hlabelling
          refine ⟨settings, _, labelled, rfl, hlabelled, ?_⟩
          have hconnecting : (Cluster.connect configs outside).trace.clusterCalls = [] :=
            Trace.clusterCalls_of_emits (Cluster.connect_emits configs) outside
          have hwhole : (work settings configs file outside).trace.clusterCalls =
              (updateNodeLabels settings (.file file) ResolverFactory.service
                (Cluster.connect configs outside).supply).trace.clusterCalls := by
            rw [work, hfirst, hsecond, Trace.clusterCalls_append, Trace.clusterCalls_append,
              hconnecting]
            exact List.append_nil _
          rw [htrace, hlater, Trace.clusterCalls_append, Trace.clusterCalls_append]
          exact (List.append_nil _).trans hwhole

/-- A process succeeds only after one write was accepted as the last call on the cluster, or after
it found the node complete, or after its only write was lost under the policy that leaves it so. -/
theorem run_success_cases {environment : Environment} {configs : Cluster.Configs}
    {file : SecretFile} {outside : Outside}
    (hsuccess : (run environment configs file outside).result = .ok .success) :
    ∃ settings, Settings.ofEnvironment environment = .ok settings ∧
      ((run environment configs file outside).trace.EndsWithOnlyAcceptedWrite ∨
        (run environment configs file outside).trace.FindsComplete ∨
        settings.policy = .ignore ∧
          (run environment configs file outside).trace.LosesOnlyWrite) := by
  obtain ⟨settings, rest, labelled, hsettings, hlabelled, hcalls⟩ := run_success hsuccess
  obtain ⟨htrue, _, hfalse⟩ :=
    (updateNodeLabels_ending settings (.file file) rest).truthful
  refine ⟨settings, hsettings, ?_⟩
  cases labelled with
  | true => exact Or.inl ((htrue.mp hlabelled).of_clusterCalls_eq hcalls)
  | false =>
      rcases hfalse hlabelled with hcomplete | ⟨hpolicy, hlost⟩
      · exact Or.inr (Or.inl (hcomplete.of_clusterCalls_eq hcalls))
      · exact Or.inr (Or.inr ⟨hpolicy, hlost.of_clusterCalls_eq hcalls⟩)

/-- The end of a run tells what was written.  It is true exactly if one write was accepted, as the
last call on the cluster; after any other end none was.  It is false only if the node was complete
or the only write was lost under the policy that leaves it so.  The process succeeds in no other
situation than these three. -/
theorem end_tells_what_was_written :
    (∀ (settings : Settings) (source : SecretSource) (outside : Outside),
      let outcome := updateNodeLabels settings source ResolverFactory.service outside
      (outcome.result = .ok true ↔ outcome.trace.EndsWithOnlyAcceptedWrite) ∧
        (outcome.result ≠ .ok true → outcome.trace.countP Event.isAcceptedWrite = 0) ∧
        (outcome.result = .ok false →
          outcome.trace.FindsComplete ∨
            settings.policy = .ignore ∧ outcome.trace.LosesOnlyWrite)) ∧
      ∀ (environment : Environment) (configs : Cluster.Configs) (file : SecretFile)
        (outside : Outside),
        let process := run environment configs file outside
        process.result = .ok .success →
          ∃ settings, Settings.ofEnvironment environment = .ok settings ∧
            (process.trace.EndsWithOnlyAcceptedWrite ∨ process.trace.FindsComplete ∨
              settings.policy = .ignore ∧ process.trace.LosesOnlyWrite) :=
  ⟨fun settings source outside => (updateNodeLabels_ending settings source outside).truthful,
    fun _ _ _ _ hsuccess => run_success_cases hsuccess⟩

end Program

end NodeTopology
