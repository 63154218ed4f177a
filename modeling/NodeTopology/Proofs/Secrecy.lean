import NodeTopology.Proofs.LooksAlike
/-!
Secrets stay out of sight.  Main statement: of two runs whose secret files and token responses
differ in nothing but their secrets, whoever sees the log, the waits, the calls on the cluster and
the addresses of the requests sees the same, and both end in the same way.
-/

namespace NodeTopology

open Run (LooksAlike)

namespace Trace

/-- The pages that were asked for: their addresses, and the filters that went along. -/
def fetches (trace : Trace) : List (Value × Option String) :=
  trace.filterMap fun
    | .requested (.get url filter _) _ => some (url, filter)
    | _ => none

variable {β : Type} {first second : Trace}

/-- What depends on nothing but the sight of events is the same for traces that look alike. -/
theorem filterMap_eq_of_sights (hsights : first.map Event.sight = second.map Event.sight)
    {view : Event → Option β} (ofSight : Sight → Option β)
    (hview : ∀ event, view event = ofSight event.sight) :
    first.filterMap view = second.filterMap view := by
  have hfactor : ∀ trace : Trace, trace.filterMap view =
      (trace.map Event.sight).filterMap ofSight := by
    intro trace
    rw [List.filterMap_map]
    exact List.filterMap_congr fun event _ => hview event
  rw [hfactor, hfactor, hsights]

theorem filterMap_eq_of_whole (hsights : first.map Event.sight = second.map Event.sight)
    {view : Event → Option β} (hquiet : ∀ request answer, view (.requested request answer) = none) :
    first.filterMap view = second.filterMap view := by
  apply filterMap_eq_of_sights hsights
    (fun | .whole event => view event | _ => none)
  intro event
  cases event with
  | requested request answer => cases request <;> exact hquiet _ _
  | _ => rfl

theorem clusterCalls_eq_of_sights (hsights : first.map Event.sight = second.map Event.sight) :
    first.clusterCalls = second.clusterCalls := by
  rw [clusterCalls_eq_filter, clusterCalls_eq_filter, ← List.filterMap_eq_filter]
  exact filterMap_eq_of_whole hsights fun _ _ => rfl

theorem fetches_eq_of_sights (hsights : first.map Event.sight = second.map Event.sight) :
    first.fetches = second.fetches := by
  apply filterMap_eq_of_sights hsights
    (fun | .fetch url filter => some (url, filter) | _ => none)
  intro event
  cases event with
  | requested request answer => cases request <;> rfl
  | _ => rfl

end Trace

theorem Value.eq_ok_of_texts? {ε : Type} {value : Except ε Value} {texts : Entries String}
    (htexts : value.toOption.bind texts? = some texts) :
    value = .ok (.table (texts.map fun entry => (entry.1, .text entry.2))) := by
  cases value with
  | error e => cases htexts
  | ok value => rw [eq_of_texts? htexts]

namespace Program

section Pairs

variable {settings : Settings} {file file' : SecretFile} {room : FileRoom}
  {entries entries' : Entries Value}

/-- Nodes are labelled alike from files that differ in secrets only. -/
theorem labelNode_alike (hfile : file.Holds room entries) (hfile' : file'.Holds room entries')
    (hdiffer : DifferInSecrets (sectionSecret settings) entries entries') (node : Node) :
    LooksAlike Eq (labelNode settings node (.file file) ResolverFactory.service)
      (labelNode settings node (.file file') ResolverFactory.service) := by
  apply Run.Alike.bind (Credentials.obtain_alike hfile hfile' hdiffer .own .standard)
  intro credentials credentials' halike
  apply Run.Alike.bind (V := fun resolver resolver' => ∀ filter,
    LooksAlike Eq (resolver.list filter) (resolver'.list filter))
  · exact Run.Alike.pure (InstanceService.instances_alike ⟨halike, rfl, rfl⟩)
  · intro resolver resolver' hlist
    exact Updater.update_alike hlist _ _ _ _

theorem updateNodeLabels_alike (hfile : file.Holds room entries)
    (hfile' : file'.Holds room entries')
    (hdiffer : DifferInSecrets (sectionSecret settings) entries entries') :
    LooksAlike Eq (updateNodeLabels settings (.file file) ResolverFactory.service)
      (updateNodeLabels settings (.file file') ResolverFactory.service) := by
  unfold updateNodeLabels
  dsimp only
  split
  · exact Run.Alike.throw_bind _ _ _
  · apply Run.Alike.log_bind
    apply Run.Alike.bind_same (Cluster.node_alike .standard settings.nodeName)
    intro node
    split
    · exact Run.Alike.throw _
    · split
      · exact Run.Alike.log_bind (Run.Alike.pure rfl)
      · exact labelNode_alike hfile hfile' hdiffer node

/-- Runs that differ in secrets only end in the same way, with the same log, waits, calls on the
cluster and addresses: only the forms and authorizations of requests can tell them apart. -/
theorem secrets_stay_out_of_sight {outside outside' : Outside}
    (hfile : file.Holds room entries) (hfile' : file'.Holds room entries')
    (hdiffer : DifferInSecrets (sectionSecret settings) entries entries')
    (houtside : outside.Alike outside') :
    let run := updateNodeLabels settings (.file file) ResolverFactory.service outside
    let run' := updateNodeLabels settings (.file file') ResolverFactory.service outside'
    run.result = run'.result ∧ run.trace.logLines = run'.trace.logLines ∧
      run.trace.sleeps = run'.trace.sleeps ∧ run.trace.clusterCalls = run'.trace.clusterCalls ∧
      run.trace.fetches = run'.trace.fetches ∧
      run.trace.map Event.sight = run'.trace.map Event.sight := by
  obtain ⟨hresult, hsights, _⟩ := updateNodeLabels_alike hfile hfile' hdiffer houtside
  refine ⟨hresult.eq, ?_, ?_, ?_, ?_, hsights⟩
  · exact Trace.filterMap_eq_of_whole hsights fun _ _ => rfl
  · exact Trace.filterMap_eq_of_whole hsights fun _ _ => rfl
  · exact Trace.clusterCalls_eq_of_sights hsights
  · exact Trace.fetches_eq_of_sights hsights

end Pairs

/-- Two clusters with keys and tokens of their own label their nodes alike. -/
theorem clusters_with_other_secrets_look_alike :
    let settings : Settings := ⟨"worker", "/etc/secret", false, true, false, .retry⟩
    let file : String → String → SecretFile := fun key secret => .bytes (Text.utf8Bytes
      ("[VPC]\ng2_riaas_endpoint_url = \"vpc\"\n" ++
        "g2_token_exchange_endpoint_url = \"iam\"\n" ++
        "g2_api_key = \"" ++ key ++ "\"\niam_client_secret = \"" ++ secret ++ "\"\n"))
      .standard
    let response : String → Response := fun token => ⟨200, "\x7b\"access_token\": \"" ++ token ++
      "\", \"token_type\": \"Bearer\"\x7d", .standard⟩
    let machines : Response := ⟨200, "\x7b\"instances\": [\x7b\"id\": \"id-7\", " ++
      "\"name\": \"worker\", \"zone\": \x7b\"name\": \"us-south-1\"\x7d\x7d]\x7d", .standard⟩
    let outside : String → Outside := fun token =>
      ⟨⟨.ok (response token), [.ok machines]⟩, ⟨.ok (some (.labelled none)), []⟩, ⟨.kept, []⟩⟩
    let run := updateNodeLabels settings (.file (file "b25l" "lock")) ResolverFactory.service
      (outside "first token")
    let run' := updateNodeLabels settings (.file (file "dHdv" "bolt")) ResolverFactory.service
      (outside "second token")
    run.result.toOption = some true ∧ run.result = run'.result ∧
      run.trace.logLines = run'.trace.logLines ∧
      run.trace.clusterCalls = run'.trace.clusterCalls := by
  intro settings file response machines outside run run'
  let entries : String → String → Entries Value := fun key secret =>
    [("g2_riaas_endpoint_url", .text "vpc"),
      ("g2_token_exchange_endpoint_url", .text "iam"), ("g2_api_key", .text key),
      ("iam_client_secret", .text secret)]
  have hfile : (file "b25l" "lock").Holds .standard (entries "b25l" "lock") :=
    @SecretFile.holds_of_texts _ _ [("g2_riaas_endpoint_url", "vpc"),
      ("g2_token_exchange_endpoint_url", "iam"), ("g2_api_key", "b25l"),
      ("iam_client_secret", "lock")] (by decide +kernel)
  have hfile' : (file "dHdv" "bolt").Holds .standard (entries "dHdv" "bolt") :=
    @SecretFile.holds_of_texts _ _ [("g2_riaas_endpoint_url", "vpc"),
      ("g2_token_exchange_endpoint_url", "iam"), ("g2_api_key", "dHdv"),
      ("iam_client_secret", "bolt")] (by decide +kernel)
  have hkey : ∀ key ∈ ["b25l", "dHdv"], sectionSecret settings "g2_api_key" key := by
    intro key hkey
    refine ⟨?_, .inl ⟨rfl, fun _ => ?_⟩⟩
    · revert key
      decide
    · revert key
      decide +kernel
  have hclient : ∀ secret, secret ≠ "" → sectionSecret settings "iam_client_secret" secret :=
    fun secret hfull => ⟨hfull, .inr (.inr rfl)⟩
  have hdiffer : DifferInSecrets (sectionSecret settings) (entries "b25l" "lock")
      (entries "dHdv" "bolt") :=
    .cons (.same _) (.cons (.same _) (.cons (.texts (hkey _ (by simp)) (hkey _ (by simp)))
      (.cons (.texts (hclient "lock" (by decide)) (hclient "bolt" (by decide))) .nil)))
  have hresponse : Response.Alike (response "first token") (response "second token") := by
    apply Response.Alike.tokens
    · exact @Value.eq_ok_of_texts? _ _ [("access_token", "first token"),
        ("token_type", "Bearer")] (by decide +kernel)
    · exact @Value.eq_ok_of_texts? _ _ [("access_token", "second token"),
        ("token_type", "Bearer")] (by decide +kernel)
    · exact .cons (.texts (.inl ⟨rfl, by decide⟩) (.inl ⟨rfl, by decide⟩)) (.cons (.same _) .nil)
  have houtside : (outside "first token").Alike (outside "second token") :=
    ⟨⟨.ok hresponse, .cons (.ok (.same _)) .nil⟩, rfl, rfl⟩
  obtain ⟨hresult, hlines, _, hcalls, _⟩ :=
    secrets_stay_out_of_sight hfile hfile' hdiffer houtside
  refine ⟨?_, hresult, hlines, hcalls⟩
  dsimp +zetaDelta only
  decide +kernel

end Program

end NodeTopology
