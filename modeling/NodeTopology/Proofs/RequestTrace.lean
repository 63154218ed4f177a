import NodeTopology.SecretSource
import NodeTopology.Proofs.ClusterTrace
/-!
What passes between a run and the HTTP services.  Main statements: a request that is answered shows
the answer as the last of its calls, after calls that had none; and to obtain credentials neither
calls the cluster nor fetches a page of instances, whatever the source and the answers.
-/

namespace NodeTopology

/-- The page that an event fetched, if it fetched one: the answer to a page request that reports no
error and holds a page. -/
def Event.page? : Event → Option Page
  | requested (.get _ _ _) (.ok response) =>
      if response.isOk then (response.decode Page.ofValue).toOption else none
  | _ => none

/-- The pages of instances that were fetched, in order. -/
def Trace.pages (trace : Trace) : List Page := trace.filterMap Event.page?

def Trace.machines (trace : Trace) : List Instance := trace.pages.flatMap (·.instances)

/-- An event that neither calls the cluster nor fetches a page of instances. -/
def Event.IsAside (event : Event) : Prop := event.isClusterCall = false ∧ event.page? = none

theorem Event.BelongsToUpdate.page?_eq_none {name : String} {event : Event}
    (hbelongs : event.BelongsToUpdate name) : event.page? = none := by
  cases event with
  | requested => cases hbelongs
  | _ => rfl

namespace Trace

@[simp] theorem pages_append (first second : Trace) :
    pages (first ++ second) = first.pages ++ second.pages :=
  List.filterMap_append ..

@[simp] theorem machines_append (first second : Trace) :
    machines (first ++ second) = first.machines ++ second.machines := by
  rw [machines, pages_append, List.flatMap_append]
  rfl

@[simp] theorem machines_logged (line : LogLine) (trace : Trace) :
    machines (.logged line :: trace) = trace.machines := rfl

theorem machines_of_forall {trace : Trace} (hnone : ∀ event ∈ trace, event.page? = none) :
    trace.machines = [] := by
  rw [machines, pages, List.filterMap_eq_nil_iff.mpr hnone]
  rfl

theorem clusterCalls_of_forall_isAside {trace : Trace} (haside : ∀ event ∈ trace, event.IsAside) :
    trace.clusterCalls = [] := by
  rw [clusterCalls_eq_filter, List.filter_eq_nil_iff]
  intro event hevent
  rw [(haside event hevent).1]
  exact Bool.false_ne_true

end Trace

namespace Outside

def requestAttempt (prepare : Run Outside Request) :
    Run Outside (Attempt RemoteError Response) := do
  match ← call (← prepare) with
  | .ok response => pure (.success response)
  | .error e =>
      if e.isRequest then pure (.failure e (!e.isConnection)) else throw (.escaped e)

theorem request_eq (budget : Budget) (prepare : Run Outside Request) :
    request budget prepare = Retry.run RemoteError.text budget (requestAttempt prepare) := rfl

/-- What an attempt of a request comes to. -/
def requestOutcome : Except RemoteError Response → Except Fault (Attempt RemoteError Response)
  | .ok response => .ok (.success response)
  | .error e => if e.isRequest then .ok (.failure e (!e.isConnection)) else .error (.escaped e)

/-- An attempt of a request takes the next answer and shows it. -/
theorem requestAttempt_apply (request : Request) (outside : Outside) :
    requestAttempt (pure request) outside =
      ⟨requestOutcome outside.http.first, [.requested request outside.http.first],
        { outside with http := outside.http.rest }⟩ := by
  have hprepare : (pure request : Run Outside Request) outside = ⟨.ok request, [], outside⟩ := rfl
  have hcall : call request outside =
      ⟨.ok outside.http.first, [.requested request outside.http.first],
        { outside with http := outside.http.rest }⟩ := rfl
  rw [requestAttempt, Run.bind_apply_of_ok hprepare, Run.bind_apply_of_ok hcall]
  cases outside.http.first with
  | ok response => rfl
  | error e => cases hrequest : e.isRequest <;> simp [requestOutcome, hrequest]

theorem request_emits {P : Event → Prop} (hlogged : ∀ line, P (.logged line))
    (hslept : ∀ milliseconds, P (.slept milliseconds)) {request : Request}
    (hrequested : ∀ answer, P (.requested request answer)) (budget : Budget) :
    (Outside.request budget (pure request)).Emits P := by
  rw [request_eq]
  apply Retry.run_emits (fun line _ => hlogged line) hslept
  intro outside event hevent
  rw [requestAttempt_apply, List.mem_singleton] at hevent
  subst hevent
  exact hrequested _

theorem request_throw_emits {P : Event → Prop} (hlogged : ∀ line, P (.logged line))
    (hslept : ∀ milliseconds, P (.slept milliseconds)) (fault : Fault) (budget : Budget) :
    (Outside.request budget (throw fault)).Emits P := by
  rw [request_eq]
  exact Retry.run_emits (fun line _ => hlogged line) hslept (Run.Emits.throw fault)

theorem result_request_throw_ne (fault : Fault) (budget : Budget) (outside : Outside)
    (answer : Except RemoteError Response) :
    (Outside.request budget (throw fault) outside).result ≠ .ok (some answer) := by
  rw [request_eq, Retry.run]
  have hattempt : requestAttempt (throw fault) outside = ⟨.error fault, [], outside⟩ := rfl
  cases budget.attempts.toNat with
  | zero => simp [Retry.attemptsFrom]
  | succ left =>
      rw [Retry.attemptsFrom_of_fault hattempt]
      simp

/-- Of the calls of a request only the last can have fetched a page. -/
theorem pages_request {request : Request} {budget : Budget} {outside : Outside}
    {response : Response}
    (hresult : (Outside.request budget (pure request) outside).result =
      .ok (some (.ok response))) :
    (Outside.request budget (pure request) outside).trace.pages =
      (Event.requested request (.ok response)).page?.toList := by
  rw [request_eq] at hresult ⊢
  have hfailed : ∀ supply e stop,
      (requestAttempt (pure request) supply).result = .ok ⟨.error e, stop⟩ →
      (requestAttempt (pure request) supply).trace.filterMap Event.page? = [] := by
    intro supply e stop herror
    rw [requestAttempt_apply] at herror ⊢
    cases hfirst : supply.http.first with
    | ok answered =>
        rw [hfirst] at herror
        cases herror
    | error e' => cases request <;> rfl
  obtain ⟨last, stop, hlast, hview⟩ := Retry.attemptsFrom_ok_inv Event.page?
    (fun _ => rfl) (fun _ => rfl) hfailed hresult
  have hanswer : last.http.first = .ok response := by
    rw [requestAttempt_apply] at hlast
    cases hfirst : last.http.first with
    | ok answered =>
        rw [hfirst] at hlast
        cases hlast
        rfl
    | error e =>
        rw [hfirst] at hlast
        simp only [requestOutcome] at hlast
        split at hlast <;> cases hlast
  rw [requestAttempt_apply, hanswer] at hview
  refine hview.trans ?_
  cases hpage : (Event.requested request (.ok response)).page? <;> simp [hpage]

end Outside

section Credentials

variable {σ : Type}

theorem Event.isAside_logged (line : LogLine) : (Event.logged line).IsAside := ⟨rfl, rfl⟩

theorem Event.isAside_slept (milliseconds : Int) : (Event.slept milliseconds).IsAside := ⟨rfl, rfl⟩

theorem Run.log_emits_aside (level : Level) (text : String) :
    (Run.log level text : Run σ Unit).Emits Event.IsAside :=
  Run.Emits.emit (Event.isAside_logged _)

theorem SecretFile.refuse_emits {α : Type} (path : String) (fault : FileFault) :
    (SecretFile.refuse path fault : Run σ α).Emits Event.IsAside :=
  Run.Emits.bind (Run.log_emits_aside _ _) fun _ => Run.Emits.throw _

theorem SecretFile.read_emits (file : SecretFile) (path : String) :
    (file.read path : Run σ (Entries Value)).Emits Event.IsAside := by
  apply Run.Emits.bind (Run.log_emits_aside _ _)
  intro _
  dsimp only
  split
  · exact Run.Emits.throw_bind _ _
  · cases file with
    | absent => exact SecretFile.refuse_emits path _
    | directory => exact SecretFile.refuse_emits path _
    | bytes content room =>
        dsimp only
        refine Run.Emits.bind (Run.Emits.orMisuse _ _) ?_
        intro text
        split
        · exact Run.Emits.pure _
        · exact SecretFile.refuse_emits path _
        · exact Run.Emits.throw _
        · exact Run.Emits.throw _

theorem Endpoint.secureValue_emits (value : Value) :
    (Endpoint.secureValue value : Run σ String).Emits Event.IsAside := by
  unfold Endpoint.secureValue
  split
  · unfold Endpoint.secure
    dsimp only
    split
    · exact Run.Emits.bind (Run.log_emits_aside _ _) fun _ => Run.Emits.pure _
    · exact Run.Emits.pure _
  · exact Run.Emits.throw _

theorem ApiKey.decodeValue_emits (value : Value) :
    (ApiKey.decodeValue value : Run σ String).Emits Event.IsAside := by
  unfold ApiKey.decodeValue
  split
  · exact Run.Emits.ofExcept _ _
  · exact Run.Emits.throw _

namespace Credentials

theorem ofProvider_emits (token url : Value) :
    (ofProvider token url : Run σ Credentials).Emits Event.IsAside :=
  Run.Emits.bind (Endpoint.secureValue_emits url) fun _ => Run.Emits.pure _

theorem ofSection_emits (source : VpcSection) (settings : Settings) (room : FileRoom) :
    (ofSection source settings room : Run σ Credentials).Emits Event.IsAside := by
  unfold ofSection
  extract_lets found
  have hfound : ∀ apiKey, (found apiKey).Emits Event.IsAside := by
    intro apiKey
    apply Run.Emits.bind (Endpoint.secureValue_emits _)
    intro endpoint
    apply Run.Emits.bind (Endpoint.secureValue_emits _)
    intro tokenEndpoint
    split
    · exact Run.Emits.throw _
    · exact Run.Emits.pure _
  split
  · apply Run.Emits.bind (Run.log_emits_aside _ _)
    intro _
    apply Run.Emits.bind (ApiKey.decodeValue_emits _)
    intro decoded
    exact Run.Emits.bind (Run.Emits.pure _) hfound
  · exact Run.Emits.bind (Run.Emits.pure _) hfound

theorem tokenOfAnswer_emits (url : Value) (answer : Option (Except RemoteError Response)) :
    (tokenOfAnswer url answer).Emits Event.IsAside := by
  unfold tokenOfAnswer
  split
  · exact Run.Emits.bind (Run.log_emits_aside _ _) fun _ => Run.Emits.throw _
  · exact Run.Emits.throw _
  · split
    · exact Run.Emits.bind (Run.log_emits_aside _ _) fun _ => Run.Emits.throw _
    · refine Run.Emits.bind (Run.Emits.ofExcept _ _) ?_
      intro token
      exact Run.Emits.bind (Run.log_emits_aside _ _) fun _ => Run.Emits.pure _

theorem exchange_emits (credentials : Credentials) (session : Session) (budget : Budget) :
    (credentials.exchange session budget).Emits Event.IsAside := by
  unfold exchange
  refine Run.Emits.use ⟨rfl, rfl⟩ ⟨rfl, rfl⟩ session ?_
  split
  · exact Run.Emits.bind
      (Outside.request_emits Event.isAside_logged Event.isAside_slept (fun _ => ⟨rfl, rfl⟩) budget)
      (tokenOfAnswer_emits _)
  · exact Run.Emits.throw _

/-- To obtain credentials neither calls the cluster nor fetches a page of instances. -/
theorem obtain_emits (settings : Settings) (source : SecretSource) (session : Session)
    (budget : Budget) : (obtain settings source session budget).Emits Event.IsAside := by
  apply Run.Emits.bind (Run.log_emits_aside _ _)
  intro _
  cases source with
  | provider token url => exact ofProvider_emits token url
  | file file =>
      apply Run.Emits.bind (file.read_emits _)
      intro table
      refine Run.Emits.bind (Run.Emits.ofExcept _ _) ?_
      intro found
      apply Run.Emits.bind (ofSection_emits found settings _)
      intro credentials
      exact Run.Emits.bind (credentials.exchange_emits session budget) fun _ => Run.Emits.pure _

end Credentials

end Credentials

end NodeTopology
