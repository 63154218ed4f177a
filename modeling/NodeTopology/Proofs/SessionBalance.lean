import NodeTopology.Proofs.CredentialPaths
/-!
Sessions of HTTP calls.  A piece of work without a session of its caller's opens one, makes all its
calls in it and closes it, whatever it comes to.  Main statements: over a run of such pieces as many
sessions were opened as closed after each of them, one for each, and every call is made while one is
open; a resolver lists the instances once for each query, in one session; and with a session of the
caller's none is opened or closed.
-/

namespace NodeTopology

/-- An event that neither opens nor closes a session. -/
def Event.KeepsSession (event : Event) : Prop := event ≠ .sessionOpened ∧ event ≠ .sessionClosed

theorem Event.keepsSession_logged (line : LogLine) : (Event.logged line).KeepsSession :=
  ⟨nofun, nofun⟩

theorem Event.keepsSession_slept (milliseconds : Int) : (Event.slept milliseconds).KeepsSession :=
  ⟨nofun, nofun⟩

theorem Event.keepsSession_requested (request : Request) (answer : Except RemoteError Response) :
    (Event.requested request answer).KeepsSession :=
  ⟨nofun, nofun⟩

namespace Trace

@[simp] theorem sessionsOpened_append (first second : Trace) :
    sessionsOpened (first ++ second) = first.sessionsOpened + second.sessionsOpened :=
  List.countP_append

@[simp] theorem sessionsOpened_opened (later : Trace) :
    sessionsOpened (.sessionOpened :: later) = later.sessionsOpened + 1 :=
  List.countP_cons_of_pos rfl

@[simp] theorem sessionsOpened_closed (later : Trace) :
    sessionsOpened (.sessionClosed :: later) = later.sessionsOpened := rfl

@[simp] theorem sessionsClosed_opened (later : Trace) :
    sessionsClosed (.sessionOpened :: later) = later.sessionsClosed := rfl

@[simp] theorem sessionsClosed_closed (later : Trace) :
    sessionsClosed (.sessionClosed :: later) = later.sessionsClosed + 1 :=
  List.countP_cons_of_pos rfl

theorem sessions_cons_of_keepsSession {event : Event} (hkeeps : event.KeepsSession)
    (later : Trace) :
    sessionsOpened (event :: later) = later.sessionsOpened ∧
      sessionsClosed (event :: later) = later.sessionsClosed := by
  cases event with
  | sessionOpened => exact absurd rfl hkeeps.1
  | sessionClosed => exact absurd rfl hkeeps.2
  | _ => exact ⟨rfl, rfl⟩

theorem sessionsOpened_of_keepsSession {trace : Trace}
    (hkeeps : ∀ event ∈ trace, event.KeepsSession) : trace.sessionsOpened = 0 := by
  induction trace with
  | nil => rfl
  | cons event trace ih =>
      obtain ⟨hfirst, hlater⟩ := List.forall_mem_cons.mp hkeeps
      rw [(sessions_cons_of_keepsSession hfirst trace).1, ih hlater]

/-- What is done from a point where a session is open, or is not, to another such point: none is
opened while one is open, and no call is made while none is. -/
inductive Leads : Bool → Trace → Bool → Prop
  | nil (state : Bool) : Leads state [] state
  | opened {later : Trace} {last : Bool} (hlater : Leads true later last) :
      Leads false (.sessionOpened :: later) last
  | closed {later : Trace} {last : Bool} (hlater : Leads false later last) :
      Leads true (.sessionClosed :: later) last
  | kept {state : Bool} {event : Event} {later : Trace} {last : Bool}
      (hkeeps : event.KeepsSession) (hcall : event.isHttpCall = true → state = true)
      (hlater : Leads state later last) : Leads state (event :: later) last

namespace Leads

variable {state last : Bool}

theorem append_iff {first second : Trace} :
    Leads state (first ++ second) last ↔
      ∃ between, Leads state first between ∧ Leads between second last := by
  induction first generalizing state with
  | nil =>
      constructor
      · exact fun hsecond => ⟨state, .nil state, hsecond⟩
      · rintro ⟨between, ⟨⟩, hsecond⟩
        exact hsecond
  | cons event first ih =>
      constructor
      · intro hall
        cases hall with
        | opened hlater =>
            obtain ⟨between, hfirst, hsecond⟩ := ih.mp hlater
            exact ⟨between, .opened hfirst, hsecond⟩
        | closed hlater =>
            obtain ⟨between, hfirst, hsecond⟩ := ih.mp hlater
            exact ⟨between, .closed hfirst, hsecond⟩
        | kept hkeeps hcall hlater =>
            obtain ⟨between, hfirst, hsecond⟩ := ih.mp hlater
            exact ⟨between, .kept hkeeps hcall hfirst, hsecond⟩
      · rintro ⟨between, hfirst, hsecond⟩
        cases hfirst with
        | opened hlater => exact .opened (ih.mpr ⟨between, hlater, hsecond⟩)
        | closed hlater => exact .closed (ih.mpr ⟨between, hlater, hsecond⟩)
        | kept hkeeps hcall hlater =>
            exact .kept hkeeps hcall (ih.mpr ⟨between, hlater, hsecond⟩)

theorem append {first second : Trace} {between : Bool} (hfirst : Leads state first between)
    (hsecond : Leads between second last) : Leads state (first ++ second) last :=
  append_iff.mpr ⟨between, hfirst, hsecond⟩

theorem lines (state : Bool) (lines : List LogLine) :
    Leads state (lines.map .logged) state := by
  induction lines with
  | nil => exact .nil state
  | cons line lines ih => exact .kept (Event.keepsSession_logged line) nofun ih

theorem within {trace : Trace} (hkeeps : ∀ event ∈ trace, event.KeepsSession) :
    Leads true trace true := by
  induction trace with
  | nil => exact .nil true
  | cons event trace ih =>
      obtain ⟨hfirst, hlater⟩ := List.forall_mem_cons.mp hkeeps
      exact .kept hfirst (fun _ => rfl) (ih hlater)

/-- The sessions that were opened were closed, but for the one that is open. -/
theorem opened_add_eq {trace : Trace} (hleads : Leads state trace last) :
    trace.sessionsOpened + state.toNat = trace.sessionsClosed + last.toNat := by
  induction hleads with
  | nil state => rfl
  | opened hlater ih =>
      rw [sessionsOpened_opened, sessionsClosed_opened]
      simp only [Bool.toNat_true, Bool.toNat_false] at ih ⊢
      omega
  | closed hlater ih =>
      rw [sessionsOpened_closed, sessionsClosed_closed]
      simp only [Bool.toNat_true, Bool.toNat_false] at ih ⊢
      omega
  | kept hkeeps hcall hlater ih =>
      obtain ⟨hopened, hclosed⟩ := sessions_cons_of_keepsSession hkeeps _
      rw [hopened, hclosed, ih]

end Leads

/-- All is done in one session: lines may come before it and after it, and nothing else does. -/
def InOneSession (trace : Trace) : Prop :=
  ∃ (before after : List LogLine) (inside : Trace), (∀ event ∈ inside, event.KeepsSession) ∧
    trace = before.map .logged ++ .sessionOpened :: (inside ++ .sessionClosed :: after.map .logged)

theorem InOneSession.with_lines {trace : Trace} (hone : trace.InOneSession)
    (before after : List LogLine) :
    InOneSession (before.map .logged ++ trace ++ after.map .logged) := by
  obtain ⟨before', after', inside, hinside, rfl⟩ := hone
  exact ⟨before ++ before', after' ++ after, inside, hinside, by simp⟩

theorem InOneSession.logged_cons {trace : Trace} (hone : trace.InOneSession) (line : LogLine) :
    InOneSession (.logged line :: trace) := by
  simpa using hone.with_lines [line] []

theorem InOneSession.leads {trace : Trace} (hone : trace.InOneSession) :
    Leads false trace false := by
  obtain ⟨before, after, inside, hinside, rfl⟩ := hone
  exact (Leads.lines false before).append
    (.opened ((Leads.within hinside).append (.closed (Leads.lines false after))))

theorem InOneSession.sessionsOpened_eq {trace : Trace} (hone : trace.InOneSession) :
    trace.sessionsOpened = 1 := by
  obtain ⟨before, after, inside, hinside, rfl⟩ := hone
  have hlines : ∀ lines : List LogLine, sessionsOpened (lines.map .logged) = 0 := by
    intro lines
    apply sessionsOpened_of_keepsSession
    intro event hevent
    obtain ⟨line, _, rfl⟩ := List.mem_map.mp hevent
    exact Event.keepsSession_logged line
  simp [hlines, sessionsOpened_of_keepsSession hinside]

/-- Pieces of work one after the other, each in a session of its own. -/
structure Balanced (pieces : List Trace) : Prop where
  /-- Each has one session, with all its calls in it. -/
  single : ∀ trace ∈ pieces, trace.InOneSession
  /-- After each of them, there were as many sessions as pieces, and all are closed. -/
  settled : ∀ done todo, pieces = done ++ todo →
    sessionsOpened done.flatten = done.length ∧ sessionsClosed done.flatten = done.length
  /-- At every call a session is open. -/
  inside : ∀ (before : Trace) (request : Request) (answer : Except RemoteError Response)
      (after : Trace), pieces.flatten = before ++ .requested request answer :: after →
      before.sessionsOpened = before.sessionsClosed + 1

theorem leads_flatten {pieces : List Trace} (hpieces : ∀ trace ∈ pieces, trace.InOneSession) :
    Leads false pieces.flatten false := by
  induction pieces with
  | nil => exact .nil false
  | cons trace pieces ih =>
      obtain ⟨hfirst, hlater⟩ := List.forall_mem_cons.mp hpieces
      exact hfirst.leads.append (ih hlater)

theorem sessionsOpened_flatten {pieces : List Trace}
    (hpieces : ∀ trace ∈ pieces, trace.InOneSession) :
    sessionsOpened pieces.flatten = pieces.length := by
  induction pieces with
  | nil => rfl
  | cons trace pieces ih =>
      obtain ⟨hfirst, hlater⟩ := List.forall_mem_cons.mp hpieces
      rw [List.flatten_cons, sessionsOpened_append, hfirst.sessionsOpened_eq, ih hlater,
        List.length_cons]
      omega

theorem balanced_of_forall {pieces : List Trace}
    (hpieces : ∀ trace ∈ pieces, trace.InOneSession) : Balanced pieces := by
  refine ⟨hpieces, ?_, ?_⟩
  · rintro done todo rfl
    have hdone : ∀ trace ∈ done, trace.InOneSession :=
      fun trace htrace => hpieces trace (List.mem_append_left todo htrace)
    have hopened := sessionsOpened_flatten hdone
    have hclosed := (leads_flatten hdone).opened_add_eq
    simp only [Bool.toNat_false, Nat.add_zero] at hclosed
    exact ⟨hopened, hclosed ▸ hopened⟩
  · intro before request answer after hsplit
    have hall := leads_flatten hpieces
    rw [hsplit] at hall
    obtain ⟨state, hbefore, hcall⟩ := Leads.append_iff.mp hall
    cases hcall with
    | kept hkeeps hopen hlater =>
        obtain rfl := hopen rfl
        simpa using hbefore.opened_add_eq

end Trace

/-- Work in a session of its own is done in that one session. -/
theorem Session.inOneSession_use_own {σ α : Type} {work : Run σ α}
    (hwork : work.Emits Event.KeepsSession) (supply : σ) :
    (Session.own.use work supply).trace.InOneSession :=
  ⟨[], [], (work supply).trace, hwork supply, rfl⟩

/-- A query of a resolver, as it went. -/
structure QueryStep where
  asked : Resolver.Query
  outside : Outside
  result : Except Fault Resolver.Finding
  trace : Trace

namespace Resolver

/-- A run lists the instances once, and leaves nothing else but lines. -/
def ListsOnce {α : Type} (resolver : Resolver) (x : Run Outside α) : Prop :=
  ∀ outside, ∃ (filter : Option String) (before after : List LogLine), (x outside).trace =
    before.map .logged ++ (resolver.list filter outside).trace ++ after.map .logged

namespace ListsOnce

variable {α β : Type} {resolver : Resolver}

theorem list_bind (filter : Option String) {f : List Instance → Run Outside α}
    (hthen : ∀ machines, ∃ ending, (f machines).Tells ending) :
    resolver.ListsOnce (resolver.list filter >>= f) := by
  intro outside
  rcases Run.bind_cases (resolver.list filter) f outside with
    ⟨fault, _, hbind⟩ | ⟨machines, _, hbind⟩
  · exact ⟨filter, [], [], by simp [hbind]⟩
  · obtain ⟨ending, htells⟩ := hthen machines
    obtain ⟨lines, hlines⟩ := htells (resolver.list filter outside).supply
    exact ⟨filter, [], lines, by simp [hbind, hlines]⟩

theorem log_bind {level : Level} {text : String} {f : Unit → Run Outside α}
    (hthen : resolver.ListsOnce (f ())) : resolver.ListsOnce (Run.log level text >>= f) := by
  intro outside
  obtain ⟨filter, before, after, htrace⟩ := hthen outside
  refine ⟨filter, ⟨level, text⟩ :: before, after, ?_⟩
  rw [Run.bind_apply_of_ok (Run.log_apply level text outside), htrace]
  rfl

theorem map {x : Run Outside α} (hx : resolver.ListsOnce x) (f : α → β) :
    resolver.ListsOnce (x >>= fun a => pure (f a)) := by
  intro outside
  rw [Run.bind_pure_apply]
  exact hx outside

end ListsOnce

section Query

variable (resolver : Resolver)

theorem search_listsOnce (filter : Option String) (fits : Instance → Bool)
    {report : Instance → Run Outside Placement}
    (hreport : ∀ machine, ∃ ending, (report machine).Tells ending) (fault : Fault) :
    resolver.ListsOnce (resolver.search filter fits report fault) := by
  apply ListsOnce.list_bind filter
  intro machines
  cases machines.find? fits with
  | some machine => exact hreport machine
  | none => exact ⟨_, Run.Tells.throw fault⟩

theorem byAddress_listsOnce (worker : Option String) :
    resolver.ListsOnce (resolver.byAddress worker) := by
  rw [byAddress_eq]
  apply search_listsOnce
  intro machine
  exact ⟨_, Run.Tells.log_bind (reportPlacement_tells machine)⟩

theorem byName_listsOnce (worker : Option String) :
    resolver.ListsOnce (resolver.byName worker) := by
  rw [byName_eq]
  apply search_listsOnce
  intro machine
  exact ⟨_, reportPlacement_tells machine⟩

theorem placementOf_listsOnce (worker : Option String) :
    resolver.ListsOnce (resolver.placementOf worker) := by
  rw [placementOf]
  by_cases haddress : worker.any isAddress = true
  · rw [if_pos haddress]
    exact .log_bind (resolver.byAddress_listsOnce worker)
  · rw [if_neg haddress]
    exact .log_bind (resolver.byName_listsOnce worker)

/-- Whatever is asked, the instances are listed once for it. -/
theorem ask_listsOnce (query : Query) : resolver.ListsOnce (resolver.ask query) := by
  cases query with
  | placement worker => exact (resolver.placementOf_listsOnce worker).map _
  | placementByAddress worker => exact (resolver.byAddress_listsOnce worker).map _
  | placementByName worker => exact (resolver.byName_listsOnce worker).map _
  | instances filter => exact ListsOnce.list_bind filter fun _ => ⟨_, Run.Tells.pure _⟩

/-- Queries one after the other, as they go. -/
def history : List Query → Outside → List QueryStep
  | [], _ => []
  | query :: rest, outside =>
      let run := resolver.ask query outside
      ⟨query, outside, run.result, run.trace⟩ :: history rest run.supply

/-- The history is what the queries come to. -/
theorem askAll_eq_history (queries : List Query) (outside : Outside) :
    let steps := resolver.history queries outside
    let run := resolver.askAll queries outside
    run.result = .ok (steps.map QueryStep.result) ∧
      run.trace = (steps.map QueryStep.trace).flatten ∧ steps.map QueryStep.asked = queries := by
  induction queries generalizing outside with
  | nil => exact ⟨rfl, rfl, rfl⟩
  | cons query rest ih =>
      have hasked : ((resolver.ask query).observe outside).result =
          .ok (resolver.ask query outside).result := rfl
      obtain ⟨hresult, htrace, hqueries⟩ := ih (resolver.ask query outside).supply
      dsimp only
      rw [askAll, Run.bind_of_result_ok hasked, Run.bind_pure_apply]
      refine ⟨?_, ?_, ?_⟩
      · exact congrArg (Except.map _) hresult
      · exact congrArg (_ ++ ·) htrace
      · exact congrArg (query :: ·) hqueries

/-- Each query lists the instances once, on the outside that those before it left. -/
theorem listsOnce_of_mem_history {queries : List Query} {outside : Outside} {step : QueryStep}
    (hstep : step ∈ resolver.history queries outside) :
    ∃ (filter : Option String) (before after : List LogLine), step.trace =
      before.map .logged ++ (resolver.list filter step.outside).trace ++ after.map .logged := by
  induction queries generalizing outside with
  | nil => cases hstep
  | cons query rest ih =>
      rcases List.mem_cons.mp hstep with rfl | hlater
      · exact resolver.ask_listsOnce query outside
      · exact ih hlater

end Query

end Resolver

namespace InstanceService

theorem page_keepsSession (service : InstanceService) (url : Value) (filter : Option String) :
    (service.page url filter).Emits Event.KeepsSession :=
  page_emits_of_requested Event.keepsSession_logged Event.keepsSession_slept
    (fun _ _ _ _ => Event.keepsSession_requested _ _) url filter

theorem allPages_keepsSession (service : InstanceService) (filter : Option String) :
    (service.allPages filter).Emits Event.KeepsSession :=
  allPages_emits service.page_keepsSession filter

theorem inOneSession_instances (credentials : Credentials) (budget : Budget)
    (filter : Option String) (outside : Outside) :
    (instances ⟨credentials, .own, budget⟩ filter outside).trace.InOneSession := by
  have hone := Session.inOneSession_use_own (allPages_keepsSession ⟨credentials, .own, budget⟩
    (filter.filter fun name => !name.isEmpty)) outside
  rw [instances_apply]
  exact hone.logged_cons _

theorem instances_keepsSession (credentials : Credentials) (budget : Budget)
    (filter : Option String) :
    (instances ⟨credentials, .given, budget⟩ filter).Emits Event.KeepsSession := by
  intro outside
  rw [instances_apply]
  exact List.forall_mem_cons.mpr
    ⟨Event.keepsSession_logged _, allPages_keepsSession _ _ outside⟩

end InstanceService

namespace Credentials

theorem tokenOfAnswer_keepsSession (url : Value)
    (answer : Option (Except RemoteError Response)) :
    (tokenOfAnswer url answer).Emits Event.KeepsSession := by
  intro outside event hevent
  obtain ⟨lines, hlines⟩ := tokenOfAnswer_tells url answer outside
  rw [hlines] at hevent
  obtain ⟨line, _, rfl⟩ := List.mem_map.mp hevent
  exact Event.keepsSession_logged line

/-- An exchange is its request and what comes of it, in the session that it has. -/
theorem exchange_eq_use (credentials : Credentials) (budget : Budget) :
    ∃ work : Run Outside AccessToken, work.Emits Event.KeepsSession ∧
      ∀ session, credentials.exchange session budget = session.use work := by
  refine ⟨_, ?_, fun session => rfl⟩
  cases credentials.basicAuth with
  | text secret =>
      have hrequest := Outside.request_emits Event.keepsSession_logged Event.keepsSession_slept
        (Event.keepsSession_requested (credentials.exchangeRequest secret)) budget
      exact Run.Emits.bind hrequest (tokenOfAnswer_keepsSession credentials.tokenUrl)
  | _ => exact Run.Emits.throw _

theorem inOneSession_exchange (credentials : Credentials) (budget : Budget) (outside : Outside) :
    (credentials.exchange .own budget outside).trace.InOneSession := by
  obtain ⟨work, hwork, hexchange⟩ := credentials.exchange_eq_use budget
  rw [hexchange]
  exact Session.inOneSession_use_own hwork outside

theorem exchange_keepsSession (credentials : Credentials) (budget : Budget) :
    (credentials.exchange .given budget).Emits Event.KeepsSession := by
  obtain ⟨work, hwork, hexchange⟩ := credentials.exchange_eq_use budget
  rw [hexchange]
  exact hwork

end Credentials

namespace Keeper

variable (session : Session) (budget : Budget)

theorem trace_perform (asked : TokenCall) (keeper : Keeper) :
    (perform session budget asked keeper).trace =
      (keeper.credentials.exchange session budget keeper.outside).trace := by
  cases asked with
  | exchange => rfl
  | refresh =>
      cases hexchange : (keeper.credentials.exchange session budget keeper.outside).result with
      | error fault => rw [perform, refresh_of_error session budget hexchange]
      | ok token => rw [perform, refresh_of_ok session budget hexchange]

theorem exchangesOnce_of_mem_history {asked : List TokenCall} {keeper : Keeper} {step : TokenStep}
    (hstep : step ∈ history session budget asked keeper) :
    ∃ before : Keeper, step.trace =
      (before.credentials.exchange session budget before.outside).trace := by
  induction asked generalizing keeper with
  | nil => cases hstep
  | cons first rest ih =>
      rcases List.mem_cons.mp hstep with rfl | hlater
      · exact ⟨keeper, trace_perform session budget first keeper⟩
      · exact ih hlater

end Keeper

/-- Sessions are balanced on every exit.  Whatever is asked of a resolver without a session of its
caller's, and whatever comes of it, each query is one listing, each listing is done in one session,
and after each query as many sessions were opened as closed, one for each; at every call one is
open.  The same holds for exchanges, whether their tokens are kept or not.  With a session of the
caller's none is opened or closed. -/
theorem sessions_are_balanced (credentials : Credentials) (budget : Budget) (outside : Outside) :
    (∀ queries : List Resolver.Query,
      let service : InstanceService := ⟨credentials, .own, budget⟩
      let steps := service.resolver.history queries outside
      let run := service.resolver.askAll queries outside
      (run.result = .ok (steps.map QueryStep.result) ∧
        run.trace = (steps.map QueryStep.trace).flatten ∧ steps.map QueryStep.asked = queries) ∧
      (∀ step ∈ steps, ∃ (filter : Option String) (before after : List LogLine),
        (service.instances filter step.outside).trace.InOneSession ∧
          step.trace = before.map .logged ++ (service.instances filter step.outside).trace ++
            after.map .logged) ∧
      Trace.Balanced (steps.map QueryStep.trace)) ∧
    (∀ asked : List TokenCall,
      let steps := Keeper.history .own budget asked ⟨outside, credentials⟩
      let run := credentials.calls .own budget asked outside
      (run.result = .ok (steps.map fun step => (step.result, step.after)) ∧
        run.trace = (steps.map TokenStep.trace).flatten ∧ steps.map TokenStep.asked = asked) ∧
      (∀ step ∈ steps, ∃ before : Keeper,
        (before.credentials.exchange .own budget before.outside).trace.InOneSession ∧
          step.trace = (before.credentials.exchange .own budget before.outside).trace) ∧
      Trace.Balanced (steps.map TokenStep.trace)) ∧
    (∀ queries : List Resolver.Query,
      let service : InstanceService := ⟨credentials, .given, budget⟩
      ∀ event ∈ (service.resolver.askAll queries outside).trace, event.KeepsSession) ∧
    ∀ asked : List TokenCall,
      ∀ event ∈ (credentials.calls .given budget asked outside).trace, event.KeepsSession := by
  refine ⟨?_, ?_, ?_, ?_⟩
  · intro queries service steps run
    have hlists : ∀ step ∈ steps, ∃ (filter : Option String) (before after : List LogLine),
        (service.instances filter step.outside).trace.InOneSession ∧
          step.trace = before.map .logged ++ (service.instances filter step.outside).trace ++
            after.map .logged := by
      intro step hstep
      obtain ⟨filter, before, after, htrace⟩ :=
        service.resolver.listsOnce_of_mem_history hstep
      exact ⟨filter, before, after, InstanceService.inOneSession_instances _ _ _ _, htrace⟩
    refine ⟨service.resolver.askAll_eq_history queries outside, hlists, ?_⟩
    apply Trace.balanced_of_forall
    intro trace htrace
    obtain ⟨step, hstep, rfl⟩ := List.mem_map.mp htrace
    obtain ⟨filter, before, after, hone, hall⟩ := hlists step hstep
    rw [hall]
    exact hone.with_lines before after
  · intro asked steps run
    have hexchanges : ∀ step ∈ steps, ∃ before : Keeper,
        (before.credentials.exchange .own budget before.outside).trace.InOneSession ∧
          step.trace = (before.credentials.exchange .own budget before.outside).trace := by
      intro step hstep
      obtain ⟨before, htrace⟩ := Keeper.exchangesOnce_of_mem_history .own budget hstep
      exact ⟨before, before.credentials.inOneSession_exchange budget before.outside, htrace⟩
    obtain ⟨hresult, htrace, hasked⟩ :=
      Credentials.calls_eq_history .own budget credentials asked outside
    rw [List.flatMap_def] at htrace
    refine ⟨⟨hresult, htrace, hasked⟩, hexchanges, ?_⟩
    apply Trace.balanced_of_forall
    intro trace htrace
    obtain ⟨step, hstep, rfl⟩ := List.mem_map.mp htrace
    obtain ⟨before, hone, hall⟩ := hexchanges step hstep
    rw [hall]
    exact hone
  · intro queries service
    exact Resolver.askAll_emits Event.keepsSession_logged
      (InstanceService.instances_keepsSession credentials budget) queries outside
  · intro asked event hevent
    obtain ⟨_, htrace, _⟩ := Credentials.calls_eq_history .given budget credentials asked outside
    rw [htrace] at hevent
    obtain ⟨step, hstep, hinside⟩ := List.mem_flatMap.mp hevent
    obtain ⟨before, hall⟩ := Keeper.exchangesOnce_of_mem_history .given budget hstep
    rw [hall] at hinside
    exact before.credentials.exchange_keepsSession budget before.outside event hinside

end NodeTopology
