import NodeTopology.Resolver.Paged
import NodeTopology.Proofs.RequestTrace
import NodeTopology.Proofs.WorkerSearch
/-!
Where a placement from the infrastructure service comes from.  Main statements: a listing ends with
the instances on the pages that its trace shows, page after page; a placement is that of the first
of them that answers to the worker's name; and to find it never calls the cluster.
-/

namespace NodeTopology

namespace InstanceService

variable {service : InstanceService}

/-- What a token authorizes depends on nothing but the token. -/
theorem authorization_cases (token : Value) :
    (∃ value, authorization token = pure value) ∨
      ∃ fault, authorization token = throw fault := by
  unfold authorization
  split
  · exact Or.inl ⟨token, rfl⟩
  · split
    · exact Or.inl ⟨_, rfl⟩
    · exact Or.inr ⟨_, rfl⟩

/-- What goes along as authorization with a token. -/
def bearerOf (token : String) : Value :=
  .text (if token.isEmpty || isBearer token then token else "Bearer " ++ token)

theorem authorization_text (token : String) :
    authorization (.text token) = pure (bearerOf token) := by
  rw [authorization, Value.isVoid, bearerOf]
  by_cases hempty : token.isEmpty = true
  · simp [hempty]
  · simp [hempty]

def pageRequest (service : InstanceService) (url : Value) (filter : Option String) :
    Run Outside Request := do
  return .get url filter (← authorization service.credentials.accessToken)

theorem page_eq (service : InstanceService) (url : Value) (filter : Option String) :
    service.page url filter =
      Outside.request service.budget (service.pageRequest url filter) >>= pageOfAnswer url := rfl

theorem pageRequest_cases (service : InstanceService) (url : Value) (filter : Option String) :
    (∃ value, service.pageRequest url filter = pure (.get url filter value)) ∨
      ∃ fault, service.pageRequest url filter = throw fault := by
  unfold pageRequest
  rcases authorization_cases service.credentials.accessToken with ⟨value, hvalue⟩ | ⟨fault, hfault⟩
  · rw [hvalue]
    exact Or.inl ⟨value, rfl⟩
  · rw [hfault]
    exact Or.inr ⟨fault, rfl⟩

theorem pageOfAnswer_emits {P : Event → Prop} (url : Value)
    (answer : Option (Except RemoteError Response)) : (pageOfAnswer url answer).Emits P := by
  unfold pageOfAnswer
  split
  · exact Run.Emits.throw _
  · exact Run.Emits.throw _
  · split
    · exact Run.Emits.throw _
    · exact Run.Emits.ofExcept _ _

theorem page?_of_pageOfAnswer {url : Value} {response : Response} {outside : Outside} {page : Page}
    (hpage : (pageOfAnswer url (some (.ok response)) outside).result = .ok page)
    (asked : Value) (filter : Option String) (authorized : Value) :
    (Event.requested (.get asked filter authorized) (.ok response)).page? = some page ∧
      (pageOfAnswer url (some (.ok response)) outside).trace = [] := by
  rw [pageOfAnswer] at hpage ⊢
  rw [Event.page?]
  cases hok : response.isOk with
  | false =>
      rw [hok] at hpage
      cases hpage
  | true =>
      rw [hok] at hpage
      cases hdecode : response.decode Page.ofValue with
      | error fault =>
          rw [hdecode] at hpage
          cases hpage
      | ok decoded =>
          rw [hdecode] at hpage
          cases hpage
          exact ⟨rfl, rfl⟩

theorem pages_page {url : Value} {filter : Option String} {outside : Outside} {page : Page}
    (hresult : (service.page url filter outside).result = .ok page) :
    (service.page url filter outside).trace.pages = [page] := by
  rw [page_eq] at hresult ⊢
  obtain ⟨answer, hanswer, hpage, htrace⟩ := Run.exists_of_bind_ok hresult
  rcases service.pageRequest_cases url filter with ⟨value, hvalue⟩ | ⟨fault, hfault⟩
  · rcases answer with _ | e | response
    · cases hpage
    · cases hpage
    · rw [hvalue] at hanswer htrace ⊢
      obtain ⟨hshown, hquiet⟩ := page?_of_pageOfAnswer hpage url filter value
      rw [hvalue] at hquiet
      rw [htrace, Trace.pages_append, Outside.pages_request hanswer, hshown, hquiet]
      rfl
  · rcases answer with _ | answer
    · cases hpage
    · rw [hfault] at hanswer
      exact absurd hanswer (Outside.result_request_throw_ne _ _ _ _)

/-- The instances that a walk over the pages ends with are those on the pages that it fetched. -/
theorem machines_pages {links : Nat} {seen : List String} {url : Value} {filter : Option String}
    {outside : Outside} {found : List Instance}
    (hresult : (service.pages links seen url filter outside).result = .ok found) :
    (service.pages links seen url filter outside).trace.machines = found := by
  induction links generalizing seen url filter outside found with
  | zero =>
      rw [pages] at hresult ⊢
      obtain ⟨page, hpage, hend, htrace⟩ := Run.exists_of_bind_ok hresult
      cases hend
      rw [htrace, Trace.machines_append, Trace.machines, pages_page hpage]
      simp [Trace.machines, Trace.pages]
  | succ links ih =>
      rw [pages] at hresult ⊢
      obtain ⟨page, hpage, hrest, htrace⟩ := Run.exists_of_bind_ok hresult
      rw [htrace, Trace.machines_append, Trace.machines, pages_page hpage]
      generalize (service.page url filter outside).supply = rest at hrest ⊢
      cases hnext : unseen? seen page with
      | none =>
        rw [hnext] at hrest
        cases hrest
        simp [Trace.machines, Trace.pages]
      | some next =>
        rw [hnext] at hrest
        obtain ⟨more, hmore, hend, hlater⟩ := Run.exists_of_bind_ok hrest
        cases hend
        rw [hlater, Trace.machines_append, ih hmore]
        simp [Trace.machines, Trace.pages]

/-- The session that a piece of work runs in does not change what it fetches. -/
theorem machines_use (session : Session) {α : Type} (work : Run Outside α) (outside : Outside) :
    (session.use work outside).trace.machines = (work outside).trace.machines := by
  rw [Trace.machines, Trace.machines, Trace.pages, Trace.pages,
    session.filterMap_use work outside rfl rfl]

theorem allPages_of_isKeyable (hkeyable : service.credentials.instancesUrl.isKeyable = true)
    (filter : Option String) :
    service.allPages filter = fun outside =>
      service.pages outside.http.length (firstSeen service.credentials.instancesUrl)
        service.credentials.instancesUrl filter outside := if_pos hkeyable

theorem allPages_of_isKeyable_eq_false
    (hkeyable : service.credentials.instancesUrl.isKeyable = false) (filter : Option String) :
    service.allPages filter = throw (.misuse .wrongKind) :=
  if_neg (by rw [hkeyable]; exact Bool.false_ne_true)

theorem machines_allPages {filter : Option String} {outside : Outside} {found : List Instance}
    (hresult : (service.allPages filter outside).result = .ok found) :
    (service.allPages filter outside).trace.machines = found := by
  cases hkeyable : service.credentials.instancesUrl.isKeyable with
  | false =>
      rw [allPages_of_isKeyable_eq_false hkeyable] at hresult
      cases hresult
  | true =>
      rw [allPages_of_isKeyable hkeyable] at hresult ⊢
      exact machines_pages hresult

theorem eq_of_orNone {instances found : List Instance}
    (hfound : Resolver.orNone instances = .ok found) : found = instances := by
  unfold Resolver.orNone at hfound
  split at hfound <;> cases hfound
  rfl

/-- A listing is all pages, in the session that it has, after a line; a list with nothing in it is a
fault. -/
theorem instances_apply (service : InstanceService) (filter : Option String) (outside : Outside) :
    let listing :=
      service.session.use (service.allPages (filter.filter fun name => !name.isEmpty)) outside
    service.instances filter outside =
      ⟨listing.result >>= fun found => (Resolver.orNone found).mapError .lookup,
        .logged ⟨.info, "Getting instance list from VPC provider"⟩ :: listing.trace,
        listing.supply⟩ := by
  rw [instances, Run.bind_of_result_ok (a := ()) rfl]
  dsimp only [Run.log_apply]
  rw [Run.bind_ofExcept_apply]
  rfl

/-- The instances that the service lists are those on the pages that were fetched. -/
theorem machines_instances {filter : Option String} {outside : Outside} {found : List Instance}
    (hresult : (service.instances filter outside).result = .ok found) :
    (service.instances filter outside).trace.machines = found := by
  rw [instances_apply] at hresult ⊢
  obtain ⟨listed, hlisted, hchecked⟩ := exists_of_except_bind hresult
  obtain rfl : found = listed := eq_of_orNone (mapError_eq_ok_iff.mp hchecked)
  rw [Session.result_use] at hlisted
  rw [Trace.machines_logged, machines_use]
  exact machines_allPages hlisted

/-- A property that every event has which a listing can leave: a line, a wait, the ends of a session
and a request for a page with the service's authorization. -/
structure Permits (service : InstanceService) (P : Event → Prop) : Prop where
  logged : ∀ line, P (.logged line)
  slept : ∀ milliseconds, P (.slept milliseconds)
  opened : P .sessionOpened
  closed : P .sessionClosed
  requested : ∀ {outside value},
    (authorization service.credentials.accessToken outside).result = .ok value →
      ∀ url filter answer, P (.requested (.get url filter value) answer)

theorem permits_isClusterCall_eq_false (service : InstanceService) :
    service.Permits fun event => event.isClusterCall = false :=
  ⟨fun _ => rfl, fun _ => rfl, rfl, rfl, fun _ _ _ _ => rfl⟩

section Emits

variable {P : Event → Prop}

theorem pages_emits (hpage : ∀ url filter, (service.page url filter).Emits P) (links : Nat)
    (seen : List String) (url : Value) (filter : Option String) :
    (service.pages links seen url filter).Emits P := by
  induction links generalizing seen url filter with
  | zero => exact Run.Emits.bind (hpage url filter) fun _ => Run.Emits.pure _
  | succ links ih =>
      apply Run.Emits.bind (hpage url filter)
      intro page
      split
      · exact Run.Emits.pure _
      · exact Run.Emits.bind (ih _ _ _) fun _ => Run.Emits.pure _

theorem allPages_emits (hpage : ∀ url filter, (service.page url filter).Emits P)
    (filter : Option String) : (service.allPages filter).Emits P := by
  cases hkeyable : service.credentials.instancesUrl.isKeyable with
  | false =>
      rw [allPages_of_isKeyable_eq_false hkeyable]
      exact Run.Emits.throw _
  | true =>
      rw [allPages_of_isKeyable hkeyable]
      exact fun outside => pages_emits hpage _ _ _ _ outside

/-- A listing keeps to what its pages keep to, if lines and the ends of a session do. -/
theorem instances_emits_of_page (hlogged : ∀ line, P (.logged line)) (hopened : P .sessionOpened)
    (hclosed : P .sessionClosed) (hpage : ∀ url filter, (service.page url filter).Emits P)
    (filter : Option String) : (service.instances filter).Emits P := by
  refine Run.Emits.bind (Run.Emits.emit (hlogged _)) ?_
  intro _
  refine Run.Emits.bind ?_ fun found => Run.Emits.ofExcept _ _
  exact Run.Emits.use hopened hclosed service.session (allPages_emits hpage _)

/-- A page keeps to what lines, waits and authorized requests for pages keep to. -/
theorem page_emits_of_requested (hlogged : ∀ line, P (.logged line))
    (hslept : ∀ milliseconds, P (.slept milliseconds))
    (hrequested : ∀ {outside value},
      (authorization service.credentials.accessToken outside).result = .ok value →
        ∀ url filter answer, P (.requested (.get url filter value) answer))
    (url : Value) (filter : Option String) : (service.page url filter).Emits P := by
  intro outside
  rw [page_eq]
  refine Run.Emits.bind ?_ (pageOfAnswer_emits url) outside
  unfold pageRequest
  rcases authorization_cases service.credentials.accessToken with ⟨value, hvalue⟩ | ⟨fault, hfault⟩
  · have hauthorized :
        (authorization service.credentials.accessToken outside).result = .ok value := by
      rw [hvalue]
      rfl
    rw [hvalue]
    exact Outside.request_emits hlogged hslept (hrequested hauthorized url filter) _
  · rw [hfault]
    exact Outside.request_throw_emits hlogged hslept fault _

theorem page_emits (hpermits : service.Permits P) (url : Value) (filter : Option String) :
    (service.page url filter).Emits P :=
  page_emits_of_requested hpermits.logged hpermits.slept hpermits.requested url filter

theorem instances_emits (hpermits : service.Permits P) (filter : Option String) :
    (service.instances filter).Emits P :=
  instances_emits_of_page hpermits.logged hpermits.opened hpermits.closed (page_emits hpermits)
    filter

end Emits

end InstanceService

namespace Resolver

theorem reportPlacement_emits {P : Event → Prop} (hlogged : ∀ line, P (.logged line))
    (machine : Instance) : (reportPlacement machine).Emits P := by
  refine Run.Emits.bind (Run.Emits.ofExcept _ _) ?_
  intro found
  exact Run.Emits.bind (Run.Emits.emit (hlogged _)) fun _ => Run.Emits.pure _

/-- A placement says what is known of a machine. -/
structure Locates (machine : Instance) (placement : Placement) : Prop where
  instanceId : placement.instanceId = machine.id
  zone : placement.zone = machine.zoneName
  region : Region.ofZone? machine.zoneName = some placement.region

theorem locates_of_placement {machine : Instance} {found : Placement}
    (hfound : placement machine = .ok found) : Locates machine found := by
  cases hregion : Region.ofZone? machine.zoneName with
  | none => simp [placement, hregion] at hfound
  | some region =>
      simp only [placement, hregion, Except.ok.injEq] at hfound
      rw [← hfound]
      exact ⟨rfl, rfl, hregion⟩

/-- What is chosen from a list is the first machine on it that answers to the worker's name. -/
theorem locates_of_chosen {worker : String} {machines : List Instance} {found : Placement}
    (hchosen : chosen worker machines = .ok found) :
    ∃ machine, machines.find? (·.answersTo worker) = some machine ∧ Locates machine found := by
  unfold chosen at hchosen
  cases hfind : machines.find? (·.answersTo worker) with
  | none => simp [hfind] at hchosen
  | some machine =>
      rw [hfind] at hchosen
      exact ⟨machine, rfl, locates_of_placement (mapError_eq_ok_iff.mp hchosen)⟩

section Search

variable {resolver : Resolver} {worker : Option String} {outside : Outside} {placement : Placement}

/-- A source of instances whose trace shows what it lists. -/
def ShowsWhatItLists (resolver : Resolver) : Prop :=
  ∀ {filter : Option String} {outside : Outside} {found : List Instance},
    (resolver.list filter outside).result = .ok found →
    (resolver.list filter outside).trace.machines = found

theorem search_emits {P : Event → Prop} {resolver : Resolver}
    (hlist : ∀ filter, (resolver.list filter).Emits P) (filter : Option String)
    (fits : Instance → Bool) {report : Instance → Run Outside Placement}
    (hreport : ∀ machine, (report machine).Emits P) (fault : Fault) :
    (resolver.search filter fits report fault).Emits P := by
  apply Run.Emits.bind (hlist filter)
  intro instances
  split
  · exact hreport _
  · exact Run.Emits.throw _

section Emits

variable {P : Event → Prop} (hlogged : ∀ line, P (.logged line)) {resolver : Resolver}
  (hlist : ∀ filter, (resolver.list filter).Emits P)
include hlogged hlist

theorem byAddress_emits (worker : Option String) : (resolver.byAddress worker).Emits P := by
  rw [byAddress_eq]
  refine search_emits hlist _ _ ?_ _
  intro machine
  exact Run.Emits.bind (Run.Emits.emit (hlogged _)) fun _ => reportPlacement_emits hlogged machine

theorem byName_emits (worker : Option String) : (resolver.byName worker).Emits P := by
  rw [byName_eq]
  exact search_emits hlist _ _ (reportPlacement_emits hlogged) _

theorem placementOf_emits (worker : Option String) : (resolver.placementOf worker).Emits P := by
  unfold placementOf
  split
  · exact Run.Emits.bind (Run.Emits.emit (hlogged _)) fun _ => byAddress_emits hlogged hlist worker
  · exact Run.Emits.bind (Run.Emits.emit (hlogged _)) fun _ => byName_emits hlogged hlist worker

end Emits

/-- A placement is that of the first machine listed that answers to the worker's name. -/
theorem placementOf_ok {name : String} (hshows : resolver.ShowsWhatItLists)
    (hresult : (resolver.placementOf (some name) outside).result = .ok placement) :
    ∃ machine, (resolver.placementOf (some name) outside).trace.machines.find?
        (·.answersTo name) = some machine ∧ Locates machine placement := by
  obtain ⟨opening, lines, hrun⟩ := resolver.placementOf_apply name outside
  rw [hrun] at hresult ⊢
  obtain ⟨machines, hlisted, hchosen⟩ := exists_of_except_bind hresult
  have hquiet : Trace.pages (lines.map .logged) = [] := Trace.filterMap_logged (fun _ => rfl) lines
  have hmachines : Trace.machines (lines.map .logged) = [] := by
    rw [Trace.machines, hquiet]
    rfl
  rw [Trace.machines_logged, Trace.machines_append, hshows hlisted, hmachines, List.append_nil]
  exact locates_of_chosen hchosen

end Search

end Resolver

/-- The service's trace shows what the service lists. -/
theorem InstanceService.showsWhatItLists (service : InstanceService) :
    service.resolver.ShowsWhatItLists :=
  fun hfound => machines_instances hfound

end NodeTopology
