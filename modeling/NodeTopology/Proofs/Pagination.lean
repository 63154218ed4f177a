import NodeTopology.Proofs.PageWalk
/-!
The listing of instances as a whole.  Main statements: a listing is a walk from the address of the
service, whatever session it runs in; and it visits each page once, loses none of the instances on
its way, and comes to an end however the pages refer to each other.  A service that cannot be asked
is not asked.
-/

namespace NodeTopology

namespace Visit

/-- The end of a listing that made these visits. -/
def ending (visits : List Visit) : Except Fault (List Instance) := do
  let found ← listing visits
  (Resolver.orNone found).mapError .lookup

/-- Visits that all have a page list what is on the pages. -/
theorem listing_of_pages {visits : List Visit} {pages : List Page}
    (hpages : visits.map page = pages.map .ok) :
    listing visits = .ok (pages.flatMap (·.instances)) := by
  induction pages generalizing visits with
  | nil =>
      rw [List.map_nil, List.map_eq_nil_iff] at hpages
      rw [hpages]
      rfl
  | cons first pages ih =>
      obtain ⟨visit, later, rfl, hvisit, hlater⟩ := List.map_eq_cons_iff.mp hpages
      rw [listing_cons hvisit, ih hlater]
      rfl

/-- Visits that all have a page end with what is on the pages, if there is anything. -/
theorem ending_of_pages {visits : List Visit} {pages : List Page}
    (hpages : visits.map page = pages.map .ok) :
    ending visits = (Resolver.orNone (pages.flatMap (·.instances))).mapError .lookup := by
  rw [ending, listing_of_pages hpages]
  rfl

end Visit

/-- Only the last visit of a walk can be without a page, and then the walk fails like it. -/
theorem Walk.listing_of_error {repeats : Nat} {seen : List String} {url : Value}
    {filter : Option String} {script : Script (Except RemoteError Response)} {visits : List Visit}
    (hwalk : Walk repeats seen url filter script visits) {visit : Visit} (hvisit : visit ∈ visits)
    {fault : Fault} (hfault : visit.page = .error fault) :
    Visit.listing visits = .error fault := by
  induction hwalk with
  | failed =>
      cases List.mem_singleton.mp hvisit
      exact Visit.listing_of_error hfault []
  | ended hpage =>
      cases List.mem_singleton.mp hvisit
      cases hpage.symm.trans hfault
  | onward hpage hnext hrest ih =>
      rcases List.mem_cons.mp hvisit with rfl | hvisit
      · cases hpage.symm.trans hfault
      · rw [Visit.listing_cons hpage, ih hvisit]
        rfl

namespace InstanceService

variable {service : InstanceService} {sent : Value}

/-- The filter that goes with the first request: an empty name filters nothing. -/
def firstFilter (filter : Option String) : Option String := filter.filter fun name => !name.isEmpty

theorem instances_walk (hsends : service.Sends sent) (filter : Option String) (outside : Outside) :
    let run := service.instances filter outside
    ∃ visits, Walk service.budget.repeats (firstSeen service.credentials.instancesUrl)
        service.credentials.instancesUrl (firstFilter filter) outside.http visits ∧
      run.result = Visit.ending visits ∧
      run.trace.exchanges = visits.flatMap (·.exchanges sent) := by
  have hlinks : outside.http.length ≤ outside.http.length ∨
      LeadsBack (firstSeen service.credentials.instancesUrl) outside.http :=
    Or.inl (Nat.le_refl _)
  obtain ⟨visits, hwalk, hlisting, hcalls⟩ := pages_walk hsends hlinks
    service.credentials.instancesUrl (firstFilter filter)
  dsimp only at hlisting hcalls ⊢
  refine ⟨visits, hwalk, ?_⟩
  have hwork := allPages_of_isKeyable hsends.isKeyable (firstFilter filter)
  rw [instances_apply, ← firstFilter, Session.result_use, Trace.exchanges_logged,
    Session.exchanges_use, hwork, hlisting, hcalls]
  exact ⟨rfl, rfl⟩

/-- Without authorization there is no request, and without an attempt no call. -/
theorem page_silent (hkeyable : service.credentials.instancesUrl.isKeyable = true)
    (hsends : ¬∃ sent, service.Sends sent) (url : Value) (filter : Option String) :
    (service.page url filter).Emits fun event => event.isHttpCall = false := by
  rw [page_eq]
  refine Run.Emits.bind ?_ (pageOfAnswer_emits url)
  rcases authorization_cases service.credentials.accessToken with ⟨sent, hsent⟩ | ⟨fault, hfault⟩
  · have hnone : service.budget.attempts ≤ 0 :=
      Int.not_lt.mp fun hattempts => hsends ⟨sent, hkeyable, hsent, hattempts⟩
    rw [Outside.request, Retry.run_of_attempts_nonpos hnone]
    exact Run.Emits.pure none
  · rw [pageRequest, hfault]
    exact Outside.request_throw_emits (fun _ => rfl) (fun _ => rfl) fault _

theorem sends_or_silent (service : InstanceService) :
    (∃ sent, service.Sends sent) ∨
      ∀ filter, (service.instances filter).Emits fun event => event.isHttpCall = false := by
  by_cases hsends : ∃ sent, service.Sends sent
  · exact .inl hsends
  · right
    intro filter
    by_cases hkeyable : service.credentials.instancesUrl.isKeyable = true
    · refine instances_emits_of_page ?_ ?_ ?_ (page_silent hkeyable hsends) filter
      · exact fun _ => rfl
      · rfl
      · rfl
    · refine Run.Emits.bind (Run.Emits.emit rfl) ?_
      intro _
      refine Run.Emits.bind (Run.Emits.use ?_ ?_ _ ?_) fun _ => Run.Emits.ofExcept _ _
      · rfl
      · rfl
      · rw [allPages_of_isKeyable_eq_false (by simpa using hkeyable)]
        exact Run.Emits.throw _

end InstanceService

end NodeTopology
