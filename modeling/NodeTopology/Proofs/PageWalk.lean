import Mathlib.Data.List.Chain
import NodeTopology.Proofs.InstanceListing
import NodeTopology.Proofs.RequestAnswers
/-!
The walk over the pages of the infrastructure service.  A walk is a list of visits, one for each
address that was asked for; each page but the last leads to the next visit.  Main statements: every
listing is such a walk, although nothing but the pages says where it ends; no address is visited
twice; wherever a page leads is visited; and a walk makes no more calls than there are answers and
attempts.
-/

namespace NodeTopology

/-- One address that a walk asks for a page, with what it hears there. -/
structure Visit where
  url : Value
  filter : Option String
  hearing : Hearing

namespace Visit

/-- What the answer to a request for a page comes to. -/
def pageEnding (url : Value) : Except RemoteError Response → Except Fault Page
  | .error e => .error (if e.isRequest then .lookup (.request url e) else .escaped e)
  | .ok response =>
      if response.isOk then
        (response.decode Page.ofValue).mapError
          (DecodeFault.ending fun fault => .lookup (.body fault))
      else .error (.lookup (.status response.status))

def page (visit : Visit) : Except Fault Page := pageEnding visit.url visit.hearing.last

/-- The calls of a visit with their answers, all of them for the same request. -/
def exchanges (sent : Value) (visit : Visit) : List (Request × Except RemoteError Response) :=
  visit.hearing.exchanges (.get visit.url visit.filter sent)

/-- The instances on the pages of some visits, or the fault of the first that has no page. -/
def listing (visits : List Visit) : Except Fault (List Instance) := do
  let pages ← visits.mapM page
  return pages.flatMap (·.instances)

/-- The first visit without a page decides. -/
theorem listing_of_error {visit : Visit} {fault : Fault} (hfault : visit.page = .error fault)
    (visits : List Visit) : listing (visit :: visits) = .error fault := by
  rw [listing, List.mapM_cons, hfault]
  rfl

theorem listing_cons {visit : Visit} {page : Page} (hpage : visit.page = .ok page)
    (visits : List Visit) :
    listing (visit :: visits) = (listing visits).map (page.instances ++ ·) := by
  rw [listing, listing, List.mapM_cons, hpage]
  cases visits.mapM Visit.page <;> rfl

theorem listing_of_ok {visit : Visit} {page : Page} (hpage : visit.page = .ok page) :
    listing [visit] = .ok page.instances := by
  rw [listing_cons hpage]
  exact congrArg Except.ok (List.append_nil _)

theorem lostConnection?_of_page {url : Value} {answer : Except RemoteError Response} {page : Page}
    (hpage : pageEnding url answer = .ok page) : lostConnection? answer = none := by
  cases answer with
  | ok response => rfl
  | error e => cases hpage

/-- The page in an answer does not depend on the address that was asked for. -/
theorem pageEnding_of_ok {url : Value} {answer : Except RemoteError Response} {page : Page}
    (hpage : pageEnding url answer = .ok page) (other : Value) :
    pageEnding other answer = .ok page := by
  cases answer with
  | ok response => exact hpage
  | error e => cases hpage

end Visit

/-- A walk from an address, the addresses in `seen` being known: the visits that the answers of a
script make, if each request may be repeated `repeats` times. -/
inductive Walk (repeats : Nat) :
    List String → Value → Option String → Script (Except RemoteError Response) → List Visit → Prop
  /-- Without a page there is nowhere to go. -/
  | failed {seen : List String} {url : Value} {filter : Option String}
      {script : Script (Except RemoteError Response)} {fault : Fault}
      (hfault : Visit.page ⟨url, filter, script.hear repeats⟩ = .error fault) :
      Walk repeats seen url filter script [⟨url, filter, script.hear repeats⟩]
  /-- A page that leads nowhere new is the last. -/
  | ended {seen : List String} {url : Value} {filter : Option String}
      {script : Script (Except RemoteError Response)} {page : Page}
      (hpage : Visit.page ⟨url, filter, script.hear repeats⟩ = .ok page)
      (hnowhere : InstanceService.unseen? seen page = none) :
      Walk repeats seen url filter script [⟨url, filter, script.hear repeats⟩]
  /-- Any other page leads on, and what it leads to is known from then on. -/
  | onward {seen : List String} {url : Value} {filter : Option String}
      {script : Script (Except RemoteError Response)} {page : Page} {next : String}
      {visits : List Visit}
      (hpage : Visit.page ⟨url, filter, script.hear repeats⟩ = .ok page)
      (hnext : InstanceService.unseen? seen page = some next)
      (hrest : Walk repeats (next :: seen) (.text next) none
        (script.skip (script.hear repeats).answers.length) visits) :
      Walk repeats seen url filter script (⟨url, filter, script.hear repeats⟩ :: visits)

namespace InstanceService

theorem unseen?_eq_some {seen : List String} {page : Page} {next : String}
    (hnext : unseen? seen page = some next) : page.next = some next ∧ next ∉ seen := by
  rw [unseen?, Option.filter_eq_some_iff] at hnext
  simpa using hnext

theorem unseen?_eq_none {seen : List String} {page : Page} (hnowhere : unseen? seen page = none)
    {href : String} (hhref : page.next = some href) : href ∈ seen := by
  rw [unseen?, hhref] at hnowhere
  simpa using hnowhere

theorem unseen?_cons_self {seen : List String} {page : Page} {next : String}
    (hnext : unseen? seen page = some next) : unseen? (next :: seen) page = none := by
  rw [unseen?, (unseen?_eq_some hnext).1]
  simp

end InstanceService

namespace Walk

variable {repeats : Nat} {seen : List String} {url : Value} {filter : Option String}
  {script : Script (Except RemoteError Response)} {visits : List Visit}

theorem exists_eq_cons (hwalk : Walk repeats seen url filter script visits) :
    ∃ later, visits = ⟨url, filter, script.hear repeats⟩ :: later := by
  cases hwalk with
  | failed => exact ⟨[], rfl⟩
  | ended => exact ⟨[], rfl⟩
  | onward => exact ⟨_, rfl⟩

/-- Wherever a page leads, the address is known or is visited. -/
theorem leads_to_known_or_visited (hwalk : Walk repeats seen url filter script visits)
    {visit : Visit} (hvisit : visit ∈ visits) {page : Page} {href : String}
    (hpage : visit.page = .ok page) (hhref : page.next = some href) :
    href ∈ seen ∨ .text href ∈ visits.map Visit.url := by
  induction hwalk with
  | failed hfault =>
      cases List.mem_singleton.mp hvisit
      cases hfault.symm.trans hpage
  | ended hpage' hnowhere =>
      cases List.mem_singleton.mp hvisit
      cases hpage'.symm.trans hpage
      exact Or.inl (InstanceService.unseen?_eq_none hnowhere hhref)
  | onward hpage' hnext hrest ih =>
      obtain ⟨later, rfl⟩ := hrest.exists_eq_cons
      rcases List.mem_cons.mp hvisit with rfl | hvisit
      · cases hpage'.symm.trans hpage
        cases (InstanceService.unseen?_eq_some hnext).1.symm.trans hhref
        exact Or.inr (by simp)
      · rcases ih hvisit with hseen | hvisited
        · rcases List.mem_cons.mp hseen with rfl | hseen
          · exact Or.inr (by simp)
          · exact Or.inl hseen
        · exact Or.inr (List.mem_cons_of_mem _ hvisited)

end Walk

namespace InstanceService

variable {service : InstanceService} {sent : Value}

/-- A service that can be asked: its address can be kept in mind, and with every request goes the
same authorization. -/
structure Sends (service : InstanceService) (sent : Value) : Prop where
  isKeyable : service.credentials.instancesUrl.isKeyable = true
  authorized : authorization service.credentials.accessToken = pure sent
  attempts_pos : 0 < service.budget.attempts

theorem sends_of_text {url token : String}
    (hurl : service.credentials.instancesUrl = .text url)
    (htoken : service.credentials.accessToken = .text token)
    (hattempts : 0 < service.budget.attempts) : service.Sends (bearerOf token) := by
  constructor
  · rw [hurl]
    rfl
  · rw [htoken]
    exact authorization_text token
  · exact hattempts

/-- The visit that a script makes of an address. -/
def visit (service : InstanceService) (url : Value) (filter : Option String) (outside : Outside) :
    Visit := ⟨url, filter, outside.http.hear service.budget.repeats⟩

/-- What is made of an answer depends on nothing else, and leaves no trace. -/
theorem pageOfAnswer_apply {url : Value} {answer : Except RemoteError Response}
    (hanswered : Outside.requestEnding answer = .ok (some answer)) (outside : Outside) :
    pageOfAnswer url (some answer) outside = ⟨Visit.pageEnding url answer, [], outside⟩ := by
  cases answer with
  | ok response =>
      rw [pageOfAnswer, Visit.pageEnding]
      by_cases hok : response.isOk = true
      · rw [hok]
        cases response.decode Page.ofValue <;> rfl
      · simp [hok]
  | error e =>
      rw [Outside.requestEnding] at hanswered
      split at hanswered
      · next hrequest =>
        rw [Visit.pageEnding, if_pos hrequest]
        rfl
      · cases hanswered

/-- A request is answered by what settled it, or ended with a failure of another kind. -/
theorem requestEnding_cases (answer : Except RemoteError Response) (url : Value) :
    Outside.requestEnding answer = .ok (some answer) ∨
      ∃ e, Outside.requestEnding answer = .error (.escaped e) ∧
        Visit.pageEnding url answer = .error (.escaped e) := by
  cases answer with
  | ok response => exact Or.inl rfl
  | error e =>
      cases hrequest : e.isRequest with
      | false => exact Or.inr ⟨e, by simp [Outside.requestEnding, Visit.pageEnding, hrequest]⟩
      | true => exact Or.inl (by simp [Outside.requestEnding, hrequest])

theorem page_spec (hsends : service.Sends sent) (url : Value) (filter : Option String)
    (outside : Outside) :
    let visit := service.visit url filter outside
    let run := service.page url filter outside
    run.result = visit.page ∧ run.trace.exchanges = visit.exchanges sent ∧
      run.supply = { outside with http := outside.http.skip visit.hearing.answers.length } := by
  have hrequest : service.pageRequest url filter = pure (.get url filter sent) := by
    rw [pageRequest, hsends.authorized]
    rfl
  obtain ⟨hresult, hexchanges, hsupply⟩ :=
    Outside.request_spec hsends.attempts_pos (.get url filter sent) outside
  dsimp only at hresult hexchanges hsupply ⊢
  rw [page_eq, hrequest]
  rcases requestEnding_cases (service.visit url filter outside).hearing.last url with
    hanswered | ⟨e, hescaped, hpage⟩
  · rw [Run.bind_of_result_ok (hresult.trans hanswered), pageOfAnswer_apply hanswered]
    exact ⟨rfl, by simp [hexchanges, Visit.exchanges, visit], hsupply⟩
  · rw [Run.bind_of_result_error (hresult.trans hescaped)]
    exact ⟨hpage.symm, hexchanges, hsupply⟩

section Steps

variable {links : Nat} {seen : List String} {url : Value} {filter : Option String}
  {outside : Outside}

theorem pages_of_failed {fault : Fault}
    (hpage : (service.page url filter outside).result = .error fault) :
    service.pages links seen url filter outside =
      ⟨.error fault, (service.page url filter outside).trace,
        (service.page url filter outside).supply⟩ := by
  cases links with
  | zero => exact Run.bind_of_result_error hpage _
  | succ links => exact Run.bind_of_result_error hpage _

theorem pages_of_ended {page : Page}
    (hpage : (service.page url filter outside).result = .ok page)
    (hnowhere : unseen? seen page = none) :
    service.pages links seen url filter outside =
      ⟨.ok page.instances, (service.page url filter outside).trace,
        (service.page url filter outside).supply⟩ := by
  cases links with
  | zero =>
      rw [pages, Run.bind_pure_apply, hpage]
      rfl
  | succ links =>
      rw [pages, Run.bind_of_result_ok hpage, hnowhere]
      simp

theorem pages_of_onward {page : Page} {next : String}
    (hpage : (service.page url filter outside).result = .ok page)
    (hnext : unseen? seen page = some next) :
    let later := service.pages links (next :: seen) (.text next) none
      (service.page url filter outside).supply
    service.pages (links + 1) seen url filter outside =
      ⟨later.result.map (page.instances ++ ·),
        (service.page url filter outside).trace ++ later.trace, later.supply⟩ := by
  dsimp only
  rw [pages, Run.bind_of_result_ok hpage, hnext]
  dsimp only
  rw [Run.bind_pure_apply]

end Steps

/-- The script repeats a page that leads nowhere new. -/
def LeadsBack (seen : List String) (script : Script (Except RemoteError Response)) : Prop :=
  ∃ answer page, script = ⟨answer, []⟩ ∧ (∀ url, Visit.pageEnding url answer = .ok page) ∧
    unseen? seen page = none

theorem LeadsBack.page_eq {seen : List String} {outside : Outside}
    (hback : LeadsBack seen outside.http) (url : Value) (filter : Option String) :
    ∃ page, (service.visit url filter outside).page = .ok page ∧ unseen? seen page = none := by
  obtain ⟨answer, page, hscript, hpage, hnowhere⟩ := hback
  refine ⟨page, ?_, hnowhere⟩
  rw [Visit.page, visit, hscript,
    Script.hear_of_settled (Visit.lostConnection?_of_page (hpage url))]
  exact hpage url

/-- After a page that leads on there are links enough for what follows: an answer of the script is
used up, or the script repeats the page, which leads back. -/
theorem links_suffice {links : Nat} {seen : List String} {url : Value} {filter : Option String}
    {outside : Outside} {page : Page} {next : String}
    (hlinks : outside.http.length ≤ links + 1 ∨ LeadsBack seen outside.http)
    (hpage : (service.visit url filter outside).page = .ok page)
    (hnext : unseen? seen page = some next) :
    let rest := outside.http.skip (service.visit url filter outside).hearing.answers.length
    rest.length ≤ links ∨ LeadsBack (next :: seen) rest := by
  rcases hlinks with hlength | hback
  · rcases Script.skip_hear (Visit.lostConnection?_of_page hpage) with hused | ⟨hrepeats, _⟩
    · have hanswers := Hearing.length_answers (outside.http.hear service.budget.repeats)
      dsimp only [visit] at hused ⊢
      exact Or.inl (by omega)
    · exact Or.inr ⟨_, page, hrepeats, Visit.pageEnding_of_ok hpage, unseen?_cons_self hnext⟩
  · obtain ⟨page', hpage', hnowhere⟩ := hback.page_eq url filter
    cases hpage.symm.trans hpage'
    rw [hnowhere] at hnext
    cases hnext

/-- The walk over the pages makes visits until a page leads nowhere new.  The number of links that
it is given decides nothing. -/
theorem pages_walk (hsends : service.Sends sent) {links : Nat} {seen : List String}
    {outside : Outside} (hlinks : outside.http.length ≤ links ∨ LeadsBack seen outside.http)
    (url : Value) (filter : Option String) :
    let run := service.pages links seen url filter outside
    ∃ visits, Walk service.budget.repeats seen url filter outside.http visits ∧
      run.result = Visit.listing visits ∧
      run.trace.exchanges = visits.flatMap (·.exchanges sent) := by
  induction links generalizing seen url filter outside with
  | zero =>
      obtain ⟨hresult, hexchanges, _⟩ := service.page_spec hsends url filter outside
      rcases hlinks with hnone | hback
      · exact absurd hnone (Nat.not_succ_le_zero _)
      · obtain ⟨page, hpage, hnowhere⟩ := hback.page_eq url filter
        dsimp only
        rw [pages_of_ended (hresult.trans hpage) hnowhere]
        refine ⟨_, Walk.ended hpage hnowhere, ?_, ?_⟩
        · exact (Visit.listing_of_ok hpage).symm
        · exact hexchanges.trans (List.flatMap_singleton _ _).symm
  | succ links ih =>
      obtain ⟨hresult, hexchanges, hsupply⟩ := service.page_spec hsends url filter outside
      dsimp only at hresult hexchanges hsupply ⊢
      cases hpage : (service.visit url filter outside).page with
      | error fault =>
          rw [pages_of_failed (hresult.trans hpage)]
          refine ⟨_, Walk.failed hpage, ?_, ?_⟩
          · exact (Visit.listing_of_error hpage _).symm
          · exact hexchanges.trans (List.flatMap_singleton _ _).symm
      | ok page =>
          cases hnext : unseen? seen page with
          | none =>
              rw [pages_of_ended (hresult.trans hpage) hnext]
              refine ⟨_, Walk.ended hpage hnext, ?_, ?_⟩
              · exact (Visit.listing_of_ok hpage).symm
              · exact hexchanges.trans (List.flatMap_singleton _ _).symm
          | some next =>
              have hmore := links_suffice hlinks hpage hnext
              obtain ⟨visits, hwalk, hlisting, hcalls⟩ := @ih (next :: seen) { outside with
                http := outside.http.skip
                  (service.visit url filter outside).hearing.answers.length } hmore (.text next)
                none
              rw [pages_of_onward (hresult.trans hpage) hnext, hsupply]
              refine ⟨_, Walk.onward hpage hnext hwalk, ?_, ?_⟩
              · dsimp only
                rw [hlisting]
                exact (Visit.listing_cons hpage visits).symm
              · dsimp only
                rw [Trace.exchanges_append, hexchanges, hcalls]
                rfl

end InstanceService

end NodeTopology
