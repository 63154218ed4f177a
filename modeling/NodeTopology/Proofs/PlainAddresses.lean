import Mathlib.Data.List.Infix
import NodeTopology.Proofs.CredentialPaths
import NodeTopology.Proofs.Pagination
/-!
Which addresses a token goes to.  The address that credentials give never has the plain scheme.
Main statements: every address that a listing asks is that one, or what a page fetched before leads
to; so a token goes along to a plain address exactly if a page that was fetched leads to one.
-/

namespace NodeTopology

namespace Endpoint

theorem isPlain_iff {url : String} : isPlain url = true ↔ plainScheme <+: url.toList :=
  List.isPrefixOf_iff_prefix

theorem beginsWith_trimmed (url : String) : (trimmed url).toList <+: url.toList := by
  rw [trimmed, String.toList_ofList, ← List.reverse_suffix, List.reverse_reverse]
  exact List.dropWhile_suffix _

theorem getLast?_trimmed (url : String) : (trimmed url).toList.getLast? ≠ some '/' := by
  rw [trimmed, String.toList_ofList, List.getLast?_reverse]
  intro hhead
  have hkept := List.head?_dropWhile_not (· == '/') url.toList.reverse
  rw [hhead] at hkept
  simp at hkept

/-- A path that is put on an address does not complete a plain scheme: the address has lost its
slashes. -/
theorem isPlain_trimmed_append {base path : String} {c : Char} {more : List Char}
    (hbase : isPlain base = false) (hpath : path.toList = '/' :: c :: more) (hc : '/' ≠ c) :
    isPlain (trimmed base ++ path) = false := by
  rw [Bool.eq_false_iff, Ne, isPlain_iff, String.toList_append, hpath]
  intro hplain
  have hslash := getLast?_trimmed base
  rcases List.prefix_or_prefix_of_prefix hplain (List.prefix_append _ _) with hwhole | hpart
  · rw [isPlain_iff.mpr (hwhole.trans (beginsWith_trimmed base))] at hbase
    cases hbase
  · have hinits := (List.mem_inits _ _).mpr hpart
    generalize (trimmed base).toList = chars at hplain hslash hinits
    rw [plainScheme_eq] at hplain hinits
    simp only [List.inits, List.map_cons, List.map_nil, List.mem_cons, List.not_mem_nil,
      or_false] at hinits
    -- Of the beginnings of the scheme those with a slash at the end are no trimmed address, and
    -- after the others the path does not go on as the scheme does.
    rcases hinits with rfl | rfl | rfl | rfl | rfl | rfl | rfl | rfl <;> simp_all

theorem isPlain_instances {base : String} (hbase : isPlain base = false) :
    isPlain (instances base) = false := by
  rw [instances, String.append_assoc, String.append_assoc, String.append_assoc]
  exact isPlain_trimmed_append hbase (c := 'v') rfl (by decide)

end Endpoint

/-- A request that takes a token to an address with the plain scheme. -/
def Request.IsExposed (request : Request) : Prop :=
  ∃ url filter authorization, request = .get (.text url) filter authorization ∧
    Endpoint.isPlain url = true ∧ authorization.isVoid = false

def pageIn (call : Request × Except RemoteError Response) : Option Page :=
  (Event.requested call.1 call.2).page?

theorem Trace.pages_eq (trace : Trace) : trace.pages = trace.exchanges.filterMap pageIn := by
  rw [pages, exchanges, List.filterMap_filterMap]
  congr 1
  funext event
  cases event <;> rfl

namespace Visit

theorem pageIn_get (url : Value) (filter : Option String) (sent : Value)
    (answer : Except RemoteError Response) :
    pageIn (.get url filter sent, answer) = (pageEnding url answer).toOption := by
  cases answer with
  | error e => rfl
  | ok response =>
      simp only [pageIn, Event.page?, pageEnding]
      by_cases hok : response.isOk = true
      · rw [if_pos hok, if_pos hok]
        cases response.decode Page.ofValue <;> rfl
      · rw [if_neg hok, if_neg hok]
        rfl

/-- The page of a visit is the only one that its calls fetched. -/
theorem filterMap_pageIn_exchanges (sent : Value) (visit : Visit) :
    (visit.exchanges sent).filterMap pageIn = visit.page.toOption.toList := by
  have hpages : (pageIn ∘ fun answer => (Request.get visit.url visit.filter sent, answer)) =
      fun answer => (pageEnding visit.url answer).toOption := funext (pageIn_get _ _ sent)
  have hlosses : (visit.hearing.losses.map Except.error).filterMap
      (fun answer => (pageEnding visit.url answer).toOption) = [] := by
    simp [pageEnding, Except.toOption]
  rw [exchanges, Hearing.exchanges, Hearing.answers, List.filterMap_map, hpages,
    List.filterMap_append, hlosses, List.nil_append, page]
  cases hlast : (pageEnding visit.url visit.hearing.last).toOption <;> simp [hlast]

theorem eq_get_of_mem_exchanges {visit : Visit} {sent : Value} {request : Request}
    {answer : Except RemoteError Response} (hcall : (request, answer) ∈ visit.exchanges sent) :
    request = .get visit.url visit.filter sent := by
  obtain ⟨_, _, hsame⟩ := List.mem_map.mp hcall
  exact (Prod.mk.inj hsame).1.symm

end Visit

/-- An address that a walk asks is the one that it begins with, or what a page leads to that was
fetched before. -/
theorem Walk.origin {repeats : Nat} {seen : List String} {url : Value} {filter : Option String}
    {script : Script (Except RemoteError Response)} {visits : List Visit}
    (hwalk : Walk repeats seen url filter script visits) {sent : Value}
    {earlier later : List (Request × Except RemoteError Response)} {request : Request}
    {answer : Except RemoteError Response}
    (hsplit : visits.flatMap (·.exchanges sent) = earlier ++ (request, answer) :: later) :
    request.url = url ∨ ∃ page ∈ earlier.filterMap pageIn, ∃ href, page.next = some href ∧
      request.url = .text href := by
  induction hwalk generalizing earlier with
  | @failed seen url filter script _ _ | @ended seen url filter script _ _ _ =>
      left
      have hcall : (request, answer) ∈
          Visit.exchanges sent ⟨url, filter, script.hear repeats⟩ := by
        rw [← List.flatMap_singleton (fun visit : Visit => visit.exchanges sent), hsplit]
        simp
      rw [Visit.eq_get_of_mem_exchanges hcall]
      rfl
  | @onward seen url filter script page next visits hpage hnext hrest ih =>
      by_cases hcall : (request, answer) ∈
          Visit.exchanges sent ⟨url, filter, script.hear repeats⟩
      · left
        rw [Visit.eq_get_of_mem_exchanges hcall]
        rfl
      · right
        obtain ⟨middle, rfl, hmore⟩ := exists_of_append_split hsplit hcall
        rw [List.filterMap_append, Visit.filterMap_pageIn_exchanges, hpage]
        rcases ih hmore with hfirst | ⟨page', hpage', hlink⟩
        · exact ⟨page, by simp [Except.toOption], next,
            (InstanceService.unseen?_eq_some hnext).1, hfirst⟩
        · exact ⟨page', List.mem_append_right _ hpage', hlink⟩

namespace Walk

variable {repeats : Nat} {url : String} {filter : Option String}
  {script : Script (Except RemoteError Response)} {visits : List Visit} {sent : Value}
  (hwalk : Walk repeats [url] (.text url) filter script visits)
  (hplain : Endpoint.isPlain url = false)

include hwalk hplain

/-- Before a walk takes a token to a plain address, it has fetched a page that leads there. -/
theorem origin_of_exposed {earlier later : List (Request × Except RemoteError Response)}
    {request : Request} {answer : Except RemoteError Response}
    (hsplit : visits.flatMap (·.exchanges sent) = earlier ++ (request, answer) :: later)
    (hrequest : request.IsExposed) :
    ∃ page ∈ earlier.filterMap pageIn, ∃ href, page.next = some href ∧
      request.url = .text href := by
  obtain ⟨exposed, filter, presented, rfl, hexposed, _⟩ := hrequest
  rcases hwalk.origin hsplit with hfirst | hlink
  · cases hfirst
    rw [hplain] at hexposed
    cases hexposed
  · exact hlink

/-- A walk takes the token to every plain address that one of its pages leads to. -/
theorem exposed_of_page (hsent : sent.isVoid = false) {visit : Visit} (hvisit : visit ∈ visits)
    {page : Page} {href : String} (hpage : visit.page = .ok page) (hnext : page.next = some href)
    (hexposed : Endpoint.isPlain href = true) :
    ∃ call ∈ visits.flatMap (·.exchanges sent), call.1.IsExposed := by
  have hvisited : .text href ∈ visits.map Visit.url := by
    rcases hwalk.leads_to_known_or_visited hvisit hpage hnext with hfirst | hvisited
    · rw [List.mem_singleton.mp hfirst, hplain] at hexposed
      cases hexposed
    · exact hvisited
  obtain ⟨next, hasked, hurl⟩ := List.mem_map.mp hvisited
  refine ⟨(.get next.url next.filter sent, next.hearing.last), ?_, ?_⟩
  · rw [List.mem_flatMap]
    exact ⟨next, hasked, by simp [Visit.exchanges, Hearing.exchanges, Hearing.answers]⟩
  · exact ⟨href, next.filter, sent, by rw [hurl], hexposed, hsent⟩

end Walk

namespace InstanceService

variable {service : InstanceService} {sent : Value}

/-- A token goes along exactly if there is one. -/
theorem Sends.isVoid_eq (hsends : service.Sends sent) (outside : Outside) :
    sent.isVoid = service.credentials.accessToken.isVoid := by
  have hsent : (authorization service.credentials.accessToken outside).result = .ok sent := by
    rw [hsends.authorized]
    rfl
  unfold authorization at hsent
  by_cases hvoid : service.credentials.accessToken.isVoid = true
  · rw [if_pos hvoid] at hsent
    cases hsent
    rfl
  · rw [if_neg hvoid] at hsent
    cases htoken : service.credentials.accessToken with
    | text token =>
        rw [htoken] at hsent hvoid
        cases hsent
        by_cases hbearer : isBearer token = true
        · rw [if_pos hbearer]
        · rw [if_neg hbearer]
          have hfull : ("Bearer " ++ token).isEmpty = false := by simp [Bool.eq_false_iff]
          rw [Value.isVoid, Value.isVoid, hfull]
          simpa [Value.isVoid] using hvoid
    | _ =>
        rw [htoken] at hsent
        cases hsent

/-- What a listing shows of tokens that go to plain addresses. -/
structure ExposesByPages (token : Value) (calls : List (Request × Except RemoteError Response)) :
    Prop where
  /-- Before each request that exposes the token a page was fetched that leads to its address. -/
  origin : ∀ earlier request answer later, calls = earlier ++ (request, answer) :: later →
    request.IsExposed → ∃ page ∈ earlier.filterMap pageIn, ∃ href, page.next = some href ∧
      request.url = .text href
  /-- There is such a request exactly if there is a token and a page leads to a plain address. -/
  exposed_iff : (∃ call ∈ calls, call.1.IsExposed) ↔
    token.isVoid = false ∧ ∃ page ∈ calls.filterMap pageIn, ∃ href, page.next = some href ∧
      Endpoint.isPlain href = true

/-- A walk from an address that is not plain exposes the token by the pages that it fetches. -/
theorem exposesByPages_of_walk {repeats : Nat} {url : String} {filter : Option String}
    {script : Script (Except RemoteError Response)} {visits : List Visit} {token : Value}
    (hwalk : Walk repeats [url] (.text url) filter script visits)
    (hplain : Endpoint.isPlain url = false) (hsent : sent.isVoid = token.isVoid) :
    ExposesByPages token (visits.flatMap (·.exchanges sent)) := by
  refine ⟨fun _ _ _ _ hsplit => hwalk.origin_of_exposed hplain hsplit, ?_, ?_⟩
  · rintro ⟨⟨request, answer⟩, hcall, hrequest⟩
    obtain ⟨earlier, later, hsplit⟩ := List.append_of_mem hcall
    obtain ⟨page, hpage, href, hnext, hurl⟩ := hwalk.origin_of_exposed hplain hsplit hrequest
    obtain ⟨visit, _, hcall⟩ := List.mem_flatMap.mp hcall
    obtain ⟨exposed, _, _, rfl, hexposed, hpresented⟩ := hrequest
    obtain ⟨_, _, rfl⟩ := Request.get.inj (Visit.eq_get_of_mem_exchanges hcall)
    cases hurl
    refine ⟨hsent.symm.trans hpresented, page, ?_, href, hnext, hexposed⟩
    rw [hsplit, List.filterMap_append]
    exact List.mem_append_left _ hpage
  · rintro ⟨htoken, page, hpage, href, hnext, hexposed⟩
    rw [List.filterMap_flatMap, List.mem_flatMap] at hpage
    obtain ⟨visit, hvisit, hpage⟩ := hpage
    rw [Visit.filterMap_pageIn_exchanges, Option.mem_toList] at hpage
    exact hwalk.exposed_of_page hplain (hsent.trans htoken) hvisit (eq_ok_of_toOption hpage) hnext
      hexposed

/-- A listing from an address that is not plain exposes the token by the pages that it fetches. -/
theorem exposesByPages_instances {url : String}
    (hurl : service.credentials.instancesUrl = .text url) (hplain : Endpoint.isPlain url = false)
    (filter : Option String) (outside : Outside) :
    ExposesByPages service.credentials.accessToken
      (service.instances filter outside).trace.exchanges := by
  rcases service.sends_or_silent with ⟨sent, hsends⟩ | hsilent
  · obtain ⟨visits, hwalk, _, hcalls⟩ := instances_walk hsends filter outside
    rw [hurl] at hwalk
    rw [hcalls]
    exact exposesByPages_of_walk hwalk hplain (hsends.isVoid_eq outside)
  · rw [Trace.exchanges_of_forall (hsilent filter outside)]
    constructor <;> simp

end InstanceService

/-- Credentials name no plain address for the instances, whatever they were made of. -/
theorem Credentials.instancesUrl_of_obtain {settings : Settings} {source : SecretSource}
    {session : Session} {budget : Budget} {outside : Outside} {credentials : Credentials}
    (hobtained : (obtain settings source session budget outside).result = .ok credentials) :
    ∃ url, credentials.instancesUrl = .text url ∧ Endpoint.isPlain url = false := by
  have hsecured : ∀ url, Endpoint.isPlain (Endpoint.instances (Endpoint.secured url)) = false :=
    fun url => Endpoint.isPlain_instances (Endpoint.isPlain_secured url)
  cases source with
  | file file =>
      obtain ⟨_, token, haccepted, rfl, _⟩ := obtain_file_ok hobtained
      cases haccepted
      exact ⟨_, rfl, hsecured _⟩
  | provider token url =>
      obtain ⟨lines, hlines⟩ := obtain_provider_tells settings token url session budget outside
      rw [hlines] at hobtained
      obtain ⟨endpoint, hendpoint, hmade⟩ := exists_of_except_bind hobtained
      cases hmade
      cases url with
      | text url =>
          cases hendpoint
          exact ⟨_, rfl, hsecured url⟩
      | _ => cases hendpoint

namespace InstanceService

/-- The search for a worker calls nobody but its listing does. -/
theorem exposesByPages_search {settings : Settings} {source : SecretSource}
    {session : Session} {budget : Budget} {outside : Outside} {credentials : Credentials}
    (hobtained : (Credentials.obtain settings source session budget outside).result =
      .ok credentials)
    (worker : String) (listing : Session) (attempts : Budget) (later : Outside) :
    let run := (resolver ⟨credentials, listing, attempts⟩).placementOf (some worker) later
    ExposesByPages credentials.accessToken run.trace.exchanges := by
  obtain ⟨url, hurl, hplain⟩ := Credentials.instancesUrl_of_obtain hobtained
  obtain ⟨opening, lines, hrun⟩ :=
    (resolver ⟨credentials, listing, attempts⟩).placementOf_apply worker later
  dsimp only
  rw [hrun, Trace.exchanges_logged, Trace.exchanges_append, Trace.exchanges_lines,
    List.append_nil]
  exact @exposesByPages_instances ⟨credentials, listing, attempts⟩ url hurl hplain
    (Resolver.askedFor worker) later

/-- In the search for a worker with credentials from any source, a request that takes the token to
a plain address comes after a page that leads there; and there is such a request exactly if there is
a token and a page that was fetched leads to a plain address. -/
theorem plain_addresses_come_from_pages {settings : Settings} {source : SecretSource}
    {session : Session} {budget : Budget} {outside : Outside} {credentials : Credentials}
    (hobtained : (Credentials.obtain settings source session budget outside).result =
      .ok credentials)
    (worker : String) (listing : Session) (attempts : Budget) (later : Outside) :
    let run := (resolver ⟨credentials, listing, attempts⟩).placementOf (some worker) later
    (∀ before request answer after, run.trace = before ++ .requested request answer :: after →
      request.IsExposed → ∃ page ∈ Trace.pages before, ∃ href, page.next = some href ∧
        request.url = .text href) ∧
    ((∃ request ∈ run.trace.requests, request.IsExposed) ↔
      credentials.accessToken.isVoid = false ∧ ∃ page ∈ run.trace.pages, ∃ href,
        page.next = some href ∧ Endpoint.isPlain href = true) := by
  have hexposes := exposesByPages_search hobtained worker listing attempts later
  intro run
  constructor
  · intro before request answer after hsplit hrequest
    rw [Trace.pages_eq]
    refine hexposes.origin before.exchanges request answer (Trace.exchanges after) ?_ hrequest
    dsimp only [run] at hsplit
    rw [hsplit, Trace.exchanges_append, Trace.exchanges_requested]
  · rw [Trace.pages_eq, ← hexposes.exposed_iff, Trace.requests_eq_map_exchanges]
    simp [run]

/-- Pages that lead on to no plain address expose nothing. -/
theorem token_is_not_exposed_by_secure_pages :
    let first : Response :=
      ⟨200, "\x7b\"next\": \x7b\"href\": \"https://there\"\x7d\x7d", .standard⟩
    let second : Response := ⟨200, "\x7b\"instances\": [\x7b\"name\": \"worker\", " ++
      "\"zone\": \x7b\"name\": \"us-south-1\"\x7d\x7d]\x7d", .standard⟩
    let outside : Outside := ⟨⟨.ok first, [.ok second]⟩, ⟨.ok none, []⟩, ⟨.kept, []⟩⟩
    let service : InstanceService :=
      ⟨Credentials.provided "token" "http://here", .own, ⟨2, 0⟩⟩
    let run := service.resolver.placementOf (some "worker") outside
    run.result.toOption = some ⟨"", "us-south", "us-south-1"⟩ ∧
      ¬∃ request ∈ run.trace.requests, request.IsExposed := by
  intro first second outside service run
  have hpages : run.trace.pages = [⟨[], 0, 0, some "https://there"⟩,
      ⟨[⟨"", "worker", "", some ⟨"us-south-1", ""⟩, none⟩], 0, 0, none⟩] := by decide +kernel
  obtain ⟨_, hexposed⟩ := plain_addresses_come_from_pages
    (Credentials.obtain_provider .standard "token" "http://here" .own .standard outside)
    "worker" .own ⟨2, 0⟩ outside
  refine ⟨by decide +kernel, ?_⟩
  rw [hexposed]
  rintro ⟨_, page, hpage, href, hnext, hplain⟩
  change page ∈ run.trace.pages at hpage
  simp only [hpages, List.mem_cons, List.not_mem_nil, or_false] at hpage
  rcases hpage with rfl | rfl
  · cases hnext
    revert hplain
    decide
  · cases hnext

/-- A page that leads to a plain address takes the token there. -/
theorem token_is_exposed_by_plain_page :
    let first : Response := ⟨200, "\x7b\"next\": \x7b\"href\": \"http://there\"\x7d\x7d", .standard⟩
    let second : Response := ⟨200, "\x7b\"instances\": [\x7b\"name\": \"worker\", " ++
      "\"zone\": \x7b\"name\": \"us-south-1\"\x7d\x7d]\x7d", .standard⟩
    let outside : Outside := ⟨⟨.ok first, [.ok second]⟩, ⟨.ok none, []⟩, ⟨.kept, []⟩⟩
    ∃ credentials,
      (Credentials.obtain .standard (.provider (.text "token") (.text "http://here")) .own
        .standard outside).result = .ok credentials ∧
      let run := (resolver ⟨credentials, .own, ⟨2, 0⟩⟩).placementOf (some "worker") outside
      run.result.toOption = some ⟨"", "us-south", "us-south-1"⟩ ∧
        ∃ request ∈ run.trace.requests, request.IsExposed := by
  intro first second outside
  have hobtained :=
    Credentials.obtain_provider .standard "token" "http://here" .own .standard outside
  refine ⟨_, hobtained, ?_⟩
  intro run
  have hpages : run.trace.pages = [⟨[], 0, 0, some "http://there"⟩,
      ⟨[⟨"", "worker", "", some ⟨"us-south-1", ""⟩, none⟩], 0, 0, none⟩] := by decide +kernel
  have hexposes := exposesByPages_search hobtained "worker" .own ⟨2, 0⟩ outside
  refine ⟨by decide +kernel, ?_⟩
  have hcall : ∃ call ∈ run.trace.exchanges, call.1.IsExposed := by
    refine hexposes.exposed_iff.mpr ⟨by decide, ⟨[], 0, 0, some "http://there"⟩, ?_, _, rfl, ?_⟩
    · rw [← Trace.pages_eq]
      change _ ∈ run.trace.pages
      rw [hpages]
      exact List.mem_cons_self
    · decide
  rw [Trace.requests_eq_map_exchanges]
  simpa using hcall

end InstanceService

end NodeTopology
