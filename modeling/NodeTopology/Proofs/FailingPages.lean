import NodeTopology.Proofs.ListingPairs
import NodeTopology.Proofs.Pagination
/-!
What the status of a page does to a listing.  A status from 400 to 599 reports an error.  Main
statements: a page with such a status is the last that a listing asks for, and its status is the
fault that the listing ends with; and any other status, whatever it says, is taken for success.
-/

namespace NodeTopology

/-- A response among the calls of a visit and of those after it settled the visit, or came later. -/
theorem Visit.split_of_response {visit : Visit} {sent : Value}
    {more earlier later : List (Request × Except RemoteError Response)} {request : Request}
    {response : Response}
    (hsplit : visit.exchanges sent ++ more = earlier ++ (request, .ok response) :: later) :
    visit.hearing.last = .ok response ∧ later = more ∨
      ∃ middle, more = middle ++ (request, .ok response) :: later := by
  have hlosses : (request, .ok response) ∉ visit.hearing.losses.map fun e =>
      ((.get visit.url visit.filter sent, .error e) : Request × Except RemoteError Response) := by
    simp
  rw [exchanges, Hearing.exchanges, Hearing.answers, List.map_append, List.map_map,
    List.append_assoc] at hsplit
  obtain ⟨middle, _, hlast⟩ := exists_of_append_split hsplit hlosses
  cases middle with
  | nil =>
      simp only [List.map_cons, List.map_nil, List.cons_append, List.nil_append, List.cons.injEq,
        Prod.mk.injEq] at hlast
      exact .inl ⟨hlast.1.2, hlast.2.symm⟩
  | cons call middle =>
      obtain ⟨_, hmore⟩ := List.cons.inj hlast
      exact .inr ⟨middle, hmore⟩

theorem Visit.page_of_failing {visit : Visit} {response : Response}
    (hlast : visit.hearing.last = .ok response) (hfailing : response.isOk = false) :
    visit.page = .error (.lookup (.status response.status)) := by
  simp [page, hlast, pageEnding, hfailing]

/-- A walk goes no further than a response that reports an error, and fails with it. -/
theorem Walk.ends_with_failing {repeats : Nat} {seen : List String} {url : Value}
    {filter : Option String} {script : Script (Except RemoteError Response)} {visits : List Visit}
    (hwalk : Walk repeats seen url filter script visits) {sent : Value}
    {earlier later : List (Request × Except RemoteError Response)} {request : Request}
    {response : Response}
    (hsplit : visits.flatMap (·.exchanges sent) = earlier ++ (request, .ok response) :: later)
    (hfailing : response.isOk = false) :
    later = [] ∧ Visit.listing visits = .error (.lookup (.status response.status)) := by
  induction hwalk generalizing earlier with
  | failed | ended =>
      rcases Visit.split_of_response hsplit with ⟨hlast, hlater⟩ | ⟨middle, hnothing⟩
      · exact ⟨hlater, Visit.listing_of_error (Visit.page_of_failing hlast hfailing) []⟩
      · simp at hnothing
  | onward hpage hnext hrest ih =>
      rcases Visit.split_of_response hsplit with ⟨hlast, _⟩ | ⟨middle, hmore⟩
      · cases hpage.symm.trans (Visit.page_of_failing hlast hfailing)
      · obtain ⟨hlater, hlisting⟩ := ih hmore
        refine ⟨hlater, ?_⟩
        rw [Visit.listing_cons hpage, hlisting]
        rfl

namespace Response

/-- What a response is taken for: a success with the same body, unless it reports an error. -/
def takenFor (response : Response) : Response :=
  if response.isOk then { response with status := 200 } else response

variable {response : Response}

theorem takenFor_of_isOk (hok : response.isOk = true) :
    response.takenFor = { response with status := 200 } := if_pos hok

theorem takenFor_of_failing (hfailing : response.isOk = false) : response.takenFor = response :=
  if_neg (by simp [hfailing])

theorem isOk_takenFor (response : Response) : response.takenFor.isOk = response.isOk := by
  by_cases hok : response.isOk = true
  · rw [takenFor_of_isOk hok, hok]
    rfl
  · rw [takenFor_of_failing (by simpa using hok)]

theorem takenFor_takenFor (response : Response) :
    response.takenFor.takenFor = response.takenFor := by
  by_cases hok : response.isOk = true
  · rw [takenFor_of_isOk ((isOk_takenFor response).trans hok), takenFor_of_isOk hok]
  · have hsame : response.takenFor = response := takenFor_of_failing (by simpa using hok)
    rw [hsame, hsame]

theorem decode_takenFor {α : Type} (read : Value → Except ShapeFault α) (response : Response) :
    response.takenFor.decode read = response.decode read := by
  by_cases hok : response.isOk = true
  · rw [takenFor_of_isOk hok]
    rfl
  · rw [takenFor_of_failing (by simpa using hok)]

end Response

def Script.map {α β : Type} (f : α → β) (script : Script α) : Script β :=
  ⟨f script.first, script.later.map f⟩

theorem Script.rest_map {α β : Type} (f : α → β) (script : Script α) :
    (script.map f).rest = script.rest.map f := by
  rcases script with ⟨first, _ | ⟨next, later⟩⟩ <;> rfl

theorem Script.length_map {α β : Type} (f : α → β) (script : Script α) :
    (script.map f).length = script.length := by
  simp [map, length]

/-- The outside whose responses are what these are taken for. -/
def Outside.takenFor (outside : Outside) : Outside :=
  { outside with http := outside.http.map (Except.map Response.takenFor) }

/-- The event with what a response is taken for in place of the response. -/
def Event.takenFor : Event → Event
  | requested request answer => requested request (answer.map Response.takenFor)
  | event => event

/-- One response is what the other is taken for. -/
def Response.TakenFor (first second : Response) : Prop := second = first.takenFor

/-- The responses of one outside are what those of the other are taken for. -/
def Outside.TakenFor (first second : Outside) : Prop := second = first.takenFor

theorem Outside.call_takenFor (request : Request) :
    Run.Alike Outside.TakenFor Event.takenFor (Agree Response.TakenFor) (call request)
      (call request) := by
  rintro first _ rfl
  have hrest : first.takenFor.http.rest = first.http.rest.map (Except.map Response.takenFor) :=
    first.http.rest_map _
  constructor
  · refine .ok ?_
    change Agree _ first.http.first (first.http.first.map Response.takenFor)
    cases first.http.first with
    | ok response => exact .ok rfl
    | error e => exact .error e
  · change [Event.requested request (first.http.first.map Response.takenFor)] =
      [Event.requested request ((first.http.first.map Response.takenFor).map Response.takenFor)]
    cases first.http.first with
    | ok response => simp [Except.map, Response.takenFor_takenFor]
    | error e => rfl
  · change { first.takenFor with http := first.takenFor.http.rest } = _
    rw [hrest]
    rfl

namespace InstanceService

theorem pageOfAnswer_takenFor (url : Value) {answer answer' : Option (Except RemoteError Response)}
    (hanswer : Option.Rel (Agree Response.TakenFor) answer answer') :
    Run.Alike Outside.TakenFor Event.takenFor Eq (pageOfAnswer url answer)
      (pageOfAnswer url answer') := by
  cases hanswer with
  | none => exact Run.Alike.throw _
  | some hagree =>
      cases hagree with
      | error e => exact Run.Alike.throw _
      | @ok response _ hresponse =>
          cases hresponse
          rw [pageOfAnswer, pageOfAnswer, Response.isOk_takenFor, Response.decode_takenFor]
          by_cases hok : response.isOk = true
          · rw [hok]
            exact Run.Alike.ofExcept _ (Agree.refl _)
          · rw [Response.takenFor_of_failing (by simpa using hok), if_pos (by simpa using hok)]
            exact Run.Alike.throw _

theorem page_takenFor (service : InstanceService) (url : Value) (filter : Option String) :
    Run.Alike Outside.TakenFor Event.takenFor Eq (service.page url filter)
      (service.page url filter) := by
  have hprepare : Run.Alike Outside.TakenFor Event.takenFor Eq
      (service.pageRequest url filter) (service.pageRequest url filter) := by
    rcases service.pageRequest_cases url filter with ⟨sent, hsent⟩ | ⟨fault, hfault⟩
    · rw [hsent]
      exact Run.Alike.pure rfl
    · rw [hfault]
      exact Run.Alike.throw _
  have hcall : ∀ request request' : Request, request = request' →
      Run.Alike Outside.TakenFor Event.takenFor (Agree Response.TakenFor) (Outside.call request)
        (Outside.call request') := by
    rintro request _ rfl
    exact Outside.call_takenFor request
  rw [page_eq]
  apply Run.Alike.bind (Outside.request_alike_of_call hcall service.budget hprepare)
  intro answer answer' hanswer
  exact pageOfAnswer_takenFor url hanswer

/-- A listing is the same with what its responses are taken for. -/
theorem instances_takenFor (service : InstanceService) (filter : Option String) :
    Run.Alike Outside.TakenFor Event.takenFor Eq (service.instances filter)
      (service.instances filter) := by
  refine instances_alike_of_page service.page_takenFor rfl ?_ rfl filter
  rintro outside _ rfl
  exact (outside.http.length_map _).symm

/-- A response with a status from 400 to 599 is the last that a listing hears, and the listing fails
with that status.  Every other status is taken for success: with 200 in its place the listing ends
in the same way and shows the same. -/
theorem failing_page_ends_the_listing (service : InstanceService) (filter : Option String)
    (outside : Outside) :
    let run := service.instances filter outside
    let taken := service.instances filter outside.takenFor
    (∀ earlier request response later,
      run.trace.exchanges = earlier ++ (request, .ok response) :: later →
      400 ≤ response.status → response.status < 600 →
      later = [] ∧ run.result = .error (.lookup (.status response.status)) ∧
        (LookupFault.status response.status).message =
          "instance list request failed with status code " ++ toString response.status) ∧
    taken.result = run.result ∧
      taken.trace.map Event.takenFor = run.trace.map Event.takenFor := by
  intro run taken
  refine ⟨?_, ?_⟩
  · intro earlier request response later hsplit hleast hmost
    have hfailing : response.isOk = false := by simp [Response.isOk, hleast, hmost]
    rcases service.sends_or_silent with ⟨sent, hsends⟩ | hsilent
    · obtain ⟨visits, hwalk, hresult, hcalls⟩ := instances_walk hsends filter outside
      rw [hcalls] at hsplit
      obtain ⟨hlater, hlisting⟩ := hwalk.ends_with_failing hsplit hfailing
      refine ⟨hlater, ?_, rfl⟩
      rw [hresult, Visit.ending, hlisting]
      rfl
    · simp [run, Trace.exchanges_of_forall (hsilent filter outside)] at hsplit
  · obtain ⟨hresult, htrace, _⟩ :=
      service.instances_takenFor filter (rfl : outside.TakenFor outside.takenFor)
    exact ⟨hresult.eq.symm, htrace.symm⟩

/-- A page that was not modified is listed like any other. -/
theorem unmodified_page_is_listed :
    let page : Response := ⟨304, "\x7b\"instances\": [\x7b\"id\": \"a\"\x7d]\x7d", .standard⟩
    let service : InstanceService :=
      ⟨⟨.text "here", .null, .null, .null, .text "token", none⟩, .own, ⟨2, 0⟩⟩
    let outside : Outside := ⟨⟨.ok page, []⟩, ⟨.ok none, []⟩, ⟨.kept, []⟩⟩
    (service.instances none outside).result.toOption = some [⟨"a", "", "", none, none⟩] := by
  decide +kernel

end InstanceService

end NodeTopology
