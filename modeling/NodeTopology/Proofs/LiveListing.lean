import NodeTopology.Proofs.Pagination
/-!
The infrastructure service and a fixed list as sources of instances.  Main statements: pages that
lead one to the next are all listed, lost connections before them or not; a search depends on
nothing but what its source lists; so a worker is found through a service that hands out its list
in pages just as it is found in the list itself.
-/

namespace NodeTopology

/-- A page that arrives: connections lost before it, fewer than there are attempts, and a response
that holds it. -/
structure Delivery (attempts : Nat) where
  losses : List RemoteError
  response : Response
  page : Page
  lost : ∀ e ∈ losses, e.isConnection = true
  few : losses.length < attempts
  found : response.status = 200
  decoded : response.decode Page.ofValue = .ok page

namespace Delivery

variable {attempts repeats : Nat}

/-- What a request hears that a page is delivered to. -/
def hearing (delivery : Delivery attempts) : Hearing := ⟨delivery.losses, .ok delivery.response⟩

theorem pageEnding_response (delivery : Delivery attempts) (url : Value) :
    Visit.pageEnding url (.ok delivery.response) = .ok delivery.page := by
  have hok : delivery.response.isOk = true := by
    rw [Response.isOk, delivery.found]
    rfl
  rw [Visit.pageEnding, if_pos hok, delivery.decoded]
  rfl

/-- A visit comes to the page whose delivery its script begins with, and leaves what comes after. -/
theorem visit_page (delivery : Delivery attempts) (hattempts : attempts = repeats + 1)
    {script : Script (Except RemoteError Response)} {more : List (Except RemoteError Response)}
    (hbegins : script.Begins (delivery.hearing.answers ++ more)) (url : Value)
    (filter : Option String) :
    Visit.page ⟨url, filter, script.hear repeats⟩ = .ok delivery.page ∧
      (script.skip (script.hear repeats).answers.length).Begins more := by
  have hfew : delivery.losses.length ≤ repeats :=
    Nat.le_of_lt_succ (hattempts ▸ delivery.few)
  obtain ⟨hheard, hmore⟩ := Script.hear_of_begins delivery.lost hfew rfl hbegins
  rw [hheard]
  constructor
  · exact delivery.pageEnding_response url
  · rw [Hearing.length_answers]
    exact hmore

end Delivery

/-- A walk over deliveries that lead one to the next, by new addresses, lists their pages. -/
theorem Walk.pages_of_deliveries {repeats attempts : Nat} (hattempts : attempts = repeats + 1)
    {seen : List String} {url : Value} {filter : Option String}
    {script : Script (Except RemoteError Response)} {visits : List Visit} {hrefs : List String}
    {deliveries : List (Delivery attempts)}
    (hwalk : Walk repeats seen url filter script visits)
    (hlinked : deliveries.map (·.page.next) = hrefs.map some ++ [none])
    (hdistinct : hrefs.Nodup) (hnew : ∀ href ∈ hrefs, href ∉ seen)
    (hbegins : script.Begins (deliveries.flatMap (·.hearing.answers))) :
    visits.map Visit.page = (deliveries.map (·.page)).map .ok := by
  induction hrefs generalizing seen url filter script visits deliveries with
  | nil =>
      obtain ⟨delivery, later, rfl, hnext, hlater⟩ := List.map_eq_cons_iff.mp hlinked
      obtain ⟨hpage, _⟩ := delivery.visit_page hattempts hbegins url filter
      rw [List.map_eq_nil_iff.mp hlater]
      cases hwalk with
      | failed => simp [hpage]
      | ended => simp [hpage]
      | onward hpage' hnext' =>
          cases hpage.symm.trans hpage'
          have hsome := (InstanceService.unseen?_eq_some hnext').1
          rw [hnext] at hsome
          cases hsome
  | cons href hrefs ih =>
      obtain ⟨delivery, later, rfl, hnext, hlater⟩ := List.map_eq_cons_iff.mp hlinked
      obtain ⟨hpage, hmore⟩ := delivery.visit_page hattempts hbegins url filter
      cases hwalk with
      | failed hfault => cases hpage.symm.trans hfault
      | ended hpage' hnowhere =>
          cases hpage.symm.trans hpage'
          exact absurd (InstanceService.unseen?_eq_none hnowhere hnext)
            (hnew href List.mem_cons_self)
      | onward hpage' hnext' hrest =>
          cases hpage.symm.trans hpage'
          cases hnext.symm.trans (InstanceService.unseen?_eq_some hnext').1
          obtain ⟨hfirst, hothers⟩ := List.nodup_cons.mp hdistinct
          have hunknown : ∀ other ∈ hrefs, other ∉ href :: seen := by
            intro other hother hmem
            rcases List.mem_cons.mp hmem with rfl | hseen
            · exact hfirst hother
            · exact hnew other (List.mem_cons_of_mem href hother) hseen
          rw [List.map_cons, List.map_cons, List.map_cons, hpage,
            ih hrest hlater hothers hunknown hmore]

namespace Resolver

/-- A worker is placed as it is by another resolver whose source lists the same. -/
theorem result_placementOf_congr {first second : Resolver} {worker : String} {here there : Outside}
    (hlist : (first.list (askedFor worker) here).result =
      (second.list (askedFor worker) there).result) :
    (first.placementOf (some worker) here).result =
      (second.placementOf (some worker) there).result := by
  obtain ⟨_, _, hfirst⟩ := first.placementOf_apply worker here
  obtain ⟨_, _, hsecond⟩ := second.placementOf_apply worker there
  rw [hfirst, hsecond]
  exact congrArg (· >>= chosen worker) hlist

end Resolver

namespace InstanceService

/-- A service that delivers a list page by page lists it all. -/
theorem result_instances_of_deliveries {service : InstanceService} {url token : String}
    {filter : Option String} {outside : Outside} {hrefs : List String}
    {deliveries : List (Delivery service.budget.attempts.toNat)}
    (hurl : service.credentials.instancesUrl = .text url)
    (htoken : service.credentials.accessToken = .text token)
    (hlinked : deliveries.map (·.page.next) = hrefs.map some ++ [none])
    (hdistinct : hrefs.Nodup) (hnew : url ∉ hrefs)
    (hbegins : outside.http.Begins (deliveries.flatMap (·.hearing.answers))) :
    (service.instances filter outside).result =
      (Resolver.orNone (deliveries.flatMap (·.page.instances))).mapError .lookup := by
  have hattempts : 0 < service.budget.attempts := by
    cases deliveries with
    | nil => simp at hlinked
    | cons delivery later =>
        have hfew := delivery.few
        omega
  obtain ⟨visits, hwalk, hending, _⟩ :=
    instances_walk (sends_of_text hurl htoken hattempts) filter outside
  rw [hurl] at hwalk
  have hunknown : ∀ href ∈ hrefs, href ∉ firstSeen (.text url) := by
    intro href hhref hseen
    rw [List.mem_singleton.mp hseen] at hhref
    exact hnew hhref
  have hpages := hwalk.pages_of_deliveries (Budget.repeats_add_one hattempts).symm hlinked
    hdistinct hunknown hbegins
  rw [hending, Visit.ending_of_pages hpages, List.flatMap_map]

/-- A worker is found through a service as it is found in the list that the service hands out: with
the same placement, or the same failure. -/
theorem finds_as_the_list_does {service : InstanceService} {url token worker : String}
    {machines : List Instance} {hrefs : List String} {outside elsewhere : Outside}
    {deliveries : List (Delivery service.budget.attempts.toNat)}
    (hurl : service.credentials.instancesUrl = .text url)
    (htoken : service.credentials.accessToken = .text token)
    (hmachines : deliveries.flatMap (·.page.instances) =
      machines.filter (Resolver.passes (Resolver.askedFor worker)))
    (hlinked : deliveries.map (·.page.next) = hrefs.map some ++ [none])
    (hdistinct : hrefs.Nodup) (hnew : url ∉ hrefs)
    (hbegins : outside.http.Begins (deliveries.flatMap (·.hearing.answers))) :
    (service.resolver.placementOf (some worker) outside).result =
      ((Resolver.ofList machines).placementOf (some worker) elsewhere).result := by
  apply Resolver.result_placementOf_congr
  calc (service.instances (Resolver.askedFor worker) outside).result
      = (Resolver.orNone (deliveries.flatMap (·.page.instances))).mapError .lookup :=
        result_instances_of_deliveries hurl htoken hlinked hdistinct hnew hbegins
    _ = (Resolver.orNone (machines.filter
          (Resolver.passes (Resolver.askedFor worker)))).mapError .lookup := by rw [hmachines]
    _ = ((Resolver.ofList machines).list (Resolver.askedFor worker) elsewhere).result :=
        (Resolver.result_ofList machines _ elsewhere).symm

/-- A worker is found by its address on the second of two pages, after a lost connection. -/
theorem second_page_is_searched_as_the_list_is :
    let here : Response := ⟨200, "\x7b\"instances\": [\x7b\"id\": \"a\"\x7d], " ++
      "\"next\": \x7b\"href\": \"there\"\x7d\x7d", .standard⟩
    let there : Response := ⟨200, "\x7b\"instances\": [\x7b\"id\": \"b\", " ++
      "\"zone\": \x7b\"name\": \"us-south-1\"\x7d, " ++
      "\"primary_network_interface\": \x7b\"primary_ipv4_address\": \"10.0.0.2\"\x7d\x7d]\x7d",
      .standard⟩
    let lost : RemoteError := .request .noConnection "connection refused"
    let machines : List Instance := [⟨"a", "", "", none, none⟩,
      ⟨"b", "", "", some ⟨"us-south-1", ""⟩, some ⟨"", "", "10.0.0.2"⟩⟩]
    let service : InstanceService :=
      ⟨⟨.text "here", .null, .null, .null, .text "token", none⟩, .own, ⟨2, 0⟩⟩
    let outside : Outside := ⟨⟨.ok here, [.error lost, .ok there]⟩, ⟨.ok none, []⟩, ⟨.kept, []⟩⟩
    (service.resolver.placementOf (some "10.0.0.2") outside).result =
        ((Resolver.ofList machines).placementOf (some "10.0.0.2") outside).result ∧
      ((Resolver.ofList machines).placementOf (some "10.0.0.2") outside).result.toOption =
        some ⟨"b", "us-south", "us-south-1"⟩ := by
  intro here there lost machines service outside
  let first : Delivery 2 := ⟨[], here, ⟨[⟨"a", "", "", none, none⟩], 0, 0, some "there"⟩,
    by simp, by decide, rfl, by decide +kernel⟩
  let second : Delivery 2 := ⟨[lost], there,
    ⟨[⟨"b", "", "", some ⟨"us-south-1", ""⟩, some ⟨"", "", "10.0.0.2"⟩⟩], 0, 0, none⟩,
    by simp [lost, RemoteError.isConnection, RequestFailure.isConnection], by decide, rfl,
    by decide +kernel⟩
  constructor
  · exact @finds_as_the_list_does service "here" "token" "10.0.0.2" machines ["there"] outside
      outside [first, second] rfl rfl (by decide +kernel) rfl (by decide) (by decide)
      ⟨rfl, rfl, rfl, trivial⟩
  · dsimp +zetaDelta only
    decide +kernel

end InstanceService

end NodeTopology
