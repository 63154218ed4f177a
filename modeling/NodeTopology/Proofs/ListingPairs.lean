import NodeTopology.Proofs.InstanceListing
import NodeTopology.Proofs.RunPairs
/-!
Listings in pairs.  Main statements: requests are repeated alike if their calls are answered alike,
and two services list alike if they fetch pages alike.
-/

namespace NodeTopology

variable {γ : Type} {S : Outside → Outside → Prop} {view : Event → γ}

/-- Requests whose calls are answered alike are repeated alike. -/
theorem Outside.request_alike_of_call {R : Response → Response → Prop}
    {Q : Request → Request → Prop}
    (hcall : ∀ request request', Q request request' →
      Run.Alike S view (Agree R) (call request) (call request'))
    (budget : Budget) {prepare prepare' : Run Outside Request}
    (hprepare : Run.Alike S view Q prepare prepare') :
    Run.Alike S view (Option.Rel (Agree R)) (request budget prepare)
      (request budget prepare') := by
  apply Retry.run_alike
  apply Run.Alike.bind hprepare
  intro request request' hrequest
  apply Run.Alike.bind (hcall request request' hrequest)
  intro answer answer' hanswer
  cases hanswer with
  | ok hresponse => exact Run.Alike.pure (.success hresponse)
  | error e =>
      dsimp only
      split
      · exact Run.Alike.pure (.failure e _)
      · exact Run.Alike.throw _

namespace InstanceService

section Pages

variable {service service' : InstanceService}
  (hpage : ∀ url filter, Run.Alike S view Eq (service.page url filter) (service'.page url filter))

include hpage

theorem pages_alike_of_page (links : Nat) (seen : List String) (url : Value)
    (filter : Option String) :
    Run.Alike S view Eq (service.pages links seen url filter)
      (service'.pages links seen url filter) := by
  induction links generalizing seen url filter with
  | zero => exact Run.Alike.bind_same (hpage url filter) fun page => Run.Alike.pure rfl
  | succ links ih =>
      apply Run.Alike.bind_same (hpage url filter)
      intro page
      split
      · exact Run.Alike.pure rfl
      · exact Run.Alike.bind_same (ih _ _ _) fun later => Run.Alike.pure rfl

variable (hurl : service.credentials.instancesUrl = service'.credentials.instancesUrl)
  (hlength : ∀ first second, S first second → first.http.length = second.http.length)

include hurl hlength

theorem allPages_alike_of_page (filter : Option String) :
    Run.Alike S view Eq (service.allPages filter) (service'.allPages filter) := by
  cases hkeyable : service.credentials.instancesUrl.isKeyable with
  | false =>
      rw [allPages_of_isKeyable_eq_false hkeyable,
        allPages_of_isKeyable_eq_false (hurl ▸ hkeyable)]
      exact Run.Alike.throw _
  | true =>
      rw [allPages_of_isKeyable hkeyable, allPages_of_isKeyable (hurl ▸ hkeyable), hurl]
      intro first second houtside
      dsimp only
      rw [hlength first second houtside]
      exact pages_alike_of_page hpage _ _ _ _ houtside

theorem instances_alike_of_page (hsession : service.session = service'.session)
    (filter : Option String) :
    Run.Alike S view Eq (service.instances filter) (service'.instances filter) := by
  apply Run.Alike.log_bind
  rw [hsession]
  apply Run.Alike.bind_same (Run.Alike.use _ (allPages_alike_of_page hpage hurl hlength _))
  intro found
  exact Run.Alike.ofExcept _ (Agree.refl _)

end Pages

end InstanceService

end NodeTopology
