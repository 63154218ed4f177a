import Mathlib.Data.List.Forall2
import NodeTopology.Program
import NodeTopology.Proofs.HiddenEntries
import NodeTopology.Proofs.ListingPairs
import NodeTopology.Proofs.SecretFiles
/-!
Runs that look alike to whoever sees no secrets: the forms and authorizations of requests and the
answers to them are out of sight, all else is seen.  Main statements: every part of the program that
handles secrets looks alike whatever they are, and every part that handles none looks like itself
whatever the service answers in secret.
-/

namespace NodeTopology

/-- What is seen of an event without the secrets in it. -/
inductive Sight where
  | whole (event : Event)
  | fetch (url : Value) (filter : Option String)
  | exchange (url : Value)

def Request.sight : Request → Sight
  | get url filter _ => .fetch url filter
  | post url _ _ => .exchange url

def Event.sight : Event → Sight
  | requested request _ => request.sight
  | event => .whole event

/-- Two scripts whose answers correspond one by one. -/
structure Script.Alike {α : Type} (R : α → α → Prop) (one other : Script α) : Prop where
  first : R one.first other.first
  later : List.Forall₂ R one.later other.later

namespace Script.Alike

variable {α : Type} {R : α → α → Prop} {first second : Script α}

theorem rest (halike : Alike R first second) : Alike R first.rest second.rest := by
  obtain ⟨answer, later⟩ := first
  obtain ⟨answer', later'⟩ := second
  obtain ⟨hfirst, hlater⟩ := halike
  cases hlater with
  | nil => exact ⟨hfirst, .nil⟩
  | cons hnext hlater => exact ⟨hnext, hlater⟩

theorem length_eq (halike : Alike R first second) : first.length = second.length :=
  congrArg Nat.succ halike.later.length_eq

end Script.Alike

/-- Two outsides that differ in nothing but the secrets of token responses. -/
structure Outside.Alike (first second : Outside) : Prop where
  http : Script.Alike (Agree Response.Alike) first.http second.http
  reads : first.reads = second.reads
  replaces : first.replaces = second.replaces

/-- Two runs look alike: with outsides that differ in secrets only they end alike, and the same is
seen of them. -/
abbrev Run.LooksAlike {α β : Type} (V : α → β → Prop) (x : Run Outside α) (y : Run Outside β) :
    Prop :=
  Run.Alike Outside.Alike Event.sight V x y

open Run (LooksAlike)

namespace Outside

/-- What an exchange hands over and what comes back is not seen. -/
theorem call_alike {request request' : Request} (hsight : request.sight = request'.sight) :
    LooksAlike (Agree Response.Alike) (call request) (call request') := by
  intro first second houtside
  refine ⟨.ok houtside.http.first, ?_, houtside.http.rest, houtside.reads, houtside.replaces⟩
  exact congrArg (fun seen => [seen]) hsight

theorem readNode_alike (name : String) : LooksAlike Eq (readNode name) (readNode name) := by
  intro first second houtside
  obtain ⟨hhttp, hreads, hreplaces⟩ := houtside
  rw [readNode, readNode, hreads]
  exact ⟨.ok rfl, rfl, hhttp, rfl, hreplaces⟩

theorem replaceNode_alike (name : String) (node : Node) :
    LooksAlike Eq (replaceNode name node) (replaceNode name node) := by
  intro first second houtside
  obtain ⟨hhttp, hreads, hreplaces⟩ := houtside
  rw [replaceNode, replaceNode, hreplaces]
  exact ⟨.ok rfl, rfl, hhttp, hreads, rfl⟩

theorem request_alike (budget : Budget) {prepare prepare' : Run Outside Request}
    (hprepare : LooksAlike (fun r r' => r.sight = r'.sight) prepare prepare') :
    LooksAlike (Option.Rel (Agree Response.Alike)) (request budget prepare)
      (request budget prepare') :=
  request_alike_of_call (fun _ _ hsight => call_alike hsight) budget hprepare

end Outside

namespace Endpoint

theorem secureValue_alike (value : Value) :
    LooksAlike Eq (secureValue value) (secureValue value) := by
  unfold secureValue
  split
  · unfold secure
    dsimp only
    split
    · exact Run.Alike.log_bind (Run.Alike.pure rfl)
    · exact Run.Alike.pure rfl
  · exact Run.Alike.throw _

end Endpoint

theorem SecretFile.read_alike {file file' : SecretFile} {room room' : FileRoom}
    {entries entries' : Entries Value} (hfile : file.Holds room entries)
    (hfile' : file'.Holds room' entries') (path : String) :
    LooksAlike
      (fun table table' => table.get? "VPC" = some (.table entries) ∧
        table'.get? "VPC" = some (.table entries'))
      (file.read path) (file'.read path) := by
  obtain ⟨content, text, table, rfl, htext, htable, hsection⟩ := hfile
  obtain ⟨content', text', table', rfl, htext', htable', hsection'⟩ := hfile'
  apply Run.Alike.log_bind
  dsimp only
  rw [htext, htext']
  split
  · exact Run.Alike.throw_bind _ _ _
  · apply Run.Alike.bind (V := fun s s' => s = text ∧ s' = text') (Run.Alike.pure ⟨rfl, rfl⟩)
    rintro _ _ ⟨rfl, rfl⟩
    rw [htable, htable']
    exact Run.Alike.pure ⟨hsection, hsection'⟩

/-- A key is decoded from both values, or refused from both. -/
theorem ApiKey.decodeValue_alike {secret : String → Prop} {value value' : Value}
    (hidden : Hidden secret value value')
    (hkeys : ∀ key, secret key → (decode key).isOk = true) :
    LooksAlike (fun _ _ => True) (decodeValue value) (decodeValue value') := by
  cases hidden with
  | same =>
      unfold decodeValue
      split
      · apply Run.Alike.ofExcept
        generalize decode _ = decoded
        cases decoded with
        | ok decoded => exact .ok trivial
        | error fault => exact .error fault
      · exact Run.Alike.throw _
  | texts hs ht =>
      apply Run.Alike.ofExcept
      have hdecodes := hkeys _ hs
      have hdecodes' := hkeys _ ht
      generalize decode _ = decoded at hdecodes ⊢
      generalize decode _ = decoded' at hdecodes' ⊢
      cases decoded with
      | error fault => cases hdecodes
      | ok decoded =>
          cases decoded' with
          | error fault => cases hdecodes'
          | ok decoded' => exact .ok trivial

namespace Credentials

/-- Two credentials that differ in secrets only. -/
structure Alike (first second : Credentials) : Prop where
  instancesUrl : first.instancesUrl = second.instancesUrl
  tokenUrl : first.tokenUrl = second.tokenUrl
  basicAuth : ∃ s t, first.basicAuth = .text s ∧ second.basicAuth = .text t
  accessToken : ∃ s t, first.accessToken = .text s ∧ second.accessToken = .text t

/-- The section's credentials are made alike: a key that is to be decoded can be decoded, whichever
it is. -/
theorem ofSection_alike {settings : Settings} {found found' : VpcSection}
    (hfound : VpcSection.Alike settings found found') (room : FileRoom) :
    LooksAlike Credentials.Alike (ofSection found settings room)
      (ofSection found' settings room) := by
  have hclient : clientMisuse? room found'.clientId found'.clientSecret =
      clientMisuse? room found.clientId found.clientSecret := by
    rw [clientMisuse?, clientMisuse?, hfound.clientId.obstacle?_eq,
      hfound.clientSecret.obstacle?_eq]
  unfold ofSection
  rw [← hfound.endpointUrl, ← hfound.tokenUrl, hclient]
  extract_lets rest rest'
  have hrest : ∀ apiKey apiKey', LooksAlike Credentials.Alike (rest apiKey) (rest' apiKey') := by
    intro apiKey apiKey'
    apply Run.Alike.bind_same (Endpoint.secureValue_alike _)
    intro endpoint
    apply Run.Alike.bind_same (Endpoint.secureValue_alike _)
    intro tokenEndpoint
    split
    · exact Run.Alike.throw _
    · exact Run.Alike.pure ⟨rfl, rfl, ⟨_, _, rfl, rfl⟩, ⟨_, _, rfl, rfl⟩⟩
  split
  · next hencoded =>
    have hkeys : ∀ key, sectionSecret settings "g2_api_key" key →
        (ApiKey.decode key).isOk = true := by
      rintro key ⟨_, ⟨_, hdecodes⟩ | hother⟩
      · exact hdecodes hencoded
      · simp at hother
    apply Run.Alike.log_bind
    apply Run.Alike.bind (ApiKey.decodeValue_alike hfound.apiKey hkeys)
    intro decoded decoded' _
    exact hrest _ _
  · exact hrest _ _

/-- What comes of an exchange does not depend on the token. -/
theorem tokenOfAnswer_alike (url : Value) {answer answer' : Option (Except RemoteError Response)}
    (hanswer : Option.Rel (Agree Response.Alike) answer answer') :
    LooksAlike (fun _ _ => True) (tokenOfAnswer url answer) (tokenOfAnswer url answer') := by
  cases hanswer with
  | none => exact Run.Alike.log_bind (Run.Alike.throw _)
  | some hagree =>
      cases hagree with
      | error e => exact Run.Alike.throw _
      | ok hresponse =>
          rw [tokenOfAnswer, tokenOfAnswer, hresponse.status_eq]
          split
          · exact Run.Alike.log_bind (Run.Alike.throw _)
          · apply Run.Alike.bind (Run.Alike.ofExcept _ hresponse.decode_token_agree)
            intro token token' _
            exact Run.Alike.log_bind (Run.Alike.pure trivial)

/-- Credentials that differ in secrets only are refreshed alike, and still do after it. -/
theorem refresh_alike {credentials credentials' : Credentials}
    (halike : Alike credentials credentials') (session : Session) (budget : Budget) :
    LooksAlike Alike (credentials.refresh session budget)
      (credentials'.refresh session budget) := by
  obtain ⟨secret, secret', hsecret, hsecret'⟩ := halike.basicAuth
  have hexchange : LooksAlike (fun _ _ => True) (credentials.exchange session budget)
      (credentials'.exchange session budget) := by
    apply Run.Alike.use
    rw [hsecret, hsecret', halike.tokenUrl]
    refine Run.Alike.bind (Outside.request_alike budget (Run.Alike.pure ?_)) ?_
    · exact congrArg Sight.exchange halike.tokenUrl
    · intro answer answer' hanswer
      exact tokenOfAnswer_alike _ hanswer
  apply Run.Alike.bind hexchange
  intro token token' _
  exact Run.Alike.pure
    ⟨halike.instancesUrl, halike.tokenUrl, halike.basicAuth, ⟨_, _, rfl, rfl⟩⟩

/-- Credentials from files that differ in secrets only look alike. -/
theorem obtain_alike {settings : Settings} {file file' : SecretFile} {room : FileRoom}
    {entries entries' : Entries Value} (hfile : file.Holds room entries)
    (hfile' : file'.Holds room entries')
    (hdiffer : DifferInSecrets (sectionSecret settings) entries entries') (session : Session)
    (budget : Budget) :
    LooksAlike Alike (obtain settings (.file file) session budget)
      (obtain settings (.file file') session budget) := by
  apply Run.Alike.log_bind
  apply Run.Alike.bind (SecretFile.read_alike hfile hfile' settings.configPath)
  rintro table table' ⟨htable, htable'⟩
  apply Run.Alike.bind (Run.Alike.ofExcept _ (VpcSection.ofTable_agree htable htable' hdiffer))
  intro found found' hfound
  rw [hfile.room_eq, hfile'.room_eq]
  apply Run.Alike.bind (ofSection_alike hfound room)
  intro credentials credentials' halike
  exact refresh_alike halike session budget

end Credentials

namespace InstanceService

/-- Two services that differ in secrets only. -/
structure Alike (first second : InstanceService) : Prop where
  credentials : first.credentials.Alike second.credentials
  session : first.session = second.session
  budget : first.budget = second.budget

theorem pageOfAnswer_alike (url : Value) {answer answer' : Option (Except RemoteError Response)}
    (hanswer : Option.Rel (Agree Response.Alike) answer answer') :
    LooksAlike Eq (pageOfAnswer url answer) (pageOfAnswer url answer') := by
  cases hanswer with
  | none => exact Run.Alike.throw _
  | some hagree =>
      cases hagree with
      | error e => exact Run.Alike.throw _
      | ok hresponse =>
          rw [pageOfAnswer, pageOfAnswer, hresponse.isOk_eq, hresponse.status_eq,
            hresponse.decode_page_eq]
          split
          · exact Run.Alike.throw _
          · exact Run.Alike.ofExcept _ (Agree.refl _)

variable {service service' : InstanceService}

theorem page_alike (halike : Alike service service') (url : Value) (filter : Option String) :
    LooksAlike Eq (service.page url filter) (service'.page url filter) := by
  obtain ⟨token, token', htoken, htoken'⟩ := halike.credentials.accessToken
  rw [page_eq, page_eq, pageRequest, pageRequest, htoken, htoken', authorization_text,
    authorization_text, halike.budget]
  refine Run.Alike.bind (Outside.request_alike service'.budget (Run.Alike.pure rfl)) ?_
  intro answer answer' hanswer
  exact pageOfAnswer_alike url hanswer

theorem instances_alike (halike : Alike service service') (filter : Option String) :
    LooksAlike Eq (service.instances filter) (service'.instances filter) :=
  instances_alike_of_page (page_alike halike) halike.credentials.instancesUrl
    (fun _ _ houtside => houtside.http.length_eq) halike.session filter

end InstanceService

namespace Resolver

theorem reportPlacement_alike (machine : Instance) :
    LooksAlike Eq (reportPlacement machine) (reportPlacement machine) := by
  apply Run.Alike.bind_same (Run.Alike.ofExcept _ (Agree.refl _))
  intro found
  exact Run.Alike.log_bind (Run.Alike.pure rfl)

variable {resolver resolver' : Resolver}

theorem search_alike
    (hlist : ∀ filter, LooksAlike Eq (resolver.list filter) (resolver'.list filter))
    (filter : Option String) (fits : Instance → Bool) {report : Instance → Run Outside Placement}
    (hreport : ∀ machine, LooksAlike Eq (report machine) (report machine)) (fault : Fault) :
    LooksAlike Eq (resolver.search filter fits report fault)
      (resolver'.search filter fits report fault) := by
  apply Run.Alike.bind_same (hlist filter)
  intro instances
  split
  · exact hreport _
  · exact Run.Alike.throw _

theorem placementOf_alike
    (hlist : ∀ filter, LooksAlike Eq (resolver.list filter) (resolver'.list filter))
    (worker : Option String) :
    LooksAlike Eq (resolver.placementOf worker) (resolver'.placementOf worker) := by
  unfold placementOf
  split
  · apply Run.Alike.log_bind
    rw [byAddress_eq, byAddress_eq]
    apply search_alike hlist
    intro machine
    exact Run.Alike.log_bind (reportPlacement_alike machine)
  · apply Run.Alike.log_bind
    rw [byName_eq, byName_eq]
    exact search_alike hlist _ _ reportPlacement_alike _

end Resolver

namespace Updater

theorem write_alike (name : String) (node : Node) :
    LooksAlike Eq (write name node) (write name node) := by
  apply Run.Alike.bind_same (Outside.replaceNode_alike name node)
  intro answer
  split
  · exact Run.Alike.pure rfl
  · split
    · exact Run.Alike.pure rfl
    · exact Run.Alike.throw _

theorem round_alike (name : String) (placement : Placement) :
    LooksAlike (Attempt.Alike Eq) (round name placement) (round name placement) := by
  apply Run.Alike.bind_same (Outside.readNode_alike name)
  intro answer
  split
  · split
    · exact Run.Alike.pure (Attempt.Alike.refl _)
    · exact Run.Alike.throw _
  · apply Run.Alike.bind_same (Run.Alike.orMisuse _ _)
    intro node
    apply Run.Alike.bind_same (write_alike name node)
    intro written
    split <;> exact Run.Alike.pure (Attempt.Alike.refl _)

theorem conclude_alike (name : String) (placement : Placement) (written : Except RemoteError Unit) :
    LooksAlike Eq (conclude name placement written) (conclude name placement written) := by
  cases written with
  | error e => exact Run.Alike.throw _
  | ok => exact Run.Alike.log_bind (Run.Alike.pure rfl)

theorem update_alike {resolver resolver' : Resolver}
    (hlist : ∀ filter, LooksAlike Eq (resolver.list filter) (resolver'.list filter))
    (node : Option Node) (policy : ConflictPolicy) (budget : Budget) (name : String) :
    LooksAlike Eq (Updater.update ⟨node, resolver, policy, budget⟩ name)
      (Updater.update ⟨node, resolver', policy, budget⟩ name) := by
  unfold update
  apply Run.Alike.bind_same (Resolver.placementOf_alike hlist _)
  intro placement
  apply Run.Alike.bind_same (Run.Alike.orMisuse _ _)
  intro sent
  apply Run.Alike.bind_same (write_alike name sent)
  intro first
  split
  · exact conclude_alike name placement _
  · split
    · exact conclude_alike name placement _
    · cases policy with
      | ignore => exact Run.Alike.log_bind (Run.Alike.pure rfl)
      | fail => exact conclude_alike name placement _
      | retry =>
          apply Run.Alike.log_bind
          rw [settle, settle]
          apply Run.Alike.bind_same
          · apply Run.Alike.bind_same (Retry.run_alike_same _ _ (round_alike name placement))
            intro settled
            exact Run.Alike.pure rfl
          · exact conclude_alike name placement

end Updater

namespace Cluster

theorem readAttempt_alike (name : String) :
    LooksAlike (Attempt.Alike Eq) (readAttempt name) (readAttempt name) := by
  apply Run.Alike.bind_same (Outside.readNode_alike name)
  intro answer
  split
  · exact Run.Alike.pure (Attempt.Alike.refl _)
  · dsimp only
    split
    · exact Run.Alike.throw_bind _ _ _
    · split
      · exact Run.Alike.log_bind (Run.Alike.pure (Attempt.Alike.refl _))
      · exact Run.Alike.pure (Attempt.Alike.refl _)

theorem node_alike (budget : Budget) (name : String) :
    LooksAlike Eq (node budget name) (node budget name) := by
  apply Run.Alike.bind_same (Retry.run_alike_same _ budget (readAttempt_alike name))
  intro answer
  split
  · exact Run.Alike.pure rfl
  · exact Run.Alike.throw _
  · exact Run.Alike.throw _
  · exact Run.Alike.throw _

end Cluster

end NodeTopology
