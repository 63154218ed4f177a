import NodeTopology.Proofs.InstanceListing
import NodeTopology.Proofs.SecretFiles
import NodeTopology.Proofs.TokenHistory
/-!
Credentials as the infrastructure service gets to see them.  A resolver reads the address of the
instance list and what it is authorized by, and nothing else.  Main statement: credentials that were
obtained from a secret file and an exchange drive a resolver exactly as those do that a provider
gives with the same address and token; whether a token names its scheme already makes no difference;
and every page is asked for with the one authorization that the token stands for.
-/

namespace NodeTopology

theorem Run.Emits.observe {σ α : Type} {P : Event → Prop} {x : Run σ α} (hx : x.Emits P) :
    x.observe.Emits P := hx

namespace InstanceService

theorem isBearer_bearer (token : String) : isBearer ("Bearer " ++ token) = true := by
  have hword : "Bearer ".toList.map Char.toLower = "bearer ".toList := by decide
  have hlowered : (Text.lowered ("Bearer " ++ token)).toList =
      "bearer ".toList ++ token.toList.map Char.toLower := by
    rw [Text.lowered, String.toList_append, List.map_append, hword]
    exact String.toList_ofList
  rw [isBearer, Text.beginsWithWord, hlowered, List.isPrefixOf_iff_prefix]
  exact List.prefix_append _ _

theorem bearerOf_of_ne_empty {token : String} (hfull : token ≠ "") :
    bearerOf token = .text (if isBearer token then token else "Bearer " ++ token) := by
  have hempty : token.isEmpty = false := by simpa using hfull
  rw [bearerOf, hempty, Bool.false_or]

/-- A token that does not name its scheme authorizes as the one that does. -/
theorem bearerOf_bearer {token : String} (hfull : token ≠ "") (hplain : isBearer token = false) :
    bearerOf ("Bearer " ++ token) = bearerOf token := by
  rw [bearerOf_of_ne_empty hfull, bearerOf, isBearer_bearer, hplain]
  simp

/-- The credentials are the same to whoever reads the address of the list and the authorization. -/
structure SameAccess (one other : Credentials) : Prop where
  instancesUrl : one.instancesUrl = other.instancesUrl
  authorization : authorization one.accessToken = authorization other.accessToken

section SameAccess

variable {one other : Credentials} (hsame : SameAccess one other) (session : Session)
  (budget : Budget)
include hsame

theorem page_congr (url : Value) (filter : Option String) :
    page ⟨one, session, budget⟩ url filter = page ⟨other, session, budget⟩ url filter := by
  rw [page_eq, page_eq, pageRequest, pageRequest, hsame.authorization]

theorem pages_congr (links : Nat) (seen : List String) (url : Value) (filter : Option String) :
    pages ⟨one, session, budget⟩ links seen url filter =
      pages ⟨other, session, budget⟩ links seen url filter := by
  induction links generalizing seen url filter with
  | zero => rw [pages, pages, page_congr hsame]
  | succ links ih => simp only [pages, page_congr hsame, ih]

theorem instances_congr (filter : Option String) :
    instances ⟨one, session, budget⟩ filter = instances ⟨other, session, budget⟩ filter := by
  simp only [instances, allPages, hsame.instancesUrl, pages_congr hsame]

theorem resolver_congr :
    resolver ⟨one, session, budget⟩ = resolver ⟨other, session, budget⟩ := by
  rw [resolver, resolver, Resolver.mk.injEq]
  funext filter
  exact instances_congr hsame session budget filter

end SameAccess

end InstanceService

namespace Resolver

section Emits

variable {P : Event → Prop} (hlogged : ∀ line, P (.logged line)) {resolver : Resolver}
  (hlist : ∀ filter, (resolver.list filter).Emits P)
include hlogged hlist

theorem ask_emits (query : Query) : (resolver.ask query).Emits P := by
  cases query with
  | placement worker =>
      exact Run.Emits.bind (placementOf_emits hlogged hlist worker) fun _ => Run.Emits.pure _
  | placementByAddress worker =>
      exact Run.Emits.bind (byAddress_emits hlogged hlist worker) fun _ => Run.Emits.pure _
  | placementByName worker =>
      exact Run.Emits.bind (byName_emits hlogged hlist worker) fun _ => Run.Emits.pure _
  | instances filter => exact Run.Emits.bind (hlist filter) fun _ => Run.Emits.pure _

theorem askAll_emits (queries : List Query) : (resolver.askAll queries).Emits P := by
  induction queries with
  | nil => exact Run.Emits.pure _
  | cons query rest ih =>
      apply Run.Emits.bind (Run.Emits.observe (ask_emits hlogged hlist query))
      intro found
      exact Run.Emits.bind ih fun _ => Run.Emits.pure _

end Emits

end Resolver

/-- A page that an event asks for is asked for with this authorization. -/
def Event.Presents (authorization : Value) (event : Event) : Prop :=
  ∀ url filter presented answer,
    event = .requested (.get url filter presented) answer → presented = authorization

theorem InstanceService.permits_presents {service : InstanceService} {token : String}
    (htoken : service.credentials.accessToken = .text token) :
    service.Permits (Event.Presents (bearerOf token)) := by
  constructor
  · rintro _ _ _ _ _ ⟨⟩
  · rintro _ _ _ _ _ ⟨⟩
  · rintro _ _ _ _ ⟨⟩
  · rintro _ _ _ _ ⟨⟩
  · -- Each attempt makes its authorization anew, but always of the same token.
    intro outside value hvalue
    rw [htoken, authorization_text] at hvalue
    cases hvalue
    rintro _ _ _ _ _ _ _ ⟨⟩
    rfl

namespace SecretFile

theorem Holds.unique {file : SecretFile} {room room' : FileRoom} {entries entries' : Entries Value}
    (hfile : file.Holds room entries) (hfile' : file.Holds room' entries') :
    entries = entries' := by
  obtain ⟨content, text, table, rfl, htext, hread, hsection⟩ := hfile
  obtain ⟨content', text', table', hcontent, htext', hread', hsection'⟩ := hfile'
  cases hcontent
  cases htext.symm.trans htext'
  cases hread.symm.trans hread'
  cases hsection.symm.trans hsection'
  rfl

end SecretFile

namespace Credentials

variable {settings : Settings} {file : SecretFile} {session : Session} {budget : Budget}
  {outside : Outside}

/-- Credentials can be obtained only with a path that a file can have. -/
theorem isUsable_of_obtain {credentials : Credentials}
    (hresult : (obtain settings (.file file) session budget outside).result = .ok credentials) :
    FilePath.isUsable settings.configPath = true := by
  rw [← Bool.not_eq_false]
  intro hpath
  obtain ⟨lines, hrun⟩ := obtain_of_unusable hpath file session budget outside
  rw [hrun] at hresult
  cases hresult

/-- What is obtained from a secret file is what the file gives, with the token that the exchange
handed over. -/
theorem obtain_file_ok {credentials : Credentials}
    (hresult : (obtain settings (.file file) session budget outside).result = .ok credentials) :
    ∃ found token, file.Accepted settings found ∧ credentials = found.receive token ∧
      (obtain settings (.file file) session budget outside).trace.Hands token := by
  have hpath := isUsable_of_obtain hresult
  cases hfile : ofFile settings file with
  | error fault =>
      rw [(obtain_of_ofFile_error session budget outside hpath hfile).1] at hresult
      cases hresult
  | ok found =>
      obtain ⟨lines, hrun⟩ := obtain_of_ofFile_ok session budget outside hpath hfile
      rw [hrun] at hresult ⊢
      rw [refresh, Run.bind_pure_apply] at hresult ⊢
      cases hexchange : (found.exchange session budget outside).result with
      | error fault =>
          rw [hexchange] at hresult
          cases hresult
      | ok token =>
          rw [hexchange] at hresult
          cases hresult
          refine ⟨found, token, SecretFile.accepted_iff.mpr hfile, rfl, ?_⟩
          exact (hands_of_exchange hexchange).append_left _

def provided (token url : String) : Credentials where
  instancesUrl := .text (Endpoint.instances (Endpoint.secured url))
  apiKey := .text ""
  tokenUrl := .text ""
  basicAuth := .text ""
  accessToken := .text token
  token := none

/-- A provider is not asked for more than a token and an address. -/
theorem obtain_provider_tells (settings : Settings) (token url : Value) (session : Session)
    (budget : Budget) :
    (obtain settings (.provider token url) session budget).Tells
      (Endpoint.securedValue url >>= fun endpoint => .ok
        ⟨.text (Endpoint.instances endpoint), .text "", .text "", .text "", token, none⟩) := by
  apply Run.Tells.log_bind
  exact Run.Tells.bind (Endpoint.secureValue_tells url) fun _ => Run.Tells.pure _

theorem obtain_provider (settings : Settings) (token url : String) (session : Session)
    (budget : Budget) (outside : Outside) :
    (obtain settings (.provider (.text token) (.text url)) session budget outside).result =
      .ok (provided token url) := by
  obtain ⟨lines, hlines⟩ :=
    obtain_provider_tells settings (.text token) (.text url) session budget outside
  rw [hlines]
  rfl

/-- Credentials from a file with this address are as those of a provider with the same address and
token to a resolver. -/
theorem sameAccess_of_accepted {found : Credentials} {room : FileRoom} {entries : Entries Value}
    {url : String} (hfile : file.Holds room entries)
    (hurl : entries.get? "g2_riaas_endpoint_url" = some (.text url))
    (haccepted : file.Accepted settings found) (token : AccessToken) :
    InstanceService.SameAccess (found.receive token) (provided token.accessToken url) := by
  cases haccepted with
  | intro hfile' hkey hendpoint htokenUrl hclient =>
      cases hfile.unique hfile'.holds
      cases hendpoint.symm.trans (Value.field_of_get? hurl)
      exact ⟨rfl, rfl⟩

/-- Two credentials drive a resolver alike: any queries are answered alike, with the same trace. -/
def DriveAlike (one other : Credentials) : Prop :=
  ∀ session budget queries,
    (InstanceService.resolver ⟨one, session, budget⟩).askAll queries =
      (InstanceService.resolver ⟨other, session, budget⟩).askAll queries

theorem driveAlike_of_sameAccess {one other : Credentials}
    (hsame : InstanceService.SameAccess one other) : DriveAlike one other := by
  intro session budget queries
  rw [InstanceService.resolver_congr hsame]

/-- What credentials are to a resolver.  Those from a secret file and an exchange drive it as those
of a provider with the same address and token do; a token drives it as the same token behind the
name of its scheme does; and whatever is asked, every page is fetched with one authorization, the
token itself or the token behind the name of its scheme. -/
theorem file_credentials_drive_as_provided :
    (∀ {settings : Settings} {file : SecretFile} {session : Session} {budget : Budget}
        {outside : Outside} {room : FileRoom} {entries : Entries Value} {url : String}
        {token : AccessToken} {fromFile : Credentials}, file.Holds room entries →
      entries.get? "g2_riaas_endpoint_url" = some (.text url) →
      (obtain settings (.file file) session budget outside).result = .ok fromFile →
      (obtain settings (.file file) session budget outside).trace.Hands token →
      ∃ fromProvider, DriveAlike fromFile fromProvider ∧
        ∀ settings session budget outside,
          (obtain settings (.provider (.text token.accessToken) (.text url)) session budget
            outside).result = .ok fromProvider) ∧
    (∀ (credentials : Credentials) (token : String), token ≠ "" →
      InstanceService.isBearer token = false →
      DriveAlike { credentials with accessToken := .text token }
        { credentials with accessToken := .text ("Bearer " ++ token) }) ∧
    ∀ (credentials : Credentials) (token : String) (session : Session) (budget : Budget)
      (queries : List Resolver.Query) (outside : Outside), token ≠ "" →
      credentials.accessToken = .text token →
      ∀ event ∈ ((InstanceService.resolver ⟨credentials, session, budget⟩).askAll queries
          outside).trace,
        event.Presents (.text
          (if InstanceService.isBearer token then token else "Bearer " ++ token)) := by
  refine ⟨?_, ?_, ?_⟩
  · intro settings file session budget outside room entries url token fromFile hfile hurl hread
      hands
    obtain ⟨found, token', haccepted, rfl, hands'⟩ := obtain_file_ok hread
    cases hands.unique hands'
    refine ⟨provided token.accessToken url, ?_, ?_⟩
    · exact driveAlike_of_sameAccess (sameAccess_of_accepted hfile hurl haccepted token)
    · intro settings session budget outside
      exact obtain_provider settings token.accessToken url session budget outside
  · intro credentials token hfull hplain
    apply driveAlike_of_sameAccess
    refine ⟨rfl, ?_⟩
    rw [InstanceService.authorization_text, InstanceService.authorization_text,
      InstanceService.bearerOf_bearer hfull hplain]
  · intro credentials token session budget queries outside hfull htoken
    have hpermits := @InstanceService.permits_presents ⟨credentials, session, budget⟩ _ htoken
    rw [← InstanceService.bearerOf_of_ne_empty hfull]
    exact Resolver.askAll_emits hpermits.logged
      (fun filter => InstanceService.instances_emits hpermits filter) queries outside

/-- A file whose key was exchanged for a token, and a provider of that token, come to the same. -/
theorem file_and_provider_of_one_token_drive_alike :
    let settings : Settings := { Settings.standard with configDir := "secret" }
    let file : SecretFile := .bytes (Text.utf8Bytes
      ("[VPC]\ng2_riaas_endpoint_url = \"http://vpc/\"\n" ++
        "g2_token_exchange_endpoint_url = \"iam\"\ng2_api_key = \"key\"\n")) .standard
    let outside : Outside :=
      ⟨⟨.ok ⟨200, "\x7b\"access_token\": \"tok\"\x7d", .standard⟩, []⟩, ⟨.ok none, []⟩,
        ⟨.kept, []⟩⟩
    ∃ fromFile fromProvider,
      (obtain settings (.file file) .own .standard outside).result = .ok fromFile ∧
      (obtain settings (.provider (.text "tok") (.text "http://vpc/")) .own .standard
        outside).result = .ok fromProvider ∧ DriveAlike fromFile fromProvider := by
  intro settings file outside
  have hfile : file.Holds .standard [("g2_riaas_endpoint_url", .text "http://vpc/"),
      ("g2_token_exchange_endpoint_url", .text "iam"), ("g2_api_key", .text "key")] :=
    @SecretFile.holds_of_texts _ _ [("g2_riaas_endpoint_url", "http://vpc/"),
      ("g2_token_exchange_endpoint_url", "iam"), ("g2_api_key", "key")] (by decide +kernel)
  have htoken : (obtain settings (.file file) .own .standard outside).result.toOption.bind
      (·.token) = some ⟨"tok", "", "", 0, 0⟩ := by decide +kernel
  cases hread : (obtain settings (.file file) .own .standard outside).result with
  | error fault =>
      rw [hread] at htoken
      cases htoken
  | ok fromFile =>
      obtain ⟨found, token, _, rfl, hands⟩ := obtain_file_ok hread
      rw [hread] at htoken
      cases htoken
      obtain ⟨fromProvider, halike, hprovided⟩ :=
        file_credentials_drive_as_provided.1 hfile rfl hread hands
      exact ⟨_, fromProvider, rfl, hprovided settings .own .standard outside, halike⟩

end Credentials

end NodeTopology
