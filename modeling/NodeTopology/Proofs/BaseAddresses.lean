import NodeTopology.Proofs.PlainAddresses
/-!
How the base addresses of the services may be spelled.  The scheme may be the plain or the secure
one, and any number of slashes may stand at the end.  Main statements: all spellings of a base come
to the same addresses of the services, whether they stand in a secret file or come from a provider;
an address is corrected exactly if it has the plain scheme, once and with one warning; and no base
at all comes to an address with the plain scheme.
-/

namespace NodeTopology

namespace Endpoint

def slashes (number : Nat) : String := String.ofList (List.replicate number '/')

/-- The spellings of a base address: either scheme, and any number of slashes at the end. -/
inductive Spells (base : String) : String → Prop
  | plain (number : Nat) : Spells base ("http://" ++ base ++ slashes number)
  | secure (number : Nat) : Spells base ("https://" ++ base ++ slashes number)

/-- The warning that comes with the correction of an address. -/
def correctionLine (url : String) : LogLine :=
  ⟨.warning, "Endpoint URL " ++ url
    ++ " is of the form 'http' instead of 'https'. Correcting it for valid request."⟩

/-- How an address is corrected, and what is said about it. -/
inductive Corrects (url : String) : String → List LogLine → Prop
  /-- The plain scheme gives way to the secure one, and the rest is kept. -/
  | plain {rest : String} (hplain : url = "http://" ++ rest) :
      Corrects url ("https://" ++ rest) [correctionLine url]
  /-- Any other address is left alone. -/
  | other (hother : ¬∃ rest, url = "http://" ++ rest) : Corrects url url []

theorem isPlain_eq_true_iff {url : String} :
    isPlain url = true ↔ ∃ rest, url = "http://" ++ rest := by
  rw [isPlain_iff]
  constructor
  · rintro ⟨rest, hrest⟩
    refine ⟨String.ofList rest, String.toList_inj.mp ?_⟩
    rw [← hrest, String.toList_append]
    exact congrArg (plainScheme ++ ·) String.toList_ofList.symm
  · rintro ⟨rest, rfl⟩
    rw [String.toList_append]
    exact List.prefix_append _ _

theorem isPlain_eq_false_iff {url : String} :
    isPlain url = false ↔ ¬∃ rest, url = "http://" ++ rest := by
  rw [← isPlain_eq_true_iff, Bool.not_eq_true]

theorem secured_plain (rest : String) : secured ("http://" ++ rest) = "https://" ++ rest := by
  have hplain : isPlain ("http://" ++ rest) = true := isPlain_eq_true_iff.mpr ⟨rest, rfl⟩
  apply String.toList_inj.mp
  rw [secured, if_pos hplain, String.toList_ofList, String.toList_append, String.toList_append]
  rfl

theorem secured_secure (rest : String) : secured ("https://" ++ rest) = "https://" ++ rest := by
  rw [secured_eq_self_iff, ← secured_plain]
  exact isPlain_secured _

/-- To correct an address once more changes nothing. -/
theorem secured_secured (url : String) : secured (secured url) = secured url :=
  (secured_eq_self_iff _).mpr (isPlain_secured url)

theorem secured_of_spells {base url : String} (hurl : Spells base url) :
    ∃ number, secured url = "https://" ++ base ++ slashes number := by
  cases hurl with
  | plain number => exact ⟨number, by rw [String.append_assoc, secured_plain, String.append_assoc]⟩
  | secure number => exact ⟨number, by rw [String.append_assoc, secured_secure]⟩

/-- All spellings of a base are the same once they have lost their slashes. -/
theorem trimmed_of_spells {base url : String} (hurl : Spells base url) :
    trimmed (secured url) = trimmed ("https://" ++ base) := by
  obtain ⟨number, hsecured⟩ := secured_of_spells hurl
  rw [hsecured]
  exact trimmed_append_slashes _ _

theorem instances_of_spells {base url : String} (hurl : Spells base url) :
    instances (secured url) = instances ("https://" ++ base) := by
  rw [instances, trimmed_of_spells hurl, instances]

theorem tokenExchange_of_spells {base url : String} (hurl : Spells base url) :
    tokenExchange (secured url) = tokenExchange ("https://" ++ base) := by
  rw [tokenExchange, trimmed_of_spells hurl, tokenExchange]

theorem isPlain_tokenExchange {base : String} (hbase : isPlain base = false) :
    isPlain (tokenExchange base) = false :=
  isPlain_trimmed_append hbase (c := 'o') rfl (by decide)

theorem secure_apply {σ : Type} (url : String) (supply : σ) :
    secure url supply =
      ⟨.ok (secured url), if isPlain url then [.logged (correctionLine url)] else [], supply⟩ := by
  rw [secure]
  by_cases hplain : isPlain url = true
  · rw [if_pos hplain, if_pos hplain]
    rfl
  · rw [if_neg hplain, if_neg hplain]
    rfl

/-- An address comes out corrected, with the warning that belongs to it and nothing else done. -/
theorem secure_corrects {σ : Type} (url : String) (supply : σ) :
    ∃ lines, secure url supply = ⟨.ok (secured url), lines.map .logged, supply⟩ ∧
      Corrects url (secured url) lines := by
  rw [secure_apply]
  by_cases hplain : isPlain url = true
  · obtain ⟨rest, hrest⟩ := isPlain_eq_true_iff.mp hplain
    refine ⟨[correctionLine url], by rw [if_pos hplain]; rfl, ?_⟩
    have hsecured : secured url = "https://" ++ rest := by rw [hrest, secured_plain]
    rw [hsecured]
    exact .plain hrest
  · rw [Bool.not_eq_true] at hplain
    refine ⟨[], by rw [hplain]; rfl, ?_⟩
    rw [(secured_eq_self_iff url).mpr hplain]
    exact .other (isPlain_eq_false_iff.mp hplain)

theorem isVoid_of_spells {base url : String} (hurl : Spells base url) :
    (Value.text url).isVoid = false := by
  cases hurl with
  | plain | secure => simp [Value.isVoid, Bool.eq_false_iff]

end Endpoint

namespace VpcSection

/-- A section with these base addresses in place of its own. -/
def withBases (found : VpcSection) (url tokenUrl : String) : VpcSection :=
  { found with endpointUrl := .text url, tokenUrl := .text tokenUrl }

/-- What a section comes to depends on its base addresses in no other way than through the
addresses of the services. -/
theorem credentialsFor_withBases (found : VpcSection) (url tokenUrl : String) (room : FileRoom)
    (apiKey : Value) :
    (found.withBases url tokenUrl).credentialsFor room apiKey =
      match Credentials.clientMisuse? room found.clientId found.clientSecret with
      | some misuse => .error (.misuse misuse)
      | none =>
          .ok
            { instancesUrl := .text (Endpoint.instances (Endpoint.secured url))
              apiKey
              tokenUrl := .text (Endpoint.tokenExchange (Endpoint.secured tokenUrl))
              basicAuth := .text (found.clientId.plain ++ ":" ++ found.clientSecret.plain)
              accessToken := .text ""
              token := none } :=
  credentialsFor_of_texts rfl rfl room apiKey

theorem credentialsFor_of_spells {base tokenBase url tokenUrl : String}
    (hurl : Endpoint.Spells base url) (htokenUrl : Endpoint.Spells tokenBase tokenUrl)
    (found : VpcSection) (room : FileRoom) (apiKey : Value) :
    (found.withBases url tokenUrl).credentialsFor room apiKey =
      (found.withBases ("https://" ++ base) ("https://" ++ tokenBase)).credentialsFor room
        apiKey := by
  rw [credentialsFor_withBases, credentialsFor_withBases, Endpoint.instances_of_spells hurl,
    Endpoint.tokenExchange_of_spells htokenUrl, Endpoint.secured_secure, Endpoint.secured_secure]

end VpcSection

namespace SecretFile

/-- Entries of a section in which both bases are spelled in some way. -/
structure NamesBases (entries : Entries Value) (base tokenBase : String) : Prop where
  endpoint : ∃ url, entries.get? "g2_riaas_endpoint_url" = some (.text url) ∧
    Endpoint.Spells base url
  token : ∃ url, entries.get? "g2_token_exchange_endpoint_url" = some (.text url) ∧
    Endpoint.Spells tokenBase url

/-- Entries that agree on everything but the base addresses. -/
def AgreeBesidesBases (one other : Entries Value) : Prop :=
  ∀ key, key ≠ "g2_riaas_endpoint_url" → key ≠ "g2_token_exchange_endpoint_url" →
    one.get? key = other.get? key

section Bases

variable {settings : Settings} {one other : SecretFile} {room : FileRoom}
  {entries entries' : Entries Value} {base tokenBase : String}

theorem missing_of_namesBases (hnames : NamesBases entries base tokenBase) :
    VpcSection.missing entries =
      if (Value.field entries "g2_api_key").isVoid then ["g2_api_key"] else [] := by
  obtain ⟨⟨url, hurl, hspells⟩, tokenUrl, htokenUrl, htokenSpells⟩ := hnames
  have hfull : (Value.field entries "g2_riaas_endpoint_url").isVoid = false := by
    rw [Value.field_of_get? hurl]
    exact Endpoint.isVoid_of_spells hspells
  have htokenFull : (Value.field entries "g2_token_exchange_endpoint_url").isVoid = false := by
    rw [Value.field_of_get? htokenUrl]
    exact Endpoint.isVoid_of_spells htokenSpells
  simp [VpcSection.missing, VpcSection.requiredKeys, hfull, htokenFull, List.filter_cons]

/-- A section that names its bases is one with the bases spelled in full. -/
theorem credentialsFor_of_namesBases (hnames : NamesBases entries base tokenBase)
    (room : FileRoom) (apiKey : Value) :
    (sectionOf entries).credentialsFor room apiKey =
      ((sectionOf entries).withBases ("https://" ++ base)
        ("https://" ++ tokenBase)).credentialsFor room apiKey := by
  obtain ⟨⟨url, hurl, hspells⟩, tokenUrl, htokenUrl, htokenSpells⟩ := hnames
  have hsection : sectionOf entries = (sectionOf entries).withBases url tokenUrl := by
    rw [sectionOf, VpcSection.withBases, Value.field_of_get? hurl, Value.field_of_get? htokenUrl]
  rw [← VpcSection.credentialsFor_of_spells hspells htokenSpells, ← hsection]

/-- Entries that agree besides their bases make the same section once the bases are replaced. -/
theorem withBases_of_agree (hagree : AgreeBesidesBases entries entries') (url tokenUrl : String) :
    (sectionOf entries).withBases url tokenUrl = (sectionOf entries').withBases url tokenUrl := by
  have hkey := hagree "g2_api_key" (by decide) (by decide)
  have hid := hagree "iam_client_id" (by decide) (by decide)
  have hsecret := hagree "iam_client_secret" (by decide) (by decide)
  simp only [sectionOf, VpcSection.withBases, VpcSection.clientIn, VpcSection.clientSecretIn,
    Value.field, hkey, hid, hsecret]

/-- Files that spell the same bases come to the same credentials. -/
theorem ofFile_of_agree (hone : one.Holds room entries) (hother : other.Holds room entries')
    (hnames : NamesBases entries base tokenBase) (hnames' : NamesBases entries' base tokenBase)
    (hagree : AgreeBesidesBases entries entries') :
    Credentials.ofFile settings one = Credentials.ofFile settings other := by
  have hkey : Value.field entries "g2_api_key" = Value.field entries' "g2_api_key" := by
    rw [Value.field, hagree "g2_api_key" (by decide) (by decide), Value.field]
  have husable : (sectionOf entries).usableKey settings =
      (sectionOf entries').usableKey settings := by
    have hsame : (sectionOf entries).apiKey = (sectionOf entries').apiKey := hkey
    rw [VpcSection.usableKey, VpcSection.usableKey, hsame]
  have hmade : (sectionOf entries).credentialsFor room =
      (sectionOf entries').credentialsFor room := by
    funext apiKey
    rw [credentialsFor_of_namesBases hnames, credentialsFor_of_namesBases hnames',
      withBases_of_agree hagree]
  rw [ofFile_of_holds hone, ofFile_of_holds hother, missing_of_namesBases hnames,
    missing_of_namesBases hnames', hkey, husable, hmade]

end Bases

end SecretFile

namespace Credentials

section Obtain

variable {settings : Settings}

theorem read_tells_same {σ : Type} {one other : SecretFile}
    (hsame : ofFile settings one = ofFile settings other) :
    ∃ ending, (read settings one : Run σ Credentials).Tells ending ∧
      (read settings other : Run σ Credentials).Tells ending := by
  by_cases hpath : FilePath.isUsable settings.configPath = true
  · refine ⟨ofFile settings one, read_tells hpath one, ?_⟩
    rw [hsame]
    exact read_tells hpath other
  · rw [Bool.not_eq_true] at hpath
    exact ⟨_, read_of_unusable hpath one, read_of_unusable hpath other⟩

/-- From files that come to the same credentials the same is obtained, with the same calls. -/
theorem obtain_of_same_file {one other : SecretFile}
    (hsame : ofFile settings one = ofFile settings other) (session : Session) (budget : Budget)
    (outside : Outside) :
    let run := obtain settings (.file one) session budget outside
    let run' := obtain settings (.file other) session budget outside
    run.result = run'.result ∧ run.trace.exchanges = run'.trace.exchanges ∧
      run.supply = run'.supply := by
  obtain ⟨ending, hone, hother⟩ := @read_tells_same settings Outside one other hsame
  obtain ⟨lines, hlines⟩ := hone outside
  obtain ⟨lines', hlines'⟩ := hother outside
  dsimp only
  rw [obtain_file_eq, obtain_file_eq]
  cases ending with
  | error fault =>
      rw [Run.bind_apply_of_error hlines, Run.bind_apply_of_error hlines']
      simp
  | ok credentials =>
      rw [Run.bind_apply_of_ok hlines, Run.bind_apply_of_ok hlines']
      simp

end Obtain

/-- Credentials that are for the services at these bases. -/
structure AreFor (base tokenBase : String) (credentials : Credentials) : Prop where
  instancesUrl : credentials.instancesUrl = .text (Endpoint.instances base)
  tokenUrl : credentials.tokenUrl = .text (Endpoint.tokenExchange tokenBase)

/-- A section makes credentials for the services at its bases, once these are corrected. -/
theorem areFor_of_ofSection {σ : Type} {found : VpcSection} {settings : Settings}
    {room : FileRoom} {url tokenUrl : String} {supply : σ} {credentials : Credentials}
    (hresult : (ofSection (found.withBases url tokenUrl) settings room supply).result =
      .ok credentials) :
    credentials.AreFor (Endpoint.secured url) (Endpoint.secured tokenUrl) := by
  obtain ⟨lines, hlines⟩ := ofSection_tells (found.withBases url tokenUrl) settings room supply
  rw [hlines] at hresult
  obtain ⟨apiKey, _, hmade⟩ := exists_of_except_bind hresult
  rw [VpcSection.credentialsFor_withBases] at hmade
  split at hmade
  · cases hmade
  · cases hmade
    exact ⟨rfl, rfl⟩

/-- All spellings of its bases make the same of a section. -/
theorem result_ofSection_of_spells {σ : Type} {base tokenBase url tokenUrl : String}
    (hurl : Endpoint.Spells base url) (htokenUrl : Endpoint.Spells tokenBase tokenUrl)
    (found : VpcSection) (settings : Settings) (room : FileRoom) (supply : σ) :
    (ofSection (found.withBases url tokenUrl) settings room supply).result =
      (ofSection (found.withBases ("https://" ++ base) ("https://" ++ tokenBase)) settings room
        supply).result := by
  obtain ⟨lines, hlines⟩ := ofSection_tells (found.withBases url tokenUrl) settings room supply
  obtain ⟨lines', hlines'⟩ := ofSection_tells
    (found.withBases ("https://" ++ base) ("https://" ++ tokenBase)) settings room supply
  rw [hlines, hlines']
  have hmade : (found.withBases url tokenUrl).credentialsFor room =
      (found.withBases ("https://" ++ base) ("https://" ++ tokenBase)).credentialsFor room :=
    funext (VpcSection.credentialsFor_of_spells hurl htokenUrl found room)
  rw [hmade]
  rfl

/-- A provider's address comes to that of the instances at its base, once it is corrected. -/
theorem result_obtain_provider (settings : Settings) (token : Value) (url : String)
    (session : Session) (budget : Budget) (outside : Outside) :
    (obtain settings (.provider token (.text url)) session budget outside).result =
      .ok ⟨.text (Endpoint.instances (Endpoint.secured url)), .text "", .text "", .text "", token,
        none⟩ := by
  obtain ⟨lines, hlines⟩ :=
    obtain_provider_tells settings token (.text url) session budget outside
  rw [hlines]
  rfl

/-- Credentials that were obtained from a file are for the services at the bases that it names. -/
theorem areFor_of_obtain {settings : Settings} {file : SecretFile} {room : FileRoom}
    {entries : Entries Value} {base tokenBase : String} (hfile : file.Holds room entries)
    (hnames : SecretFile.NamesBases entries base tokenBase) {session : Session} {budget : Budget}
    {outside : Outside} {credentials : Credentials}
    (hresult : (obtain settings (.file file) session budget outside).result = .ok credentials) :
    credentials.AreFor ("https://" ++ base) ("https://" ++ tokenBase) := by
  obtain ⟨found, token, haccepted, rfl, _⟩ := obtain_file_ok hresult
  obtain ⟨⟨url, hurl, hspells⟩, tokenUrl, htokenUrl, htokenSpells⟩ := hnames
  cases haccepted with
  | intro hfile' hkey hendpoint htoken hclient =>
      cases hfile.unique hfile'.holds
      cases hendpoint.symm.trans (Value.field_of_get? hurl)
      cases htoken.symm.trans (Value.field_of_get? htokenUrl)
      constructor
      · exact congrArg Value.text (Endpoint.instances_of_spells hspells)
      · exact congrArg Value.text (Endpoint.tokenExchange_of_spells htokenSpells)

/-- What a base address comes to, however it is spelled.  All spellings of the bases make the same
credentials of a section, a provider's address comes to the same as well, and from files that spell
the same bases the same is obtained, with the same calls.  An address is corrected, with one
warning, exactly if it has the plain scheme, and is then left alone; and no base, whatever text it
is, comes to an address with the plain scheme. -/
theorem spellings_of_a_base_agree :
    (∀ {base tokenBase url tokenUrl : String}, Endpoint.Spells base url →
      Endpoint.Spells tokenBase tokenUrl →
      ∀ (found : VpcSection) (settings : Settings) (room : FileRoom) (outside : Outside),
        let run := ofSection (found.withBases url tokenUrl) settings room outside
        run.result = (ofSection (found.withBases ("https://" ++ base) ("https://" ++ tokenBase))
          settings room outside).result ∧
        ∀ credentials, run.result = .ok credentials →
          credentials.AreFor ("https://" ++ base) ("https://" ++ tokenBase)) ∧
    (∀ {base url : String}, Endpoint.Spells base url →
      ∀ (settings : Settings) (token : Value) (session : Session) (budget : Budget)
        (outside : Outside),
        (obtain settings (.provider token (.text url)) session budget outside).result =
          .ok ⟨.text (Endpoint.instances ("https://" ++ base)), .text "", .text "", .text "", token,
            none⟩) ∧
    (∀ {base tokenBase : String} {one other : SecretFile} {room : FileRoom}
        {entries entries' : Entries Value}, one.Holds room entries → other.Holds room entries' →
      SecretFile.NamesBases entries base tokenBase →
      SecretFile.NamesBases entries' base tokenBase →
      SecretFile.AgreeBesidesBases entries entries' →
      ∀ (settings : Settings) (session : Session) (budget : Budget) (outside : Outside),
        let run := obtain settings (.file one) session budget outside
        let run' := obtain settings (.file other) session budget outside
        run.result = run'.result ∧ run.trace.exchanges = run'.trace.exchanges ∧
        ∀ credentials, run.result = .ok credentials →
          credentials.AreFor ("https://" ++ base) ("https://" ++ tokenBase)) ∧
    (∀ (url : String) (outside : Outside), ∃ corrected lines,
      Endpoint.secure url outside = ⟨.ok corrected, lines.map .logged, outside⟩ ∧
      Endpoint.Corrects url corrected lines ∧
      (corrected ≠ url ↔ ∃ rest, url = "http://" ++ rest) ∧
      Endpoint.secure corrected outside = ⟨.ok corrected, [], outside⟩) ∧
    ∀ base : String,
      (¬∃ rest, Endpoint.instances (Endpoint.secured base) = "http://" ++ rest) ∧
      (¬∃ rest, Endpoint.tokenExchange (Endpoint.secured base) = "http://" ++ rest) ∧
      (∀ (found : VpcSection) (tokenBase : String) (settings : Settings) (room : FileRoom)
        (outside : Outside) (credentials : Credentials),
        (ofSection (found.withBases base tokenBase) settings room outside).result =
            .ok credentials →
          credentials.AreFor (Endpoint.secured base) (Endpoint.secured tokenBase)) ∧
      ∀ (settings : Settings) (token : Value) (session : Session) (budget : Budget)
        (outside : Outside), ∃ credentials,
        (obtain settings (.provider token (.text base)) session budget outside).result =
          .ok credentials ∧
        credentials.instancesUrl = .text (Endpoint.instances (Endpoint.secured base)) := by
  refine ⟨?_, ?_, ?_, ?_, ?_⟩
  · intro base tokenBase url tokenUrl hurl htokenUrl found settings room outside
    have hsame := result_ofSection_of_spells hurl htokenUrl found settings room outside
    refine ⟨hsame, ?_⟩
    intro credentials hresult
    have hfor := areFor_of_ofSection (hsame.symm.trans hresult)
    rwa [Endpoint.secured_secure, Endpoint.secured_secure] at hfor
  · intro base url hurl settings token session budget outside
    rw [result_obtain_provider, Endpoint.instances_of_spells hurl]
  · intro base tokenBase one other room entries entries' hone hother hnames hnames' hagree settings
      session budget outside
    have hsame : ofFile settings one = ofFile settings other :=
      SecretFile.ofFile_of_agree hone hother hnames hnames' hagree
    obtain ⟨hresult, hcalls, _⟩ := obtain_of_same_file hsame session budget outside
    exact ⟨hresult, hcalls, fun credentials hobtained => areFor_of_obtain hone hnames hobtained⟩
  · intro url outside
    obtain ⟨lines, hrun, hcorrects⟩ := Endpoint.secure_corrects url outside
    refine ⟨Endpoint.secured url, lines, hrun, hcorrects, ?_, ?_⟩
    · rw [Ne, Endpoint.secured_eq_self_iff, Bool.not_eq_false, Endpoint.isPlain_eq_true_iff]
    · rw [Endpoint.secure_apply, Endpoint.secured_secured, Endpoint.isPlain_secured]
      rfl
  · intro base
    have hbase := Endpoint.isPlain_secured base
    refine ⟨?_, ?_, ?_, ?_⟩
    · exact Endpoint.isPlain_eq_false_iff.mp (Endpoint.isPlain_instances hbase)
    · exact Endpoint.isPlain_eq_false_iff.mp (Endpoint.isPlain_tokenExchange hbase)
    · exact fun found tokenBase settings room outside credentials => areFor_of_ofSection
    · intro settings token session budget outside
      exact ⟨_, result_obtain_provider settings token base session budget outside, rfl⟩

/-- Files that spell their bases differently come to the same credentials. -/
theorem files_of_either_scheme_agree :
    let settings : Settings := { Settings.standard with configDir := "secret" }
    let one : SecretFile := .bytes (Text.utf8Bytes
      ("[VPC]\ng2_riaas_endpoint_url = \"http://vpc//\"\n" ++
        "g2_token_exchange_endpoint_url = \"https://iam\"\ng2_api_key = \"key\"\n"))
      .standard
    let other : SecretFile := .bytes (Text.utf8Bytes
      ("[VPC]\ng2_riaas_endpoint_url = \"https://vpc\"\n" ++
        "g2_token_exchange_endpoint_url = \"http://iam/\"\ng2_api_key = \"key\"\n"))
      .standard
    let outside : Outside :=
      ⟨⟨.ok ⟨200, "\x7b\"access_token\": \"tok\"\x7d", .standard⟩, []⟩, ⟨.ok none, []⟩,
        ⟨.kept, []⟩⟩
    ∃ credentials,
      (obtain settings (.file one) .own .standard outside).result = .ok credentials ∧
      (obtain settings (.file other) .own .standard outside).result = .ok credentials ∧
      credentials.AreFor "https://vpc" "https://iam" ∧
      (obtain settings (.provider (.text "tok") (.text "http://vpc/")) .own .standard
        outside).result.toOption.map (·.instancesUrl) = some credentials.instancesUrl := by
  intro settings one other outside
  have hone : one.Holds .standard [("g2_riaas_endpoint_url", .text "http://vpc//"),
      ("g2_token_exchange_endpoint_url", .text "https://iam"), ("g2_api_key", .text "key")] :=
    @SecretFile.holds_of_texts _ _ [("g2_riaas_endpoint_url", "http://vpc//"),
      ("g2_token_exchange_endpoint_url", "https://iam"), ("g2_api_key", "key")]
      (by decide +kernel)
  have hother : other.Holds .standard [("g2_riaas_endpoint_url", .text "https://vpc"),
      ("g2_token_exchange_endpoint_url", .text "http://iam/"), ("g2_api_key", .text "key")] :=
    @SecretFile.holds_of_texts _ _ [("g2_riaas_endpoint_url", "https://vpc"),
      ("g2_token_exchange_endpoint_url", "http://iam/"), ("g2_api_key", "key")]
      (by decide +kernel)
  have hobtained : (obtain settings (.file one) .own .standard outside).result.toOption.isSome =
      true := by decide +kernel
  obtain ⟨_, hprovided, hfiles, _⟩ := spellings_of_a_base_agree
  have hagree : SecretFile.AgreeBesidesBases
      [("g2_riaas_endpoint_url", .text "http://vpc//"),
        ("g2_token_exchange_endpoint_url", .text "https://iam"), ("g2_api_key", .text "key")]
      [("g2_riaas_endpoint_url", .text "https://vpc"),
        ("g2_token_exchange_endpoint_url", .text "http://iam/"), ("g2_api_key", .text "key")] := by
    intro key hurl htokenUrl
    simp [Entries.get?_cons, hurl, htokenUrl]
  obtain ⟨hsame, _, hfor⟩ := @hfiles "vpc" "iam" one other _ _ _ hone hother
    ⟨⟨_, rfl, .plain 2⟩, _, rfl, .secure 0⟩ ⟨⟨_, rfl, .secure 0⟩, _, rfl, .plain 1⟩ hagree
    settings .own .standard outside
  cases hresult : (obtain settings (.file one) .own .standard outside).result with
  | error fault =>
      rw [hresult] at hobtained
      cases hobtained
  | ok credentials =>
      rw [hresult] at hsame
      refine ⟨credentials, rfl, hsame.symm, hfor credentials hresult, ?_⟩
      have hspells : Endpoint.Spells "vpc" "http://vpc/" := .plain 1
      rw [hprovided hspells, (hfor credentials hresult).instancesUrl]
      rfl

end Credentials

end NodeTopology
