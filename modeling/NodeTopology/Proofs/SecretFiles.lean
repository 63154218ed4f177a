import NodeTopology.SecretSource
import NodeTopology.Proofs.RunTrace
/-!
What a secret file comes to before the first request.  The file and the settings alone decide it,
and nothing is left but lines in the log.  Main statements: every file is refused as faulty
configuration, stumbled over, or accepted with the credentials that it gives; and credentials are
obtained from it accordingly, a token being asked for only with credentials that were accepted.
-/

namespace NodeTopology

theorem Value.field_of_get? {entries : Entries Value} {key : String} {value : Value}
    (hvalue : entries.get? key = some value) : field entries key = value := by
  rw [field, hvalue]
  rfl

theorem Value.text_or_other (value : Value) :
    (∃ s, value = .text s) ∨ ∀ s, value ≠ .text s := by
  cases value <;> simp

theorem Value.eq_of_text? {value : Value} {s : String} (htext : value.text? = some s) :
    value = .text s := by
  cases value with
  | text t =>
      cases htext
      rfl
  | _ => cases htext

theorem Value.eq_of_texts? {value : Value} {texts : Entries String}
    (htexts : value.texts? = some texts) :
    value = .table (texts.map fun entry => (entry.1, .text entry.2)) := by
  cases value with
  | table entries =>
      congr 1
      induction entries generalizing texts with
      | nil =>
          cases htexts
          rfl
      | cons entry entries ih =>
          simp only [texts?, entries?, List.mapM_cons, Option.bind_eq_bind, Option.bind_some,
            Option.bind_eq_some_iff, Option.pure_def, Option.some.injEq] at htexts ih
          obtain ⟨_, ⟨s, hs, rfl⟩, others, hothers, rfl⟩ := htexts
          rw [ih hothers, List.map_cons, ← eq_of_text? hs]
  | _ => cases htexts

namespace SecretFile

/-- What reading a file comes to. -/
def contents (path : String) : SecretFile → Except Fault (Entries Value)
  | absent => .error (.configuration (.unreadableFile path .notFound))
  | directory => .error (.configuration (.unreadableFile path .isDirectory))
  | bytes content room => do
      let text ← (Text.ofUtf8? content).elim (.error (.misuse .undecodable)) .ok
      match Toml.read room.reading text with
      | .ok table => .ok table
      | .error .malformed => .error (.configuration (.unreadableFile path .notToml))
      | .error .longInteger => .error (.misuse .badValue)
      | .error .tooDeep => .error (.misuse .tooDeep)

theorem refuse_tells {σ α : Type} (path : String) (fault : FileFault) :
    (refuse path fault : Run σ α).Tells (.error (.configuration (.unreadableFile path fault))) :=
  Run.Tells.log_bind (Run.Tells.throw _)

theorem read_tells {σ : Type} (file : SecretFile) {path : String}
    (hpath : FilePath.isUsable path = true) :
    (file.read path : Run σ (Entries Value)).Tells (file.contents path) := by
  apply Run.Tells.log_bind
  dsimp only
  rw [hpath]
  cases file with
  | absent => exact refuse_tells path _
  | directory => exact refuse_tells path _
  | bytes content room =>
      refine Run.Tells.bind (Run.Tells.orMisuse _ _) ?_
      intro text
      cases Toml.read room.reading text with
      | ok table => exact Run.Tells.pure table
      | error refusal =>
          cases refusal with
          | malformed => exact refuse_tells path _
          | longInteger => exact Run.Tells.throw _
          | tooDeep => exact Run.Tells.throw _

end SecretFile

/-- The address that a value comes to. -/
def Endpoint.securedValue : Value → Except Fault String
  | .text url => .ok (secured url)
  | _ => .error (.misuse .noSuchMember)

theorem Endpoint.secureValue_tells {σ : Type} (value : Value) :
    (secureValue value : Run σ String).Tells (securedValue value) := by
  unfold secureValue
  split
  · unfold secure
    dsimp only
    split
    · exact Run.Tells.log_bind (Run.Tells.pure _)
    · exact Run.Tells.pure _
  · next hkind =>
    cases value with
    | text url => exact absurd rfl (hkind url)
    | _ => exact Run.Tells.throw _

/-- The key that a value comes to when it is decoded. -/
def ApiKey.decodedValue : Value → Except Fault String
  | .text key => (decode key).mapError id
  | _ => .error (.misuse .wrongKind)

theorem ApiKey.decodeValue_tells {σ : Type} (value : Value) :
    (decodeValue value : Run σ String).Tells (decodedValue value) := by
  unfold decodeValue
  split
  · exact Run.Tells.ofExcept id _
  · next hkind =>
    cases value with
    | text key => exact absurd rfl (hkind key)
    | _ => exact Run.Tells.throw _

namespace VpcSection

variable (found : VpcSection)

/-- The key to exchange: decoded if the settings say so. -/
def usableKey (settings : Settings) : Except Fault Value :=
  if settings.hasEncodedKey then (ApiKey.decodedValue found.apiKey).map Value.text
  else .ok found.apiKey

/-- The credentials that a section comes to with this key. -/
def credentialsFor (room : FileRoom) (apiKey : Value) : Except Fault Credentials := do
  let endpoint ← Endpoint.securedValue found.endpointUrl
  let tokenEndpoint ← Endpoint.securedValue found.tokenUrl
  match Credentials.clientMisuse? room found.clientId found.clientSecret with
  | some misuse => .error (.misuse misuse)
  | none =>
      .ok
        { instancesUrl := .text (Endpoint.instances endpoint)
          apiKey
          tokenUrl := .text (Endpoint.tokenExchange tokenEndpoint)
          basicAuth := .text (found.clientId.plain ++ ":" ++ found.clientSecret.plain)
          accessToken := .text ""
          token := none }

variable {found} in
/-- With base addresses that are texts only the client can still be in the way. -/
theorem credentialsFor_of_texts {url tokenUrl : String} (hendpoint : found.endpointUrl = .text url)
    (htokenUrl : found.tokenUrl = .text tokenUrl) (room : FileRoom) (apiKey : Value) :
    found.credentialsFor room apiKey =
      match Credentials.clientMisuse? room found.clientId found.clientSecret with
      | some misuse => .error (.misuse misuse)
      | none =>
          .ok
            { instancesUrl := .text (Endpoint.instances (Endpoint.secured url))
              apiKey
              tokenUrl := .text (Endpoint.tokenExchange (Endpoint.secured tokenUrl))
              basicAuth := .text (found.clientId.plain ++ ":" ++ found.clientSecret.plain)
              accessToken := .text ""
              token := none } := by
  rw [credentialsFor, hendpoint, htokenUrl]
  rfl

end VpcSection

namespace Credentials

theorem ofSection_tells {σ : Type} (found : VpcSection) (settings : Settings) (room : FileRoom) :
    (ofSection found settings room : Run σ Credentials).Tells
      (found.usableKey settings >>= found.credentialsFor room) := by
  unfold ofSection VpcSection.usableKey
  extract_lets rest
  -- Whether the key is decoded or not, the rest is the same.
  have hrest : ∀ apiKey, (rest apiKey).Tells (found.credentialsFor room apiKey) := by
    intro apiKey
    refine Run.Tells.bind (Endpoint.secureValue_tells _) ?_
    intro endpoint
    refine Run.Tells.bind (Endpoint.secureValue_tells _) ?_
    intro tokenEndpoint
    cases clientMisuse? room found.clientId found.clientSecret with
    | some misuse => exact Run.Tells.throw _
    | none => exact Run.Tells.pure _
  split
  · apply Run.Tells.log_bind
    have hmap : (ApiKey.decodedValue found.apiKey).map Value.text >>= found.credentialsFor room =
        ApiKey.decodedValue found.apiKey >>= fun key => found.credentialsFor room (.text key) := by
      cases ApiKey.decodedValue found.apiKey <;> rfl
    rw [hmap]
    apply Run.Tells.bind (ApiKey.decodeValue_tells _)
    intro key
    exact hrest (.text key)
  · exact hrest found.apiKey

/-- What a secret file comes to: the credentials that it gives, without a token. -/
def ofFile (settings : Settings) (file : SecretFile) : Except Fault Credentials := do
  let table ← file.contents settings.configPath
  let found ← (VpcSection.ofTable table).mapError .configuration
  let apiKey ← found.usableKey settings
  found.credentialsFor file.room apiKey

def read {σ : Type} (settings : Settings) (file : SecretFile) : Run σ Credentials := do
  Run.log .info "Fetching secret configuration"
  let table ← file.read settings.configPath
  let found ← Run.ofExcept .configuration (VpcSection.ofTable table)
  ofSection found settings file.room

/-- Before the first request nothing is done but to read the file. -/
theorem obtain_file_eq (settings : Settings) (file : SecretFile) (session : Session)
    (budget : Budget) :
    obtain settings (.file file) session budget =
      read settings file >>= fun credentials => credentials.refresh session budget := by
  simp only [obtain, read, bind_assoc]

variable {settings : Settings}

theorem read_tells {σ : Type} (hpath : FilePath.isUsable settings.configPath = true)
    (file : SecretFile) :
    (read settings file : Run σ Credentials).Tells (ofFile settings file) := by
  apply Run.Tells.log_bind
  apply Run.Tells.bind (file.read_tells hpath)
  intro table
  apply Run.Tells.bind (Run.Tells.ofExcept _ _)
  intro found
  exact ofSection_tells found settings file.room

/-- A path that no file can have is stumbled over before any file is looked at. -/
theorem read_of_unusable {σ : Type} (hpath : FilePath.isUsable settings.configPath = false)
    (file : SecretFile) :
    (read settings file : Run σ Credentials).Tells (.error (.misuse .badValue)) := by
  have hread : (file.read settings.configPath : Run σ (Entries Value)).Tells
      (.error (.misuse .badValue)) := by
    apply Run.Tells.log_bind
    rw [hpath]
    exact Run.Tells.error_bind (Run.Tells.throw _) _
  apply Run.Tells.log_bind
  exact Run.Tells.error_bind hread _

theorem obtain_of_unusable (hpath : FilePath.isUsable settings.configPath = false)
    (file : SecretFile) (session : Session) (budget : Budget) :
    (obtain settings (.file file) session budget).Tells (.error (.misuse .badValue)) := by
  rw [obtain_file_eq]
  exact Run.Tells.error_bind (read_of_unusable hpath file) _

section Obtain

variable {file : SecretFile} (session : Session) (budget : Budget) (outside : Outside)

theorem obtain_of_ofFile_error (hpath : FilePath.isUsable settings.configPath = true)
    {fault : Fault} (hfile : ofFile settings file = .error fault) :
    (obtain settings (.file file) session budget outside).result = .error fault ∧
      (obtain settings (.file file) session budget outside).trace.requests = [] := by
  obtain ⟨lines, hlines⟩ := read_tells hpath file outside
  rw [hfile] at hlines
  rw [obtain_file_eq, Run.bind_apply_of_error hlines]
  exact ⟨rfl, Trace.filterMap_logged (fun _ => rfl) lines⟩

theorem obtain_of_ofFile_ok (hpath : FilePath.isUsable settings.configPath = true)
    {credentials : Credentials} (hfile : ofFile settings file = .ok credentials) :
    ∃ lines : List LogLine, obtain settings (.file file) session budget outside =
      ⟨(credentials.refresh session budget outside).result,
        lines.map .logged ++ (credentials.refresh session budget outside).trace,
        (credentials.refresh session budget outside).supply⟩ := by
  obtain ⟨lines, hlines⟩ := read_tells hpath file outside
  rw [hfile] at hlines
  refine ⟨lines, ?_⟩
  rw [obtain_file_eq, Run.bind_apply_of_ok hlines]

end Obtain

end Credentials

/-- The required keys that a section lacks. -/
def VpcSection.missing (entries : Entries Value) : List String :=
  requiredKeys.filter fun key => (Value.field entries key).isVoid

/-- The name of the client, empty unless it is given. -/
def VpcSection.clientIn (entries : Entries Value) : Value :=
  (entries.get? "iam_client_id").getD (.text "")

/-- The secret of the client, empty unless it is given. -/
def VpcSection.clientSecretIn (entries : Entries Value) : Value :=
  (entries.get? "iam_client_secret").getD (.text "")

namespace SecretFile

/-- A secret file that can be read with this room and holds this section. -/
def Holds (file : SecretFile) (room : FileRoom) (entries : Entries Value) : Prop :=
  ∃ content text table, file = .bytes content room ∧ Text.ofUtf8? content = some text ∧
    Toml.read room.reading text = .ok table ∧ table.get? "VPC" = some (.table entries)

theorem Holds.room_eq {file : SecretFile} {room : FileRoom} {entries : Entries Value}
    (hfile : file.Holds room entries) : file.room = room := by
  obtain ⟨_, _, _, rfl, _⟩ := hfile
  rfl

/-- A secret file that holds this section, with something under every required key. -/
structure HoldsAll (file : SecretFile) (room : FileRoom) (entries : Entries Value) : Prop where
  holds : file.Holds room entries
  complete : VpcSection.missing entries = []

/-- The key to exchange can be had from a section: as it stands there, or as the ASCII text that is
base64 for it. -/
inductive KeyUsable (settings : Settings) (entries : Entries Value) : Value → Prop
  | plain (hplain : settings.hasEncodedKey = false) :
      KeyUsable settings entries (Value.field entries "g2_api_key")
  | encoded {key text : String} {bytes : List UInt8} (hencoded : settings.hasEncodedKey = true)
      (hkey : Value.field entries "g2_api_key" = .text key)
      (hascii : ∀ c ∈ key.toList, c.toNat ≤ 0x7F)
      (hbytes : Text.Base64.decode? key.toList = some bytes)
      (htext : Text.ofUtf8? bytes = some text) : KeyUsable settings entries (.text text)

/-- The secret files that are refused as faulty configuration. -/
inductive Refused (settings : Settings) : SecretFile → ConfigurationFault → Prop
  | absent : Refused settings .absent (.unreadableFile settings.configPath .notFound)
  | directory : Refused settings .directory (.unreadableFile settings.configPath .isDirectory)
  | notToml {content : List UInt8} {room : FileRoom} {text : String}
      (htext : Text.ofUtf8? content = some text)
      (hread : Toml.read room.reading text = .error .malformed) :
      Refused settings (.bytes content room) (.unreadableFile settings.configPath .notToml)
  | noSection {content : List UInt8} {room : FileRoom} {text : String} {table : Entries Value}
      (htext : Text.ofUtf8? content = some text) (hread : Toml.read room.reading text = .ok table)
      (hnone : ∀ entries, table.get? "VPC" ≠ some (.table entries)) :
      Refused settings (.bytes content room) .noSection
  | missingKeys {file : SecretFile} {room : FileRoom} {entries : Entries Value}
      (hfile : file.Holds room entries) (hmissing : VpcSection.missing entries ≠ []) :
      Refused settings file (.missingKeys (VpcSection.missing entries))
  | notBase64 {file : SecretFile} {room : FileRoom} {entries : Entries Value} {key : String}
      (hfile : file.HoldsAll room entries) (hencoded : settings.hasEncodedKey = true)
      (hkey : Value.field entries "g2_api_key" = .text key)
      (hascii : ∀ c ∈ key.toList, c.toNat ≤ 0x7F)
      (hnone : Text.Base64.decode? key.toList = none) :
      Refused settings file (.undecodableKey .notBase64)
  | notText {file : SecretFile} {room : FileRoom} {entries : Entries Value} {key : String}
      {bytes : List UInt8} (hfile : file.HoldsAll room entries)
      (hencoded : settings.hasEncodedKey = true)
      (hkey : Value.field entries "g2_api_key" = .text key)
      (hascii : ∀ c ∈ key.toList, c.toNat ≤ 0x7F)
      (hbytes : Text.Base64.decode? key.toList = some bytes) (hnone : Text.ofUtf8? bytes = none) :
      Refused settings file (.undecodableKey .notText)

/-- The secret files that are stumbled over: nothing looks for what is wrong with them before an
operation meets it. -/
inductive StumbledOver (settings : Settings) : SecretFile → Misuse → Prop
  | notUtf8 {content : List UInt8} {room : FileRoom} (hnone : Text.ofUtf8? content = none) :
      StumbledOver settings (.bytes content room) .undecodable
  | longInteger {content : List UInt8} {room : FileRoom} {text : String}
      (htext : Text.ofUtf8? content = some text)
      (hread : Toml.read room.reading text = .error .longInteger) :
      StumbledOver settings (.bytes content room) .badValue
  | tooDeep {content : List UInt8} {room : FileRoom} {text : String}
      (htext : Text.ofUtf8? content = some text)
      (hread : Toml.read room.reading text = .error .tooDeep) :
      StumbledOver settings (.bytes content room) .tooDeep
  | keyNoText {file : SecretFile} {room : FileRoom} {entries : Entries Value}
      (hfile : file.HoldsAll room entries) (hencoded : settings.hasEncodedKey = true)
      (hkind : ∀ key, Value.field entries "g2_api_key" ≠ .text key) :
      StumbledOver settings file .wrongKind
  | keyNotAscii {file : SecretFile} {room : FileRoom} {entries : Entries Value} {key : String}
      (hfile : file.HoldsAll room entries) (hencoded : settings.hasEncodedKey = true)
      (hkey : Value.field entries "g2_api_key" = .text key)
      (hbeyond : ∃ c ∈ key.toList, 0x7F < c.toNat) :
      StumbledOver settings file .badValue
  | endpointNoText {file : SecretFile} {room : FileRoom} {entries : Entries Value} {apiKey : Value}
      (hfile : file.HoldsAll room entries) (hkey : KeyUsable settings entries apiKey)
      (hkind : ∀ url, Value.field entries "g2_riaas_endpoint_url" ≠ .text url) :
      StumbledOver settings file .noSuchMember
  | tokenUrlNoText {file : SecretFile} {room : FileRoom} {entries : Entries Value} {apiKey : Value}
      {url : String} (hfile : file.HoldsAll room entries) (hkey : KeyUsable settings entries apiKey)
      (hendpoint : Value.field entries "g2_riaas_endpoint_url" = .text url)
      (hkind : ∀ url, Value.field entries "g2_token_exchange_endpoint_url" ≠ .text url) :
      StumbledOver settings file .noSuchMember
  | clientUnshowable {file : SecretFile} {room : FileRoom} {entries : Entries Value}
      {apiKey : Value} {url tokenUrl : String} {misuse : Misuse}
      (hfile : file.HoldsAll room entries)
      (hkey : KeyUsable settings entries apiKey)
      (hendpoint : Value.field entries "g2_riaas_endpoint_url" = .text url)
      (htokenUrl : Value.field entries "g2_token_exchange_endpoint_url" = .text tokenUrl)
      (hclient : Credentials.clientMisuse? room (VpcSection.clientIn entries)
        (VpcSection.clientSecretIn entries) = some misuse) :
      StumbledOver settings file misuse

/-- The secret files that are accepted, with the credentials that they give. -/
inductive Accepted (settings : Settings) : SecretFile → Credentials → Prop
  | intro {file : SecretFile} {room : FileRoom} {entries : Entries Value} {apiKey : Value}
      {url tokenUrl : String} (hfile : file.HoldsAll room entries)
      (hkey : KeyUsable settings entries apiKey)
      (hendpoint : Value.field entries "g2_riaas_endpoint_url" = .text url)
      (htokenUrl : Value.field entries "g2_token_exchange_endpoint_url" = .text tokenUrl)
      (hclient : Credentials.clientMisuse? room (VpcSection.clientIn entries)
        (VpcSection.clientSecretIn entries) = none) :
      Accepted settings file
        { instancesUrl := .text (Endpoint.instances (Endpoint.secured url))
          apiKey
          tokenUrl := .text (Endpoint.tokenExchange (Endpoint.secured tokenUrl))
          basicAuth := .text ((VpcSection.clientIn entries).plain ++ ":" ++
            (VpcSection.clientSecretIn entries).plain)
          accessToken := .text ""
          token := none }

variable {settings : Settings} {file : SecretFile} {room : FileRoom} {entries : Entries Value}

/-- The section that entries with all required keys make. -/
def sectionOf (entries : Entries Value) : VpcSection where
  endpointUrl := Value.field entries "g2_riaas_endpoint_url"
  tokenUrl := Value.field entries "g2_token_exchange_endpoint_url"
  apiKey := Value.field entries "g2_api_key"
  clientId := VpcSection.clientIn entries
  clientSecret := VpcSection.clientSecretIn entries

theorem contents_bytes {content : List UInt8} {text : String}
    (htext : Text.ofUtf8? content = some text) :
    contents settings.configPath (.bytes content room) =
      match Toml.read room.reading text with
      | .ok table => .ok table
      | .error .malformed =>
          .error (.configuration (.unreadableFile settings.configPath .notToml))
      | .error .longInteger => .error (.misuse .badValue)
      | .error .tooDeep => .error (.misuse .tooDeep) := by
  rw [contents, htext]
  rfl

theorem ofTable_of_get? {table : Entries Value}
    (hsection : table.get? "VPC" = some (.table entries)) :
    VpcSection.ofTable table =
      if VpcSection.missing entries = [] then .ok (sectionOf entries)
      else .error (.missingKeys (VpcSection.missing entries)) := by
  rw [VpcSection.ofTable, hsection]
  dsimp only
  rw [← VpcSection.missing]
  cases VpcSection.missing entries with
  | nil => rfl
  | cons key keys => rfl

theorem ofFile_of_table {content : List UInt8} {text : String} {table : Entries Value}
    (htext : Text.ofUtf8? content = some text) (hread : Toml.read room.reading text = .ok table) :
    Credentials.ofFile settings (.bytes content room) = (do
      let found ← (VpcSection.ofTable table).mapError .configuration
      let apiKey ← found.usableKey settings
      found.credentialsFor room apiKey) := by
  rw [Credentials.ofFile, contents_bytes htext, hread]
  rfl

/-- What a file with a section comes to depends on its entries alone. -/
theorem ofFile_of_holds (hfile : file.Holds room entries) :
    Credentials.ofFile settings file =
      if VpcSection.missing entries = [] then
        (sectionOf entries).usableKey settings >>= (sectionOf entries).credentialsFor room
      else .error (.configuration (.missingKeys (VpcSection.missing entries))) := by
  obtain ⟨content, text, table, rfl, htext, hread, hsection⟩ := hfile
  rw [ofFile_of_table htext hread, ofTable_of_get? hsection]
  split <;> rfl

theorem ofFile_of_holdsAll (hfile : file.HoldsAll room entries) :
    Credentials.ofFile settings file =
      (sectionOf entries).usableKey settings >>= (sectionOf entries).credentialsFor room := by
  rw [ofFile_of_holds hfile.holds, if_pos hfile.complete]

theorem decode_of_ascii {key : String} (hascii : ∀ c ∈ key.toList, c.toNat ≤ 0x7F) :
    ApiKey.decode key =
      match Text.Base64.decode? key.toList with
      | none => .error (.configuration (.undecodableKey .notBase64))
      | some decoded =>
          match Text.ofUtf8? decoded with
          | none => .error (.configuration (.undecodableKey .notText))
          | some text => .ok text := by
  have hnone : (key.toList.any fun c => 0x7F < c.toNat) = false := by
    simpa using hascii
  rw [ApiKey.decode, hnone]
  rfl

theorem usableKey_of_encoded (hencoded : settings.hasEncodedKey = true) :
    (sectionOf entries).usableKey settings =
      (ApiKey.decodedValue (Value.field entries "g2_api_key")).map Value.text :=
  if_pos hencoded

theorem usableKey_of_keyUsable {apiKey : Value} (hkey : KeyUsable settings entries apiKey) :
    (sectionOf entries).usableKey settings = .ok apiKey := by
  cases hkey with
  | plain hplain => simp [VpcSection.usableKey, hplain, sectionOf]
  | encoded hencoded hkey hascii hbytes htext =>
      rw [usableKey_of_encoded hencoded, hkey, ApiKey.decodedValue, decode_of_ascii hascii, hbytes]
      dsimp only
      rw [htext]
      rfl

theorem ofFile_of_refused {fault : ConfigurationFault} (hfile : file.Refused settings fault) :
    Credentials.ofFile settings file = .error (.configuration fault) := by
  cases hfile with
  | absent => rfl
  | directory => rfl
  | notToml htext hread =>
      rw [Credentials.ofFile, contents_bytes htext, hread]
      rfl
  | @noSection content room text table htext hread hnone =>
      have htable : VpcSection.ofTable table = .error .noSection := by
        unfold VpcSection.ofTable
        split
        · next entries hsection => exact absurd hsection (hnone entries)
        · rfl
      rw [ofFile_of_table htext hread, htable]
      rfl
  | missingKeys hfile hmissing => rw [ofFile_of_holds hfile, if_neg hmissing]
  | notBase64 hfile hencoded hkey hascii hnone =>
      rw [ofFile_of_holdsAll hfile, usableKey_of_encoded hencoded, hkey, ApiKey.decodedValue,
        decode_of_ascii hascii, hnone]
      rfl
  | notText hfile hencoded hkey hascii hbytes hnone =>
      rw [ofFile_of_holdsAll hfile, usableKey_of_encoded hencoded, hkey, ApiKey.decodedValue,
        decode_of_ascii hascii, hbytes]
      dsimp only
      rw [hnone]
      rfl

theorem securedValue_of_forall_ne {value : Value} (hkind : ∀ url, value ≠ .text url) :
    Endpoint.securedValue value = .error (.misuse .noSuchMember) := by
  cases value with
  | text url => exact absurd rfl (hkind url)
  | _ => rfl

theorem decodedValue_of_forall_ne {value : Value} (hkind : ∀ key, value ≠ .text key) :
    ApiKey.decodedValue value = .error (.misuse .wrongKind) := by
  cases value with
  | text key => exact absurd rfl (hkind key)
  | _ => rfl

section Credentials

variable {apiKey : Value} {url tokenUrl : String}

theorem credentialsFor_of_endpoint
    (hkind : ∀ url, Value.field entries "g2_riaas_endpoint_url" ≠ .text url) :
    (sectionOf entries).credentialsFor room apiKey = .error (.misuse .noSuchMember) := by
  rw [VpcSection.credentialsFor, sectionOf]
  dsimp only
  rw [securedValue_of_forall_ne hkind]
  rfl

theorem credentialsFor_of_tokenUrl
    (hendpoint : Value.field entries "g2_riaas_endpoint_url" = .text url)
    (hkind : ∀ url, Value.field entries "g2_token_exchange_endpoint_url" ≠ .text url) :
    (sectionOf entries).credentialsFor room apiKey = .error (.misuse .noSuchMember) := by
  rw [VpcSection.credentialsFor, sectionOf]
  dsimp only
  rw [hendpoint, securedValue_of_forall_ne hkind]
  rfl

theorem ofFile_of_texts (hfile : file.HoldsAll room entries)
    (hkey : KeyUsable settings entries apiKey)
    (hendpoint : Value.field entries "g2_riaas_endpoint_url" = .text url)
    (htokenUrl : Value.field entries "g2_token_exchange_endpoint_url" = .text tokenUrl) :
    Credentials.ofFile settings file =
      match Credentials.clientMisuse? room (VpcSection.clientIn entries)
        (VpcSection.clientSecretIn entries) with
      | some misuse => .error (.misuse misuse)
      | none =>
          .ok
            { instancesUrl := .text (Endpoint.instances (Endpoint.secured url))
              apiKey
              tokenUrl := .text (Endpoint.tokenExchange (Endpoint.secured tokenUrl))
              basicAuth := .text ((VpcSection.clientIn entries).plain ++ ":" ++
                (VpcSection.clientSecretIn entries).plain)
              accessToken := .text ""
              token := none } := by
  rw [ofFile_of_holdsAll hfile, usableKey_of_keyUsable hkey]
  exact VpcSection.credentialsFor_of_texts hendpoint htokenUrl room apiKey

end Credentials

theorem ofFile_of_stumbledOver {misuse : Misuse} (hfile : file.StumbledOver settings misuse) :
    Credentials.ofFile settings file = .error (.misuse misuse) := by
  cases hfile with
  | notUtf8 hnone =>
      rw [Credentials.ofFile, contents, hnone]
      rfl
  | longInteger htext hread =>
      rw [Credentials.ofFile, contents_bytes htext, hread]
      rfl
  | tooDeep htext hread =>
      rw [Credentials.ofFile, contents_bytes htext, hread]
      rfl
  | keyNoText hfile hencoded hkind =>
      rw [ofFile_of_holdsAll hfile, usableKey_of_encoded hencoded, decodedValue_of_forall_ne hkind]
      rfl
  | @keyNotAscii file room entries key hfile hencoded hkey hbeyond =>
      have hany : (key.toList.any fun c => 0x7F < c.toNat) = true := by
        simpa using hbeyond
      rw [ofFile_of_holdsAll hfile, usableKey_of_encoded hencoded, hkey, ApiKey.decodedValue,
        ApiKey.decode, if_pos hany]
      rfl
  | endpointNoText hfile hkey hkind =>
      rw [ofFile_of_holdsAll hfile, usableKey_of_keyUsable hkey]
      exact credentialsFor_of_endpoint hkind
  | tokenUrlNoText hfile hkey hendpoint hkind =>
      rw [ofFile_of_holdsAll hfile, usableKey_of_keyUsable hkey]
      exact credentialsFor_of_tokenUrl hendpoint hkind
  | clientUnshowable hfile hkey hendpoint htokenUrl hclient =>
      rw [ofFile_of_texts hfile hkey hendpoint htokenUrl, hclient]

theorem ofFile_of_accepted {credentials : Credentials}
    (hfile : file.Accepted settings credentials) :
    Credentials.ofFile settings file = .ok credentials := by
  cases hfile with
  | intro hfile hkey hendpoint htokenUrl hclient =>
      rw [ofFile_of_texts hfile hkey hendpoint htokenUrl, hclient]

/-- The key of a section can be had, or the file is refused or stumbled over for it. -/
theorem key_cases (hfile : file.HoldsAll room entries) (settings : Settings) :
    (∃ apiKey, KeyUsable settings entries apiKey) ∨ (∃ fault, file.Refused settings fault) ∨
      ∃ misuse, file.StumbledOver settings misuse := by
  cases hencoded : settings.hasEncodedKey with
  | false => exact .inl ⟨_, .plain hencoded⟩
  | true =>
      rcases Value.text_or_other (Value.field entries "g2_api_key") with ⟨key, hkey⟩ | hkind
      · by_cases hascii : ∀ c ∈ key.toList, c.toNat ≤ 0x7F
        · cases hbytes : Text.Base64.decode? key.toList with
          | none => exact .inr (.inl ⟨_, .notBase64 hfile hencoded hkey hascii hbytes⟩)
          | some decoded =>
              cases htext : Text.ofUtf8? decoded with
              | none => exact .inr (.inl ⟨_, .notText hfile hencoded hkey hascii hbytes htext⟩)
              | some text => exact .inl ⟨_, .encoded hencoded hkey hascii hbytes htext⟩
        · simp only [Classical.not_forall, Nat.not_le] at hascii
          obtain ⟨c, hc, hbeyond⟩ := hascii
          exact .inr (.inr ⟨_, .keyNotAscii hfile hencoded hkey ⟨c, hc, hbeyond⟩⟩)
      · exact .inr (.inr ⟨_, .keyNoText hfile hencoded hkind⟩)

/-- A file with a section that lacks nothing is refused, stumbled over or accepted. -/
theorem cases_of_holdsAll (hfile : file.HoldsAll room entries) (settings : Settings) :
    (∃ fault, file.Refused settings fault) ∨ (∃ misuse, file.StumbledOver settings misuse) ∨
      ∃ credentials, file.Accepted settings credentials := by
  rcases key_cases hfile settings with ⟨apiKey, hkey⟩ | hrefused | hstumbled
  · rcases Value.text_or_other (Value.field entries "g2_riaas_endpoint_url") with
      ⟨url, hendpoint⟩ | hkind
    · rcases Value.text_or_other (Value.field entries "g2_token_exchange_endpoint_url") with
        ⟨tokenUrl, htokenUrl⟩ | hkind
      · cases hclient : Credentials.clientMisuse? room (VpcSection.clientIn entries)
            (VpcSection.clientSecretIn entries) with
        | some misuse =>
            exact .inr (.inl ⟨_, .clientUnshowable hfile hkey hendpoint htokenUrl hclient⟩)
        | none => exact .inr (.inr ⟨_, .intro hfile hkey hendpoint htokenUrl hclient⟩)
      · exact .inr (.inl ⟨_, .tokenUrlNoText hfile hkey hendpoint hkind⟩)
    · exact .inr (.inl ⟨_, .endpointNoText hfile hkey hkind⟩)
  · exact .inl hrefused
  · exact .inr (.inl hstumbled)

/-- Every secret file is refused, stumbled over or accepted. -/
theorem verdict_cases (settings : Settings) (file : SecretFile) :
    (∃ fault, file.Refused settings fault) ∨ (∃ misuse, file.StumbledOver settings misuse) ∨
      ∃ credentials, file.Accepted settings credentials := by
  cases file with
  | absent => exact .inl ⟨_, .absent⟩
  | directory => exact .inl ⟨_, .directory⟩
  | bytes content room =>
      cases htext : Text.ofUtf8? content with
      | none => exact .inr (.inl ⟨_, .notUtf8 htext⟩)
      | some text =>
          rcases hread : Toml.read room.reading text with (_ | _ | _) | table
          · exact .inl ⟨_, .notToml htext hread⟩
          · exact .inr (.inl ⟨_, .longInteger htext hread⟩)
          · exact .inr (.inl ⟨_, .tooDeep htext hread⟩)
          · by_cases hsection : ∃ entries, table.get? "VPC" = some (.table entries)
            · obtain ⟨entries, hsection⟩ := hsection
              have hholds : Holds (.bytes content room) room entries :=
                ⟨content, text, table, rfl, htext, hread, hsection⟩
              by_cases hmissing : VpcSection.missing entries = []
              · exact cases_of_holdsAll ⟨hholds, hmissing⟩ settings
              · exact .inl ⟨_, .missingKeys hholds hmissing⟩
            · exact .inl ⟨_, .noSection htext hread (not_exists.mp hsection)⟩

/-- What a file comes to is what it deserves. -/
def Judged (settings : Settings) (file : SecretFile) : Except Fault Credentials → Prop
  | .ok credentials => file.Accepted settings credentials
  | .error (.configuration fault) => file.Refused settings fault
  | .error (.misuse misuse) => file.StumbledOver settings misuse
  | .error _ => False

theorem judged_ofFile (settings : Settings) (file : SecretFile) :
    file.Judged settings (Credentials.ofFile settings file) := by
  rcases verdict_cases settings file with ⟨fault, hrefused⟩ | ⟨misuse, hstumbled⟩ |
    ⟨credentials, haccepted⟩
  · rw [ofFile_of_refused hrefused]
    exact hrefused
  · rw [ofFile_of_stumbledOver hstumbled]
    exact hstumbled
  · rw [ofFile_of_accepted haccepted]
    exact haccepted

theorem refused_iff {fault : ConfigurationFault} :
    file.Refused settings fault ↔
      Credentials.ofFile settings file = .error (.configuration fault) := by
  refine ⟨ofFile_of_refused, ?_⟩
  intro hfault
  have hjudged := judged_ofFile settings file
  rwa [hfault] at hjudged

theorem stumbledOver_iff {misuse : Misuse} :
    file.StumbledOver settings misuse ↔
      Credentials.ofFile settings file = .error (.misuse misuse) := by
  refine ⟨ofFile_of_stumbledOver, ?_⟩
  intro hmisuse
  have hjudged := judged_ofFile settings file
  rwa [hmisuse] at hjudged

theorem accepted_iff {credentials : Credentials} :
    file.Accepted settings credentials ↔ Credentials.ofFile settings file = .ok credentials := by
  refine ⟨ofFile_of_accepted, ?_⟩
  intro hcredentials
  have hjudged := judged_ofFile settings file
  rwa [hcredentials] at hjudged

end SecretFile

/-- A file whose section holds these texts and nothing else. -/
theorem SecretFile.holds_of_texts {text : String} {room : FileRoom} {texts : Entries String}
    (htexts : (((Toml.read room.reading text).toOption.bind (·.get? "VPC")).bind Value.texts?) =
      some texts) :
    (SecretFile.bytes (Text.utf8Bytes text) room).Holds room
      (texts.map fun entry => (entry.1, .text entry.2)) := by
  simp only [Option.bind_eq_some_iff] at htexts
  obtain ⟨value, ⟨table, htable, hvalue⟩, htexts⟩ := htexts
  rw [Value.eq_of_texts? htexts] at hvalue
  cases hread : Toml.read room.reading text with
  | error refusal =>
      rw [hread] at htable
      cases htable
  | ok read =>
      rw [hread] at htable
      cases htable
      exact ⟨_, text, table, rfl, Text.ofUtf8?_utf8Bytes text, hread, hvalue⟩

end NodeTopology
