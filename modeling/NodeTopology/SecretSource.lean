import NodeTopology.Endpoint
import NodeTopology.Settings
import NodeTopology.Toml.Document
import NodeTopology.TokenExchange
/-!
Where the credentials of a run come from: the secret file with its `[VPC]` section, followed by an
exchange of the key for a token, or an external provider that holds a token already.
-/

namespace NodeTopology

/-- How many calls deeper a run can go where it reads the secret file, and where it shows what the
file holds. -/
structure FileRoom where
  reading : Nat
  showing : Nat

/-- The usual room at both places. -/
def FileRoom.standard : FileRoom := ⟨Value.usualRoom, Value.usualRoom⟩

/-- What stands at the path of the secret file.  With its bytes goes the room that a run has for
them. -/
inductive SecretFile where
  | absent
  | directory
  | bytes (content : List UInt8) (room : FileRoom)

/-- Where credentials are taken from. -/
inductive SecretSource where
  | file (file : SecretFile)
  | provider (token url : Value)

/-- The section of the secret file, its values as they stand there. -/
structure VpcSection where
  endpointUrl : Value
  tokenUrl : Value
  apiKey : Value
  clientId : Value
  clientSecret : Value

namespace VpcSection

def requiredKeys : List String :=
  ["g2_riaas_endpoint_url", "g2_token_exchange_endpoint_url", "g2_api_key"]

/-- The section in the table of a secret file.  Keys that are required must not be void; client name
and secret are empty unless they are given. -/
def ofTable (file : Entries Value) : Except ConfigurationFault VpcSection :=
  match file.get? "VPC" with
  | some (.table entries) =>
      match requiredKeys.filter fun key => (Value.field entries key).isVoid with
      | [] =>
          .ok
            { endpointUrl := Value.field entries "g2_riaas_endpoint_url"
              tokenUrl := Value.field entries "g2_token_exchange_endpoint_url"
              apiKey := Value.field entries "g2_api_key"
              clientId := (Entries.get? entries "iam_client_id").getD (.text "")
              clientSecret := (Entries.get? entries "iam_client_secret").getD (.text "") }
      | missing => .error (.missingKeys missing)
  | _ => .error .noSection

end VpcSection

namespace SecretFile

variable {σ : Type}

/-- The room for what the file holds; without a file there is nothing to need any. -/
def room : SecretFile → FileRoom
  | bytes _ room => room
  | _ => ⟨0, 0⟩

/-- Report that the file cannot be read.  The line in the log goes on with the text of the library
that refused it, which is left out here. -/
def refuse {α : Type} (path : String) (fault : FileFault) : Run σ α := do
  Run.log .error ("Failed to parse config file " ++ path ++ ":")
  throw (.configuration (.unreadableFile path fault))

/-- The table that the file holds. -/
def read (file : SecretFile) (path : String) : Run σ (Entries Value) := do
  Run.log .info ("Parsing conf file: " ++ path)
  if !FilePath.isUsable path then throw (.misuse .badValue)
  match file with
  | absent => refuse path .notFound
  | directory => refuse path .isDirectory
  | bytes content room =>
      let text ← Run.orMisuse .undecodable (Text.ofUtf8? content)
      match Toml.read room.reading text with
      | .ok table => return table
      | .error .malformed => refuse path .notToml
      | .error .longInteger => throw (.misuse .badValue)
      | .error .tooDeep => throw (.misuse .tooDeep)

end SecretFile

namespace Endpoint

variable {σ : Type}

/-- Put the secure scheme on an address, and say so in the log. -/
def secure (url : String) : Run σ String := do
  if isPlain url then
    Run.log .warning ("Endpoint URL " ++ url
      ++ " is of the form 'http' instead of 'https'. Correcting it for valid request.")
  return secured url

/-- The same for a value that ought to be an address. -/
def secureValue : Value → Run σ String
  | .text url => secure url
  | _ => throw (.misuse .noSuchMember)

end Endpoint

namespace ApiKey

variable {σ : Type}

/-- The key that a base64 text stands for. -/
def decode (key : String) : Except Fault String :=
  if key.toList.any fun c => 0x7F < c.toNat then .error (.misuse .badValue)
  else match Text.Base64.decode? key.toList with
    | none => .error (.configuration (.undecodableKey .notBase64))
    | some bytes =>
        match Text.ofUtf8? bytes with
        | none => .error (.configuration (.undecodableKey .notText))
        | some text => .ok text

/-- The same for a value that ought to be a text. -/
def decodeValue : Value → Run σ String
  | .text key => Run.ofExcept id (decode key)
  | _ => throw (.misuse .wrongKind)

end ApiKey

namespace Credentials

variable {σ : Type}

/-- What goes wrong when the name and the secret of a client are shown one after the other. -/
def clientMisuse? (room : FileRoom) (name secret : Value) : Option Misuse :=
  ((name.obstacle? room.showing).or (secret.obstacle? room.showing)).map fun
    | .longInteger => .badValue
    | .tooDeep => .tooDeep

/-- The credentials that a section of the secret file gives, without a token. -/
def ofSection (source : VpcSection) (settings : Settings) (room : FileRoom) :
    Run σ Credentials := do
  let apiKey ←
    if settings.hasEncodedKey then do
      Run.log .info "Decoding apiKey since it's a satellite cluster"
      pure (Value.text (← ApiKey.decodeValue source.apiKey))
    else pure source.apiKey
  let endpoint ← Endpoint.secureValue source.endpointUrl
  let tokenEndpoint ← Endpoint.secureValue source.tokenUrl
  match clientMisuse? room source.clientId source.clientSecret with
  | some misuse => throw (.misuse misuse)
  | none =>
      return {
        instancesUrl := .text (Endpoint.instances endpoint)
        apiKey
        tokenUrl := .text (Endpoint.tokenExchange tokenEndpoint)
        basicAuth := .text (source.clientId.plain ++ ":" ++ source.clientSecret.plain)
        accessToken := .text ""
        token := none }

def ofProvider (token url : Value) : Run σ Credentials := do
  let endpoint ← Endpoint.secureValue url
  return {
    instancesUrl := .text (Endpoint.instances endpoint)
    apiKey := .text ""
    tokenUrl := .text ""
    basicAuth := .text ""
    accessToken := token
    token := none }

/-- Get the credentials of a run, a token included. -/
def obtain (settings : Settings) (source : SecretSource) (session : Session) (budget : Budget) :
    Run Outside Credentials := do
  Run.log .info "Fetching secret configuration"
  match source with
  | .provider token url => ofProvider token url
  | .file file => do
      let table ← file.read settings.configPath
      let found ← Run.ofExcept .configuration (VpcSection.ofTable table)
      let credentials ← ofSection found settings file.room
      credentials.refresh session budget

end Credentials

end NodeTopology
