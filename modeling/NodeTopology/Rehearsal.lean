import NodeTopology.Program
/-!
Rehearsals: the outside written down as a JSON document, so that a run can be carried out without a
cluster and without a network.  Recorders name failures in their own ways, so the reader of a
failure is passed in.
-/

namespace NodeTopology.Rehearsal

/-- Reads the entries of an item that stands for a failure. -/
abbrev FailureReader := Entries Value → Option RemoteError

def int? : Value → Option Int
  | .int n => some n
  | _ => none

/-- The items of a list; null and absent lists are empty. -/
def items? : Value → Option (List Value)
  | .null => some []
  | .list items => some items
  | _ => none

/-- Labels, or null where labels were never set. -/
def labels? : Value → Option (Option Labels)
  | .null => some none
  | value => value.texts?.map some

def node? (item : Entries Value) : Option (Option Node) :=
  if item.has "none" then some none
  else if item.has "no_metadata" then some (some ⟨none⟩)
  else (item.get? "labels").bind fun value => (labels? value).map (some ∘ Node.labelled)

def isFailure (item : Entries Value) : Bool := item.has "raise"

def read? (failure : FailureReader) (value : Value) :
    Option (Except RemoteError (Option Node)) := do
  let item ← value.entries?
  if isFailure item then return .error (← failure item) else return .ok (← node? item)

def replace? (failure : FailureReader) (value : Value) : Option ReplaceReply := do
  let item ← value.entries?
  if isFailure item then return .failed (← failure item)
  else if item.has "echo" then return .kept
  else return .other (← node? item)

/-- The body of a response, as text or as base64 of bytes. -/
def body? (item : Entries Value) : Option String :=
  match item.get? "body" with
  | some value => value.text?
  | none => do
      let encoded ← (Value.field item "body_b64").text?
      return Text.ofUtf8Lenient (← Text.Base64.decode? encoded.toList)

def http? (failure : FailureReader) (value : Value) :
    Option (Except RemoteError Response) := do
  let item ← value.entries?
  if isFailure item then return .error (← failure item)
  else return .ok ⟨← int? (Value.field item "status"), ← body? item, .standard⟩

/-- The outside of a document.  Without answers there is no connection, every node is there without
labels, and the cluster keeps what it is sent. -/
def outside? (failure : FailureReader) (document : Entries Value) : Option Outside := do
  let http ← (← items? (Value.field document "http")).mapM (http? failure)
  let reads ← (← items? (Value.field document "read")).mapM (read? failure)
  let replaces ← (← items? (Value.field document "replace")).mapM (replace? failure)
  return {
    http := .ofList (.error (.request .noConnection "no script")) http
    reads := .ofList (.ok (some (.labelled none))) reads
    replaces := .ofList .kept replaces }

/-- What loading a source of cluster configuration comes to. -/
def load? (failure : FailureReader) : Value → Option (Option RemoteError)
  | .null => some none
  | value => do return some (← failure (← value.entries?))

def configs? (failure : FailureReader) (document : Entries Value) : Option Cluster.Configs := do
  return ⟨← load? failure (Value.field document "in_cluster"),
    ← load? failure (Value.field document "kubeconfig")⟩

/-- What stands at the path of the secret file. -/
def secretFile? (document : Entries Value) : Option SecretFile :=
  match Value.field document "toml_is_dir", Value.field document "toml",
      Value.field document "toml_b64" with
  | .bool true, _, _ => some .directory
  | _, .text content, _ => some (.bytes (Text.utf8Bytes content) .standard)
  | _, _, .text encoded => do
      return .bytes (← Text.Base64.decode? encoded.toList) .standard
  | _, _, _ => some .absent

def requestFailures : List (String × RequestFailure) :=
  [("no-connection", .noConnection), ("proxy", .proxy), ("tls", .tls), ("timeout", .timeout),
    ("connect-timeout", .connectTimeout), ("read-timeout", .readTimeout)]

def failure? (item : Entries Value) : Option RemoteError := do
  let kind ← (Value.field item "raise").text?
  let message := (Value.field item "message").text?.getD ""
  match requestFailures.lookup kind with
  | some failure => return .request failure message
  | none =>
      match kind with
      | "request" => return .request (.other kind) message
      | "transport" => return .transport kind message
      | "exhausted" => return .exhausted message
      | "refused" =>
          return .refused (Value.field item "status") (Value.field item "reason")
            (Value.field item "body")
      | "configuration" => return .configuration message
      | "system" => return .system message
      | _ => return .unforeseen kind message

/-- A whole run: its environment, its cluster configuration, its secret file and its outside. -/
structure Scene where
  environment : Environment
  configs : Cluster.Configs
  file : SecretFile
  outside : Outside

/-- The secret file is found only in a directory that the environment names. -/
def sceneFile (environment : Environment) (file : SecretFile) : SecretFile :=
  if ((environment.get? "SECRET_CONFIG_PATH").getD "").isEmpty then .absent else file

def scene? (failure : FailureReader) (document : Entries Value) : Option Scene := do
  let environment ← (Value.field document "env").texts?
  return {
    environment
    configs := ← configs? failure document
    file := sceneFile environment (← secretFile? document)
    outside := ← outside? failure document }

def Scene.play (scene : Scene) : Outcome Outside Program.Exit :=
  Program.run scene.environment scene.configs scene.file scene.outside

def Scene.lines (scene : Scene) : List LogLine :=
  Program.writtenLines scene.environment scene.play.trace

end NodeTopology.Rehearsal
