import NodeTopology.Fault
import NodeTopology.FilePath
import NodeTopology.Text.LowerCase
/-!
Settings of a run, taken from environment variables.
-/

namespace NodeTopology

/-- What to do when a write loses against another writer. -/
inductive ConflictPolicy where
  | retry
  | ignore
  | fail
deriving Repr, DecidableEq

def ConflictPolicy.word : ConflictPolicy → String
  | retry => "retry"
  | ignore => "ignore"
  | fail => "fail"

def ConflictPolicy.ofWord? (word : String) : Option ConflictPolicy :=
  [retry, ignore, fail].find? fun policy => policy.word == word

structure Settings where
  nodeName : String
  configDir : String
  iksEnabled : Bool
  isSatellite : Bool
  debug : Bool
  policy : ConflictPolicy
deriving Repr, DecidableEq

/-- Names of environment variables with their values. -/
abbrev Environment := Entries String

namespace Settings

def configFileName : String := "slclient.toml"

/-- Where the secret file lies unless the environment names another place. -/
def defaultConfigDir : String := "/etc/storage_ibmc"

def standard : Settings :=
  { nodeName := ""
    configDir := defaultConfigDir
    iksEnabled := false
    isSatellite := false
    debug := false
    policy := .retry }

def configPath (settings : Settings) : String := FilePath.join settings.configDir configFileName

/-- Satellite clusters that are not managed store the API key in base64. -/
def hasEncodedKey (settings : Settings) : Bool := settings.isSatellite && !settings.iksEnabled

/-- Settings from the environment.  The cluster flags want the exact word, the debug flag and the
policy any case; an unset policy means to retry, and an empty directory counts as unset. -/
def ofEnvironment (environment : Environment) : Except ConfigurationFault Settings :=
  let valueOf := fun name => environment.get? name
  let policyWord := (valueOf "NODE_UPDATE_CONFLICT_POLICY").getD ConflictPolicy.retry.word
  match ConflictPolicy.ofWord? (Text.lowered policyWord) with
  | none => .error (.unknownPolicy policyWord)
  | some policy =>
      let directory := (valueOf "SECRET_CONFIG_PATH").getD ""
      .ok
        { nodeName := (valueOf "NODE_NAME").getD ""
          configDir := if directory.isEmpty then defaultConfigDir else directory
          iksEnabled := valueOf "IKS_ENABLED" == some "True"
          isSatellite := valueOf "IS_SATELLITE" == some "True"
          debug := Text.lowered ((valueOf "DEBUG").getD "false") == "true"
          policy }

end Settings

end NodeTopology
