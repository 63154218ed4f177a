import NodeTopology.RemoteError
import NodeTopology.Shape
import NodeTopology.Text.Quoted
/-!
Everything that can end a run early.  Five families are reported with a message that names the
cause; a failure of the outside that no step handles, and a value that an operation cannot take,
end a run without one.
-/

namespace NodeTopology

/-- Why a body of a response is of no use. -/
inductive BodyFault where
  /-- It is not JSON. -/
  | notJson
  /-- An integer in it has too many digits. -/
  | longInteger
  /-- It is JSON of another shape. -/
  | otherShape (fault : ShapeFault)
deriving Repr, DecidableEq

inductive FileFault where
  | notFound
  | isDirectory
  | notToml
deriving Repr, DecidableEq

inductive KeyFault where
  | notBase64
  | notText
deriving Repr, DecidableEq

/-- Missing or malformed configuration. -/
inductive ConfigurationFault where
  | unknownPolicy (name : String)
  | noNodeName
  | noSection
  | missingKeys (keys : List String)
  | unreadableFile (path : String) (fault : FileFault)
  | undecodableKey (fault : KeyFault)
  | noCluster (inCluster kubeconfig : RemoteError)

/-- A key could not be exchanged for a token. -/
inductive TokenFault where
  | request (url : Value) (error : RemoteError)
  | status (code : Option Int)
  | body (fault : BodyFault)

/-- No placement could be found for a worker. -/
inductive LookupFault where
  | request (url : Value) (error : RemoteError)
  | status (code : Int)
  | body (fault : BodyFault)
  | noInstances
  | workerNotFound (worker : Option String)
  | invalidZone (zone : Option String)

/-- The cluster node could not be read or written. -/
inductive NodeFault where
  | unreadable (name : String) (error : Option RemoteError)
  | unwritable (name : String) (error : RemoteError)

/-- An operation met a value that it cannot take. -/
inductive Misuse where
  /-- The value has no such operation or part. -/
  | noSuchMember
  /-- The value is of the wrong kind. -/
  | wrongKind
  /-- The value is of the right kind but not allowed. -/
  | badValue
  /-- The bytes are no UTF-8 text. -/
  | undecodable
  /-- The text is nested deeper than its reader can go. -/
  | tooDeep
deriving Repr, DecidableEq

/-- What ends a run early. -/
inductive Fault where
  | configuration (fault : ConfigurationFault)
  | token (fault : TokenFault)
  | lookup (fault : LookupFault)
  | node (fault : NodeFault)
  /-- A failure of the outside that no step handles. -/
  | escaped (error : RemoteError)
  | misuse (misuse : Misuse)

/-- The quoted form of a name that may be missing. -/
def quotedName : Option String → String
  | some name => Text.quoted name
  | none => "None"

def textOrNone : Option RemoteError → String
  | some e => e.text
  | none => "None"

/-- The message of a configuration fault.  That of a file that cannot be read goes on with the text
of the library that refused it, which is left out here. -/
def ConfigurationFault.message : ConfigurationFault → String
  | unknownPolicy name => "unknown NODE_UPDATE_CONFLICT_POLICY " ++ Text.quoted name
  | noNodeName => "NODE_NAME is not set"
  | noSection => "[VPC] section missing from secret configuration"
  | missingKeys keys => "secret configuration is missing " ++ ", ".intercalate keys
  | unreadableFile path _ => "failed to parse " ++ path ++ ":"
  | undecodableKey _ => "failed to decode base64 API key"
  | noCluster inCluster kubeconfig =>
      "in-cluster config as well as kubeconfig failed. In-cluster error: " ++ inCluster.text
        ++ "; kubeconfig error: " ++ kubeconfig.text

def TokenFault.message : TokenFault → String
  | request url e => "POST " ++ url.quoted ++ ": " ++ e.text
  | status code =>
      "status code: " ++ (code.map toString).getD "None" ++ ", check API key provided"
  | body _ => "failed to unmarshal json response for access token"

def LookupFault.message : LookupFault → String
  | request url e => "GET " ++ url.quoted ++ ": " ++ e.text
  | status code => "instance list request failed with status code " ++ toString code
  | body _ => "failed to unmarshal json response of instances"
  | noInstances => "failed to get worker details as instance list is empty"
  | workerNotFound worker =>
      "failed to get worker details, worker with name " ++ worker.getD "None"
        ++ " was not found in the instance list fetched from vpc provider"
  | invalidZone zone => "cannot derive region from zone " ++ quotedName zone

def NodeFault.message : NodeFault → String
  | unreadable name e => "failed to get details of node " ++ name ++ ": " ++ textOrNone e
  | unwritable name e => "failed to update labels on node " ++ name ++ ": " ++ e.brief

/-- The message of a fault; a misuse has none. -/
def Fault.message : Fault → Option String
  | configuration fault => some fault.message
  | token fault => some fault.message
  | lookup fault => some fault.message
  | node fault => some fault.message
  | escaped e => some e.text
  | misuse _ => none

/-- Whether a fault belongs to a family that the program reports itself. -/
def Fault.isReported : Fault → Bool
  | escaped _ => false
  | misuse _ => false
  | _ => true

end NodeTopology
