import NodeTopology.Value.Display
/-!
How calls to the outside fail, each failure with the text that messages show.  Callers sort failures
into families: requests that failed, those among them that got no connection or no answer in time,
and refusals and broken connections of the cluster.
-/

namespace NodeTopology

/-- How an HTTP request fails without a response. -/
inductive RequestFailure where
  | noConnection
  | proxy
  | tls
  | timeout
  | connectTimeout
  | readTimeout
  /-- Any other failure, under the name that the HTTP client gives it. -/
  | other (kind : String)
deriving Repr, DecidableEq

/-- Whether there was no connection, or no answer in time. -/
def RequestFailure.isConnection : RequestFailure → Bool
  | .other _ => false
  | _ => true

/-- How a call to the outside fails. -/
inductive RemoteError where
  /-- An HTTP request failed. -/
  | request (failure : RequestFailure) (text : String)
  /-- The cluster client's connection failed, under the name that its transport gives the failure.
  -/
  | transport (kind text : String)
  /-- The cluster client's transport gave up on an address. -/
  | exhausted (url : String)
  /-- The cluster refused a call. -/
  | refused (status reason body : Value)
  /-- A source of cluster configuration is missing or faulty. -/
  | configuration (text : String)
  /-- The operating system refused a call. -/
  | system (text : String)
  /-- Anything else, under the name it has. -/
  | unforeseen (kind text : String)

namespace RemoteError

/-- The text of a failure.  That of a refusal leaves out the line with the headers of the answer. -/
def text : RemoteError → String
  | request _ text => text
  | transport _ text => text
  | exhausted url => "None: Max retries exceeded with url: " ++ url ++ " (Caused by None)"
  | refused status reason body =>
      "(" ++ status.plain ++ ")\nReason: " ++ reason.plain ++ "\n"
        ++ (if body.isVoid then "" else "HTTP response body: " ++ body.plain ++ "\n")
  | configuration text => text
  | system text => text
  | unforeseen _ text => text

def isRequest : RemoteError → Bool
  | request _ _ => true
  | _ => false

/-- Whether an HTTP request got no connection, or no answer in time. -/
def isConnection : RemoteError → Bool
  | request failure _ => failure.isConnection
  | _ => false

def isCluster : RemoteError → Bool
  | refused _ _ _ => true
  | transport _ _ => true
  | exhausted _ => true
  | _ => false

/-- Whether the cluster refused a call with this status; a text never is a status number. -/
def hasStatus (number : Int) : RemoteError → Bool
  | refused status _ _ => status.equalsInt number
  | _ => false

/-- Whether a write lost against another writer. -/
def isConflict (e : RemoteError) : Bool := e.hasStatus 409

def isNotFound (e : RemoteError) : Bool := e.hasStatus 404

/-- Whether a configuration source is to be counted as missing: it said so, or its file could not be
had.  Failed requests count as failures of the system. -/
def isMissingConfiguration : RemoteError → Bool
  | configuration _ => true
  | system _ => true
  | request _ _ => true
  | _ => false

/-- A failure in a few words: status and reason of a refusal, the text of any other. -/
def brief : RemoteError → String
  | refused status reason _ => status.plain ++ " " ++ reason.plain
  | e => e.text

end RemoteError

end NodeTopology
