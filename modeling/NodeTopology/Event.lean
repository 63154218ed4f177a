import NodeTopology.Credentials
import NodeTopology.Node
import NodeTopology.Request
/-!
What a run does, one event after the other: the lines it logs, the times it waits, and every call
to the outside together with the answer it got.  All that can be observed of a run besides its
result is a selection of its events.
-/

namespace NodeTopology

/-- The weight of a log line. -/
inductive Level where
  | debug
  | info
  | warning
  | error
  | critical
deriving Repr, DecidableEq

def Level.name : Level → String
  | debug => "DEBUG"
  | info => "INFO"
  | warning => "WARNING"
  | error => "ERROR"
  | critical => "CRITICAL"

structure LogLine where
  level : Level
  text : String
deriving Repr, DecidableEq

/-- Where cluster configuration can come from. -/
inductive ConfigSource where
  | inCluster
  | kubeconfig
deriving Repr, DecidableEq

/-- One step of a run that can be observed. -/
inductive Event where
  | logged (line : LogLine)
  | slept (milliseconds : Int)
  | sessionOpened
  | sessionClosed
  | requested (request : Request) (answer : Except RemoteError Response)
  | nodeRead (name : String) (answer : Except RemoteError (Option Node))
  | nodeReplaced (name : String) (sent : Node) (answer : Except RemoteError (Option Node))
  | configLoaded (source : ConfigSource)
  /-- A fixed list of instances was asked, with this filter. -/
  | instancesListed (filter : Option String)
  /-- A resolver over a fixed list was made for these credentials. -/
  | resolverMade (credentials : Credentials)

/-- What a run did, in order. -/
abbrev Trace := List Event

namespace Trace

def logLines (trace : Trace) : List LogLine :=
  trace.filterMap fun | .logged line => some line | _ => none

def sleeps (trace : Trace) : List Int :=
  trace.filterMap fun | .slept milliseconds => some milliseconds | _ => none

def requests (trace : Trace) : List Request :=
  trace.filterMap fun | .requested request _ => some request | _ => none

def sessionsOpened (trace : Trace) : Nat :=
  trace.countP fun | .sessionOpened => true | _ => false

def sessionsClosed (trace : Trace) : Nat :=
  trace.countP fun | .sessionClosed => true | _ => false

/-- Reads and writes of cluster nodes. -/
def clusterCalls (trace : Trace) : Trace :=
  trace.filter fun | .nodeRead _ _ => true | .nodeReplaced _ _ _ => true | _ => false

def configLoads (trace : Trace) : List ConfigSource :=
  trace.filterMap fun | .configLoaded source => some source | _ => none

def listings (trace : Trace) : List (Option String) :=
  trace.filterMap fun | .instancesListed filter => some filter | _ => none

def resolversMade (trace : Trace) : List Credentials :=
  trace.filterMap fun | .resolverMade credentials => some credentials | _ => none

end Trace

end NodeTopology
