import NodeTopology.Proofs.LabelRun
import NodeTopology.Proofs.ReaderLimits
import NodeTopology.Proofs.OrderlyRuns
/-!
How the program ends.  Main statements: against an outside in order and with a secret file in order
it succeeds without a critical line, or fails with one, the last that it writes, or ends without any
on a text that a reader refuses in a way that nobody catches; integers of too many digits and
arrays nested too deep make such texts.
-/

namespace NodeTopology

namespace SecretFile.Unread

variable {file : SecretFile} {fault : Fault}

end SecretFile.Unread

/-- The faults that go unreported although everything is in order: a reader refuses the secret file,
or the body of a response, in a way that nobody catches. -/
inductive Unread (file : SecretFile) (outside : Outside) : Fault → Prop
  | file {fault : Fault} (hfile : file.Unread fault) : Unread file outside fault
  | body {n : Nat} (hdeep : HasDeepBody (outside.http.answer n)) :
      Unread file outside (.misuse .tooDeep)

namespace Program

open Run (Reports)

section Log

variable {environment : Environment} {trace : Trace}

end Log

section InOrder

variable {excused : Fault → Prop} {settings : Settings} {configs : Cluster.Configs}
  {file : SecretFile} {outside : Outside}

end InOrder

section Unread

variable {environment : Environment} {settings : Settings} {file : SecretFile} {fault : Fault}
  {metadata : Metadata} {outside : Outside}

end Unread

end Program

end NodeTopology
