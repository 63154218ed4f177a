import NodeTopology.Cluster
import NodeTopology.Proofs.RetryRun
/-!
What passes between a run and the cluster, and the reading of a node.  Main statements: a reading
leaves nothing but reads of its node, lines and waits; the node it ends with is the only one it was
given; it ends with whatever node the cluster serves after fewer failures than the budget allows;
and it sees neither the HTTP service nor the answers to writes.
-/

namespace NodeTopology

namespace Script

variable {α : Type}

/-- What is left of a script after a number of answers. -/
def skip (script : Script α) : Nat → Script α
  | 0 => script
  | n + 1 => script.rest.skip n

/-- The answers of a script, counted from zero. -/
def answer (script : Script α) (n : Nat) : α := (script.skip n).first

end Script

namespace Event

def isClusterCall : Event → Bool
  | nodeRead _ _ => true
  | nodeReplaced _ _ _ => true
  | _ => false

def isWrite : Event → Bool
  | nodeReplaced _ _ _ => true
  | _ => false

def isAcceptedWrite : Event → Bool
  | nodeReplaced _ _ (.ok _) => true
  | _ => false

def isWait : Event → Bool
  | slept _ => true
  | _ => false

/-- What a read came back with, if the event is one that did. -/
def nodeRead? : Event → Option (Option Node)
  | nodeRead _ (.ok node) => some node
  | _ => none

/-- The events of a reading: reads of the node of this name, waits, and lines that are more or less
than information. -/
def BelongsToReading (name : String) : Event → Prop
  | logged line => line.level ≠ .info
  | slept _ => True
  | nodeRead asked _ => asked = name
  | _ => False

/-- The events of an update: those of a reading, writes of the node of this name, and all lines. -/
def BelongsToUpdate (name : String) : Event → Prop
  | logged _ => True
  | nodeReplaced asked _ _ => asked = name
  | event => event.BelongsToReading name

theorem BelongsToReading.belongsToUpdate {name : String} {event : Event}
    (hbelongs : event.BelongsToReading name) : event.BelongsToUpdate name := by
  cases event with
  | logged => trivial
  | nodeReplaced => cases hbelongs
  | _ => exact hbelongs

theorem BelongsToReading.isWrite_eq_false {name : String} {event : Event}
    (hbelongs : event.BelongsToReading name) : event.isWrite = false := by
  cases event with
  | nodeReplaced => cases hbelongs
  | _ => rfl

theorem isWrite_of_isAcceptedWrite {event : Event} (haccepted : event.isAcceptedWrite = true) :
    event.isWrite = true := by
  cases event with
  | nodeReplaced => rfl
  | _ => cases haccepted

end Event

namespace Trace

def writes (trace : Trace) : Trace := trace.filter Event.isWrite

/-- What the reads came back with that did not fail. -/
def nodesRead (trace : Trace) : List (Option Node) := trace.filterMap Event.nodeRead?

/-- The calls on the cluster together with the waits between them. -/
def callsAndWaits (trace : Trace) : Trace :=
  trace.filter fun event => event.isClusterCall || event.isWait

theorem clusterCalls_eq_filter (trace : Trace) :
    trace.clusterCalls = trace.filter Event.isClusterCall := by
  unfold clusterCalls
  congr 1

@[simp] theorem clusterCalls_append (first second : Trace) :
    clusterCalls (first ++ second) = first.clusterCalls ++ second.clusterCalls :=
  List.filter_append ..

@[simp] theorem nodesRead_append (first second : Trace) :
    nodesRead (first ++ second) = first.nodesRead ++ second.nodesRead :=
  List.filterMap_append ..

@[simp] theorem writes_append (first second : Trace) :
    writes (first ++ second) = first.writes ++ second.writes :=
  List.filter_append ..

@[simp] theorem callsAndWaits_append (first second : Trace) :
    callsAndWaits (first ++ second) = first.callsAndWaits ++ second.callsAndWaits :=
  List.filter_append ..

@[simp] theorem clusterCalls_nil : clusterCalls [] = [] := rfl

@[simp] theorem clusterCalls_logged (line : LogLine) (trace : Trace) :
    clusterCalls (.logged line :: trace) = trace.clusterCalls := rfl

@[simp] theorem callsAndWaits_logged (line : LogLine) (trace : Trace) :
    callsAndWaits (.logged line :: trace) = trace.callsAndWaits := rfl

@[simp] theorem callsAndWaits_slept (milliseconds : Int) (trace : Trace) :
    callsAndWaits (.slept milliseconds :: trace) = .slept milliseconds :: trace.callsAndWaits :=
  rfl

@[simp] theorem callsAndWaits_nil : callsAndWaits [] = [] := rfl

theorem clusterCalls_callsAndWaits (trace : Trace) :
    trace.callsAndWaits.clusterCalls = trace.clusterCalls := by
  rw [clusterCalls_eq_filter, clusterCalls_eq_filter, callsAndWaits, List.filter_filter]
  congr 1
  funext event
  cases event <;> rfl

/-- Calls with a wait between each two parts of them are the calls of the parts. -/
theorem clusterCalls_intercalate_slept (milliseconds : Int) (parts : List Trace)
    (hcalls : ∀ part ∈ parts, part.clusterCalls = part) :
    clusterCalls ([.slept milliseconds].intercalate parts) = parts.flatten := by
  induction parts with
  | nil => rfl
  | cons part parts ih =>
      have hpart := hcalls part List.mem_cons_self
      have hrest := ih fun other hother => hcalls other (List.mem_cons_of_mem part hother)
      by_cases hmore : parts = []
      · subst hmore
        simpa using hpart
      · rw [List.intercalate_cons_of_ne_nil hmore, clusterCalls_append, clusterCalls_append, hpart,
          hrest]
        simp [clusterCalls]

theorem nodesRead_clusterCalls (trace : Trace) :
    trace.clusterCalls.nodesRead = trace.nodesRead := by
  rw [clusterCalls_eq_filter, nodesRead, nodesRead, List.filterMap_filter]
  congr 1
  funext event
  cases event <;> rfl

theorem writes_clusterCalls (trace : Trace) : trace.clusterCalls.writes = trace.writes := by
  rw [clusterCalls_eq_filter, writes, writes, List.filter_filter]
  congr 1
  funext event
  cases event <;> rfl

theorem countP_isAcceptedWrite_clusterCalls (trace : Trace) :
    trace.clusterCalls.countP Event.isAcceptedWrite = trace.countP Event.isAcceptedWrite := by
  rw [clusterCalls_eq_filter, List.countP_filter]
  congr 1
  funext event
  rcases event with _ | _ | _ | _ | _ | _ | ⟨_, _, _ | _⟩ | _ | _ | _ <;> rfl

theorem mem_clusterCalls {trace : Trace} {event : Event} :
    event ∈ trace.clusterCalls ↔ event ∈ trace ∧ event.isClusterCall = true := by
  rw [clusterCalls_eq_filter, List.mem_filter]

theorem countP_isAcceptedWrite_of_writes_eq_nil {trace : Trace} (hwrites : trace.writes = []) :
    trace.countP Event.isAcceptedWrite = 0 := by
  rw [List.countP_eq_zero]
  rw [writes, List.filter_eq_nil_iff] at hwrites
  intro event hevent haccepted
  exact hwrites event hevent (Event.isWrite_of_isAcceptedWrite haccepted)

theorem clusterCalls_of_split {trace before after : Trace} {asked : String} {sent : Node}
    {answer : Except RemoteError (Option Node)}
    (hsplit : trace = before ++ .nodeReplaced asked sent answer :: after) :
    trace.clusterCalls =
      before.clusterCalls ++ .nodeReplaced asked sent answer :: after.clusterCalls := by
  rw [hsplit, clusterCalls_append]
  rfl

theorem clusterCalls_of_emits {σ α : Type} {x : Run σ α}
    (hx : x.Emits fun event => event.isClusterCall = false) (supply : σ) :
    (x supply).trace.clusterCalls = [] := by
  rw [clusterCalls_eq_filter]
  exact hx.filter_eq_nil supply

end Trace

/-- Whether a failure of a read is worth another attempt. -/
def RemoteError.isWorthRereading (e : RemoteError) : Bool := e.isCluster && !e.isNotFound

/-- The cluster serves a node: it answers reads with the node after fewer failures than there are
attempts, each of them worth another attempt. -/
def Outside.Serves (outside : Outside) (node : Node) : Prop :=
  ∃ failures < 30, (∀ i < failures, ∃ e, outside.reads.answer i = .error e ∧
      e.isWorthRereading = true) ∧
    outside.reads.answer failures = .ok (some node)

namespace Cluster

/-- What an attempt to read comes to. -/
def readOutcome :
    Except RemoteError (Option Node) → Except Fault (Attempt RemoteError (Option Node))
  | .ok node => .ok (.success node)
  | .error e => if e.isCluster then .ok (.failure e e.isNotFound) else .error (.escaped e)

/-- The lines of an attempt to read: one if the node is known not to be there. -/
def readLines (name : String) : Except RemoteError (Option Node) → List LogLine
  | .ok _ => []
  | .error e =>
      if e.isCluster && e.isNotFound then
        [⟨.error, "Node " ++ name ++ " no longer exists in the cluster"⟩]
      else []

theorem level_of_mem_readLines {name : String} {answer : Except RemoteError (Option Node)}
    {line : LogLine} (hline : line ∈ readLines name answer) : line.level = .error := by
  cases answer with
  | ok node => cases hline
  | error e =>
      rw [readLines] at hline
      split at hline
      · rw [List.mem_singleton] at hline
        rw [hline]
      · cases hline

/-- An attempt to read takes the next answer and depends on nothing else. -/
theorem readAttempt_apply (name : String) (outside : Outside) :
    readAttempt name outside =
      ⟨readOutcome outside.reads.first,
        .nodeRead name outside.reads.first :: (readLines name outside.reads.first).map .logged,
        { outside with reads := outside.reads.rest }⟩ := by
  have hread : Outside.readNode name outside =
      ⟨.ok outside.reads.first, [.nodeRead name outside.reads.first],
        { outside with reads := outside.reads.rest }⟩ := rfl
  rw [readAttempt, Run.bind_apply_of_ok hread]
  cases outside.reads.first with
  | ok node => rfl
  | error e =>
      cases hcluster : e.isCluster with
      | false =>
          simp only [readOutcome, readLines, hcluster, Bool.not_false, Bool.false_and, ↓reduceIte]
          rfl
      | true =>
          cases hmissing : e.isNotFound <;>
          · simp only [readOutcome, readLines, hcluster, hmissing, Bool.not_true, Bool.true_and,
              ↓reduceIte]
            rfl

theorem readAttempt_emits (name : String) :
    (readAttempt name).Emits (Event.BelongsToReading name) := by
  intro outside event hevent
  rw [readAttempt_apply, List.mem_cons, List.mem_map] at hevent
  rcases hevent with rfl | ⟨line, hline, rfl⟩
  · exact rfl
  · intro hlevel
    rw [level_of_mem_readLines hline] at hlevel
    cases hlevel

theorem node_emits (budget : Budget) (name : String) :
    (node budget name).Emits (Event.BelongsToReading name) := by
  apply Run.Emits.bind
    (Retry.run_emits (fun _ hlevel => hlevel) (fun _ => trivial) (readAttempt_emits name))
  intro answer
  rcases answer with _ | _ | _ | _
  · exact Run.Emits.throw _
  · exact Run.Emits.throw _
  · exact Run.Emits.throw _
  · exact Run.Emits.pure _

/-- The node that a reading ends with is the only one that it was given. -/
theorem nodesRead_node {budget : Budget} {name : String} {outside : Outside} {found : Node}
    (hresult : (node budget name outside).result = .ok found) :
    (node budget name outside).trace.nodesRead = [some found] := by
  obtain ⟨answer, hanswer, hend, htrace⟩ := Run.exists_of_bind_ok hresult
  have hfound : answer = some (.ok (some found)) := by
    rcases answer with _ | _ | _ | given
    · cases hend
    · cases hend
    · cases hend
    · cases hend
      rfl
  rw [hfound] at hanswer htrace
  have hfailed : ∀ supply e stop, (readAttempt name supply).result = .ok ⟨.error e, stop⟩ →
      (readAttempt name supply).trace.filterMap Event.nodeRead? = [] := by
    intro supply e stop herror
    rw [readAttempt_apply] at herror ⊢
    cases hfirst : supply.reads.first with
    | ok given =>
        rw [hfirst] at herror
        cases herror
    | error e' => exact Trace.filterMap_logged (fun _ => rfl) _
  obtain ⟨last, stop, hlast, hview⟩ := Retry.attemptsFrom_ok_inv Event.nodeRead?
    (fun _ => rfl) (fun _ => rfl) hfailed hanswer
  have hgiven : last.reads.first = .ok (some found) := by
    rw [readAttempt_apply] at hlast
    cases hfirst : last.reads.first with
    | ok given =>
        rw [hfirst] at hlast
        cases hlast
        rfl
    | error e =>
        rw [hfirst] at hlast
        simp only [readOutcome] at hlast
        split at hlast <;> cases hlast
  rw [readAttempt_apply, hgiven] at hview
  calc (node budget name outside).trace.nodesRead
      = (Retry.run RemoteError.text budget (readAttempt name) outside).trace.nodesRead := by
        rw [node, htrace]
        exact congrArg Trace.nodesRead (List.append_nil _)
    _ = [some found] := hview

/-- A change of the outside that reads do not see. -/
theorem node_mapSupply {f : Outside → Outside}
    (hreads : ∀ outside, (f outside).reads = outside.reads)
    (hrest : ∀ outside, f { outside with reads := outside.reads.rest } =
      { f outside with reads := outside.reads.rest })
    (budget : Budget) (name : String) (outside : Outside) :
    node budget name (f outside) = (node budget name outside).mapSupply f := by
  have hattempt : ∀ supply, readAttempt name (f supply) =
      (readAttempt name supply).mapSupply f := by
    intro supply
    rw [readAttempt_apply, readAttempt_apply, hreads]
    simp only [Outcome.mapSupply, hrest]
  have hretry : Retry.run RemoteError.text budget (readAttempt name) (f outside) =
      (Retry.run RemoteError.text budget (readAttempt name) outside).mapSupply f :=
    Retry.attemptsFrom_mapSupply hattempt 1 budget.attempts.toNat outside
  rcases hrun : Retry.run RemoteError.text budget (readAttempt name) outside with
    ⟨result, trace, rest⟩
  rw [hrun] at hretry
  cases result with
  | error fault =>
      rw [node, Run.bind_apply_of_error hretry, Run.bind_apply_of_error hrun]
      rfl
  | ok answer =>
      rw [node, Run.bind_apply_of_ok hretry, Run.bind_apply_of_ok hrun]
      rcases answer with _ | _ | _ | _ <;> rfl

/-- The supply after some attempts to read lacks as many answers to reads. -/
theorem supplyAfter_readAttempt (name : String) (outside : Outside) (n : Nat) :
    Retry.supplyAfter (readAttempt name) outside n =
      { outside with reads := outside.reads.skip n } := by
  induction n generalizing outside with
  | zero => rfl
  | succ n ih =>
      rw [Retry.supplyAfter, readAttempt_apply, ih]
      rfl

/-- A reading ends with the node that the cluster serves. -/
theorem result_node_of_serves {outside : Outside} {served : Node} (hserves : outside.Serves served)
    (name : String) : (node .standard name outside).result = .ok served := by
  obtain ⟨failures, hfew, hfailures, hserved⟩ := hserves
  have hfail : ∀ i < failures, ∃ e,
      (readAttempt name (Retry.supplyAfter (readAttempt name) outside i)).result =
        .ok (.failure e false) := by
    intro i hi
    obtain ⟨e, hanswer, hworth⟩ := hfailures i hi
    rw [RemoteError.isWorthRereading, Bool.and_eq_true, Bool.not_eq_true'] at hworth
    refine ⟨e, ?_⟩
    rw [supplyAfter_readAttempt, readAttempt_apply]
    change readOutcome (outside.reads.answer i) = _
    rw [hanswer, readOutcome, if_pos hworth.1, hworth.2]
  have hattempt : readAttempt name { outside with reads := outside.reads.skip failures } =
      ⟨.ok (.success (some served)), [.nodeRead name (.ok (some served))],
        { outside with reads := (outside.reads.skip failures).rest }⟩ := by
    have hfirst : (outside.reads.skip failures).first = .ok (some served) := hserved
    rw [readAttempt_apply, hfirst]
    rfl
  have hrun : (Retry.run RemoteError.text .standard (readAttempt name) outside).result =
      .ok (some (.ok (some served))) := by
    have hbudget : (Budget.standard.attempts).toNat = failures + ((29 - failures) + 1) := by
      change 30 = _
      omega
    rw [Retry.run, hbudget,
      Retry.result_attemptsFrom_of_failures 1 failures (29 - failures) outside hfail,
      supplyAfter_readAttempt, Retry.attemptsFrom_of_last hattempt _ _ rfl]
    rfl
  rw [node, Run.bind_of_result_ok hrun]
  rfl

end Cluster

end NodeTopology
