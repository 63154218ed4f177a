import NodeTopology.Proofs.ClusterTrace
import NodeTopology.Proofs.RequestAnswers
import NodeTopology.Proofs.RetryCourse
/-!
Which answer of the cluster decides the reading of a node.  An answer is passed over if the
connection failed or the read was refused, unless the node is said not to be there.  Main statement:
within its budget a reading hears the answers up to the first that is not passed over, and the
verdict on that one is its end; a reading that hears nothing else makes all the reads of its budget
and fails with the last of them.
-/

namespace NodeTopology

/-- An answer to a read after which the node is asked for again: the connection failed, or the read
was refused with another status than that of a missing node. -/
inductive IsPassing : Except RemoteError (Option Node) → Prop
  | broken (kind text : String) : IsPassing (.error (.transport kind text))
  | exhausted (url : String) : IsPassing (.error (.exhausted url))
  | refused {status : Value} (reason body : Value) (hstatus : status.equalsInt 404 = false) :
      IsPassing (.error (.refused status reason body))

/-- So many answers of a script, from the first on, are passed over. -/
def Script.PassesFirst (script : Script (Except RemoteError (Option Node))) (number : Nat) :
    Prop :=
  ∀ i < number, IsPassing (script.answer i)

def missingLine (name : String) : LogLine :=
  ⟨.error, "Node " ++ name ++ " no longer exists in the cluster"⟩

/-- The end of a reading that this answer decides, with the errors that it reports in the log. -/
inductive ReadVerdict (name : String) :
    Except RemoteError (Option Node) → Except Fault Node → List LogLine → Prop
  /-- There is a node. -/
  | found (node : Node) : ReadVerdict name (.ok (some node)) (.ok node) []
  /-- The answer is neither a node nor a failure. -/
  | empty : ReadVerdict name (.ok none) (.error (.node (.unreadable name none))) []
  /-- The node is not there. -/
  | missing {status : Value} (reason body : Value) (hstatus : status.equalsInt 404 = true) :
      ReadVerdict name (.error (.refused status reason body))
        (.error (.node (.unreadable name (some (.refused status reason body)))))
        [missingLine name]
  /-- Something failed that is none of the cluster's business. -/
  | escaped {e : RemoteError} (hforeign : e.isCluster = false) :
      ReadVerdict name (.error e) (.error (.escaped e)) []

/-- A reading ends with a node only if it was given this node. -/
theorem ReadVerdict.eq_of_ok {name : String} {answer : Except RemoteError (Option Node)}
    {found : Node} {lines : List LogLine} (hverdict : ReadVerdict name answer (.ok found) lines) :
    answer = .ok (some found) := by
  cases hverdict
  rfl

namespace Cluster

/-- What a reading makes of the end of its attempts. -/
def nodeIn (name : String) : Option (Except RemoteError (Option Node)) → Except NodeFault Node
  | some (.ok (some node)) => .ok node
  | some (.ok none) => .error (.unreadable name none)
  | some (.error e) => .error (.unreadable name (some e))
  | none => .error (.unreadable name none)

theorem node_apply (budget : Budget) (name : String) (outside : Outside) :
    let attempts := Retry.run RemoteError.text budget (readAttempt name) outside
    node budget name outside =
      ⟨attempts.result >>= fun answer => (nodeIn name answer).mapError .node, attempts.trace,
        attempts.supply⟩ := by
  have hnode : node budget name = (do
      let answer ← Retry.run RemoteError.text budget (readAttempt name)
      Run.ofExcept .node (nodeIn name answer)) := by
    rw [node]
    congr 1
    funext answer
    rcases answer with _ | _ | _ | _ <;> rfl
  rw [hnode]
  exact Run.bind_ofExcept_apply _ _ _ _

/-- The end that a reading comes to on its last answer. -/
def endingOn (name : String) (answer : Except RemoteError (Option Node)) : Except Fault Node :=
  readOutcome answer >>= fun attempt => (nodeIn name (some attempt.outcome)).mapError .node

section Answers

variable {name : String} {answer : Except RemoteError (Option Node)}

/-- An answer that is passed over is a failure, and nothing is said of it. -/
theorem exists_of_isPassing (hpassing : IsPassing answer) (name : String) :
    ∃ e, answer = .error e ∧ readOutcome answer = .ok (.failure e false) ∧
      readLines name answer = [] := by
  cases hpassing with
  | broken => exact ⟨_, rfl, rfl, rfl⟩
  | exhausted => exact ⟨_, rfl, rfl, rfl⟩
  | @refused status reason body hstatus =>
      have hmissing : (RemoteError.refused status reason body).isNotFound = false := hstatus
      refine ⟨_, rfl, ?_, ?_⟩
      · simp [readOutcome, RemoteError.isCluster, hmissing]
      · simp [readLines, hmissing]

/-- An attempt to read that fails and may be repeated had an answer that is passed over. -/
theorem isPassing_of_readOutcome {e : RemoteError}
    (hfailed : readOutcome answer = .ok (.failure e false)) : IsPassing answer := by
  rcases answer with other | given
  · cases other with
    | transport kind text => exact .broken kind text
    | exhausted url => exact .exhausted url
    | refused status reason body =>
        have hstatus : status.equalsInt 404 = false := congrArg Attempt.stop (Except.ok.inj hfailed)
        exact .refused reason body hstatus
    | _ => cases hfailed
  · cases hfailed

/-- An attempt to read is final exactly if its answer is not passed over. -/
theorem not_isFinal_readOutcome_iff :
    ¬Retry.IsFinal (readOutcome answer) ↔ IsPassing answer := by
  rw [Retry.not_isFinal_iff]
  constructor
  · rintro ⟨e, hfailed⟩
    exact isPassing_of_readOutcome hfailed
  · intro hpassing
    obtain ⟨e, _, hfailed, _⟩ := exists_of_isPassing hpassing ""
    exact ⟨e, hfailed⟩

/-- The log tells of a node that is said not to be there. -/
theorem readLines_of_missing {status : Value} (hstatus : status.equalsInt 404 = true)
    (name : String) (reason body : Value) :
    readLines name (.error (.refused status reason body)) = [missingLine name] := by
  have hmissing : (RemoteError.refused status reason body).isNotFound = true := hstatus
  simp [readLines, RemoteError.isCluster, hmissing, missingLine]

theorem readVerdict_of_not_isPassing (hsettled : ¬IsPassing answer) (name : String) :
    ReadVerdict name answer (endingOn name answer) (readLines name answer) := by
  rcases answer with e | _ | found
  · cases e with
    | transport kind text => exact absurd (.broken kind text) hsettled
    | exhausted url => exact absurd (.exhausted url) hsettled
    | refused status reason body =>
        cases hstatus : status.equalsInt 404 with
        | false => exact absurd (.refused reason body hstatus) hsettled
        | true =>
            rw [readLines_of_missing hstatus]
            exact .missing reason body hstatus
    | _ => exact .escaped rfl
  · exact .empty
  · exact .found found

/-- No answer has two verdicts. -/
theorem eq_of_readVerdict {ending : Except Fault Node} {lines : List LogLine}
    (hverdict : ReadVerdict name answer ending lines) :
    endingOn name answer = ending ∧ readLines name answer = lines := by
  cases hverdict with
  | found => exact ⟨rfl, rfl⟩
  | empty => exact ⟨rfl, rfl⟩
  | missing reason body hstatus => exact ⟨rfl, readLines_of_missing hstatus name reason body⟩
  | escaped hforeign =>
      simp only [endingOn, readOutcome, readLines, hforeign]
      exact ⟨rfl, rfl⟩

theorem readVerdict_iff (hsettled : ¬IsPassing answer) {ending : Except Fault Node}
    {lines : List LogLine} :
    endingOn name answer = ending ∧ readLines name answer = lines ↔
      ReadVerdict name answer ending lines := by
  constructor
  · rintro ⟨rfl, rfl⟩
    exact readVerdict_of_not_isPassing hsettled name
  · exact eq_of_readVerdict

end Answers

section Course

variable (budget : Budget) (name : String) (outside : Outside)

/-- Each attempt to read takes its own answer. -/
theorem invocation_readAttempt (i : Nat) :
    Retry.invocation (readAttempt name) outside i =
      ⟨readOutcome (outside.reads.answer i),
        .nodeRead name (outside.reads.answer i) ::
          (readLines name (outside.reads.answer i)).map .logged,
        { outside with reads := (outside.reads.skip i).rest }⟩ := by
  rw [Retry.invocation, supplyAfter_readAttempt, readAttempt_apply]
  rfl

/-- The trace of so many attempts to read. -/
def readCourse (count : Nat) : Trace :=
  Retry.course RemoteError.text budget
    (fun i => (Retry.invocation (readAttempt name) outside i).result)
    (fun i => (Retry.invocation (readAttempt name) outside i).trace) 1 count

/-- The reads are for the answers in their order, with a wait between each two. -/
theorem callsAndWaits_readCourse (count : Nat) (hpasses : outside.reads.PassesFirst (count - 1)) :
    (readCourse budget name outside count).callsAndWaits =
      ((outside.reads.firstAnswers count).map (.nodeRead name)).intersperse
        (.slept budget.intervalMs) := by
  -- As a view of single events it shows the course stretch by stretch.
  have hview : ∀ trace : Trace, trace.callsAndWaits =
      trace.filterMap (Option.guard fun event => event.isClusterCall || event.isWait) := by
    intro trace
    rw [List.filterMap_eq_filter]
    rfl
  rw [hview, readCourse, Retry.course, Retry.filterMap_withPauses, Script.firstAnswers,
    List.map_map, ← Retry.withPauses_singletons]
  apply Retry.withPauses_congr
  · intro i _
    rw [← hview, invocation_readAttempt, Trace.callsAndWaits_append]
    have hlines : Trace.callsAndWaits
        ((readLines name (outside.reads.answer i)).map .logged) = [] := by
      simp [Trace.callsAndWaits, Event.isClusterCall, Event.isWait]
    have hreport : Trace.callsAndWaits (Retry.reportOf RemoteError.text (i + 1)
        (readOutcome (outside.reads.answer i))) = [] := by
      cases readOutcome (outside.reads.answer i) <;> rfl
    rw [hreport, List.append_nil]
    exact congrArg (List.cons _) hlines
  · intro i hi
    rw [← hview, invocation_readAttempt]
    obtain ⟨e, _, hfailed, _⟩ := exists_of_isPassing (hpasses i (by omega)) name
    rw [hfailed]
    rfl

theorem errors_readCourse (count : Nat) :
    (readCourse budget name outside count).linesOf .error =
      (outside.reads.firstAnswers count).flatMap (readLines name) := by
  have hlines : ∀ answer, ((readLines name answer).map .logged).filterMap
      (Trace.lineOf? .error) = readLines name answer := by
    intro answer
    rw [List.filterMap_map]
    calc (readLines name answer).filterMap (Trace.lineOf? .error ∘ .logged)
        = (readLines name answer).filterMap some := by
          apply List.filterMap_congr
          intro line hline
          simp [Trace.lineOf?, level_of_mem_readLines hline]
      _ = readLines name answer := List.filterMap_some
  rw [Trace.linesOf_eq_filterMap, readCourse, Retry.filterMap_course_of_reports]
  · rw [Script.firstAnswers, List.flatMap_map]
    apply List.flatMap_congr
    intro i _
    rw [invocation_readAttempt]
    have hreport : (Retry.reportOf RemoteError.text (i + 1)
        (readOutcome (outside.reads.answer i))).filterMap (Trace.lineOf? .error) = [] := by
      cases readOutcome (outside.reads.answer i) <;> rfl
    rw [hreport, List.append_nil]
    exact hlines _
  · intro i
    cases (Retry.invocation (readAttempt name) outside i).result <;> rfl

theorem flatMap_readLines_of_passes {count : Nat} (hpasses : outside.reads.PassesFirst count) :
    (outside.reads.firstAnswers count).flatMap (readLines name) = [] := by
  rw [List.flatMap_eq_nil_iff]
  intro answer hanswer
  obtain ⟨i, hi, rfl⟩ := List.mem_map.mp hanswer
  obtain ⟨_, _, _, hquiet⟩ := exists_of_isPassing (hpasses i (List.mem_range.mp hi)) name
  exact hquiet

end Course

section Endings

variable {budget : Budget} {name : String} {outside : Outside}

/-- Of so many answers one is the first that is not passed over, or all are passed over. -/
theorem exists_settled_or_passes (script : Script (Except RemoteError (Option Node)))
    (attempts : Nat) :
    (∃ number < attempts, script.PassesFirst number ∧ ¬IsPassing (script.answer number)) ∨
      script.PassesFirst attempts := by
  induction attempts with
  | zero => exact .inr fun i hi => absurd hi (Nat.not_lt_zero i)
  | succ attempts ih =>
      rcases ih with ⟨number, hnumber, hsettled⟩ | hpasses
      · exact .inl ⟨number, Nat.lt_succ_of_lt hnumber, hsettled⟩
      · by_cases hnext : IsPassing (script.answer attempts)
        · refine .inr fun i hi => ?_
          rcases Nat.lt_succ_iff_lt_or_eq.mp hi with hearlier | rfl
          · exact hpasses i hearlier
          · exact hnext
        · exact .inl ⟨attempts, Nat.lt_add_one attempts, hpasses, hnext⟩

/-- The first answer that is not passed over ends a reading whose budget reaches so far. -/
theorem node_of_settled {number : Nat} (hfew : (number : Int) < budget.attempts)
    (hpasses : outside.reads.PassesFirst number)
    (hsettled : ¬IsPassing (outside.reads.answer number)) :
    node budget name outside =
      ⟨endingOn name (outside.reads.answer number), readCourse budget name outside (number + 1),
        { outside with reads := outside.reads.skip (number + 1) }⟩ := by
  have hfirst : Retry.IsFirstFinal
      (fun i => (Retry.invocation (readAttempt name) outside i).result) number := by
    constructor
    · rw [invocation_readAttempt]
      exact not_not.mp (mt not_isFinal_readOutcome_iff.mp hsettled)
    · intro i hi
      rw [invocation_readAttempt]
      exact not_isFinal_readOutcome_iff.mpr (hpasses i hi)
  rw [node_apply, Retry.run_of_isFirstFinal RemoteError.text hfirst hfew,
    supplyAfter_readAttempt, invocation_readAttempt, endingOn]
  cases readOutcome (outside.reads.answer number) <;> rfl

/-- A reading that hears only answers that are passed over fails with the last of them. -/
theorem node_of_passes (hpasses : outside.reads.PassesFirst budget.attempts.toNat) :
    let run := node budget name outside
    run.trace = readCourse budget name outside budget.attempts.toNat ∧
      (budget.attempts ≤ 0 → run.result = .error (.node (.unreadable name none))) ∧
      ∀ last : Nat, (last : Int) + 1 = budget.attempts →
        ∃ e, outside.reads.answer last = .error e ∧
          run.result = .error (.node (.unreadable name (some e))) := by
  have hnone : ∀ i : Nat, (i : Int) < budget.attempts →
      ¬Retry.IsFinal (Retry.invocation (readAttempt name) outside i).result := by
    intro i hi
    rw [invocation_readAttempt]
    exact not_isFinal_readOutcome_iff.mpr (hpasses i (by omega))
  obtain ⟨_, htrace, huntried, hexhausted⟩ :=
    Retry.run_of_forall_not_isFinal RemoteError.text hnone
  dsimp only
  rw [node_apply]
  refine ⟨htrace, ?_, ?_⟩
  · intro hattempts
    dsimp only
    rw [huntried hattempts]
    rfl
  · intro last hlast
    obtain ⟨e, hanswer, hfailed, _⟩ := exists_of_isPassing (hpasses last (by omega)) name
    obtain ⟨e', hlastFailed, hresult⟩ := hexhausted last hlast
    rw [invocation_readAttempt, hfailed] at hlastFailed
    cases hlastFailed
    refine ⟨e, hanswer, ?_⟩
    dsimp only
    rw [hresult]
    rfl

end Endings

/-- A reading is decided by the first answer that is not passed over.  If fewer answers come before
it than the budget has attempts, there is one read for each of them and one for it, with a wait
between each two, and it alone decides: a node is the end, and of a missing node the log tells.
Otherwise there are as many reads as the budget has attempts, and the last of the failures is the
cause of the end; without an attempt there is no read, and no cause.  So a node is never taken from
an earlier read than the last. -/
theorem first_answer_decides_reading (budget : Budget) (name : String) (outside : Outside) :
    let reads := fun number => ((outside.reads.firstAnswers number).map
      (.nodeRead name)).intersperse (.slept budget.intervalMs)
    let run := node budget name outside
    (∀ number : Nat, (number : Int) < budget.attempts → outside.reads.PassesFirst number →
      ¬IsPassing (outside.reads.answer number) →
      run.trace.callsAndWaits = reads (number + 1) ∧
      ∀ ending lines, run.result = ending ∧ run.trace.linesOf .error = lines ↔
        ReadVerdict name (outside.reads.answer number) ending lines) ∧
    (outside.reads.PassesFirst budget.attempts.toNat →
      run.trace.callsAndWaits = reads budget.attempts.toNat ∧
      run.trace.linesOf .error = [] ∧
      (budget.attempts ≤ 0 → run.result = .error (.node (.unreadable name none))) ∧
      ∀ last : Nat, (last : Int) + 1 = budget.attempts →
        ∃ e, outside.reads.answer last = .error e ∧
          run.result = .error (.node (.unreadable name (some e)))) ∧
    ∀ found, run.result = .ok found →
      ∃ number : Nat, (number : Int) < budget.attempts ∧ outside.reads.PassesFirst number ∧
        outside.reads.answer number = .ok (some found) ∧
        run.trace.callsAndWaits = reads (number + 1) := by
  intro reads run
  have hdecided : ∀ number : Nat, (number : Int) < budget.attempts →
      outside.reads.PassesFirst number → ¬IsPassing (outside.reads.answer number) →
      run.trace.callsAndWaits = reads (number + 1) ∧
      ∀ ending lines, run.result = ending ∧ run.trace.linesOf .error = lines ↔
        ReadVerdict name (outside.reads.answer number) ending lines := by
    intro number hfew hpasses hsettled
    have hrun : run = _ := node_of_settled hfew hpasses hsettled
    have hlines : run.trace.linesOf .error = readLines name (outside.reads.answer number) := by
      rw [hrun, errors_readCourse, Script.firstAnswers_succ_eq_append, List.flatMap_append,
        flatMap_readLines_of_passes name outside hpasses]
      simp
    constructor
    · rw [hrun]
      exact callsAndWaits_readCourse budget name outside (number + 1) hpasses
    · intro ending lines
      rw [← readVerdict_iff hsettled, hlines, hrun]
  refine ⟨hdecided, ?_, ?_⟩
  · intro hpasses
    obtain ⟨htrace, huntried, hexhausted⟩ :=
      @node_of_passes budget name outside hpasses
    refine ⟨?_, ?_, huntried, hexhausted⟩
    · rw [htrace]
      exact callsAndWaits_readCourse budget name outside _ fun i hi => hpasses i (by omega)
    · rw [htrace, errors_readCourse]
      exact flatMap_readLines_of_passes name outside hpasses
  · intro found hfound
    rcases exists_settled_or_passes outside.reads budget.attempts.toNat with
      ⟨number, hnumber, hpasses, hsettled⟩ | hpasses
    · have hfew : (number : Int) < budget.attempts := by omega
      obtain ⟨hreads, hverdict⟩ := hdecided number hfew hpasses hsettled
      have hanswer := ((hverdict _ _).mp ⟨hfound, rfl⟩).eq_of_ok
      exact ⟨number, hfew, hpasses, hanswer, hreads⟩
    · obtain ⟨_, huntried, hexhausted⟩ := @node_of_passes budget name outside hpasses
      by_cases hattempts : budget.attempts ≤ 0
      · rw [huntried hattempts] at hfound
        cases hfound
      · obtain ⟨e, _, hfailed⟩ := hexhausted (budget.attempts.toNat - 1) (by omega)
        rw [hfailed] at hfound
        cases hfound

/-- A refusal whose status is no integer, but the float that equals the number of a missing node,
ends a reading at its first attempt. -/
theorem float_of_missing_node_ends_reading :
    let status : Value := .float 404.0
    let refusal : RemoteError := .refused status (.text "Not Found") .null
    let outside : Outside :=
      ⟨⟨.error (.system ""), []⟩, ⟨.error refusal, []⟩, ⟨.kept, []⟩⟩
    let run := node ⟨2, 500⟩ "worker" outside
    (∀ number, status ≠ .int number) ∧
      (∀ i, outside.reads.answer i = .error refusal) ∧
      run.result = .error (.node (.unreadable "worker" (some refusal))) ∧
      run.trace.callsAndWaits = [.nodeRead "worker" (.error refusal)] ∧
      missingLine "worker" ∈ run.trace.logLines := by
  dsimp only
  refine ⟨by simp, ?_, rfl, rfl, by decide +kernel⟩
  intro i
  induction i with
  | zero => rfl
  | succ i ih => exact ih

end Cluster

end NodeTopology
