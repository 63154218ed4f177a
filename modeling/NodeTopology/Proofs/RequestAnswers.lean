import NodeTopology.Proofs.RequestTrace
/-!
The answers to one request.  A request is repeated while its connection is lost and attempts are
left, so what it hears is a run of lost connections and the answer that settles it.  Main
statements: a request leaves exactly these answers in its trace, with a wait between each two calls,
and ends with the last of them; they are the answers of the script up to the first that is no lost
connection, or as many as there are attempts; and an answer that is no lost connection is heard
before the script begins to repeat itself.
-/

namespace NodeTopology

/-- The failure of an answer, if it is a lost connection. -/
def lostConnection? : Except RemoteError Response → Option RemoteError
  | .error e => if e.isConnection then some e else none
  | .ok _ => none

theorem lostConnection?_eq_some {answer : Except RemoteError Response} {e : RemoteError}
    (hlost : lostConnection? answer = some e) : answer = .error e ∧ e.isConnection = true := by
  cases answer with
  | ok response => cases hlost
  | error e' =>
      rw [lostConnection?] at hlost
      split at hlost
      · next hconnection =>
        cases hlost
        exact ⟨rfl, hconnection⟩
      · cases hlost

theorem RemoteError.isRequest_of_isConnection {e : RemoteError} (he : e.isConnection = true) :
    e.isRequest = true := by
  cases e with
  | request => rfl
  | _ => cases he

/-- An answer that is none: the connection was lost. -/
def IsLostConnection (answer : Except RemoteError Response) : Prop :=
  ∃ e, answer = .error e ∧ e.isConnection = true

theorem isLostConnection_iff {answer : Except RemoteError Response} :
    IsLostConnection answer ↔ ∃ e, lostConnection? answer = some e := by
  constructor
  · rintro ⟨e, rfl, hconnection⟩
    exact ⟨e, if_pos hconnection⟩
  · rintro ⟨e, hlost⟩
    exact ⟨e, lostConnection?_eq_some hlost⟩

theorem lostConnection?_eq_none {answer : Except RemoteError Response}
    (hsettled : ¬IsLostConnection answer) : lostConnection? answer = none := by
  rw [Option.eq_none_iff_forall_ne_some]
  exact fun e hlost => hsettled (isLostConnection_iff.mpr ⟨e, hlost⟩)

/-- What a request hears: connections that were lost, and then the answer that settles it. -/
structure Hearing where
  losses : List RemoteError
  last : Except RemoteError Response

namespace Hearing

def answers (hearing : Hearing) : List (Except RemoteError Response) :=
  hearing.losses.map .error ++ [hearing.last]

/-- The calls of a request with their answers. -/
def exchanges (request : Request) (hearing : Hearing) :
    List (Request × Except RemoteError Response) :=
  hearing.answers.map fun answer => (request, answer)

/-- The same after one more lost connection. -/
def afterLoss (e : RemoteError) (hearing : Hearing) : Hearing := ⟨e :: hearing.losses, hearing.last⟩

@[simp] theorem answers_afterLoss (e : RemoteError) (hearing : Hearing) :
    (hearing.afterLoss e).answers = .error e :: hearing.answers := rfl

@[simp] theorem length_answers (hearing : Hearing) :
    hearing.answers.length = hearing.losses.length + 1 := by
  simp [answers]

end Hearing

/-- How often an operation may be repeated. -/
def Budget.repeats (budget : Budget) : Nat := budget.attempts.toNat - 1

theorem Budget.repeats_add_one {budget : Budget} (hattempts : 0 < budget.attempts) :
    budget.repeats + 1 = budget.attempts.toNat := by
  rw [repeats]
  omega

namespace Script

/-- What a request hears of a script when it may be repeated `left` times. -/
def hear (script : Script (Except RemoteError Response)) : Nat → Hearing
  | 0 => ⟨[], script.first⟩
  | left + 1 =>
      match lostConnection? script.first with
      | some e => (script.rest.hear left).afterLoss e
      | none => ⟨[], script.first⟩

/-- A script gives these answers one after the other. -/
def Begins {α : Type} (script : Script α) : List α → Prop
  | [] => True
  | answer :: more => script.first = answer ∧ script.rest.Begins more

variable {script : Script (Except RemoteError Response)}

theorem hear_of_settled (hsettled : lostConnection? script.first = none) (left : Nat) :
    script.hear left = ⟨[], script.first⟩ := by
  cases left with
  | zero => rfl
  | succ left => rw [hear, hsettled]

theorem hear_of_lost {e : RemoteError} (hlost : lostConnection? script.first = some e)
    (left : Nat) : script.hear (left + 1) = (script.rest.hear left).afterLoss e := by
  rw [hear, hlost]

/-- A script that begins with lost connections and an answer that is none is heard so far and no
further. -/
theorem hear_of_begins {losses : List RemoteError} {last : Except RemoteError Response}
    {more : List (Except RemoteError Response)} {left : Nat}
    (hlost : ∀ e ∈ losses, e.isConnection = true) (hfew : losses.length ≤ left)
    (hsettled : lostConnection? last = none)
    (hbegins : script.Begins ((⟨losses, last⟩ : Hearing).answers ++ more)) :
    script.hear left = ⟨losses, last⟩ ∧ (script.skip (losses.length + 1)).Begins more := by
  induction losses generalizing script left with
  | nil =>
      obtain ⟨hfirst, hrest⟩ := hbegins
      subst hfirst
      exact ⟨hear_of_settled hsettled left, hrest⟩
  | cons e losses ih =>
      obtain ⟨hfirst, hrest⟩ := hbegins
      have he : lostConnection? script.first = some e := by
        rw [hfirst]
        exact if_pos (hlost e List.mem_cons_self)
      cases left with
      | zero => exact absurd hfew (Nat.not_succ_le_zero _)
      | succ left =>
          obtain ⟨hheard, hmore⟩ := ih (fun e' he' => hlost e' (List.mem_cons_of_mem e he'))
            (Nat.le_of_succ_le_succ hfew) hrest
          rw [hear_of_lost he, hheard]
          exact ⟨rfl, hmore⟩

/-- So many answers of a script, from the first on. -/
def firstAnswers {α : Type} (script : Script α) (number : Nat) : List α :=
  (List.range number).map script.answer

theorem firstAnswers_succ {α : Type} (script : Script α) (number : Nat) :
    script.firstAnswers (number + 1) = script.first :: script.rest.firstAnswers number := by
  rw [firstAnswers, List.range_succ_eq_map, List.map_cons, List.map_map]
  rfl

theorem firstAnswers_succ_eq_append {α : Type} (script : Script α) (number : Nat) :
    script.firstAnswers (number + 1) = script.firstAnswers number ++ [script.answer number] := by
  simp [firstAnswers, List.range_succ]

/-- So many answers of a script, from the first on, are lost connections. -/
def LosesFirst (script : Script (Except RemoteError Response)) (number : Nat) : Prop :=
  ∀ i < number, IsLostConnection (script.answer i)

/-- A request hears all answers up to the first that is no lost connection, or as many as it may be
repeated. -/
theorem answers_hear {number left : Nat} (hlost : script.LosesFirst number)
    (hfew : number ≤ left)
    (hend : ¬IsLostConnection (script.answer number) ∨ number = left) :
    (script.hear left).answers = script.firstAnswers (number + 1) := by
  induction number generalizing script left with
  | zero =>
      rcases hend with hsettled | rfl
      · have hfirst : lostConnection? script.first = none := lostConnection?_eq_none hsettled
        rw [hear_of_settled hfirst]
        rfl
      · rfl
  | succ number ih =>
      obtain ⟨e, hfirst⟩ : ∃ e, lostConnection? script.first = some e :=
        isLostConnection_iff.mp (hlost 0 (Nat.succ_pos number))
      cases left with
      | zero => exact absurd hfew (Nat.not_succ_le_zero number)
      | succ left =>
          have hrest : script.rest.LosesFirst number := fun i hi => hlost (i + 1) (by omega)
          rw [hear_of_lost hfirst, Hearing.answers_afterLoss, firstAnswers_succ,
            ih hrest (Nat.le_of_succ_le_succ hfew) (hend.imp_right Nat.succ.inj),
            ← (lostConnection?_eq_some hfirst).1]

theorem last_hear {number left : Nat} (hlost : script.LosesFirst number) (hfew : number ≤ left)
    (hend : ¬IsLostConnection (script.answer number) ∨ number = left) :
    (script.hear left).last = script.answer number := by
  have hanswers := answers_hear hlost hfew hend
  rw [firstAnswers_succ_eq_append, Hearing.answers] at hanswers
  simpa using (List.append_inj' hanswers rfl).2

/-- A script of one answer goes on repeating it. -/
theorem skip_one {α : Type} (script : Script α) :
    (script.skip 1).length + 1 = script.length ∨
      script.skip 1 = ⟨script.first, []⟩ ∧ 1 = script.length := by
  rcases script with ⟨first, _ | ⟨next, later⟩⟩
  · exact Or.inr ⟨rfl, rfl⟩
  · exact Or.inl rfl

/-- A request gives up on a script of nothing but lost connections. -/
theorem hear_of_repeated_loss {answer : Except RemoteError Response} {e : RemoteError}
    (hlost : lostConnection? answer = some e) (left : Nat) :
    (hear ⟨answer, []⟩ left).last = answer ∧ (hear ⟨answer, []⟩ left).losses.length = left := by
  induction left with
  | zero => exact ⟨rfl, rfl⟩
  | succ left ih =>
      obtain ⟨hlast, hlength⟩ := ih
      rw [hear_of_lost hlost]
      exact ⟨hlast, congrArg Nat.succ hlength⟩

/-- After a request that did not give up, either all that was heard is used up, or the script
repeats the answer that settled the request. -/
theorem skip_hear {left : Nat} (hsettled : lostConnection? (script.hear left).last = none) :
    (script.skip (script.hear left).answers.length).length + (script.hear left).answers.length =
        script.length ∨
      script.skip (script.hear left).answers.length = ⟨(script.hear left).last, []⟩ ∧
        (script.hear left).answers.length = script.length := by
  induction left generalizing script with
  | zero => exact skip_one script
  | succ left ih =>
      cases hfirst : lostConnection? script.first with
      | none =>
          rw [hear_of_settled hfirst]
          exact skip_one script
      | some e =>
          rcases script with ⟨first, _ | ⟨next, later⟩⟩
          · rw [(hear_of_repeated_loss hfirst (left + 1)).1, hfirst] at hsettled
            cases hsettled
          · rw [hear_of_lost hfirst] at hsettled ⊢
            rcases ih hsettled with hused | ⟨hrepeats, hall⟩
            · exact Or.inl (congrArg Nat.succ hused)
            · exact Or.inr ⟨hrepeats, congrArg Nat.succ hall⟩

end Script

def Event.isHttpCall : Event → Bool
  | requested _ _ => true
  | _ => false

/-- The call that an event is, with its answer. -/
def Event.exchange? : Event → Option (Request × Except RemoteError Response)
  | requested request answer => some (request, answer)
  | _ => none

namespace Trace

/-- The HTTP calls of a trace with their answers, in order. -/
def exchanges (trace : Trace) : List (Request × Except RemoteError Response) :=
  trace.filterMap Event.exchange?

@[simp] theorem exchanges_append (first second : Trace) :
    exchanges (first ++ second) = first.exchanges ++ second.exchanges :=
  List.filterMap_append ..

@[simp] theorem exchanges_logged (line : LogLine) (trace : Trace) :
    exchanges (.logged line :: trace) = trace.exchanges := rfl

@[simp] theorem exchanges_slept (milliseconds : Int) (trace : Trace) :
    exchanges (.slept milliseconds :: trace) = trace.exchanges := rfl

@[simp] theorem exchanges_requested (request : Request) (answer : Except RemoteError Response)
    (trace : Trace) :
    exchanges (.requested request answer :: trace) = (request, answer) :: trace.exchanges := rfl

@[simp] theorem exchanges_lines (lines : List LogLine) :
    exchanges (lines.map .logged) = [] :=
  filterMap_logged (fun _ => rfl) lines

/-- The HTTP calls of a trace with their answers, together with the waits between them. -/
def requestsAndWaits (trace : Trace) : Trace :=
  trace.filter fun event => event.isHttpCall || event.isWait

@[simp] theorem requestsAndWaits_append (first second : Trace) :
    requestsAndWaits (first ++ second) = first.requestsAndWaits ++ second.requestsAndWaits :=
  List.filter_append ..

@[simp] theorem requestsAndWaits_nil : requestsAndWaits [] = [] := rfl

@[simp] theorem requestsAndWaits_logged (line : LogLine) (trace : Trace) :
    requestsAndWaits (.logged line :: trace) = trace.requestsAndWaits := rfl

@[simp] theorem requestsAndWaits_slept (milliseconds : Int) (trace : Trace) :
    requestsAndWaits (.slept milliseconds :: trace) =
      .slept milliseconds :: trace.requestsAndWaits := rfl

@[simp] theorem requestsAndWaits_requested (request : Request)
    (answer : Except RemoteError Response) (trace : Trace) :
    requestsAndWaits (.requested request answer :: trace) =
      .requested request answer :: trace.requestsAndWaits := rfl

@[simp] theorem requestsAndWaits_lines (lines : List LogLine) :
    requestsAndWaits (lines.map .logged) = [] := by
  simp [requestsAndWaits, Event.isHttpCall, Event.isWait]

theorem exchanges_requestsAndWaits (trace : Trace) :
    trace.requestsAndWaits.exchanges = trace.exchanges := by
  rw [requestsAndWaits, exchanges, exchanges, List.filterMap_filter]
  congr 1
  funext event
  cases event <;> rfl

theorem exchanges_intersperse_slept (milliseconds : Int) (trace : Trace) :
    exchanges (trace.intersperse (.slept milliseconds)) = trace.exchanges := by
  induction trace with
  | nil => rfl
  | cons event trace ih =>
      cases trace with
      | nil => rfl
      | cons next trace =>
          have hcons : ∀ later : Trace,
              exchanges (event :: later) = exchanges [event] ++ later.exchanges :=
            exchanges_append [event]
          rw [List.intersperse_cons_cons, hcons, exchanges_slept, ih, ← hcons]

theorem exchanges_of_forall {trace : Trace} (hnone : ∀ event ∈ trace, event.isHttpCall = false) :
    trace.exchanges = [] := by
  rw [exchanges, List.filterMap_eq_nil_iff]
  intro event hevent
  have hcall := hnone event hevent
  cases event with
  | requested => simp [Event.isHttpCall] at hcall
  | _ => rfl

theorem requests_eq_map_exchanges (trace : Trace) :
    trace.requests = trace.exchanges.map Prod.fst := by
  rw [requests, exchanges, List.map_filterMap]
  congr 1
  funext event
  cases event <;> rfl

end Trace

namespace Hearing

/-- The calls of a request with their answers, with a wait between each two. -/
def callsAndWaits (request : Request) (milliseconds : Int) (hearing : Hearing) : Trace :=
  (hearing.answers.map (.requested request)).intersperse (.slept milliseconds)

theorem callsAndWaits_afterLoss (request : Request) (milliseconds : Int) (e : RemoteError)
    (hearing : Hearing) :
    (hearing.afterLoss e).callsAndWaits request milliseconds =
      .requested request (.error e) :: .slept milliseconds ::
        hearing.callsAndWaits request milliseconds := by
  rcases hearing with ⟨_ | ⟨loss, losses⟩, last⟩ <;> rfl

theorem exchanges_callsAndWaits (request : Request) (milliseconds : Int) (hearing : Hearing) :
    (hearing.callsAndWaits request milliseconds).exchanges = hearing.exchanges request := by
  have hcalls : ∀ answers : List (Except RemoteError Response),
      Trace.exchanges (answers.map (.requested request)) =
        answers.map fun answer => (request, answer) := by
    intro answers
    rw [Trace.exchanges, List.filterMap_map]
    exact congrFun List.filterMap_eq_map answers
  rw [callsAndWaits, Trace.exchanges_intersperse_slept, hcalls, exchanges]

end Hearing

theorem Session.requestsAndWaits_use {σ α : Type} (session : Session) (work : Run σ α)
    (supply : σ) :
    (session.use work supply).trace.requestsAndWaits = (work supply).trace.requestsAndWaits := by
  cases session with
  | given => rfl
  | own => simp [use, Trace.requestsAndWaits, Event.isHttpCall, Event.isWait]

theorem Session.exchanges_use {σ α : Type} (session : Session) (work : Run σ α) (supply : σ) :
    (session.use work supply).trace.exchanges = (work supply).trace.exchanges :=
  session.filterMap_use work supply rfl rfl

namespace Outside

/-- How a request ends on the answer that settles it. -/
def requestEnding :
    Except RemoteError Response → Except Fault (Option (Except RemoteError Response))
  | .ok response => .ok (some (.ok response))
  | .error e => if e.isRequest then .ok (some (.error e)) else .error (.escaped e)

variable {budget : Budget}

/-- An attempt on an answer that settles the request, or for which no further attempt is left, is
the last. -/
theorem attemptsFrom_requestAttempt_of_last (request : Request) {outside : Outside} {left : Nat}
    (hlast : lostConnection? outside.http.first = none ∨ left = 0) (number : Nat) :
    let run := Retry.attemptsFrom RemoteError.text budget (requestAttempt (pure request)) number
      (left + 1) outside
    run.result = requestEnding outside.http.first ∧
      run.trace.requestsAndWaits = [.requested request outside.http.first] ∧
      run.supply = { outside with http := outside.http.rest } := by
  have hattempt := requestAttempt_apply request outside
  cases hfirst : outside.http.first with
  | ok response =>
      rw [hfirst] at hattempt
      dsimp only
      rw [Retry.attemptsFrom_of_last hattempt number left rfl]
      exact ⟨rfl, rfl, rfl⟩
  | error e =>
      rw [hfirst] at hattempt hlast
      cases hrequest : e.isRequest with
      | false =>
          have hfault : requestAttempt (pure request) outside =
              ⟨.error (.escaped e), [.requested request (.error e)],
                { outside with http := outside.http.rest }⟩ := by
            rw [hattempt, requestOutcome, hrequest]
            rfl
          dsimp only
          rw [Retry.attemptsFrom_of_fault hfault number left, requestEnding, hrequest]
          exact ⟨rfl, rfl, rfl⟩
      | true =>
          have hfailure : requestAttempt (pure request) outside =
              ⟨.ok (.failure e (!e.isConnection)), [.requested request (.error e)],
                { outside with http := outside.http.rest }⟩ := by
            rw [hattempt, requestOutcome, hrequest]
            rfl
          have hstop : ((Attempt.failure e (!e.isConnection) :
              Attempt RemoteError Response).isLast || left == 0) = true := by
            rcases hlast with hsettled | rfl
            · cases hconnection : e.isConnection with
              | false => rfl
              | true => simp [lostConnection?, hconnection] at hsettled
            · simp
          dsimp only
          rw [Retry.attemptsFrom_of_last hfailure number left hstop, requestEnding, hrequest]
          exact ⟨rfl, rfl, rfl⟩

/-- Attempts of a request hear the script, call after call with a wait between each two, and end
with the answer that settles the request. -/
theorem attemptsFrom_requestAttempt (request : Request) (number left : Nat) (outside : Outside) :
    let hearing := outside.http.hear left
    let run := Retry.attemptsFrom RemoteError.text budget (requestAttempt (pure request)) number
      (left + 1) outside
    run.result = requestEnding hearing.last ∧
      run.trace.requestsAndWaits = hearing.callsAndWaits request budget.intervalMs ∧
      run.supply = { outside with http := outside.http.skip hearing.answers.length } := by
  induction left generalizing number outside with
  | zero => exact attemptsFrom_requestAttempt_of_last request (Or.inr rfl) number
  | succ left ih =>
      cases hfirst : lostConnection? outside.http.first with
      | none =>
          dsimp only
          rw [Script.hear_of_settled hfirst]
          exact attemptsFrom_requestAttempt_of_last request (Or.inl hfirst) number
      | some e =>
          obtain ⟨hanswer, hconnection⟩ := lostConnection?_eq_some hfirst
          have hattempt : requestAttempt (pure request) outside =
              ⟨.ok (.failure e false), [.requested request (.error e)],
                { outside with http := outside.http.rest }⟩ := by
            rw [requestAttempt_apply, hanswer, requestOutcome,
              if_pos (RemoteError.isRequest_of_isConnection hconnection), hconnection]
            rfl
          obtain ⟨hresult, hheard, hsupply⟩ :=
            ih (number + 1) { outside with http := outside.http.rest }
          dsimp only at hresult hheard hsupply ⊢
          rw [Script.hear_of_lost hfirst, Retry.attemptsFrom_of_again hattempt number _ rfl]
          refine ⟨hresult, ?_, hsupply⟩
          simp [hheard, Hearing.callsAndWaits_afterLoss]

/-- The calls of a request and the waits between them are those in which it hears the script. -/
theorem requestsAndWaits_request (hattempts : 0 < budget.attempts) (request : Request)
    (outside : Outside) :
    (Outside.request budget (pure request) outside).trace.requestsAndWaits =
      (outside.http.hear budget.repeats).callsAndWaits request budget.intervalMs := by
  have hspec := @attemptsFrom_requestAttempt budget request 1 budget.repeats outside
  rw [Budget.repeats_add_one hattempts] at hspec
  exact hspec.2.1

/-- A request hears the script as often as its budget allows and ends with the answer that settles
it. -/
theorem request_spec (hattempts : 0 < budget.attempts) (request : Request) (outside : Outside) :
    let hearing := outside.http.hear budget.repeats
    let run := Outside.request budget (pure request) outside
    run.result = requestEnding hearing.last ∧
      run.trace.exchanges = hearing.exchanges request ∧
      run.supply = { outside with http := outside.http.skip hearing.answers.length } := by
  have hspec := @attemptsFrom_requestAttempt budget request 1 budget.repeats outside
  rw [Budget.repeats_add_one hattempts] at hspec
  obtain ⟨hresult, hheard, hsupply⟩ := hspec
  refine ⟨hresult, ?_, hsupply⟩
  rw [← Hearing.exchanges_callsAndWaits request budget.intervalMs, ← hheard]
  exact (Trace.exchanges_requestsAndWaits _).symm

end Outside

end NodeTopology
