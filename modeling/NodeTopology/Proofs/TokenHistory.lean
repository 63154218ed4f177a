import Mathlib.Data.List.Induction
import NodeTopology.Proofs.RecordFields
import NodeTopology.Proofs.RequestAnswers
/-!
Credentials over any run of calls on them.  An exchange hands over what the last answer to its calls
holds; a refresh keeps that, and every other call keeps nothing.  Main statement: after any number
of calls, in any order and with any failures among them, the credentials are as they were at the
start or hold the token of the last refresh that succeeded, and nothing else has changed in them.
-/

namespace NodeTopology

theorem AccessToken.accessToken_ne_empty {value : Value} {token : AccessToken}
    (htoken : AccessToken.ofValue value = .ok token) : token.accessToken ≠ "" := by
  obtain ⟨_, _, hrecord⟩ := ofValue_eq_ok_iff.mp htoken
  exact hrecord.accessToken_ne_empty

/-- The last of the calls in a trace was answered by a response that holds this token. -/
def Trace.Hands (trace : Trace) (token : AccessToken) : Prop :=
  ∃ request response, trace.exchanges.getLast? = some (request, .ok response) ∧
    response.status = 200 ∧ response.decode AccessToken.ofValue = .ok token

namespace Trace.Hands

variable {trace : Trace} {token : AccessToken}

/-- A trace hands over one token at most. -/
theorem unique {token' : AccessToken} (hands : trace.Hands token) (hands' : trace.Hands token') :
    token = token' := by
  obtain ⟨request, response, hlast, _, hdecoded⟩ := hands
  obtain ⟨request', response', hlast', _, hdecoded'⟩ := hands'
  rw [hlast] at hlast'
  cases hlast'
  rw [hdecoded] at hdecoded'
  cases hdecoded'
  rfl

theorem append_left (hands : trace.Hands token) (earlier : Trace) :
    Hands (earlier ++ trace) token := by
  obtain ⟨request, response, hlast, hrest⟩ := hands
  refine ⟨request, response, ?_, hrest⟩
  rw [exchanges_append, List.getLast?_append, hlast]
  rfl

theorem accessToken_ne_empty (hands : trace.Hands token) : token.accessToken ≠ "" := by
  obtain ⟨_, _, _, _, hdecoded⟩ := hands
  obtain ⟨_, _, hread⟩ := Response.decode_eq_ok_iff.mp hdecoded
  exact AccessToken.accessToken_ne_empty hread

end Trace.Hands

namespace Outside

theorem eq_of_requestEnding {last answer : Except RemoteError Response}
    (hending : requestEnding last = .ok (some answer)) : last = answer := by
  cases last with
  | ok response =>
      cases hending
      rfl
  | error e =>
      rw [requestEnding] at hending
      split at hending <;> cases hending
      rfl

/-- The answer that a request ends with is that to its last call. -/
theorem getLast?_exchanges_request {budget : Budget} {request : Request} {outside : Outside}
    {answer : Except RemoteError Response}
    (hresult : (Outside.request budget (pure request) outside).result = .ok (some answer)) :
    (Outside.request budget (pure request) outside).trace.exchanges.getLast? =
      some (request, answer) := by
  by_cases hattempts : 0 < budget.attempts
  · obtain ⟨hending, hexchanges, _⟩ := request_spec hattempts request outside
    rw [hresult] at hending
    rw [hexchanges, ← eq_of_requestEnding hending.symm]
    simp [Hearing.exchanges, Hearing.answers]
  · rw [Outside.request, Retry.run_of_attempts_nonpos (Int.not_lt.mp hattempts)] at hresult
    cases hresult

end Outside

namespace Credentials

/-- The token in the answer to an exchange, or the fault that there is none. -/
def tokenIn (url : Value) :
    Option (Except RemoteError Response) → Except Fault AccessToken
  | none => .error (.token (.status none))
  | some (.error e) => .error (.token (.request url e))
  | some (.ok response) =>
      if response.status = 200 then
        (response.decode AccessToken.ofValue).mapError
          (DecodeFault.ending fun fault => .token (.body fault))
      else .error (.token (.status (some response.status)))

theorem tokenOfAnswer_tells (url : Value) (answer : Option (Except RemoteError Response)) :
    (tokenOfAnswer url answer).Tells (tokenIn url answer) := by
  rcases answer with _ | e | response
  · exact Run.Tells.log_bind (Run.Tells.throw _)
  · exact Run.Tells.throw _
  · rw [tokenOfAnswer, tokenIn]
    by_cases hstatus : response.status = 200
    · simp only [hstatus, bne_self_eq_false, Bool.false_eq_true, ↓reduceIte]
      rw [← bind_pure (Except.mapError _ _)]
      apply Run.Tells.bind (Run.Tells.ofExcept _ _)
      exact fun token => Run.Tells.log_bind (Run.Tells.pure token)
    · simp only [hstatus, bne_iff_ne, ne_eq, not_false_eq_true, ↓reduceIte]
      exact Run.Tells.log_bind (Run.Tells.throw _)

/-- A token comes out of nothing but a response of success that holds it. -/
theorem tokenIn_ok {url : Value} {answer : Option (Except RemoteError Response)}
    {token : AccessToken} (htoken : tokenIn url answer = .ok token) :
    ∃ response, answer = some (.ok response) ∧ response.status = 200 ∧
      response.decode AccessToken.ofValue = .ok token := by
  rcases answer with _ | e | response
  · cases htoken
  · cases htoken
  · rw [tokenIn] at htoken
    split at htoken
    · next hstatus =>
      exact ⟨response, rfl, hstatus, mapError_eq_ok_iff.mp htoken⟩
    · cases htoken

/-- An exchange that ends well hands over what the last answer to its calls holds. -/
theorem hands_of_exchange {credentials : Credentials} {session : Session} {budget : Budget}
    {outside : Outside} {token : AccessToken}
    (hresult : (credentials.exchange session budget outside).result = .ok token) :
    (credentials.exchange session budget outside).trace.Hands token := by
  unfold Trace.Hands
  unfold exchange at hresult ⊢
  rw [session.result_use] at hresult
  rw [session.exchanges_use]
  cases hsecret : credentials.basicAuth with
  | text secret =>
      rw [hsecret] at hresult
      dsimp only at hresult ⊢
      obtain ⟨answer, hanswer, htoken, htrace⟩ := Run.exists_of_bind_ok hresult
      obtain ⟨lines, hlines⟩ := tokenOfAnswer_tells credentials.tokenUrl answer
        (Outside.request budget (pure (credentials.exchangeRequest secret)) outside).supply
      rw [hlines] at htoken htrace
      obtain ⟨response, rfl, hstatus, hdecoded⟩ := tokenIn_ok htoken
      rw [htrace, Trace.exchanges_append, Trace.exchanges_lines, List.append_nil]
      exact ⟨_, response, Outside.getLast?_exchanges_request hanswer, hstatus, hdecoded⟩
  | _ =>
      rw [hsecret] at hresult
      cases hresult

end Credentials

/-- One call on credentials, as it went. -/
structure TokenStep where
  asked : TokenCall
  result : Except Fault AccessToken
  trace : Trace
  after : Credentials

namespace TokenStep

/-- The token that a call keeps: that of a refresh which succeeds. -/
def kept? (step : TokenStep) : Option AccessToken :=
  match step.asked, step.result with
  | .refresh, .ok token => some token
  | _, _ => none

/-- How a call changes the credentials: it keeps the token that was handed over in it, or changes
nothing. -/
structure Follows (before : Credentials) (step : TokenStep) : Prop where
  kept : ∀ token, step.kept? = some token →
    step.trace.Hands token ∧ step.after = before.receive token
  unchanged : step.kept? = none → step.after = before

end TokenStep

namespace Keeper

variable (session : Session) (budget : Budget)

/-- A call on the credentials that are kept, as it goes. -/
def step (asked : TokenCall) (keeper : Keeper) : TokenStep :=
  let run := perform session budget asked keeper
  ⟨asked, run.result, run.trace, run.supply.credentials⟩

/-- Calls one after the other, as they go. -/
def history : List TokenCall → Keeper → List TokenStep
  | [], _ => []
  | asked :: rest, keeper =>
      step session budget asked keeper ::
        history rest (perform session budget asked keeper).supply

/-- A refresh whose exchange fails fails with it and changes nothing. -/
theorem refresh_of_error {keeper : Keeper} {fault : Fault}
    (hexchange : (keeper.credentials.exchange session budget keeper.outside).result =
      .error fault) :
    refresh session budget keeper =
      ⟨.error fault, (keeper.credentials.exchange session budget keeper.outside).trace,
        (keeper.credentials.exchange session budget keeper.outside).supply,
        keeper.credentials⟩ := by
  have hfailed : (exchange session budget keeper).result = .error fault := hexchange
  rw [refresh, Run.bind_of_result_error hfailed]
  rfl

/-- A refresh whose exchange succeeds returns what that hands over and keeps it. -/
theorem refresh_of_ok {keeper : Keeper} {token : AccessToken}
    (hexchange : (keeper.credentials.exchange session budget keeper.outside).result = .ok token) :
    refresh session budget keeper =
      ⟨.ok token, (keeper.credentials.exchange session budget keeper.outside).trace,
        (keeper.credentials.exchange session budget keeper.outside).supply,
        keeper.credentials.receive token⟩ := by
  have hdone : (exchange session budget keeper).result = .ok token := hexchange
  rw [refresh, Run.bind_of_result_ok hdone]
  congr 1
  exact List.append_nil _

/-- The credentials that a source of them refreshes are those that a keeper of them would hold. -/
theorem refresh_credentials (credentials : Credentials) (outside : Outside) :
    let run := refresh session budget ⟨outside, credentials⟩
    credentials.refresh session budget outside =
      ⟨run.result.map fun _ => run.supply.credentials, run.trace, run.supply.outside⟩ := by
  dsimp only
  rw [Credentials.refresh, Run.bind_pure_apply]
  cases hexchange : (credentials.exchange session budget outside).result with
  | error fault =>
      rw [refresh_of_error session budget hexchange]
      rfl
  | ok token =>
      rw [refresh_of_ok session budget hexchange]
      rfl

theorem step_follows (asked : TokenCall) (keeper : Keeper) :
    (step session budget asked keeper).Follows keeper.credentials := by
  cases asked with
  | exchange =>
      constructor
      · intro token hkept
        cases hkept
      · exact fun _ => rfl
  | refresh =>
      rw [step, perform]
      cases hexchange : (keeper.credentials.exchange session budget keeper.outside).result with
      | error fault =>
          rw [refresh_of_error session budget hexchange]
          constructor
          · intro token hkept
            cases hkept
          · exact fun _ => rfl
      | ok token =>
          rw [refresh_of_ok session budget hexchange]
          constructor
          · rintro _ ⟨⟩
            exact ⟨Credentials.hands_of_exchange hexchange, rfl⟩
          · intro hkept
            cases hkept

end Keeper

namespace Credentials

/-- The credentials after some calls. -/
def heldAfter (start : Credentials) : List TokenStep → Credentials
  | [] => start
  | step :: later => heldAfter step.after later

theorem heldAfter_append_singleton (start : Credentials) (done : List TokenStep)
    (step : TokenStep) : heldAfter start (done ++ [step]) = step.after := by
  induction done generalizing start with
  | nil => rfl
  | cons first done ih => exact ih first.after

/-- What credentials hold after some calls. -/
inductive HoldsLastToken (start current : Credentials) (done : List TokenStep) : Prop
  /-- No refresh has succeeded, and they are as they were at the start. -/
  | untouched (hnone : ∀ step ∈ done, step.kept? = none) (hcurrent : current = start)
  /-- They hold the token that the last refresh to succeed was handed; all else is as it was. -/
  | refreshed {earlier later : List TokenStep} {last : TokenStep} {token : AccessToken}
      (hdone : done = earlier ++ last :: later)
      (hkept : last.kept? = some token)
      (hlater : ∀ step ∈ later, step.kept? = none)
      (hands : last.trace.Hands token)
      (hcurrent : current =
        { start with accessToken := .text token.accessToken, token := some token })
      (htext : token.accessToken ≠ "")

/-- One more call keeps it so. -/
theorem HoldsLastToken.next {start current : Credentials} {done : List TokenStep}
    {step : TokenStep} (holds : HoldsLastToken start current done)
    (hfollows : step.Follows current) : HoldsLastToken start step.after (done ++ [step]) := by
  cases hkept : step.kept? with
  | none =>
      rw [hfollows.unchanged hkept]
      cases holds with
      | untouched hnone hcurrent =>
          refine .untouched ?_ hcurrent
          simpa [or_imp, forall_and, hkept] using hnone
      | @refreshed earlier later last token hdone hlast hlater hands hcurrent htext =>
          have hsplit : done ++ [step] = earlier ++ last :: (later ++ [step]) := by simp [hdone]
          refine .refreshed hsplit hlast ?_ hands hcurrent htext
          simpa [or_imp, forall_and, hkept] using hlater
  | some token =>
      obtain ⟨hands, hafter⟩ := hfollows.kept token hkept
      have hcurrent : step.after =
          { start with accessToken := .text token.accessToken, token := some token } := by
        cases holds with
        | untouched _ hcurrent => rw [hafter, hcurrent, receive]
        | refreshed _ _ _ _ hcurrent _ => rw [hafter, hcurrent, receive]
      exact .refreshed rfl hkept (by simp) hands hcurrent hands.accessToken_ne_empty

section History

variable (session : Session) (budget : Budget)

theorem history_follows {asked : List TokenCall} {keeper : Keeper} {done todo : List TokenStep}
    {step : TokenStep}
    (hsteps : Keeper.history session budget asked keeper = done ++ step :: todo) :
    step.Follows (heldAfter keeper.credentials done) := by
  induction asked generalizing keeper done with
  | nil => simp [Keeper.history] at hsteps
  | cons first rest ih =>
      rw [Keeper.history] at hsteps
      cases done with
      | nil =>
          cases hsteps
          exact Keeper.step_follows session budget first keeper
      | cons step' done =>
          obtain ⟨hfirst, hlater⟩ := List.cons.inj hsteps
          have hfollows := ih hlater
          rw [← hfirst]
          exact hfollows

/-- Whatever has been asked for so far, the credentials hold the token of the last refresh that
succeeded. -/
theorem holdsLastToken {asked : List TokenCall} {keeper : Keeper} {done todo : List TokenStep}
    (hsteps : Keeper.history session budget asked keeper = done ++ todo) :
    HoldsLastToken keeper.credentials (heldAfter keeper.credentials done) done := by
  -- The last call comes off first: it follows what the calls before it left.
  induction done using List.reverseRecOn generalizing todo with
  | nil => exact .untouched (by simp) rfl
  | append_singleton done step ih =>
      rw [List.append_assoc] at hsteps
      rw [heldAfter_append_singleton]
      exact (ih hsteps).next (history_follows session budget hsteps)

/-- The history is what the calls come to. -/
theorem calls_eq_history (start : Credentials) (asked : List TokenCall) (outside : Outside) :
    let steps := Keeper.history session budget asked ⟨outside, start⟩
    let run := calls session budget start asked outside
    run.result = .ok (steps.map fun step => (step.result, step.after)) ∧
      run.trace = steps.flatMap TokenStep.trace ∧ steps.map TokenStep.asked = asked := by
  induction asked generalizing start outside with
  | nil => exact ⟨rfl, rfl, rfl⟩
  | cons first rest ih =>
      have hcalled : (start.call session budget first outside).result =
          .ok ((Keeper.step session budget first ⟨outside, start⟩).result,
            (Keeper.step session budget first ⟨outside, start⟩).after) := rfl
      obtain ⟨hresult, htrace, hasked⟩ :=
        ih (Keeper.perform session budget first ⟨outside, start⟩).supply.credentials
          (Keeper.perform session budget first ⟨outside, start⟩).supply.outside
      dsimp only
      rw [calls, Run.bind_of_result_ok hcalled, Run.bind_pure_apply]
      refine ⟨?_, ?_, ?_⟩
      · exact congrArg (Except.map _) hresult
      · exact congrArg (_ ++ ·) htrace
      · exact congrArg (first :: ·) hasked

end History

/-- Over any run of calls on credentials, in any order and with any failures among them: at every
point they are as they were at the start or hold the token of the last refresh that succeeded, with
all else as it was; a call that is no refresh, or fails, changes nothing, and a refresh that
succeeds returns the token that is kept.  Credentials that are refreshed without a keeper come to
what a keeper of them would hold. -/
theorem keep_the_token_of_the_last_refresh (session : Session) (budget : Budget)
    (start : Credentials) (asked : List TokenCall) (outside : Outside) :
    let steps := Keeper.history session budget asked ⟨outside, start⟩
    let run := calls session budget start asked outside
    (run.result = .ok (steps.map fun step => (step.result, step.after)) ∧
      run.trace = steps.flatMap TokenStep.trace ∧ steps.map TokenStep.asked = asked) ∧
    (∀ done todo, steps = done ++ todo → HoldsLastToken start (heldAfter start done) done) ∧
    (∀ done step todo, steps = done ++ step :: todo →
      (step.kept? = none → step.after = heldAfter start done) ∧
      ∀ token, step.kept? = some token → step.after.accessToken = .text token.accessToken) ∧
    ∀ (current : Credentials) (outside : Outside),
      let refreshed := Keeper.refresh session budget ⟨outside, current⟩
      current.refresh session budget outside =
        ⟨refreshed.result.map fun _ => refreshed.supply.credentials, refreshed.trace,
          refreshed.supply.outside⟩ := by
  refine ⟨calls_eq_history session budget start asked outside, ?_, ?_, ?_⟩
  · intro done todo hsteps
    exact holdsLastToken session budget hsteps
  · intro done step todo hsteps
    have hfollows := history_follows session budget hsteps
    refine ⟨hfollows.unchanged, ?_⟩
    intro token hkept
    rw [(hfollows.kept token hkept).2, receive]
  · exact Keeper.refresh_credentials session budget

end Credentials

end NodeTopology
