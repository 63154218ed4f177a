import NodeTopology.Proofs.ReaderLimits
import NodeTopology.Proofs.TokenHistory
/-!
What the exchange of a key for a token comes to.  The answers before the first that is no lost
connection only cost a call and a wait each.  Main statement: within its budget an exchange hears
the answers up to that first one, and its verdict is the end of the exchange; an exchange that hears
nothing but lost connections makes all the calls of its budget and fails with the last of them.
-/

namespace NodeTopology

/-- The body of a response is the record of a token. -/
def Response.HoldsToken (response : Response) (token : AccessToken) : Prop :=
  ∃ entries, Json.read response.reader response.body = .ok (.table entries) ∧
    IsTokenRecord entries token

theorem Response.holdsToken_iff {response : Response} {token : AccessToken} :
    response.HoldsToken token ↔ response.decode AccessToken.ofValue = .ok token := by
  rw [decode_eq_ok_iff]
  constructor
  · rintro ⟨entries, hbody, hrecord⟩
    exact ⟨.table entries, hbody, AccessToken.ofValue_eq_ok_iff.mpr ⟨entries, rfl, hrecord⟩⟩
  · rintro ⟨value, hbody, hread⟩
    obtain ⟨entries, rfl, hrecord⟩ := AccessToken.ofValue_eq_ok_iff.mp hread
    exact ⟨entries, hbody, hrecord⟩

/-- The end of an exchange for which this answer is the last. -/
inductive TokenVerdict (url : Value) :
    Except RemoteError Response → Except Fault AccessToken → Prop
  /-- The request failed. -/
  | failed {e : RemoteError} (hrequest : e.isRequest = true) :
      TokenVerdict url (.error e) (.error (.token (.request url e)))
  /-- Something failed that is none of the request's business. -/
  | escaped {e : RemoteError} (hforeign : e.isRequest = false) :
      TokenVerdict url (.error e) (.error (.escaped e))
  /-- The service did not grant a token. -/
  | refused {response : Response} (hstatus : response.status ≠ 200) :
      TokenVerdict url (.ok response) (.error (.token (.status (some response.status))))
  /-- The service granted something that is no token. -/
  | unusable {response : Response} {fault : BodyFault} (hstatus : response.status = 200)
      (hnone : ∀ token, ¬response.HoldsToken token)
      (hfault : response.IsUseless AccessToken.ofValue fault) :
      TokenVerdict url (.ok response) (.error (.token (.body fault)))
  /-- The service granted something nested too deep to be read, and nobody catches that. -/
  | unread {response : Response} (hstatus : response.status = 200)
      (hdeep : Json.read response.reader response.body = .error .tooDeep) :
      TokenVerdict url (.ok response) (.error (.misuse .tooDeep))
  /-- The service granted a token. -/
  | granted {response : Response} {token : AccessToken} (hstatus : response.status = 200)
      (hholds : response.HoldsToken token) : TokenVerdict url (.ok response) (.ok token)

namespace Credentials

/-- The end that an exchange comes to on its last answer. -/
def endingOn (url : Value) (answer : Except RemoteError Response) : Except Fault AccessToken :=
  Outside.requestEnding answer >>= tokenIn url

theorem endingOn_response (url : Value) (response : Response) :
    endingOn url (.ok response) = tokenIn url (some (.ok response)) := rfl

theorem tokenVerdict_endingOn (url : Value) (answer : Except RemoteError Response) :
    TokenVerdict url answer (endingOn url answer) := by
  cases answer with
  | error e =>
      rw [endingOn, Outside.requestEnding]
      by_cases hrequest : e.isRequest = true
      · rw [if_pos hrequest]
        exact .failed hrequest
      · rw [if_neg hrequest]
        exact .escaped (by simpa using hrequest)
  | ok response =>
      rw [endingOn_response, tokenIn]
      by_cases hstatus : response.status = 200
      · rw [if_pos hstatus]
        cases hdecoded : response.decode AccessToken.ofValue with
        | ok token => exact .granted hstatus (Response.holdsToken_iff.mpr hdecoded)
        | error fault =>
            cases fault with
            | tooDeep => exact .unread hstatus (Response.decode_eq_tooDeep_iff.mp hdecoded)
            | body fault =>
                refine .unusable hstatus ?_ (Response.decode_eq_body_iff.mp hdecoded)
                simp [Response.holdsToken_iff, hdecoded]
      · rw [if_neg hstatus]
        exact .refused hstatus

theorem endingOn_of_tokenVerdict {url : Value} {answer : Except RemoteError Response}
    {ending : Except Fault AccessToken} (hverdict : TokenVerdict url answer ending) :
    endingOn url answer = ending := by
  cases hverdict with
  | failed hrequest =>
      rw [endingOn, Outside.requestEnding, if_pos hrequest]
      rfl
  | escaped hforeign =>
      rw [endingOn, Outside.requestEnding, if_neg (by simp [hforeign])]
      rfl
  | refused hstatus => rw [endingOn_response, tokenIn, if_neg hstatus]
  | unusable hstatus _ hfault =>
      rw [endingOn_response, tokenIn, if_pos hstatus, Response.decode_eq_body_iff.mpr hfault]
      rfl
  | unread hstatus hdeep =>
      rw [endingOn_response, tokenIn, if_pos hstatus, Response.decode_eq_tooDeep_iff.mpr hdeep]
      rfl
  | granted hstatus hholds =>
      rw [endingOn_response, tokenIn, if_pos hstatus, Response.holdsToken_iff.mp hholds]
      rfl

theorem endingOn_eq_iff {url : Value} {answer : Except RemoteError Response}
    {ending : Except Fault AccessToken} :
    endingOn url answer = ending ↔ TokenVerdict url answer ending := by
  constructor
  · rintro rfl
    exact tokenVerdict_endingOn url answer
  · exact endingOn_of_tokenVerdict

section Exchange

variable {credentials : Credentials} {secret : String}
  (hsecret : credentials.basicAuth = .text secret) (session : Session) (budget : Budget)
  (outside : Outside)

include hsecret

/-- An exchange shows the calls and waits of its request, and ends with what it makes of the
request's answer. -/
theorem exchange_shows :
    let request := Outside.request budget (pure (credentials.exchangeRequest secret)) outside
    let run := credentials.exchange session budget outside
    run.result = (request.result >>= tokenIn credentials.tokenUrl) ∧
      run.trace.requestsAndWaits = request.trace.requestsAndWaits := by
  dsimp only
  rw [exchange, session.result_use, session.requestsAndWaits_use, hsecret]
  dsimp only
  cases hrequest : (Outside.request budget
      (pure (credentials.exchangeRequest secret)) outside).result with
  | error fault =>
      rw [Run.bind_of_result_error hrequest]
      exact ⟨rfl, rfl⟩
  | ok answer =>
      obtain ⟨lines, hlines⟩ := tokenOfAnswer_tells credentials.tokenUrl answer
        (Outside.request budget (pure (credentials.exchangeRequest secret)) outside).supply
      rw [Run.bind_of_result_ok hrequest, hlines]
      exact ⟨rfl, by simp⟩

/-- An exchange that may be tried hears the script and ends on the last answer that it hears. -/
theorem exchange_hears (hattempts : 0 < budget.attempts) :
    let hearing := outside.http.hear budget.repeats
    let run := credentials.exchange session budget outside
    run.result = endingOn credentials.tokenUrl hearing.last ∧
      run.trace.requestsAndWaits =
        hearing.callsAndWaits (credentials.exchangeRequest secret) budget.intervalMs := by
  obtain ⟨hresult, hshown⟩ := exchange_shows hsecret session budget outside
  obtain ⟨hending, _⟩ :=
    Outside.request_spec hattempts (credentials.exchangeRequest secret) outside
  rw [Outside.requestsAndWaits_request hattempts] at hshown
  rw [hending] at hresult
  exact ⟨hresult, hshown⟩

/-- So many lost connections, and an answer that is none or for which no further attempt is left,
are all that an exchange hears. -/
theorem exchange_hears_first {number : Nat} (hfew : (number : Int) < budget.attempts)
    (hlost : outside.http.LosesFirst number)
    (hend : ¬IsLostConnection (outside.http.answer number) ∨
      (number : Int) + 1 = budget.attempts) :
    let run := credentials.exchange session budget outside
    run.result = endingOn credentials.tokenUrl (outside.http.answer number) ∧
      run.trace.requestsAndWaits =
        ((outside.http.firstAnswers (number + 1)).map
          (.requested (credentials.exchangeRequest secret))).intersperse
            (.slept budget.intervalMs) := by
  have hattempts : 0 < budget.attempts := by omega
  have hrepeats := Budget.repeats_add_one hattempts
  have hwithin : number ≤ budget.repeats := by omega
  have hstop : ¬IsLostConnection (outside.http.answer number) ∨ number = budget.repeats :=
    hend.imp_right fun hall => by omega
  obtain ⟨hresult, hheard⟩ := exchange_hears hsecret session budget outside hattempts
  rw [Script.last_hear hlost hwithin hstop] at hresult
  rw [Hearing.callsAndWaits, Script.answers_hear hlost hwithin hstop] at hheard
  exact ⟨hresult, hheard⟩

/-- An exchange that hears nothing but lost connections fails with the last of them. -/
theorem exchange_exhausted {last : Nat} (hall : (last : Int) + 1 = budget.attempts)
    (hlost : outside.http.LosesFirst (last + 1)) :
    let run := credentials.exchange session budget outside
    run.trace.requestsAndWaits =
        ((outside.http.firstAnswers (last + 1)).map
          (.requested (credentials.exchangeRequest secret))).intersperse
            (.slept budget.intervalMs) ∧
      ∃ e, outside.http.answer last = .error e ∧
        run.result = .error (.token (.request credentials.tokenUrl e)) := by
  obtain ⟨hresult, hshown⟩ := exchange_hears_first hsecret session budget outside
    (by omega) (fun i hi => hlost i (by omega)) (.inr hall)
  obtain ⟨e, hanswer, hconnection⟩ := hlost last (Nat.lt_add_one last)
  rw [hanswer, endingOn_of_tokenVerdict
    (.failed (RemoteError.isRequest_of_isConnection hconnection))] at hresult
  exact ⟨hshown, e, hanswer, hresult⟩

/-- An exchange that may not be tried calls nobody and fails without a cause. -/
theorem exchange_untried (hattempts : budget.attempts ≤ 0) :
    let run := credentials.exchange session budget outside
    run.result = .error (.token (.status none)) ∧ run.trace.requestsAndWaits = [] := by
  obtain ⟨hresult, hshown⟩ := exchange_shows hsecret session budget outside
  rw [Outside.request, Retry.run_of_attempts_nonpos hattempts] at hresult hshown
  exact ⟨hresult, hshown⟩

end Exchange

/-- An exchange is decided by the first answer that is no lost connection.  If fewer connections are
lost before it than the budget has attempts, there is one call for each of them and one for it, with
a wait between each two, and it alone decides.  Otherwise the calls are as many as the budget has
attempts, and the last of the lost connections is the cause of the failure; without an attempt there
is no call, and no cause. -/
theorem first_answer_decides_exchange {credentials : Credentials} {url key secret : String}
    (hurl : credentials.tokenUrl = .text url) (hkey : credentials.apiKey = .text key)
    (hsecret : credentials.basicAuth = .text secret) (session : Session) (budget : Budget)
    (outside : Outside) :
    let request := Request.post (.text url) (.text key) (basicAuthorization secret)
    let calls := fun number => ((outside.http.firstAnswers number).map
      (.requested request)).intersperse (.slept budget.intervalMs)
    let run := credentials.exchange session budget outside
    (∀ number : Nat, (number : Int) < budget.attempts → outside.http.LosesFirst number →
      ¬IsLostConnection (outside.http.answer number) →
      run.trace.requestsAndWaits = calls (number + 1) ∧
      ∀ ending, run.result = ending ↔
        TokenVerdict (.text url) (outside.http.answer number) ending) ∧
    (outside.http.LosesFirst budget.attempts.toNat →
      run.trace.requestsAndWaits = calls budget.attempts.toNat ∧
      (budget.attempts ≤ 0 → run.result = .error (.token (.status none))) ∧
      ∀ number : Nat, (number : Int) + 1 = budget.attempts →
        ∃ e, outside.http.answer number = .error e ∧
          run.result = .error (.token (.request (.text url) e))) := by
  intro request calls run
  have hrequest : credentials.exchangeRequest secret = request := by
    rw [exchangeRequest, hurl, hkey]
  constructor
  · intro number hfew hlost hsettled
    obtain ⟨hresult, hshown⟩ :=
      exchange_hears_first hsecret session budget outside hfew hlost (.inl hsettled)
    rw [hrequest] at hshown
    rw [hurl] at hresult
    refine ⟨hshown, ?_⟩
    intro ending
    rw [hresult, endingOn_eq_iff]
  · intro hlost
    by_cases hattempts : budget.attempts ≤ 0
    · obtain ⟨hresult, hshown⟩ := exchange_untried hsecret session budget outside hattempts
      rw [Int.toNat_of_nonpos hattempts]
      exact ⟨hshown, fun _ => hresult, fun number hall => by omega⟩
    · obtain ⟨last, hlast⟩ : ∃ last : Nat, (last : Int) + 1 = budget.attempts :=
        ⟨budget.attempts.toNat - 1, by omega⟩
      have htoNat : budget.attempts.toNat = last + 1 := by omega
      rw [htoNat] at hlost ⊢
      obtain ⟨hshown, hfailed⟩ := exchange_exhausted hsecret session budget outside hlast hlost
      rw [hrequest] at hshown
      rw [hurl] at hfailed
      refine ⟨hshown, fun hnone => absurd hnone hattempts, ?_⟩
      intro number hall
      obtain rfl : number = last := by omega
      exact hfailed

/-- One lost connection before a token costs one more call and one wait. -/
theorem token_is_granted_after_a_lost_connection :
    let token : AccessToken := ⟨"tok", "", "", 3600, 0⟩
    let lost : RemoteError := .request .timeout "timed out"
    let granted : Response :=
      ⟨200, "\x7b\"access_token\": \"tok\", \"token_type\": null, \"expires_in\": 3600\x7d",
        .standard⟩
    let credentials : Credentials :=
      ⟨.null, .text "key", .text "iam", .text "user:password", .text "", none⟩
    let request : Request := .post (.text "iam") (.text "key") (basicAuthorization "user:password")
    let outside : Outside :=
      ⟨⟨.error lost, [.ok granted]⟩, ⟨.ok none, []⟩, ⟨.kept, []⟩⟩
    let run := credentials.exchange .own ⟨2, 500⟩ outside
    run.result = .ok token ∧
      run.trace.requestsAndWaits =
        [.requested request (.error lost), .slept 500, .requested request (.ok granted)] := by
  intro token lost granted credentials request outside run
  have hlost : outside.http.LosesFirst 1 := by
    intro i hi
    obtain rfl : i = 0 := by omega
    exact ⟨lost, rfl, rfl⟩
  have hsettled : ¬IsLostConnection (outside.http.answer 1) := by
    rintro ⟨e, hanswer, _⟩
    cases hanswer
  have hdecoded : granted.decode AccessToken.ofValue = .ok token := by decide +kernel
  obtain ⟨hshown, hending⟩ := (@first_answer_decides_exchange credentials "iam" "key"
    "user:password" rfl rfl rfl .own ⟨2, 500⟩ outside).1 1 (by decide) hlost hsettled
  exact ⟨(hending (.ok token)).mpr (.granted rfl (Response.holdsToken_iff.mpr hdecoded)), hshown⟩

/-- A grant of well-formed JSON that is nested deeper than its reader can go is no failure of the
exchange. -/
theorem deep_grant_goes_unreported :
    let levels := Value.usualRoom + 1
    let granted : Response :=
      ⟨200, String.ofList (List.replicate levels '[' ++ List.replicate levels ']'), .standard⟩
    let credentials : Credentials :=
      ⟨.null, .text "key", .text "iam", .text "user:password", .text "", none⟩
    let outside : Outside := ⟨⟨.ok granted, []⟩, ⟨.ok none, []⟩, ⟨.kept, []⟩⟩
    let run := credentials.exchange .own ⟨2, 500⟩ outside
    (∀ token, ¬granted.HoldsToken token) ∧ run.result = .error (.misuse .tooDeep) ∧
      ∀ fault, run.result ≠ .error (.token fault) := by
  intro levels granted credentials outside run
  have hdeep : Json.read granted.reader granted.body = .error .tooDeep :=
    Json.read_brackets .standard _
  have hlast : (outside.http.hear 1).last = .ok granted := rfl
  have hheard := (@exchange_hears credentials "user:password" rfl .own ⟨2, 500⟩ outside
    (by decide)).1
  have hresult : run.result = .error (.misuse .tooDeep) :=
    hheard.trans ((congrArg _ hlast).trans (endingOn_of_tokenVerdict (.unread rfl hdeep)))
  refine ⟨?_, hresult, ?_⟩
  · rintro token ⟨entries, hread, _⟩
    cases hdeep.symm.trans hread
  · rintro fault hfault
    cases hresult.symm.trans hfault

end Credentials

end NodeTopology
