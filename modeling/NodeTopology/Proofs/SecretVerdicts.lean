import NodeTopology.Proofs.OrderlyRuns
import NodeTopology.Proofs.TokenVerdicts
/-!
How it ends to obtain credentials from a secret file.  Main statement: against an HTTP service in
order it ends with credentials, as faulty configuration exactly if the file is refused, with a fault
of the exchange, or else exactly if the file is stumbled over or the token that is granted is nested
too deep to be read; and a file that is refused or stumbled over is never followed by a request.
-/

namespace NodeTopology

namespace Script

/-- What settles a request is one of the answers of the script. -/
theorem All.last_hear {p : Except RemoteError Response → Prop}
    {script : Script (Except RemoteError Response)} (hall : All p script) (left : Nat) :
    p (script.hear left).last := by
  induction left generalizing script with
  | zero => exact hall.first
  | succ left ih =>
      cases hfirst : lostConnection? script.first with
      | none =>
          rw [hear_of_settled hfirst]
          exact hall.first
      | some e =>
          rw [hear_of_lost hfirst]
          exact ih hall.rest

end Script

/-- An end with a value or with a fault of the exchange. -/
def EndsInExchange {α : Type} (ending : Except Fault α) : Prop :=
  (∃ a, ending = .ok a) ∨ ∃ fault, ending = .error (.token fault)

theorem not_endsInExchange_misuse {α : Type} (misuse : Misuse) :
    ¬EndsInExchange (.error (.misuse misuse) : Except Fault α) := by
  rintro (⟨_, ⟨⟩⟩ | ⟨_, ⟨⟩⟩)

/-- The answer that an exchange ends on grants something that is nested too deep to be read. -/
def Outside.GrantsUnread (outside : Outside) (budget : Budget) : Prop :=
  0 < budget.attempts ∧ ∃ response, (outside.http.hear budget.repeats).last = .ok response ∧
    response.status = 200 ∧ Json.read response.reader response.body = .error .tooDeep

namespace Credentials

/-- What an answer in order comes to, unless nobody can read it. -/
theorem endsInExchange_of_tokenVerdict {url : Value} {answer : Except RemoteError Response}
    {ending : Except Fault AccessToken} (hanswer : HttpInOrder answer)
    (hverdict : TokenVerdict url answer ending) :
    EndsInExchange ending ∨ ending = .error (.misuse .tooDeep) := by
  cases hverdict with
  | failed => exact .inl (.inr ⟨_, rfl⟩)
  | escaped hforeign =>
      rw [hanswer _ rfl] at hforeign
      cases hforeign
  | refused => exact .inl (.inr ⟨_, rfl⟩)
  | unusable => exact .inl (.inr ⟨_, rfl⟩)
  | unread => exact .inr rfl
  | granted => exact .inl (.inl ⟨_, rfl⟩)

section Exchange

variable {credentials : Credentials} {secret : String}
  (hsecret : credentials.basicAuth = .text secret) {outside : Outside} (session : Session)
  (budget : Budget)

include hsecret

theorem exchange_ends (hhttp : outside.http.All HttpInOrder) :
    EndsInExchange (credentials.exchange session budget outside).result ∨
      (credentials.exchange session budget outside).result = .error (.misuse .tooDeep) := by
  by_cases hattempts : 0 < budget.attempts
  · rw [(exchange_hears hsecret session budget outside hattempts).1]
    exact endsInExchange_of_tokenVerdict (hhttp.last_hear budget.repeats)
      (tokenVerdict_endingOn _ _)
  · rw [(exchange_untried hsecret session budget outside (Int.not_lt.mp hattempts)).1]
    exact .inl (.inr ⟨_, rfl⟩)

/-- Nothing but a grant that cannot be read ends an exchange without a fault of its own. -/
theorem exchange_eq_tooDeep_iff :
    (credentials.exchange session budget outside).result = .error (.misuse .tooDeep) ↔
      outside.GrantsUnread budget := by
  by_cases hattempts : 0 < budget.attempts
  · rw [(exchange_hears hsecret session budget outside hattempts).1, endingOn_eq_iff,
      Outside.GrantsUnread]
    constructor
    · intro hverdict
      generalize (outside.http.hear budget.repeats).last = answer at hverdict
      cases hverdict with
      | unread hstatus hdeep => exact ⟨hattempts, _, rfl, hstatus, hdeep⟩
    · rintro ⟨_, response, hlast, hstatus, hdeep⟩
      rw [hlast]
      exact .unread hstatus hdeep
  · rw [(exchange_untried hsecret session budget outside (Int.not_lt.mp hattempts)).1]
    constructor
    · rintro ⟨⟩
    · exact fun hgrants => absurd hgrants.1 hattempts

theorem refresh_ends (hhttp : outside.http.All HttpInOrder) :
    (EndsInExchange (credentials.refresh session budget outside).result ∨
      (credentials.refresh session budget outside).result = .error (.misuse .tooDeep)) ∧
    ((credentials.refresh session budget outside).result = .error (.misuse .tooDeep) ↔
      outside.GrantsUnread budget) := by
  rw [← exchange_eq_tooDeep_iff hsecret session budget, refresh, Run.bind_pure_apply]
  rcases exchange_ends hsecret session budget hhttp with
    (⟨token, hresult⟩ | ⟨fault, hresult⟩) | hresult
  · rw [hresult]
    exact ⟨.inl (.inl ⟨_, rfl⟩), by simp [Except.map]⟩
  · rw [hresult]
    exact ⟨.inl (.inr ⟨fault, rfl⟩), by simp [Except.map]⟩
  · rw [hresult]
    exact ⟨.inr rfl, by simp [Except.map]⟩

end Exchange

section Obtain

variable {settings : Settings} {outside : Outside}

/-- Either the file ends it before the first request, or the exchange does. -/
theorem obtain_cases (hpath : FilePath.isUsable settings.configPath = true)
    (hhttp : outside.http.All HttpInOrder) (session : Session) (budget : Budget)
    (file : SecretFile) :
    (∃ fault, ofFile settings file = .error fault ∧
        (obtain settings (.file file) session budget outside).result = .error fault ∧
        (obtain settings (.file file) session budget outside).trace.requests = []) ∨
      ∃ credentials, ofFile settings file = .ok credentials ∧
        (EndsInExchange (obtain settings (.file file) session budget outside).result ∨
          (obtain settings (.file file) session budget outside).result =
            .error (.misuse .tooDeep)) ∧
        ((obtain settings (.file file) session budget outside).result =
            .error (.misuse .tooDeep) ↔ outside.GrantsUnread budget) := by
  cases hfile : ofFile settings file with
  | error fault =>
      exact .inl ⟨fault, rfl, obtain_of_ofFile_error session budget outside hpath hfile⟩
  | ok credentials =>
      refine .inr ⟨credentials, rfl, ?_⟩
      obtain ⟨lines, hrun⟩ := obtain_of_ofFile_ok session budget outside hpath hfile
      rw [hrun]
      cases SecretFile.accepted_iff.mpr hfile with
      | intro => exact refresh_ends rfl session budget hhttp

/-- It ends as follows to obtain credentials from a secret file: with credentials or a fault of the
exchange, as faulty configuration, or with a misuse; the second exactly if the file is refused, the
third exactly if it is stumbled over or accepted for a token that is nested too deep to be read; and
no request is made for a file that is refused or stumbled over. -/
theorem faulty_files_end_before_the_exchange
    (hpath : FilePath.isUsable settings.configPath = true)
    (hhttp : outside.http.All HttpInOrder) (session : Session) (budget : Budget)
    (file : SecretFile) :
    let run := obtain settings (.file file) session budget outside
    (EndsInExchange run.result ∨ (∃ fault, run.result = .error (.configuration fault)) ∨
      ∃ misuse, run.result = .error (.misuse misuse)) ∧
    (∀ fault, run.result = .error (.configuration fault) ↔ file.Refused settings fault) ∧
    (∀ misuse, run.result = .error (.misuse misuse) ↔ file.StumbledOver settings misuse ∨
      misuse = .tooDeep ∧ (∃ credentials, file.Accepted settings credentials) ∧
        outside.GrantsUnread budget) ∧
    ((∃ fault, file.Refused settings fault) ∨ (∃ misuse, file.StumbledOver settings misuse) →
      run.trace.requests = []) := by
  intro run
  simp only [SecretFile.refused_iff, SecretFile.stumbledOver_iff, SecretFile.accepted_iff]
  rcases obtain_cases hpath hhttp session budget file with
    ⟨fault, hfile, hresult, hquiet⟩ | ⟨credentials, hfile, hends, hdeep⟩
  · have hreported := SecretFile.judged_ofFile settings file
    have hrun : run.result = .error fault := hresult
    rw [hfile, hrun]
    refine ⟨?_, fun _ => Iff.rfl, ?_, fun _ => hquiet⟩
    · rw [hfile] at hreported
      cases fault with
      | configuration fault => exact .inr (.inl ⟨fault, rfl⟩)
      | misuse misuse => exact .inr (.inr ⟨misuse, rfl⟩)
      | _ => exact hreported.elim
    · simp
  · have hrun : EndsInExchange run.result ∨ run.result = .error (.misuse .tooDeep) := hends
    have hunread : run.result = .error (.misuse .tooDeep) ↔ outside.GrantsUnread budget := hdeep
    rw [hfile, ← hunread]
    refine ⟨hrun.imp_right fun htooDeep => .inr ⟨_, htooDeep⟩, ?_, ?_, by simp⟩
    · rcases hrun with (⟨a, ha⟩ | ⟨fault, hfault⟩) | htooDeep
      · simp [ha]
      · simp [hfault]
      · simp [htooDeep]
    · rcases hrun with (⟨a, ha⟩ | ⟨fault, hfault⟩) | htooDeep
      · simp [ha]
      · simp [hfault]
      · simp [htooDeep, eq_comm]

end Obtain

/-- A section without keys is refused for all of them. -/
theorem section_without_keys_is_refused :
    let settings : Settings := { Settings.standard with configDir := "secret" }
    let outside : Outside := ⟨⟨.error (.request .noConnection "down"), []⟩, ⟨.ok none, []⟩,
      ⟨.kept, []⟩⟩
    let file : SecretFile := .bytes (Text.utf8Bytes "[VPC]") .standard
    let run := obtain settings (.file file) .own .standard outside
    run.result = .error (.configuration (.missingKeys VpcSection.requiredKeys)) ∧
      run.trace.requests = [] := by
  intro settings outside file run
  have hpath : FilePath.isUsable settings.configPath = true := by decide +kernel
  have hhttp : outside.http.All HttpInOrder := by
    apply Script.All.of_forall_mem
    · rintro _ ⟨⟩
      rfl
    · simp [outside]
  have hholds : file.Holds .standard [] :=
    ⟨_, "[VPC]", [("VPC", .table [])], rfl, Text.ofUtf8?_utf8Bytes _, rfl, rfl⟩
  have hmissing : VpcSection.missing [] = VpcSection.requiredKeys := rfl
  have hfile : file.Refused settings (.missingKeys VpcSection.requiredKeys) := by
    rw [← hmissing]
    exact .missingKeys hholds (by rw [hmissing]; decide)
  obtain ⟨_, hrefused, _, hquiet⟩ :=
    faulty_files_end_before_the_exchange hpath hhttp .own .standard file
  exact ⟨(hrefused _).mpr hfile, hquiet (.inl ⟨_, hfile⟩)⟩

/-- A file of one byte that begins no UTF-8 text is not reported as faulty configuration. -/
theorem byte_beyond_utf8_goes_unreported :
    let settings : Settings := { Settings.standard with configDir := "secret" }
    let outside : Outside :=
      ⟨⟨.ok ⟨200, "\x7b\"access_token\": \"tok\"\x7d", .standard⟩, []⟩, ⟨.ok none, []⟩,
        ⟨.kept, []⟩⟩
    let run := obtain settings (.file (.bytes [0xFF] .standard)) .own .standard outside
    FilePath.isUsable settings.configPath = true ∧ outside.http.All HttpInOrder ∧
      run.result = .error (.misuse .undecodable) ∧ ¬EndsInExchange run.result ∧
      ∀ fault, run.result ≠ .error (.configuration fault) := by
  intro settings outside run
  have hpath : FilePath.isUsable settings.configPath = true := by decide +kernel
  have hresult : run.result = .error (.misuse .undecodable) :=
    (obtain_of_ofFile_error .own .standard outside hpath
      (SecretFile.ofFile_of_stumbledOver (.notUtf8 rfl))).1
  rw [hresult]
  refine ⟨hpath, ?_, rfl, ?_, ?_⟩
  · apply Script.All.of_forall_mem
    · rintro _ ⟨⟩
    · simp [outside]
  · exact not_endsInExchange_misuse _
  · rintro fault ⟨⟩

end Credentials

end NodeTopology
