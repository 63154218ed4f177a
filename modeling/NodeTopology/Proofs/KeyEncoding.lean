import Mathlib.Data.List.Forall2
import NodeTopology.Proofs.CredentialPaths
import NodeTopology.Proofs.TokenVerdicts
/-!
Secrets in base64.  What a text in base64 is, is said without reading one: digits of the alphabet,
padding marks that complete the last group, and bytes that the values of the digits fill.  Main
statements: reading accepts the texts in base64, and besides them those with padding marks after
complete groups; what an exchange authorizes with determines the secret; and a key that a file keeps
in base64 is posted as it was before.
-/

namespace NodeTopology

namespace Text.Base64

/-- The characters that stand for the values below 64, in their order. -/
def alphabet : List Char :=
  "ABCDEFGHIJKLMNOPQRSTUVWXYZabcdefghijklmnopqrstuvwxyz0123456789+/".toList

/-- A character of the alphabet stands for its place in it. -/
def StandsFor (c : Char) (value : Nat) : Prop := alphabet[value]? = some c

/-- A text in base64 for these values: a digit for each, and then one or two padding marks if the
last group of four needs them. -/
def Spells (text : List Char) (values : List Nat) : Prop :=
  ∃ digits pads, List.Forall₂ StandsFor digits values ∧ pads ≤ 2 ∧
    text = digits ++ List.replicate pads '=' ∧ 4 ∣ text.length

/-- A text that is in base64 for these values up to padding marks that complete no group. -/
def Overpads (text : List Char) (values : List Nat) : Prop :=
  ∃ digits pads, List.Forall₂ StandsFor digits values ∧ 0 < pads ∧
    text = digits ++ List.replicate pads '=' ∧ 4 ∣ digits.length ∧ digits ≠ []

/-- Values of six bits each fill these bytes of eight, bits that are left over being dropped. -/
inductive Fills : List Nat → List UInt8 → Prop
  | nil : Fills [] []
  | one {a b : Nat} {x : UInt8} (hbits : (a * 64 + b) / 16 = x.toNat) : Fills [a, b] [x]
  | two {a b c : Nat} {x y : UInt8}
      (hbits : ((a * 64 + b) * 64 + c) / 4 = x.toNat * 256 + y.toNat) : Fills [a, b, c] [x, y]
  | three {a b c d : Nat} {x y z : UInt8} {values : List Nat} {bytes : List UInt8}
      (hbits : ((a * 64 + b) * 64 + c) * 64 + d = (x.toNat * 256 + y.toNat) * 256 + z.toNat)
      (hrest : Fills values bytes) : Fills (a :: b :: c :: d :: values) (x :: y :: z :: bytes)

theorem alphabet_digit : ∀ value < 64, alphabet[value]? = some (digit value) := by decide

theorem standsFor_iff {c : Char} {value : Nat} :
    StandsFor c value ↔ value < 64 ∧ c = digit value := by
  rw [StandsFor]
  constructor
  · intro hstands
    have hsmall : value < 64 := (List.getElem?_eq_some_iff.mp hstands).1
    rw [alphabet_digit value hsmall] at hstands
    exact ⟨hsmall, (Option.some.inj hstands).symm⟩
  · rintro ⟨hsmall, rfl⟩
    exact alphabet_digit value hsmall

/-- No character beyond the small letters has a value. -/
theorem toNat_le_of_value? {c : Char} {value : Nat} (hvalue : value? c = some value) :
    c.toNat ≤ 'z'.toNat := by
  simp only [value?, Bool.and_eq_true, decide_eq_true_eq] at hvalue
  split at hvalue
  · next hcapital => exact Nat.le_trans (show c.toNat ≤ 'Z'.toNat from hcapital.2) (by decide)
  split at hvalue
  · next hsmall => exact hsmall.2
  split at hvalue
  · next hnumber => exact Nat.le_trans (show c.toNat ≤ '9'.toNat from hnumber.2) (by decide)
  split at hvalue
  · next hplus => exact hplus ▸ by decide
  split at hvalue
  · next hslash => exact hslash ▸ by decide
  · cases hvalue

theorem alphabet_value? : ∀ number ≤ 'z'.toNat, ∀ value ∈ value? (Char.ofNat number),
    alphabet[value]? = some (Char.ofNat number) := by
  decide +kernel

theorem value?_eq_some_iff {c : Char} {value : Nat} :
    value? c = some value ↔ StandsFor c value := by
  constructor
  · intro hvalue
    have hstands := alphabet_value? c.toNat (toNat_le_of_value? hvalue) value
    rw [Char.ofNat_toNat] at hstands
    exact hstands hvalue
  · intro hstands
    obtain ⟨hsmall, rfl⟩ := standsFor_iff.mp hstands
    exact value?_digit value hsmall

theorem forall₂_standsFor_iff {digits : List Char} {values : List Nat} :
    List.Forall₂ StandsFor digits values ↔
      (∀ value ∈ values, value < 64) ∧ digits = values.map digit := by
  induction values generalizing digits with
  | nil => simp [List.forall₂_nil_right_iff]
  | cons value values ih =>
      constructor
      · rintro (_ | ⟨hfirst, hrest⟩)
        obtain ⟨hsmall, rfl⟩ := standsFor_iff.mp hfirst
        obtain ⟨hothers, rfl⟩ := ih.mp hrest
        exact ⟨List.forall_mem_cons.mpr ⟨hsmall, hothers⟩, rfl⟩
      · rintro ⟨hsmall, rfl⟩
        obtain ⟨hfirst, hothers⟩ := List.forall_mem_cons.mp hsmall
        exact .cons (standsFor_iff.mpr ⟨hfirst, rfl⟩) (ih.mpr ⟨hothers, rfl⟩)

theorem forall₂_standsFor_filterMap {digits : List Char}
    (hdigits : ∀ c ∈ digits, (value? c).isSome = true) :
    List.Forall₂ StandsFor digits (digits.filterMap value?) := by
  induction digits with
  | nil => exact .nil
  | cons c digits ih =>
      obtain ⟨hfirst, hothers⟩ := List.forall_mem_cons.mp hdigits
      obtain ⟨value, hvalue⟩ := Option.isSome_iff_exists.mp hfirst
      rw [List.filterMap_cons_some hvalue]
      exact .cons (value?_eq_some_iff.mp hvalue) (ih hothers)

/-- Digits with padding marks after them are read unless the marks do not fit. -/
theorem decode?_digits {digits : List Char} {values : List Nat}
    (hdigits : List.Forall₂ StandsFor digits values) (pads : Nat) :
    decode? (digits ++ List.replicate pads '=') =
      if padsFit digits.length pads then some (ofSextets values) else none := by
  obtain ⟨hsmall, rfl⟩ := forall₂_standsFor_iff.mp hdigits
  simp only [decode?, takeWhile_digits hsmall, filterMap_digits hsmall, List.drop_left,
    List.length_replicate]
  simp

/-- Nothing else is read. -/
theorem exists_digits_of_decode? {text : List Char} {bytes : List UInt8}
    (hread : decode? text = some bytes) :
    ∃ digits values pads, List.Forall₂ StandsFor digits values ∧
      text = digits ++ List.replicate pads '=' := by
  let digits := text.takeWhile fun c => (value? c).isSome
  have hsplit : text = digits ++ text.drop digits.length :=
    (List.prefix_iff_eq_append.mp (List.takeWhile_prefix _)).symm
  have hmarks : ∀ c ∈ text.drop digits.length, c = '=' := by
    simp only [decode?] at hread
    split at hread
    · next hfits =>
      simp only [Bool.and_eq_true, List.all_eq_true, beq_iff_eq] at hfits
      exact hfits.1
    · cases hread
  refine ⟨digits, digits.filterMap value?, (text.drop digits.length).length, ?_, ?_⟩
  · apply forall₂_standsFor_filterMap
    intro c hc
    exact List.all_eq_true.mp List.all_takeWhile c hc
  · rwa [← List.eq_replicate_of_mem hmarks]

theorem padsFit_iff {digits pads : Nat} :
    padsFit digits pads = true ↔
      (pads ≤ 2 ∧ 4 ∣ digits + pads) ∨ (0 < pads ∧ 4 ∣ digits ∧ digits ≠ 0) := by
  have hcases : digits % 4 = 0 ∨ digits % 4 = 1 ∨ digits % 4 = 2 ∨ digits % 4 = 3 := by omega
  rcases hcases with hmod | hmod | hmod | hmod
  · simp only [padsFit, hmod, Bool.or_eq_true, bne_iff_ne, beq_iff_eq]
    omega
  · simp only [padsFit, hmod, Bool.false_eq_true, false_iff]
    omega
  · simp only [padsFit, hmod, beq_iff_eq]
    omega
  · simp only [padsFit, hmod, beq_iff_eq]
    omega

theorem fills_ofSextets {values : List Nat} (hsmall : ∀ value ∈ values, value < 64)
    (hcomplete : values.length % 4 ≠ 1) : Fills values (ofSextets values) := by
  fun_induction ofSextets values with
  | case1 a b c d rest ih =>
      simp only [List.forall_mem_cons] at hsmall
      obtain ⟨ha, hb, hc, hd, hrest⟩ := hsmall
      have hfewer : rest.length % 4 ≠ 1 := by
        simp only [List.length_cons] at hcomplete
        omega
      refine .three ?_ (ih hrest hfewer)
      simp only [UInt8.toNat_ofNat']
      omega
  | case2 a b c =>
      simp only [List.forall_mem_cons] at hsmall
      obtain ⟨ha, hb, hc, _⟩ := hsmall
      refine .two ?_
      simp only [UInt8.toNat_ofNat']
      omega
  | case3 a b =>
      simp only [List.forall_mem_cons] at hsmall
      obtain ⟨ha, hb, _⟩ := hsmall
      refine .one ?_
      simp only [UInt8.toNat_ofNat']
      omega
  | case4 values h1 h2 h3 =>
      match values with
      | [] => exact .nil
      | [a] => simp at hcomplete
      | [a, b] => exact absurd rfl (h3 a b)
      | [a, b, c] => exact absurd rfl (h2 a b c)
      | a :: b :: c :: d :: rest => exact absurd rfl (h1 a b c d rest)

theorem ofSextets_of_fills {values : List Nat} {bytes : List UInt8} (hfills : Fills values bytes)
    (hsmall : ∀ value ∈ values, value < 64) : bytes = ofSextets values := by
  have hbyte : ∀ (x : UInt8) (n : Nat), n = x.toNat → x = UInt8.ofNat n := by
    rintro x _ rfl
    exact (UInt8.ofNat_toNat).symm
  induction hfills with
  | nil => rfl
  | @one a b x hbits =>
      simp only [List.forall_mem_cons] at hsmall
      have hx := x.toNat_lt
      simp only [ofSextets, List.cons.injEq, and_true]
      exact hbyte x _ (by omega)
  | @two a b c x y hbits =>
      simp only [List.forall_mem_cons] at hsmall
      have hx := x.toNat_lt
      have hy := y.toNat_lt
      simp only [ofSextets, List.cons.injEq, and_true]
      exact ⟨hbyte x _ (by omega), hbyte y _ (by omega)⟩
  | @three a b c d x y z values bytes hbits _ ih =>
      simp only [List.forall_mem_cons] at hsmall
      obtain ⟨ha, hb, hc, hd, hrest⟩ := hsmall
      have hx := x.toNat_lt
      have hy := y.toNat_lt
      have hz := z.toNat_lt
      simp only [ofSextets, List.cons.injEq]
      exact ⟨hbyte x _ (by omega), hbyte y _ (by omega), hbyte z _ (by omega), ih hrest⟩

/-- Digits and padding marks that fit are in base64, or are up to marks after complete groups. -/
theorem exists_padsFit_iff {text : List Char} {values : List Nat} :
    (∃ digits pads, List.Forall₂ StandsFor digits values ∧
        text = digits ++ List.replicate pads '=' ∧ padsFit digits.length pads = true) ↔
      Spells text values ∨ Overpads text values := by
  constructor
  · rintro ⟨digits, pads, hdigits, rfl, hfits⟩
    rcases padsFit_iff.mp hfits with ⟨hpads, hgroups⟩ | ⟨hpads, hgroups, hsome⟩
    · exact .inl ⟨digits, pads, hdigits, hpads, rfl, by simpa using hgroups⟩
    · exact .inr ⟨digits, pads, hdigits, hpads, rfl, hgroups, by simpa using hsome⟩
  · rintro (⟨digits, pads, hdigits, hpads, rfl, hgroups⟩ |
      ⟨digits, pads, hdigits, hpads, rfl, hgroups, hsome⟩)
    · have hcomplete : 4 ∣ digits.length + pads := by simpa using hgroups
      exact ⟨digits, pads, hdigits, rfl, padsFit_iff.mpr (.inl ⟨hpads, hcomplete⟩)⟩
    · have hnonzero : digits.length ≠ 0 := by simpa using hsome
      exact ⟨digits, pads, hdigits, rfl, padsFit_iff.mpr (.inr ⟨hpads, hgroups, hnonzero⟩)⟩

/-- Reading accepts the texts in base64, and those that are up to padding marks after complete
groups; it gives the bytes that the values fill. -/
theorem decode?_eq_some_iff {text : List Char} {bytes : List UInt8} :
    decode? text = some bytes ↔
      ∃ values, (Spells text values ∨ Overpads text values) ∧ Fills values bytes := by
  constructor
  · intro hread
    obtain ⟨digits, values, pads, hdigits, rfl⟩ := exists_digits_of_decode? hread
    rw [decode?_digits hdigits] at hread
    by_cases hfits : padsFit digits.length pads = true
    · rw [if_pos hfits] at hread
      cases hread
      have hcomplete : values.length % 4 ≠ 1 := by
        rw [← hdigits.length_eq]
        rw [padsFit_iff] at hfits
        omega
      exact ⟨values, exists_padsFit_iff.mp ⟨digits, pads, hdigits, rfl, hfits⟩,
        fills_ofSextets (forall₂_standsFor_iff.mp hdigits).1 hcomplete⟩
    · rw [if_neg hfits] at hread
      cases hread
  · rintro ⟨values, hform, hfills⟩
    obtain ⟨digits, pads, hdigits, rfl, hfits⟩ := exists_padsFit_iff.mpr hform
    rw [decode?_digits hdigits, if_pos hfits,
      ofSextets_of_fills hfills (forall₂_standsFor_iff.mp hdigits).1]

theorem isAscii_encode (bytes : List UInt8) : ∀ c ∈ encode bytes, c.toNat ≤ 0x7F := by
  have hdigit : ∀ value < 64, (digit value).toNat ≤ 0x7F := by decide
  intro c hc
  rcases List.mem_append.mp hc with hdigits | hmarks
  · obtain ⟨value, hvalue, rfl⟩ := List.mem_map.mp hdigits
    exact hdigit value (lt_of_mem_sextets hvalue)
  · rw [List.eq_of_mem_replicate hmarks]
    decide

end Text.Base64

namespace ApiKey

/-- The text that stands for a secret in base64. -/
def encoded (secret : String) : String :=
  String.ofList (Text.Base64.encode (Text.utf8Bytes secret))

theorem isAscii_encoded (secret : String) :
    ∀ c ∈ (encoded secret).toList, c.toNat ≤ 0x7F := by
  rw [encoded, String.toList_ofList]
  exact Text.Base64.isAscii_encode (Text.utf8Bytes secret)

/-- A secret is what its base64 form is decoded to. -/
theorem decode_encoded (secret : String) : decode (encoded secret) = .ok secret := by
  rw [SecretFile.decode_of_ascii (isAscii_encoded secret), encoded, String.toList_ofList,
    Text.Base64.decode?_encode]
  dsimp only
  rw [Text.ofUtf8?_utf8Bytes]

theorem encoded_inj {secret other : String} : encoded secret = encoded other ↔ secret = other := by
  constructor
  · intro hsame
    have hdecoded := decode_encoded secret
    rw [hsame, decode_encoded other] at hdecoded
    exact (Except.ok.inj hdecoded).symm
  · exact congrArg encoded

section Ascii

variable {key : String} (hascii : ∀ c ∈ key.toList, c.toNat ≤ 0x7F)

include hascii

/-- An ASCII key is decoded to a text or is faulty configuration. -/
theorem decode_of_ascii_cases :
    (∃ text, decode key = .ok text) ∨
      ∃ fault, decode key = .error (.configuration (.undecodableKey fault)) := by
  rw [SecretFile.decode_of_ascii hascii]
  cases Text.Base64.decode? key.toList with
  | none => exact .inr ⟨.notBase64, rfl⟩
  | some bytes =>
      dsimp only
      cases Text.ofUtf8? bytes with
      | none => exact .inr ⟨.notText, rfl⟩
      | some text => exact .inl ⟨text, rfl⟩

theorem decode_eq_ok_iff {text : String} :
    decode key = .ok text ↔ Text.Base64.decode? key.toList = some (Text.utf8Bytes text) := by
  rw [SecretFile.decode_of_ascii hascii]
  constructor
  · intro hdecoded
    cases hbytes : Text.Base64.decode? key.toList with
    | none =>
        rw [hbytes] at hdecoded
        cases hdecoded
    | some bytes =>
        rw [hbytes] at hdecoded
        dsimp only at hdecoded
        cases htext : Text.ofUtf8? bytes with
        | none =>
            rw [htext] at hdecoded
            cases hdecoded
        | some found =>
            rw [htext] at hdecoded
            cases hdecoded
            rw [Text.ofUtf8?_eq_some_iff.mp htext]
  · intro hbytes
    rw [hbytes]
    dsimp only
    rw [Text.ofUtf8?_utf8Bytes]

end Ascii

end ApiKey

namespace SecretFile

variable {settings : Settings} {file : SecretFile} {room : FileRoom} {entries : Entries Value}
  {secret : String}

/-- The key that can be had from the base64 form of a secret is the secret. -/
theorem KeyUsable.eq_of_encoded {apiKey : Value} (husable : KeyUsable settings entries apiKey)
    (hencoded : settings.hasEncodedKey = true)
    (hkey : Value.field entries "g2_api_key" = .text (ApiKey.encoded secret)) :
    apiKey = .text secret := by
  have hsection := usableKey_of_keyUsable husable
  rw [usableKey_of_encoded hencoded, hkey, ApiKey.decodedValue, ApiKey.decode_encoded] at hsection
  exact (Except.ok.inj hsection).symm

/-- What a file with the base64 form of a secret gives, if it gives anything. -/
theorem Accepted.of_encoded {credentials : Credentials}
    (haccepted : file.Accepted settings credentials) (hfile : file.Holds room entries)
    (hencoded : settings.hasEncodedKey = true)
    (hkey : Value.field entries "g2_api_key" = .text (ApiKey.encoded secret)) :
    credentials.apiKey = .text secret ∧ (∃ client, credentials.basicAuth = .text client) ∧
      ∃ url, Value.field entries "g2_token_exchange_endpoint_url" = .text url ∧
        credentials.tokenUrl = .text (Endpoint.tokenExchange (Endpoint.secured url)) := by
  cases haccepted with
  | intro hholds husable hendpoint htokenUrl hclient =>
      obtain rfl := hfile.unique hholds.holds
      exact ⟨husable.eq_of_encoded hencoded hkey, ⟨_, rfl⟩, _, htokenUrl, rfl⟩

end SecretFile

namespace Credentials

theorem basicAuthorization_eq (secret : String) :
    basicAuthorization secret = "Basic " ++ ApiKey.encoded secret := rfl

/-- What an exchange authorizes with determines the secret. -/
theorem basicAuthorization_inj {secret other : String} :
    basicAuthorization secret = basicAuthorization other ↔ secret = other := by
  rw [basicAuthorization_eq, basicAuthorization_eq, String.append_right_inj, ApiKey.encoded_inj]

/-- An exchange makes one request again and again, and does make it if it may be tried. -/
theorem requests_exchange {credentials : Credentials} {secret : String}
    (hsecret : credentials.basicAuth = .text secret) (session : Session) (budget : Budget)
    (outside : Outside) :
    ∃ calls, (credentials.exchange session budget outside).trace.requests =
        List.replicate calls (credentials.exchangeRequest secret) ∧
      (0 < calls ↔ 0 < budget.attempts) := by
  rw [Trace.requests_eq_map_exchanges, ← Trace.exchanges_requestsAndWaits]
  by_cases hattempts : 0 < budget.attempts
  · obtain ⟨_, hheard⟩ := exchange_hears hsecret session budget outside hattempts
    let hearing := outside.http.hear budget.repeats
    refine ⟨hearing.answers.length, ?_, ?_⟩
    · rw [hheard, Hearing.exchanges_callsAndWaits, Hearing.exchanges, List.map_map]
      exact List.map_const'
    · simp [hattempts]
  · obtain ⟨_, hsilent⟩ := exchange_untried hsecret session budget outside (Int.not_lt.mp hattempts)
    refine ⟨0, ?_, by simp [hattempts]⟩
    rw [hsilent]
    rfl

section Obtain

variable {settings : Settings} {file : SecretFile} (session : Session) (budget : Budget)
  (outside : Outside)

/-- A file that gives no credentials is not followed by a request, nor is a path that no file can
have. -/
theorem requests_obtain_of_no_credentials
    (hnone : ∀ credentials, file.Accepted settings credentials →
      FilePath.isUsable settings.configPath = false) :
    (obtain settings (.file file) session budget outside).trace.requests = [] := by
  cases hpath : FilePath.isUsable settings.configPath with
  | false =>
      obtain ⟨lines, hrun⟩ := obtain_of_unusable hpath file session budget outside
      rw [hrun]
      exact Trace.filterMap_logged (fun _ => rfl) lines
  | true =>
      cases hgiven : ofFile settings file with
      | error fault => exact (obtain_of_ofFile_error session budget outside hpath hgiven).2
      | ok credentials =>
          have hunusable := hnone credentials (SecretFile.accepted_iff.mpr hgiven)
          rw [hpath] at hunusable
          cases hunusable

/-- The requests that follow a file are those of the exchange for the credentials that it gives. -/
theorem requests_obtain_of_accepted {credentials : Credentials}
    (hpath : FilePath.isUsable settings.configPath = true)
    (haccepted : file.Accepted settings credentials) :
    (obtain settings (.file file) session budget outside).trace.requests =
      (credentials.exchange session budget outside).trace.requests := by
  obtain ⟨lines, hrun⟩ := obtain_of_ofFile_ok session budget outside hpath
    (SecretFile.ofFile_of_accepted haccepted)
  rw [hrun, refresh, Run.bind_pure_apply]
  simp only [Trace.requests_eq_map_exchanges, Trace.exchanges_append, Trace.exchanges_lines,
    List.nil_append]

/-- A key that a file keeps in base64 is posted to the token service as the secret it stands for;
and it is posted if the file is accepted and the exchange may be tried. -/
theorem requests_obtain {room : FileRoom} {entries : Entries Value} {secret : String}
    (hencoded : settings.hasEncodedKey = true) (hfile : file.Holds room entries)
    (hkey : Value.field entries "g2_api_key" = .text (ApiKey.encoded secret)) :
    let run := obtain settings (.file file) session budget outside
    (∀ request ∈ run.trace.requests, ∃ url authorization,
      Value.field entries "g2_token_exchange_endpoint_url" = .text url ∧
        request = .post (.text (Endpoint.tokenExchange (Endpoint.secured url))) (.text secret)
          authorization) ∧
    (∀ credentials, file.Accepted settings credentials →
      FilePath.isUsable settings.configPath = true → 0 < budget.attempts →
        run.trace.requests ≠ []) := by
  intro run
  by_cases hgives : ∃ credentials, file.Accepted settings credentials ∧
      FilePath.isUsable settings.configPath = true
  · obtain ⟨credentials, haccepted, hpath⟩ := hgives
    obtain ⟨hsecret, ⟨client, hclient⟩, url, hurl, htokenUrl⟩ :=
      haccepted.of_encoded hfile hencoded hkey
    obtain ⟨calls, hcalls, hsome⟩ := requests_exchange hclient session budget outside
    have hrequests : run.trace.requests = List.replicate calls
        (.post (.text (Endpoint.tokenExchange (Endpoint.secured url))) (.text secret)
          (basicAuthorization client)) := by
      rw [requests_obtain_of_accepted session budget outside hpath haccepted, hcalls,
        exchangeRequest, hsecret, htokenUrl]
    rw [hrequests]
    constructor
    · intro request hrequest
      exact ⟨url, _, hurl, List.eq_of_mem_replicate hrequest⟩
    · intro _ _ _ hattempts
      have hpositive := hsome.mpr hattempts
      simp [Nat.pos_iff_ne_zero.mp hpositive]
  · have hnone : ∀ credentials, file.Accepted settings credentials →
        FilePath.isUsable settings.configPath = false := by
      intro credentials haccepted
      rw [← Bool.not_eq_true]
      exact fun hpath => hgives ⟨credentials, haccepted, hpath⟩
    have hquiet : run.trace.requests = [] :=
      requests_obtain_of_no_credentials session budget outside hnone
    rw [hquiet]
    refine ⟨by simp, ?_⟩
    intro credentials haccepted hpath
    exact absurd ⟨credentials, haccepted, hpath⟩ hgives

end Obtain

end Credentials

namespace ApiKey

/-- Decoding undoes encoding: a secret comes back from its base64 form, which an exchange authorizes
with, so that the authorization determines the secret; and a key that a file keeps in base64 is
posted as the secret it stands for.  An ASCII key is decoded or is faulty configuration; it is
decoded exactly if the bytes it stands for are a text and it is in base64, or is so up to padding
marks after complete groups. -/
theorem base64_gives_secrets_back (secret key : String) (session : Session) (budget : Budget)
    (outside : Outside) :
    decode (encoded secret) = .ok secret ∧
    (∀ credentials : Credentials, credentials.basicAuth = .text secret →
      ∃ calls, (credentials.exchange session budget outside).trace.requests =
          List.replicate calls
            (.post credentials.tokenUrl credentials.apiKey ("Basic " ++ encoded secret)) ∧
        (0 < calls ↔ 0 < budget.attempts)) ∧
    (∀ other, "Basic " ++ encoded secret = "Basic " ++ encoded other ↔ secret = other) ∧
    (∀ (settings : Settings) (file : SecretFile) (room : FileRoom) (entries : Entries Value),
      settings.hasEncodedKey = true → file.Holds room entries →
      Value.field entries "g2_api_key" = .text (encoded secret) →
      let run := Credentials.obtain settings (.file file) session budget outside
      (∀ request ∈ run.trace.requests, ∃ url authorization,
        Value.field entries "g2_token_exchange_endpoint_url" = .text url ∧
          request = .post (.text (Endpoint.tokenExchange (Endpoint.secured url))) (.text secret)
            authorization) ∧
      (∀ credentials, file.Accepted settings credentials →
        FilePath.isUsable settings.configPath = true → 0 < budget.attempts →
          run.trace.requests ≠ [])) ∧
    ((∀ c ∈ key.toList, c.toNat ≤ 0x7F) →
      ((∃ text, decode key = .ok text) ∨
        ∃ fault, decode key = .error (.configuration (.undecodableKey fault))) ∧
      ∀ text, decode key = .ok text ↔ ∃ values,
        (Text.Base64.Spells key.toList values ∨ Text.Base64.Overpads key.toList values) ∧
          Text.Base64.Fills values (Text.utf8Bytes text)) := by
  refine ⟨decode_encoded secret, ?_, ?_, ?_, ?_⟩
  · intro credentials hsecret
    exact Credentials.requests_exchange hsecret session budget outside
  · intro other
    exact Credentials.basicAuthorization_inj
  · intro settings file room entries hencoded hfile hkey
    exact Credentials.requests_obtain session budget outside hencoded hfile hkey
  · intro hascii
    refine ⟨decode_of_ascii_cases hascii, ?_⟩
    intro text
    rw [decode_eq_ok_iff hascii, Text.Base64.decode?_eq_some_iff]

/-- The key of a satellite cluster is posted as it was before it was encoded. -/
theorem key_of_satellite_is_posted_in_plain :
    let settings : Settings := { Settings.standard with configDir := "secret", isSatellite := true }
    let file : SecretFile := .bytes (Text.utf8Bytes
      ("[VPC]\ng2_riaas_endpoint_url = \"https://vpc\"\n" ++
        "g2_token_exchange_endpoint_url = \"http://iam\"\ng2_api_key = \"a2V5\"\n"))
      .standard
    let outside : Outside := ⟨⟨.error (.request .noConnection "down"), []⟩, ⟨.ok none, []⟩,
      ⟨.kept, []⟩⟩
    let run := Credentials.obtain settings (.file file) .own .standard outside
    run.trace.requests ≠ [] ∧ ∀ request ∈ run.trace.requests, ∃ authorization,
      request = .post (.text "https://iam/oidc/token") (.text "key") authorization := by
  intro settings file outside run
  have hfile : file.Holds .standard [("g2_riaas_endpoint_url", .text "https://vpc"),
      ("g2_token_exchange_endpoint_url", .text "http://iam"), ("g2_api_key", .text "a2V5")] :=
    @SecretFile.holds_of_texts _ _ [("g2_riaas_endpoint_url", "https://vpc"),
      ("g2_token_exchange_endpoint_url", "http://iam"), ("g2_api_key", "a2V5")]
      (by decide +kernel)
  have hencoded : encoded "key" = "a2V5" := by decide +kernel
  obtain ⟨_, _, _, hposted, _⟩ := base64_gives_secrets_back "key" "a2V5" .own .standard outside
  obtain ⟨hrequests, hsome⟩ := hposted settings file _ _ rfl hfile (by rw [hencoded]; rfl)
  have hascii := isAscii_encoded "key"
  rw [hencoded] at hascii
  have haccepted : file.Accepted settings _ := .intro ⟨hfile, rfl⟩
    (.encoded rfl rfl hascii (by decide +kernel) (Text.ofUtf8?_utf8Bytes "key")) rfl rfl rfl
  refine ⟨hsome _ haccepted (by decide +kernel) (by decide), ?_⟩
  intro request hrequest
  obtain ⟨url, authorization, hurl, hpost⟩ := hrequests request hrequest
  have htoken : Endpoint.tokenExchange (Endpoint.secured "http://iam") =
      "https://iam/oidc/token" := by decide +kernel
  cases hurl
  rw [htoken] at hpost
  exact ⟨authorization, hpost⟩

/-- Padding after a complete group goes unreported. -/
theorem padding_of_complete_group_goes_unreported :
    let key := "YWJj="
    (∀ c ∈ key.toList, c.toNat ≤ 0x7F) ∧ decode key = .ok "abc" ∧
      (∀ values, ¬Text.Base64.Spells key.toList values) ∧
      ∀ fault, decode key ≠ .error (.configuration (.undecodableKey fault)) := by
  intro key
  have hascii : ∀ c ∈ key.toList, c.toNat ≤ 0x7F := by simp [key]
  have hdecoded : decode key = .ok "abc" := (decode_eq_ok_iff hascii).mpr (by decide +kernel)
  refine ⟨hascii, hdecoded, ?_, ?_⟩
  · rintro values ⟨digits, pads, _, _, _, hgroups⟩
    exact absurd hgroups (by decide)
  · intro fault hfault
    rw [hdecoded] at hfault
    cases hfault

end ApiKey

end NodeTopology
