import NodeTopology.SecretSource
import NodeTopology.Resolver.Paged
import NodeTopology.Proofs.RunPairs
/-!
Tables that differ in secrets only: in the texts of a token response, or in those of the secret
file's section.  Main statements: whatever is read from such tables is read from both or refused
from both for the same reason, and nothing but the secret fields of it differs.
-/

namespace NodeTopology

/-- Two values with the same face: they are the same, or both are texts that may be secret. -/
inductive Hidden (secret : String → Prop) : Value → Value → Prop
  | same (value : Value) : Hidden secret value value
  | texts {s t : String} (hs : secret s) (ht : secret t) : Hidden secret (.text s) (.text t)

namespace Hidden

variable {secret : String → Prop} {v w : Value}

theorem eq (hidden : Hidden secret v w) (hopen : ∀ s, ¬ secret s) : v = w := by
  cases hidden with
  | same => rfl
  | texts hs => exact absurd hs (hopen _)

theorem isVoid_eq (hidden : Hidden secret v w) (hfull : ∀ s, secret s → s ≠ "") :
    v.isVoid = w.isVoid := by
  cases hidden with
  | same => rfl
  | texts hs ht =>
      have hs' := String.isEmpty_eq_false_iff.mpr (hfull _ hs)
      have ht' := String.isEmpty_eq_false_iff.mpr (hfull _ ht)
      rw [Value.isVoid, Value.isVoid, hs', ht']

theorem obstacle?_eq (hidden : Hidden secret v w) (room : Nat) :
    v.obstacle? room = w.obstacle? room := by
  cases hidden with
  | same => rfl
  | texts => rw [Value.obstacle?_text, Value.obstacle?_text]

end Hidden

/-- Two tables that differ in nothing but texts which may be secret under their key. -/
def DifferInSecrets (secret : String → String → Prop) (first second : Entries Value) : Prop :=
  ∀ key, Option.Rel (Hidden (secret key)) (first.get? key) (second.get? key)

namespace DifferInSecrets

variable {secret : String → String → Prop} {first second : Entries Value}

theorem nil : DifferInSecrets secret [] [] := fun _ => .none

theorem cons {key : String} {v w : Value} (hvalue : Hidden (secret key) v w)
    (hrest : DifferInSecrets secret first second) :
    DifferInSecrets secret ((key, v) :: first) ((key, w) :: second) := by
  intro other
  rw [Entries.get?_cons, Entries.get?_cons]
  split
  · next hother =>
    rw [hother]
    exact .some hvalue
  · exact hrest other

theorem hidden_getD (hdiffer : DifferInSecrets secret first second) (key : String)
    (default : Value) :
    Hidden (secret key) ((first.get? key).getD default) ((second.get? key).getD default) := by
  have hkey := hdiffer key
  generalize first.get? key = v at hkey
  generalize second.get? key = w at hkey
  cases hkey with
  | some hidden => exact hidden
  | none => exact .same default

theorem hidden_field (hdiffer : DifferInSecrets secret first second) (key : String) :
    Hidden (secret key) (Value.field first key) (Value.field second key) :=
  hdiffer.hidden_getD key .null

theorem field_eq (hdiffer : DifferInSecrets secret first second) {key : String}
    (hopen : ∀ s, ¬ secret key s) : Value.field first key = Value.field second key :=
  (hdiffer.hidden_field key).eq hopen

/-- A field that may hold a secret is read from both tables or refused from both. -/
theorem textField_agree (hdiffer : DifferInSecrets secret first second) (key : String) :
    Agree (fun s t => s = t ∨ secret key s ∧ secret key t) (Value.textField first key)
      (Value.textField second key) := by
  rw [Value.textField, Value.textField]
  have hidden := hdiffer.hidden_field key
  generalize Value.field first key = v at hidden
  generalize Value.field second key = w at hidden
  cases hidden with
  | same => split <;> first | exact .ok (.inl rfl) | exact .error _
  | texts hs ht => exact .ok (.inr ⟨hs, ht⟩)

theorem textField_eq (hdiffer : DifferInSecrets secret first second) {key : String}
    (hopen : ∀ s, ¬ secret key s) :
    Value.textField first key = Value.textField second key := by
  rw [Value.textField, Value.textField, hdiffer.field_eq hopen]

theorem intField_eq (hdiffer : DifferInSecrets secret first second) {key : String}
    (hopen : ∀ s, ¬ secret key s) : Value.intField first key = Value.intField second key := by
  rw [Value.intField, Value.intField, hdiffer.field_eq hopen]

theorem listField_eq (hdiffer : DifferInSecrets secret first second) {key : String}
    (hopen : ∀ s, ¬ secret key s) : Value.listField first key = Value.listField second key := by
  rw [Value.listField, Value.listField, hdiffer.field_eq hopen]

theorem recordField_eq (hdiffer : DifferInSecrets secret first second) {α : Type}
    (read : Value → Except ShapeFault α) {key : String} (hopen : ∀ s, ¬ secret key s) :
    Value.recordField read first key = Value.recordField read second key := by
  rw [Value.recordField, Value.recordField, hdiffer.field_eq hopen]

end DifferInSecrets

/-- The secrets of a token response: the token, which is never empty, and the one that renews it. -/
def tokenSecret (key text : String) : Prop :=
  key = "access_token" ∧ text ≠ "" ∨ key = "refresh_token"

section TokenResponses

variable {first second : Entries Value}

theorem Page.ofValue_eq (hdiffer : DifferInSecrets tokenSecret first second) :
    Page.ofValue (.table first) = Page.ofValue (.table second) := by
  have hopen : ∀ key ∈ ["instances", "total_count", "limit", "next"], ∀ text,
      ¬ tokenSecret key text := by
    simp [tokenSecret]
  dsimp only [Page.ofValue, Value.asObject, bind, Except.bind]
  rw [hdiffer.listField_eq (hopen "instances" (by simp)),
    hdiffer.intField_eq (hopen "total_count" (by simp)),
    hdiffer.intField_eq (hopen "limit" (by simp)),
    hdiffer.recordField_eq Page.nextOfValue (hopen "next" (by simp))]

/-- Whether there is a token does not depend on the secrets in it. -/
theorem AccessToken.ofValue_agree (hdiffer : DifferInSecrets tokenSecret first second) :
    Agree (fun _ _ => True) (AccessToken.ofValue (.table first))
      (AccessToken.ofValue (.table second)) := by
  have hopen : ∀ key ∈ ["token_type", "expires_in", "expiration"], ∀ text,
      ¬ tokenSecret key text := by
    simp [tokenSecret]
  unfold AccessToken.ofValue
  refine Agree.bind (V := DifferInSecrets tokenSecret) (.ok hdiffer) ?_
  intro first second hdiffer
  apply Agree.bind (hdiffer.textField_agree "access_token")
  intro s t hst
  have hempty : s.isEmpty = t.isEmpty := by
    rcases hst with rfl | ⟨hs, ht⟩
    · rfl
    · simp [tokenSecret] at hs ht
      rw [String.isEmpty_eq_false_iff.mpr hs, String.isEmpty_eq_false_iff.mpr ht]
  rw [hempty]
  dsimp only
  split
  · exact .error _
  · apply Agree.bind (hdiffer.textField_agree "refresh_token")
    intro refresh refresh' _
    rw [hdiffer.textField_eq (hopen "token_type" (by simp)),
      hdiffer.intField_eq (hopen "expires_in" (by simp)),
      hdiffer.intField_eq (hopen "expiration" (by simp))]
    apply Agree.bind_same
    intro tokenType
    apply Agree.bind_same
    intro expiresIn
    apply Agree.bind_same
    intro expiration
    exact .ok trivial

end TokenResponses

/-- Two responses that differ in nothing but the secrets of a token. -/
inductive Response.Alike : Response → Response → Prop
  | same (response : Response) : Alike response response
  | tokens {body body' : String} {reader reader' : Json.Reader} {entries entries' : Entries Value}
      (hbody : Json.read reader body = .ok (.table entries))
      (hbody' : Json.read reader' body' = .ok (.table entries'))
      (hdiffer : DifferInSecrets tokenSecret entries entries') :
      Alike ⟨200, body, reader⟩ ⟨200, body', reader'⟩

namespace Response.Alike

variable {first second : Response}

theorem status_eq (halike : Alike first second) : first.status = second.status := by
  cases halike <;> rfl

theorem isOk_eq (halike : Alike first second) : first.isOk = second.isOk := by
  rw [isOk, isOk, halike.status_eq]

theorem decode_page_eq (halike : Alike first second) :
    first.decode Page.ofValue = second.decode Page.ofValue := by
  cases halike with
  | same => rfl
  | tokens hbody hbody' hdiffer =>
      rw [decode, decode, hbody, hbody']
      dsimp only
      rw [Page.ofValue_eq hdiffer]

/-- Whether a response holds a token does not depend on the secrets in it. -/
theorem decode_token_agree (halike : Alike first second) :
    Agree (fun _ _ => True) (first.decode AccessToken.ofValue)
      (second.decode AccessToken.ofValue) := by
  cases halike with
  | same =>
      generalize first.decode AccessToken.ofValue = token
      cases token with
      | ok token => exact .ok trivial
      | error fault => exact .error fault
  | @tokens _ _ _ _ entries entries' hbody hbody' hdiffer =>
      rw [decode, decode, hbody, hbody']
      dsimp only
      have hagree := AccessToken.ofValue_agree hdiffer
      generalize AccessToken.ofValue (.table entries) = token at hagree
      generalize AccessToken.ofValue (.table entries') = token' at hagree
      cases hagree with
      | ok => exact .ok trivial
      | error => exact .error _

end Response.Alike

/-- The secrets of the secret file's section: the key, which can be decoded where it has to be, and
the client's name and secret.  None of them is empty. -/
def sectionSecret (settings : Settings) (key text : String) : Prop :=
  text ≠ "" ∧
    (key = "g2_api_key" ∧
        (settings.hasEncodedKey = true → (ApiKey.decode text).isOk = true) ∨
      key = "iam_client_id" ∨ key = "iam_client_secret")

/-- Two sections that differ in secrets only. -/
structure VpcSection.Alike (settings : Settings) (first second : VpcSection) : Prop where
  endpointUrl : first.endpointUrl = second.endpointUrl
  tokenUrl : first.tokenUrl = second.tokenUrl
  apiKey : Hidden (sectionSecret settings "g2_api_key") first.apiKey second.apiKey
  clientId : Hidden (sectionSecret settings "iam_client_id") first.clientId second.clientId
  clientSecret :
    Hidden (sectionSecret settings "iam_client_secret") first.clientSecret second.clientSecret

/-- The section of the secret file is taken from both tables, or refused from both. -/
theorem VpcSection.ofTable_agree {settings : Settings} {file file' entries entries' : Entries Value}
    (hfile : file.get? "VPC" = some (.table entries))
    (hfile' : file'.get? "VPC" = some (.table entries'))
    (hdiffer : DifferInSecrets (sectionSecret settings) entries entries') :
    Agree (VpcSection.Alike settings) (ofTable file) (ofTable file') := by
  have hopen : ∀ key ∈ ["g2_riaas_endpoint_url", "g2_token_exchange_endpoint_url"], ∀ text,
      ¬ sectionSecret settings key text := by
    simp [sectionSecret]
  have hvoid : (requiredKeys.filter fun key => (Value.field entries key).isVoid) =
      requiredKeys.filter fun key => (Value.field entries' key).isVoid := by
    apply List.filter_congr
    intro key _
    exact (hdiffer.hidden_field key).isVoid_eq fun text hsecret => hsecret.1
  rw [ofTable, ofTable, hfile, hfile']
  dsimp only
  rw [hvoid]
  split
  · apply Agree.ok
    constructor
    · exact hdiffer.field_eq (hopen "g2_riaas_endpoint_url" (by simp))
    · exact hdiffer.field_eq (hopen "g2_token_exchange_endpoint_url" (by simp))
    · exact hdiffer.hidden_field "g2_api_key"
    · exact hdiffer.hidden_getD "iam_client_id" (.text "")
    · exact hdiffer.hidden_getD "iam_client_secret" (.text "")
  · exact .error _

end NodeTopology
