import NodeTopology.AccessToken
import NodeTopology.Request
import NodeTopology.Proofs.RunTrace
/-!
What the readers of records accept.  A field may be left out or be null, and then reads as the empty
value of its kind.  Main statement: a value reads as an access token exactly if it is a table with a
text under the key of the token, not empty, and fields of the right kinds beside it; and the token
then holds what the fields hold.
-/

namespace NodeTopology

/-- What an optional field of a record holds: nothing if it is left out or null, and otherwise a
value of its kind. -/
inductive OptionalField {α : Type} (entries : Entries Value) (key : String) (kind : α → Value)
    (nothing : α) : α → Prop
  | absent (habsent : entries.get? key = none) : OptionalField entries key kind nothing nothing
  | null (hnull : entries.get? key = some .null) : OptionalField entries key kind nothing nothing
  | given {a : α} (hgiven : entries.get? key = some (kind a)) :
      OptionalField entries key kind nothing a

section Fields

variable {entries : Entries Value} {key : String}

theorem optionalField_iff {α : Type} {kind : α → Value} {nothing a : α}
    (hkind : ∀ a, kind a ≠ .null) :
    OptionalField entries key kind nothing a ↔
      Value.field entries key = .null ∧ nothing = a ∨ Value.field entries key = kind a := by
  rw [Value.field]
  constructor
  · rintro (habsent | hnull | hgiven)
    · simp [habsent]
    · simp [hnull]
    · simp [hgiven]
  · cases hfound : entries.get? key with
    | none =>
        rintro (⟨_, rfl⟩ | hnull)
        · exact .absent hfound
        · exact absurd hnull.symm (hkind a)
    | some value =>
        rintro (⟨hnull, rfl⟩ | hgiven)
        · exact .null (hfound.trans (congrArg some hnull))
        · exact .given (hfound.trans (congrArg some hgiven))

theorem textField_eq_ok_iff {text : String} :
    Value.textField entries key = .ok text ↔ OptionalField entries key .text "" text := by
  rw [optionalField_iff (by simp), Value.textField]
  cases Value.field entries key <;> simp

theorem intField_eq_ok_iff {number : Int} :
    Value.intField entries key = .ok number ↔ OptionalField entries key .int 0 number := by
  rw [optionalField_iff (by simp), Value.intField]
  cases Value.field entries key <;> simp

theorem eq_table_of_asObject {what : String} {value : Value} {entries : Entries Value}
    (hread : value.asObject what = .ok entries) : value = .table entries := by
  cases value <;> cases hread
  rfl

/-- A text field that is not empty is neither left out nor null. -/
theorem textField_eq_ok_iff_of_ne_empty {text : String} (hfull : text ≠ "") :
    Value.textField entries key = .ok text ↔ entries.get? key = some (.text text) := by
  rw [textField_eq_ok_iff]
  constructor
  · rintro (_ | _ | hgiven)
    · exact absurd rfl hfull
    · exact absurd rfl hfull
    · exact hgiven
  · exact .given

end Fields

structure IsTokenRecord (entries : Entries Value) (token : AccessToken) : Prop where
  accessToken : entries.get? "access_token" = some (.text token.accessToken)
  accessToken_ne_empty : token.accessToken ≠ ""
  refreshToken : OptionalField entries "refresh_token" .text "" token.refreshToken
  tokenType : OptionalField entries "token_type" .text "" token.tokenType
  expiresIn : OptionalField entries "expires_in" .int 0 token.expiresIn
  expiration : OptionalField entries "expiration" .int 0 token.expiration

namespace AccessToken

/-- The record of a token, and nothing else, reads as that token. -/
theorem ofValue_eq_ok_iff {value : Value} {token : AccessToken} :
    ofValue value = .ok token ↔
      ∃ entries, value = .table entries ∧ IsTokenRecord entries token := by
  unfold ofValue
  constructor
  · intro hread
    obtain ⟨entries, hentries, hread⟩ := exists_of_except_bind hread
    obtain ⟨text, htext, hread⟩ := exists_of_except_bind hread
    have hvalue := eq_table_of_asObject hentries
    by_cases hempty : text = ""
    · rw [if_pos (by simpa using hempty)] at hread
      cases hread
    · rw [if_neg (by simpa using hempty)] at hread
      obtain ⟨refreshToken, hrefresh, hread⟩ := exists_of_except_bind hread
      obtain ⟨tokenType, htype, hread⟩ := exists_of_except_bind hread
      obtain ⟨expiresIn, hin, hread⟩ := exists_of_except_bind hread
      obtain ⟨expiration, hexpiration, hread⟩ := exists_of_except_bind hread
      cases hread
      exact ⟨entries, hvalue, (textField_eq_ok_iff_of_ne_empty hempty).mp htext, hempty,
        textField_eq_ok_iff.mp hrefresh, textField_eq_ok_iff.mp htype,
        intField_eq_ok_iff.mp hin, intField_eq_ok_iff.mp hexpiration⟩
  · rintro ⟨entries, rfl, hrecord⟩
    have hempty := hrecord.accessToken_ne_empty
    have htext := (textField_eq_ok_iff_of_ne_empty hempty).mpr hrecord.accessToken
    have hrefresh := textField_eq_ok_iff.mpr hrecord.refreshToken
    have htype := textField_eq_ok_iff.mpr hrecord.tokenType
    have hin := intField_eq_ok_iff.mpr hrecord.expiresIn
    have hexpiration := intField_eq_ok_iff.mpr hrecord.expiration
    simp [Value.asObject, except_bind_eq_ok_iff, htext, hempty, hrefresh, htype, hin, hexpiration,
      Functor.map, Except.map]

end AccessToken

namespace Response

variable {α : Type} {read : Value → Except ShapeFault α} {response : Response} {record : α}

/-- A response holds the records that its body, read as JSON, is read as. -/
theorem decode_eq_ok_iff :
    response.decode read = .ok record ↔
      ∃ value, Json.read response.reader response.body = .ok value ∧ read value = .ok record := by
  unfold decode
  rcases hbody : Json.read response.reader response.body with (_ | _ | _) | value
  · simp
  · simp
  · simp
  · simp [mapError_eq_ok_iff]

/-- A response escapes its decoding exactly if its body is nested too deep. -/
theorem decode_eq_tooDeep_iff :
    response.decode read = .error .tooDeep ↔
      Json.read response.reader response.body = .error .tooDeep := by
  unfold decode
  rcases hbody : Json.read response.reader response.body with (_ | _ | _) | value
  · simp
  · simp
  · simp
  · simp [mapError_eq_error_iff]

/-- What a body is of no use for, to this reader of records. -/
inductive IsUseless (read : Value → Except ShapeFault α) (response : Response) : BodyFault → Prop
  | notJson (hbody : Json.read response.reader response.body = .error .malformed) :
      IsUseless read response .notJson
  | longInteger (hbody : Json.read response.reader response.body = .error .longInteger) :
      IsUseless read response .longInteger
  | otherShape {value : Value} {fault : ShapeFault}
      (hbody : Json.read response.reader response.body = .ok value)
      (hshape : read value = .error fault) : IsUseless read response (.otherShape fault)

theorem decode_eq_body_iff {fault : BodyFault} :
    response.decode read = .error (.body fault) ↔ response.IsUseless read fault := by
  constructor
  · intro hdecoded
    unfold decode at hdecoded
    rcases hbody : Json.read response.reader response.body with (_ | _ | _) | value <;>
      rw [hbody] at hdecoded
    · cases hdecoded
      exact .notJson hbody
    · cases hdecoded
      exact .longInteger hbody
    · cases hdecoded
    · obtain ⟨shape, hshape, hfault⟩ := mapError_eq_error_iff.mp hdecoded
      cases hfault
      exact .otherShape hbody hshape
  · intro huseless
    cases huseless with
    | notJson hbody => rw [decode, hbody]
    | longInteger hbody => rw [decode, hbody]
    | otherShape hbody hshape =>
        rw [decode, hbody]
        exact mapError_eq_error_iff.mpr ⟨_, hshape, rfl⟩

end Response

end NodeTopology
