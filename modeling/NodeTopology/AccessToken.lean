import NodeTopology.Shape
/-!
Access tokens as the identity service hands them out.
-/

namespace NodeTopology

/-- A token with the data that comes with it. -/
structure AccessToken where
  accessToken : String
  refreshToken : String
  tokenType : String
  expiresIn : Int
  expiration : Int
deriving Repr, DecidableEq

/-- The token in a response; the token text itself must not be empty. -/
def AccessToken.ofValue (value : Value) : Except ShapeFault AccessToken := do
  let entries ← value.asObject "access token response"
  let accessToken ← Value.textField entries "access_token"
  if accessToken.isEmpty then throw (.absent "access_token")
  return {
    accessToken
    refreshToken := ← Value.textField entries "refresh_token"
    tokenType := ← Value.textField entries "token_type"
    expiresIn := ← Value.intField entries "expires_in"
    expiration := ← Value.intField entries "expiration" }

end NodeTopology
