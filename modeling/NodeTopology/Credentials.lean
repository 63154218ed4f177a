import NodeTopology.AccessToken
/-!
What a run needs to call the infrastructure and the identity service.
-/

namespace NodeTopology

/-- Addresses and secrets for one run.  They come from files and providers that may hold any value,
so they are checked where they are used.  The access token is empty until an exchange or a provider
fills it in. -/
structure Credentials where
  instancesUrl : Value
  apiKey : Value
  tokenUrl : Value
  basicAuth : Value
  accessToken : Value
  token : Option AccessToken

def Credentials.receive (credentials : Credentials) (token : AccessToken) : Credentials :=
  { credentials with accessToken := .text token.accessToken, token := some token }

end NodeTopology
