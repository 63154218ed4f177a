import NodeTopology.Outside
import NodeTopology.Text.Base64
import NodeTopology.Text.Utf8
/-!
Exchanging an API key for a short-lived access token.  A lost connection is tried again; any other
failure of the request, any status but 200 and any body without a token end the exchange.
-/

namespace NodeTopology

/-- What can be asked of credentials: a token for the caller, or a fresh one to keep. -/
inductive TokenCall where
  | exchange
  | refresh
deriving Repr, DecidableEq

namespace Credentials

def basicAuthorization (secret : String) : String :=
  "Basic " ++ String.ofList (Text.Base64.encode (Text.utf8Bytes secret))

def exchangeRequest (credentials : Credentials) (secret : String) : Request :=
  .post credentials.tokenUrl credentials.apiKey (basicAuthorization secret)

/-- The token in the answer to an exchange; nothing stands for an exchange that was never tried. -/
def tokenOfAnswer (url : Value) :
    Option (Except RemoteError Response) → Run Outside AccessToken
  | none => do
      Run.log .error "IAM token exchange request failed: status=None"
      throw (.token (.status none))
  | some (.error e) => throw (.token (.request url e))
  | some (.ok response) =>
      if response.status != 200 then do
        Run.log .error ("IAM token exchange request failed: status=" ++ toString response.status)
        throw (.token (.status (some response.status)))
      else do
        let token ← Run.ofExcept (DecodeFault.ending fun fault => .token (.body fault))
          (response.decode AccessToken.ofValue)
        Run.log .info "Successfully got access token in exchange of apikey"
        return token

def exchange (credentials : Credentials) (session : Session) (budget : Budget) :
    Run Outside AccessToken :=
  session.use do
    match credentials.basicAuth with
    | .text secret =>
        let answer ← Outside.request budget (pure (credentials.exchangeRequest secret))
        tokenOfAnswer credentials.tokenUrl answer
    | _ => throw (.misuse .noSuchMember)

def refresh (credentials : Credentials) (session : Session) (budget : Budget) :
    Run Outside Credentials := do
  return credentials.receive (← credentials.exchange session budget)

end Credentials

/-- Credentials that are kept from call to call, and the outside that they are used against. -/
structure Keeper where
  outside : Outside
  credentials : Credentials

namespace Keeper

def exchange (session : Session) (budget : Budget) : Run Keeper AccessToken := fun keeper =>
  let run := keeper.credentials.exchange session budget keeper.outside
  ⟨run.result, run.trace, { keeper with outside := run.supply }⟩

def assign (change : Credentials → Credentials) : Run Keeper Unit := fun keeper =>
  ⟨.ok (), [], { keeper with credentials := change keeper.credentials }⟩

/-- Get a fresh token and keep it: first the token with its data, then the text of it that goes
along with requests. -/
def refresh (session : Session) (budget : Budget) : Run Keeper AccessToken := do
  let token ← exchange session budget
  assign fun credentials => { credentials with token := some token }
  assign fun credentials => { credentials with accessToken := .text token.accessToken }
  return token

def perform (session : Session) (budget : Budget) : TokenCall → Run Keeper AccessToken
  | .exchange => exchange session budget
  | .refresh => refresh session budget

end Keeper

namespace Credentials

/-- One call whose end does not matter to what follows: its result, and the credentials as they are
kept after it. -/
def call (credentials : Credentials) (session : Session) (budget : Budget) (asked : TokenCall) :
    Run Outside (Except Fault AccessToken × Credentials) := fun outside =>
  let run := Keeper.perform session budget asked ⟨outside, credentials⟩
  ⟨.ok (run.result, run.supply.credentials), run.trace, run.supply.outside⟩

/-- Calls one after the other, each with its result and the credentials after it. -/
def calls (session : Session) (budget : Budget) :
    Credentials → List TokenCall → Run Outside (List (Except Fault AccessToken × Credentials))
  | _, [] => return []
  | credentials, asked :: rest => do
      let done ← credentials.call session budget asked
      return done :: (← calls session budget done.2 rest)

end Credentials

end NodeTopology
