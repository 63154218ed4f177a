import NodeTopology.Fault
import NodeTopology.Json
import NodeTopology.Shape
/-!
HTTP requests and responses.  Instances are listed with a bearer token and perhaps a name to filter
by; keys are exchanged for tokens with basic authorization and a form.
-/

namespace NodeTopology

inductive Request where
  /-- Fetch a page of the instance list. -/
  | get (url : Value) (filter : Option String) (authorization : Value)
  /-- Exchange an API key for a token. -/
  | post (url : Value) (apiKey : Value) (authorization : String)

namespace Request

def timeoutMs : Int := 30000

/-- The kind of exchange that turns an API key into a token. -/
def grantType : String := "urn:ibm:params:oauth:grant-type:apikey"

def url : Request → Value
  | get url _ _ => url
  | post url _ _ => url

def headers : Request → Entries Value
  | get _ _ authorization =>
      [("Content-Type", .text "application/json"), ("Accept", .text "application/json"),
        ("Authorization", authorization)]
  | post _ _ authorization =>
      [("Authorization", .text authorization), ("Accept", .text "application/json")]

def parameters : Option String → Option (List (String × String)) :=
  Option.map fun name => [("name", name)]

def form (apiKey : Value) : Entries Value :=
  [("grant_type", .text grantType), ("apikey", apiKey)]

end Request

/-- An HTTP response, with the reader that its body meets: how much room there is hangs on where in
a run the response is read. -/
structure Response where
  status : Int
  body : String
  reader : Json.Reader

/-- Why a response gives no record. -/
inductive DecodeFault where
  /-- The body is of no use, which is reported. -/
  | body (fault : BodyFault)
  /-- The body is nested deeper than its reader can go, which nobody catches. -/
  | tooDeep
deriving Repr, DecidableEq

/-- How a run ends that cannot decode a response, given how it reports a body of no use. -/
def DecodeFault.ending (report : BodyFault → Fault) : DecodeFault → Fault
  | body fault => report fault
  | tooDeep => .misuse .tooDeep

namespace Response

/-- Whether a response reports no error: as the HTTP library has it, its status is not from 400 to
599. -/
def isOk (response : Response) : Bool := !(400 ≤ response.status && response.status < 600)

/-- The record in a response's body.  The HTTP library reads the body as JSON; its refusals are
caught, all but that of a body nested too deep. -/
def decode {α : Type} (read : Value → Except ShapeFault α) (response : Response) :
    Except DecodeFault α :=
  match Json.read response.reader response.body with
  | .error .malformed => .error (.body .notJson)
  | .error .longInteger => .error (.body .longInteger)
  | .error .tooDeep => .error .tooDeep
  | .ok value => (read value).mapError (.body ∘ .otherShape)

end Response

end NodeTopology
