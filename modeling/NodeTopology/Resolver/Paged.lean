import NodeTopology.Resolver
import NodeTopology.Text.LowerCase
/-!
The resolver that asks the infrastructure service.  The service hands out its list in pages, each
with the address of the next.  Pages are fetched one after the other until one leads nowhere or to
an address that was fetched before, so a circle of pages ends.
-/

namespace NodeTopology

/-- How to reach the infrastructure service. -/
structure InstanceService where
  credentials : Credentials
  session : Session
  budget : Budget

namespace InstanceService

/-- Whether a token says already that its bearer may use it. -/
def isBearer (token : String) : Bool := Text.beginsWithWord "bearer " token

def authorization (token : Value) : Run Outside Value :=
  if token.isVoid then pure token
  else match token with
    | .text t => pure (.text (if isBearer t then t else "Bearer " ++ t))
    | _ => throw (.misuse .noSuchMember)

/-- The page in an answer; nothing stands for a request that was never made. -/
def pageOfAnswer (url : Value) : Option (Except RemoteError Response) → Run Outside Page
  | none => throw (.misuse .noSuchMember)
  | some (.error e) => throw (.lookup (.request url e))
  | some (.ok response) =>
      if !response.isOk then throw (.lookup (.status response.status))
      else
        Run.ofExcept (DecodeFault.ending fun fault => .lookup (.body fault))
          (response.decode Page.ofValue)

def page (service : InstanceService) (url : Value) (filter : Option String) :
    Run Outside Page := do
  let answer ← Outside.request service.budget do
    return .get url filter (← authorization service.credentials.accessToken)
  pageOfAnswer url answer

/-- Where a page leads, unless that was fetched before. -/
def unseen? (seen : List String) (page : Page) : Option String :=
  page.next.filter fun url => !seen.contains url

/-- The instances of the page at an address and of the pages that follow, of which at most `links`
are fetched.  The filter goes with the first page only: further addresses hold it already. -/
def pages (service : InstanceService) :
    Nat → List String → Value → Option String → Run Outside (List Instance)
  | 0, _, url, filter => do return (← service.page url filter).instances
  | links + 1, seen, url, filter => do
      let page ← service.page url filter
      match unseen? seen page with
      | none => return page.instances
      | some next =>
          return page.instances ++ (← service.pages links (next :: seen) (.text next) none)

/-- The address of the first page among those fetched. -/
def firstSeen : Value → List String
  | .text url => [url]
  | _ => []

/-- All pages.  Each page uses up an answer of the service; once the last answer repeats, the second
page made of it leads back to its own address, so as many links as there are answers suffice. -/
def allPages (service : InstanceService) (filter : Option String) : Run Outside (List Instance) :=
  let url := service.credentials.instancesUrl
  if url.isKeyable then
    fun outside => service.pages outside.http.length (firstSeen url) url filter outside
  else throw (.misuse .wrongKind)

def instances (service : InstanceService) (filter : Option String) :
    Run Outside (List Instance) := do
  Run.log .info "Getting instance list from VPC provider"
  let found ← service.session.use (service.allPages (filter.filter fun name => !name.isEmpty))
  Run.ofExcept .lookup (Resolver.orNone found)

def resolver (service : InstanceService) : Resolver := ⟨service.instances⟩

end InstanceService

end NodeTopology
