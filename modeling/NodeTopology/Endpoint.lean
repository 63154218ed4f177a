/-!
Service addresses.  Plain `http://` becomes `https://`; a base address loses its slashes at the end
before the path of a service is put on.  Main statements: what was secured is not plain, and
slashes at the end make no difference.
-/

namespace NodeTopology.Endpoint

/-- The scheme that is not to be used. -/
def plainScheme : List Char := "http://".toList

/-- The scheme that takes its place. -/
def secureScheme : List Char := "https://".toList

def isPlain (url : String) : Bool := plainScheme.isPrefixOf url.toList

def secured (url : String) : String :=
  if isPlain url then String.ofList (secureScheme ++ url.toList.drop plainScheme.length) else url

theorem plainScheme_eq : plainScheme = ['h', 't', 't', 'p', ':', '/', '/'] := by decide

theorem secureScheme_eq : secureScheme = ['h', 't', 't', 'p', 's', ':', '/', '/'] := by decide

/-- The secure scheme is not mistaken for the plain one. -/
theorem isPlain_secured (url : String) : isPlain (secured url) = false := by
  by_cases hplain : isPlain url = true
  · rw [secured, if_pos hplain, isPlain, plainScheme_eq, secureScheme_eq, String.toList_ofList]
    rfl
  · rw [secured, if_neg hplain]
    simpa using hplain

theorem secured_eq_self_iff (url : String) : secured url = url ↔ isPlain url = false := by
  constructor
  · intro hsame
    rw [← hsame]
    exact isPlain_secured url
  · intro hplain
    simp [secured, hplain]

/-- The address without slashes at its end. -/
def trimmed (url : String) : String :=
  String.ofList (url.toList.reverse.dropWhile (· == '/')).reverse

/-- Slashes at the end make no difference. -/
theorem trimmed_append_slashes (url : String) (n : Nat) :
    trimmed (url ++ String.ofList (List.replicate n '/')) = trimmed url := by
  simp [trimmed]

def generation : String := "2"

def serviceVersion : String := "2020-01-01"

/-- Where the infrastructure service at a base address lists its instances. -/
def instances (base : String) : String :=
  trimmed base ++ "/v1/instances?generation=" ++ generation ++ "&version=" ++ serviceVersion

/-- Where the identity service at a base address exchanges keys for tokens. -/
def tokenExchange (base : String) : String := trimmed base ++ "/oidc/token"

end NodeTopology.Endpoint
