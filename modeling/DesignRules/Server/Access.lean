import DesignRules.Server.Query
import DesignRules.Text.Case
import DesignRules.Text.Chars

/-! # Access

A guard lets a request through that presents the shared token. The token stands in the
query or, if the query has none, in the authorization header. Which paths need no token is
decided on the URL of the request, which is built outside of the guard.
-/

namespace DesignRules.Server

structure Request where
  path : String
  query : String
  headers : List (String × String)

namespace Request

/-- The value of the first header with a name, in any letter case. -/
def header? (r : Request) (name : String) : Option String :=
  (r.headers.find? fun header => Text.lower header.1 == name).map (·.2)

/-- The mark of a token in a header, in lower case. -/
def bearerMark : List Char := "bearer ".toList

/-- The token of an authorization header. -/
def bearerToken (value : String) : String :=
  if bearerMark.isPrefixOf (Text.lower value).toList then
    String.ofList (Text.trimChars (value.toList.drop bearerMark.length))
  else ""

def token (r : Request) : String :=
  match (Query.last? r.query "token").filter (· != "") with
  | some token => token
  | none => bearerToken ((r.header? "authorization").getD "")

/-- The escapes of the marks that would end or split a path inside a URL. -/
def escapeMark : Char → List Char
  | '?' => "%3F".toList
  | '#' => "%23".toList
  | '\\' => "%5C".toList
  | c => [c]

/-- A path that is not empty starts at the root. -/
def rooted : List Char → List Char
  | [] => []
  | '/' :: cs => '/' :: cs
  | cs => '/' :: cs

/-- The path of the URL of a request. A URL has no room for tabs and line ends. -/
def location (r : Request) : String :=
  String.ofList (((rooted r.path.toList).flatMap escapeMark).filter
    fun c => c != '\t' && c != '\r' && c != '\n')

/-- The octets of the query, one for each of its characters, are UTF-8; no other query can
stand in a URL. -/
def hasUrl (r : Request) : Bool := Text.Utf8.isWhole (r.query.toList.map Char.toNat)

end Request

/-- A program that builds the URLs of requests. -/
class Urls where
  /-- The path of the URL of a request, if it has one. -/
  path? : Request → Option String

/-- URLs on a host that is known. -/
instance plainUrls : Urls where
  path? r := if r.hasUrl then some r.location else none

structure Guard where
  /-- The shared token; if it is empty every request passes. -/
  token : String
  /-- The paths that need no token. -/
  openPaths : List String

namespace Guard

variable [Urls]

def defaultOpenPaths : List String := ["/health"]

/-- Why a guard cannot decide about a request. -/
inductive GuardFailure where
  /-- The request has no URL. -/
  | noUrl
  /-- The shared token holds a half of a surrogate pair. -/
  | brokenToken
  deriving DecidableEq, Repr

def admits (g : Guard) (r : Request) : Except GuardFailure Bool :=
  if g.token == "" then .ok true
  else match Urls.path? r with
    | none => .error .noUrl
    | some path =>
      if g.openPaths.contains path then .ok true
      else if Text.isBroken g.token then .error .brokenToken
      else .ok (r.token == g.token)

structure Response where
  status : Nat
  body : String
  deriving DecidableEq, Repr

def denial : Response where
  status := 401
  body := "\x7b\"error\":\"Unauthorized\",\"message\":\"Invalid or missing token\"\x7d"

/-- The answer of the application behind the guard, or a denial. -/
def respond (g : Guard) (application : Request → Response) (r : Request) :
    Except GuardFailure Response :=
  (g.admits r).map fun admitted => if admitted then application r else denial

end Guard

end DesignRules.Server
