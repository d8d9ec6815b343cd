import CacheTier.Http.Status
import CacheTier.RequestContext

/-!
# Requests and responses

What a caller sends to a service, and what the service sends back.
-/

namespace CacheTier

/-- What is to be done with a resource. -/
inductive Method where
  | get
  | head
  | post
  | put
  | delete
  /-- Any other method; no resource has it. -/
  | other (name : String)
  deriving DecidableEq, Repr, Inhabited

namespace Method

def ofName : String → Method
  | "GET" => get
  | "HEAD" => head
  | "POST" => post
  | "PUT" => put
  | "DELETE" => delete
  | name => other name

/-- The method that decides what is done: a head request is done like a get. -/
def deed : Method → Method
  | head => get
  | method => method

end Method

/-- A request to a service. -/
structure Request where
  method : Method
  /-- The path and the query. -/
  target : String
  /-- The headers in order. -/
  headers : List (String × String) := []
  body : ByteArray := .empty

namespace Request

/-- The target without what follows a number sign. -/
def locator (r : Request) : List Char := r.target.toList.takeWhile (· != '#')

/-- The path of the target. -/
def path (r : Request) : List Char := r.locator.takeWhile (· != '?')

/-- The query of the target, empty if there is none. -/
def query (r : Request) : List Char := (r.locator.dropWhile (· != '?')).drop 1

/-- The first header of a name, in any case. -/
def header? (r : Request) (name : String) : Option String :=
  (r.headers.find? fun h => h.1.map Char.toLower == name).map Prod.snd

/-- Whether a character is visible in a header. -/
def isVisible (c : Char) : Bool := c == '\t' || (0x20 ≤ c.toNat && c.toNat < 0x7f)

/-- The first header of a name, if all of it is visible. -/
def textHeader? (r : Request) (name : String) : Option String :=
  (r.header? name).filter fun value => value.toList.all isVisible

/-- Whether every header can be sent. -/
def isSendable (r : Request) : Bool := r.headers.all fun h => h.2.toList.all isVisible

/-- The context of a request, made up with a number if the caller has none. -/
def context (r : Request) (serial : Nat) : RequestContext :=
  .ofCaller (r.textHeader? RequestContext.header) serial

end Request

/-- The response of a service. -/
structure Response where
  status : Status
  contentType : Option String := none
  /-- The context that the response is marked with. -/
  context : Option RequestContext := none
  body : ByteArray := .empty

namespace Response

/-- A response without a body. -/
def bare (status : Status) : Response := { status }

/-- The type of plain text. -/
def plainText : String := "text/plain; charset=utf-8"

/-- The response to a request that cannot be understood. -/
def rejection (status : Status) : Response :=
  { status, contentType := some plainText, body := status.text.toUTF8 }

/-- The response marked with a context. -/
def tagged (response : Response) (context : RequestContext) : Response :=
  { response with context := some context }

/-- The response as far as a head request shows it. -/
def withoutBody (response : Response) : Response := { response with body := .empty }

/-- The response to a request by its method. -/
def shownTo (response : Response) (method : Method) : Response :=
  if method == .head then response.withoutBody else response

end Response
end CacheTier
