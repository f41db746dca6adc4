import MachiningViewer.Http.ContentType
import MachiningViewer.Http.Url
import MachiningViewer.Number.Binary64
import MachiningViewer.Text.Charset.Decode

/-!
# Requests and answers

What passes between the library and a server. A request asks for what a URL stands for; the answer
is a status with a body, all of which may arrive or only a part, or there is no answer at all. How
requests travel is not said here: whoever makes one is given a function that does it.
-/

namespace MachiningViewer.Http

/-- A request for what a URL stands for. -/
structure Request where
  url : Url
  /-- The types of content that are wanted. -/
  accept : String
  /-- The answer is not to be stored on its way. -/
  noStore : Bool
  deriving DecidableEq, Repr

/-- An answer. -/
structure Response where
  status : Nat
  contentType : Option String
  /-- The length of the body that is announced. -/
  announced : Option Nat
  /-- The bytes of the body that arrived. -/
  body : List UInt8
  /-- Did all of the body arrive? -/
  complete : Bool
  deriving DecidableEq, Repr

/-- What comes back for a request. -/
inductive Reply where
  /-- The connection ends without an answer. -/
  | nothing
  | response (r : Response)
  deriving DecidableEq, Repr

/-- Why a request gets no answer. -/
inductive RequestFault where
  /-- Its address is no URL. -/
  | noUrl
  /-- Nothing can be asked for with this URL. -/
  | unsupported (url : Url)
  | unanswered (url : Url)
  deriving DecidableEq, Repr

/-- The fault in words. -/
def RequestFault.message : RequestFault → String
  | noUrl => "builder error"
  | unsupported url => "builder error for url (" ++ url.write ++ ")"
  | unanswered url => "error sending request for url (" ++ url.write ++ ")"

namespace Request

/-- May a character stand in the host of a request? -/
def isHostChar (c : Char) : Bool :=
  Text.isAsciiLetter c || Text.isAsciiDigit c || "!$&'()*+,-.:;=[]_~".toList.contains c

/-- The greatest number of characters of an address that can be asked for. -/
def longestAddress : Nat := 65534

/-- Can something be asked for with a URL? -/
def isSupported (url : Url) : Bool :=
  (url.scheme == "http" || url.scheme == "https") && (url.host.getD "").toList.all isHostChar &&
    url.write.utf8ByteSize ≤ longestAddress

/-- A request for what stands at an address. User name and password are no part of what is shown of
it. -/
def ofAddress (address accept : String) (noStore : Bool) : Except RequestFault Request :=
  match (Url.parse? address).map Url.withoutUser with
  | none => .error .noUrl
  | some url => if isSupported url then .ok ⟨url, accept, noStore⟩ else .error (.unsupported url)

/-- Is the request to travel on a secure connection? -/
def isSecure (r : Request) : Bool :=
  r.url.scheme == "https"

end Request

namespace Response

/-- Does the status stand for success? -/
def isSuccess (r : Response) : Bool :=
  200 ≤ r.status && r.status < 300

/-- Does an answer with this status come without a body, whatever is announced? -/
def isBodiless (r : Response) : Bool :=
  r.status == 101 || r.status == 204 || r.status == 304

/-- Does another answer follow this one? -/
def isProvisional (r : Response) : Bool :=
  100 ≤ r.status && r.status < 200 && r.status != 101

/-- May a character stand in a field of a head? Of the control characters only the tab may. -/
def isFieldChar (c : Char) : Bool :=
  c == '\t' || (0x20 ≤ c.toNat && c.toNat ≠ 0x7F)

/-- The greatest length of a body that can be announced. -/
def greatestLength : Nat := twoTo 64 - 3

/-- Can the head of the answer be read? A status has three digits, and a length is announced in 64
bits, of which the greatest numbers stand for lengths that are not known. -/
def isReadable (r : Response) : Bool :=
  100 ≤ r.status && r.status < 1000 &&
    r.contentType.all (fun value => value.toList.all isFieldChar) &&
    (r.isBodiless || r.announced.all (· ≤ greatestLength))

/-- The bytes that arrived of the body. -/
def arrived (r : Response) : List UInt8 :=
  if r.isBodiless then [] else r.body

/-- Did all of the body arrive? -/
def isWhole (r : Response) : Bool :=
  r.isBodiless || r.complete

/-- The text of the body, in the character set that the content type names, if all of it arrived. -/
def text? (r : Response) : Option String :=
  if r.isWhole then some ((ContentType.charset r.contentType).decode r.arrived) else none

end Response

/-- What is said of a body that is cut short. -/
def cutShort : String :=
  "error decoding response body"

/-- Asks for what stands at an address. Secure connections are not made, so a request for one gets
no answer. -/
def exchange [Monad m] (send : Request → m Reply) (address accept : String) (noStore : Bool) :
    m (Except RequestFault Response) := do
  match Request.ofAddress address accept noStore with
  | .error fault => pure (.error fault)
  | .ok request =>
    if request.isSecure then pure (.error (.unanswered request.url))
    else
      match ← send request with
      | .nothing => pure (.error (.unanswered request.url))
      | .response r =>
        if r.isReadable && !r.isProvisional then pure (.ok r)
        else pure (.error (.unanswered request.url))

/-- A base address without the slashes at its end. -/
def baseAddress (address : String) : String :=
  String.ofList (Text.dropEndWhile (· == '/') address.toList)

end MachiningViewer.Http
