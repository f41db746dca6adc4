import MachiningViewer.Http.Exchange
import MachiningViewer.Text.Utf8

/-!
# Requests and answers on the wire

The bytes of a request, and a receiver that takes the bytes of an answer one by one and knows at
every time what has arrived: the head, and of the body what lies between the head and its end. The
end is told by a length, by the last of several chunks, or by the end of the connection.
-/

namespace MachiningViewer.Http

/-! ### Requests -/

/-- The host of a request with its port, if that is not the usual one. -/
def Request.authority (r : Request) : String :=
  r.url.host.getD "" ++
    match r.url.port with
    | some port => ":" ++ toString port
    | none => ""

/-- The text of a request. The connection is not used again. -/
def Request.write (r : Request) : String :=
  String.join [
    "GET ", r.url.target, " HTTP/1.1\r\n",
    "Host: ", r.authority, "\r\n",
    "Accept: ", r.accept, "\r\n",
    if r.noStore then "Cache-Control: no-store\r\n" else "",
    "Connection: close\r\n\r\n"]

/-! ### Heads of answers -/

/-- The head of an answer. -/
structure Head where
  status : Nat
  /-- The fields with their names in small letters, in order. -/
  fields : List (String × String)
  deriving DecidableEq, Repr

namespace Head

/-- The number of a status line, which starts with the version. -/
def status? (line : List Char) : Option Nat :=
  match line.splitOn ' ' with
  | version :: code :: _ =>
    if "HTTP/1.".toList.isPrefixOf version && code.length == 3 then (String.ofList code).toNat?
    else none
  | _ => none

/-- A field with its name. -/
def field? (line : List Char) : Option (String × String) :=
  match line.dropWhile (· ≠ ':') with
  | [] => none
  | _ :: value =>
    some (String.ofList ((line.takeWhile (· ≠ ':')).map Char.toLower),
      String.ofList (Text.trim value))

/-- Reads the lines of a head. -/
def ofLines? : List (List Char) → Option Head
  | [] => none
  | first :: fields => do
    let status ← status? first
    let fields ← fields.mapM field?
    pure ⟨status, fields⟩

/-- The value of a field. -/
def value? (h : Head) (name : String) : Option String :=
  h.fields.lookup name

/-- Does the body come in chunks? -/
def isChunked (h : Head) : Bool :=
  ((h.value? "transfer-encoding").getD "").map Char.toLower == "chunked"

end Head

/-! ### Receiving -/

/-- What comes next in an answer. -/
inductive Part where
  /-- The head: the line that is being received and those before it, all of them last first. -/
  | head (line : List Char) (lines : List (List Char))
  /-- So many bytes of the body. -/
  | counted (left : Nat)
  /-- The size of a chunk, of which some digits have been received, last first. -/
  | size (digits : List Char)
  /-- So many bytes of a chunk. -/
  | chunk (left : Nat)
  /-- The end of the line behind a chunk. -/
  | chunkEnd
  /-- The lines behind the last chunk. -/
  | trailer (line : List Char)
  | untilClose
  | finished
  /-- This is no answer. -/
  | broken
  deriving DecidableEq, Repr

/-- What has been received of an answer. -/
structure Receiver where
  part : Part
  head : Option Head
  /-- The bytes of the body, the last one first. -/
  body : List UInt8
  deriving Repr

namespace Receiver

/-- Nothing has been received. -/
def initial : Receiver := ⟨.head [] [], none, []⟩

/-- What comes behind a head. -/
def bodyPart (h : Head) : Part :=
  if h.status == 204 || h.status == 304 then .finished
  else if h.isChunked then .size []
  else
    match h.value? "content-length" with
    | none => .untilClose
    | some length =>
      match length.toNat? with
      | some 0 => .finished
      | some n => .counted n
      | none => .broken

/-- A line without the carriage return at its end, both last first. -/
def bareLine : List Char → List Char
  | '\r' :: line => line
  | line => line

/-- The head is complete. -/
def withHead (r : Receiver) (lines : List (List Char)) : Receiver :=
  match Head.ofLines? (lines.reverse.map List.reverse) with
  | some h => { r with head := some h, part := bodyPart h }
  | none => { r with part := .broken }

/-- A character of the head. -/
def headChar (r : Receiver) (line : List Char) (lines : List (List Char)) (c : Char) : Receiver :=
  if c = '\n' then
    match bareLine line with
    | [] => if lines.isEmpty then { r with part := .head [] [] } else r.withHead lines
    | line => { r with part := .head [] (line :: lines) }
  else { r with part := .head (c :: line) lines }

/-- The size that a line gives, before what else there may be in it. -/
def sizeOf? (line : List Char) : Option Nat :=
  let isDigit (c : Char) : Bool :=
    Text.isAsciiDigit c || ('a' ≤ c && c ≤ 'f') || ('A' ≤ c && c ≤ 'F')
  let value (c : Char) : Nat :=
    if c ≤ '9' then c.toNat - 0x30 else if c ≤ 'F' then c.toNat - 0x37 else c.toNat - 0x57
  let digits := line.takeWhile isDigit
  if digits.isEmpty then none else some (digits.foldl (fun n c => 16 * n + value c) 0)

/-- A byte of the body arrives. -/
def keep (r : Receiver) (b : UInt8) (part : Part) : Receiver :=
  { r with body := b :: r.body, part }

/-- Receives a byte. -/
def step (r : Receiver) (b : UInt8) : Receiver :=
  let c := Char.ofNat b.toNat
  match r.part with
  | .head line lines => r.headChar line lines c
  | .counted left => r.keep b (if left ≤ 1 then .finished else .counted (left - 1))
  | .size digits =>
    if c = '\n' then
      match sizeOf? digits.reverse with
      | some 0 => { r with part := .trailer [] }
      | some n => { r with part := .chunk n }
      | none => { r with part := .broken }
    else { r with part := .size (c :: digits) }
  | .chunk left => r.keep b (if left ≤ 1 then .chunkEnd else .chunk (left - 1))
  | .chunkEnd => { r with part := if c = '\n' then .size [] else .chunkEnd }
  | .trailer line =>
    if c = '\n' then { r with part := if (bareLine line).isEmpty then .finished else .trailer [] }
    else { r with part := .trailer (c :: line) }
  | .untilClose => r.keep b .untilClose
  | .finished => r
  | .broken => r

/-- Receives bytes. -/
def receive (r : Receiver) (bytes : List UInt8) : Receiver :=
  bytes.foldl step r

/-- Is there nothing more to receive? -/
def isOver (r : Receiver) : Bool :=
  r.part == .finished || r.part == .broken

/-- The connection breaks, or is given up. -/
def cut (r : Receiver) : Receiver :=
  if r.isOver then r else { r with part := .broken }

/-- Has all of the body arrived, if the connection ends now? -/
def isComplete (r : Receiver) : Bool :=
  r.part == .finished || r.part == .untilClose

/-- Takes out what has arrived of the body. -/
def takeBody (r : Receiver) : List UInt8 × Receiver :=
  (r.body.reverse, { r with body := [] })

/-- What comes back for the request, if the connection ends now. -/
def reply (r : Receiver) : Reply :=
  match r.head with
  | none => .nothing
  | some h =>
    .response {
      status := h.status
      contentType := h.value? "content-type"
      announced := (h.value? "content-length").bind (·.toNat?)
      body := r.body.reverse
      complete := r.isComplete }

end Receiver

end MachiningViewer.Http
