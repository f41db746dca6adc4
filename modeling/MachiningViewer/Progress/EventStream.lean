import MachiningViewer.Http.Exchange
import MachiningViewer.Progress.Client

/-!
# Event streams

A server sends the progress of a job as a stream of events, which is a text: lines that give fields,
lines that are comments, and after each event a blank line. A line ends with a line feed, a carriage
return, or both. An event is given out at its blank line if it has any data, and what is unfinished
at the end of the stream is lost.

Events may have names. Those without a name, or with the name `message`, are the messages of the
stream; the others (heartbeats and the like) are passed over.
-/

namespace MachiningViewer.Progress

namespace EventStream

/-! ### Lines -/

/-- What a line of the stream is. -/
inductive Line where
  | blank
  | comment
  | field (name value : List Char)
  deriving DecidableEq, Repr

/-- The lines of a text that are ended. A carriage return at the very end may be half of a line's
end, so it ends nothing yet. -/
def endedLines (line : List Char) : List Char → List (List Char)
  | [] => []
  | ['\r'] => []
  | '\r' :: '\n' :: rest => line.reverse :: endedLines [] rest
  | c :: rest =>
    if c = '\n' ∨ c = '\r' then line.reverse :: endedLines [] rest else endedLines (c :: line) rest

/-- A value without the one space that may stand before it. -/
def bareValue : List Char → List Char
  | ' ' :: value => value
  | value => value

/-- Reads a line. A line without a colon is a field without a value. -/
def Line.ofChars (cs : List Char) : Line :=
  match cs with
  | [] => .blank
  | ':' :: _ => .comment
  | cs => .field (cs.takeWhile (· ≠ ':')) (bareValue ((cs.dropWhile (· ≠ ':')).drop 1))

/-! ### Events -/

/-- An event. -/
structure Event where
  name : String
  data : String
  deriving DecidableEq, Repr

/-- What has been read of an event. -/
structure Draft where
  name : List Char
  /-- The values of the data fields, the last one first. -/
  data : List (List Char)
  deriving DecidableEq, Repr

/-- Nothing has been read. -/
def Draft.empty : Draft := ⟨[], []⟩

/-- The event that is given out at a blank line. Its data fields are its lines. -/
def Draft.event? (d : Draft) : Option Event :=
  if d.data.isEmpty then none
  else some ⟨String.ofList d.name, String.ofList (['\n'].intercalate d.data.reverse)⟩

/-- Adds a field. Only those for the name and the data matter. -/
def Draft.add (d : Draft) (name value : List Char) : Draft :=
  if name = "event".toList then { d with name := value }
  else if name = "data".toList then { d with data := value :: d.data }
  else d

/-- The events of lines, when something has been read of the first one. -/
def events (d : Draft) : List Line → List Event
  | [] => []
  | .blank :: ls => d.event?.toList ++ events .empty ls
  | .comment :: ls => events d ls
  | .field name value :: ls => events (d.add name value) ls

/-- Is an event a message? -/
def Event.isMessage (e : Event) : Bool :=
  e.name.isEmpty || e.name == "message"

/-- The events of a text. -/
def eventsOf (cs : List Char) : List Event :=
  events .empty ((endedLines [] cs).map Line.ofChars)

/-- A text without the byte order mark that may stand at its front. -/
def withoutMark : List Char → List Char
  | '\uFEFF' :: cs => cs
  | cs => cs

/-- The messages of a text, in order. -/
def messages (cs : List Char) : List String :=
  ((eventsOf (withoutMark cs)).filter (·.isMessage)).map (·.data)

/-! ### Streams in pieces -/

/-- The first line of a text if it is ended, and what follows it. -/
def cutLine? : List Char → Option (List Char × List Char)
  | [] => none
  | ['\r'] => none
  | '\r' :: '\n' :: rest => some ([], rest)
  | c :: rest =>
    if c = '\n' ∨ c = '\r' then some ([], rest)
    else (cutLine? rest).map fun (line, rest) => (c :: line, rest)

/-- The lines of a text up to the first blank one, which is among them, and what follows it. Each
line takes up a character of the text, so its length is fuel enough. -/
def cutBlock? : Nat → List Char → Option (List Line × List Char)
  | 0, _ => none
  | fuel + 1, cs =>
    match cutLine? cs with
    | none => none
    | some (line, rest) =>
      match Line.ofChars line with
      | .blank => some ([.blank], rest)
      | line => (cutBlock? fuel rest).map fun (lines, rest) => (line :: lines, rest)

/-- The messages at the front of a text whose events are ended, and the text that is left. -/
def takeMessages : Nat → List Char → List String × List Char
  | 0, cs => ([], cs)
  | fuel + 1, cs =>
    match cutBlock? (cs.length + 1) cs with
    | none => ([], cs)
    | some (lines, rest) =>
      let (more, rest) := takeMessages fuel rest
      (((events .empty lines).filter (·.isMessage)).map (·.data) ++ more, rest)

/-- What has been received of a stream and not been given out. -/
structure Receiving where
  /-- Nothing has been received at all. -/
  isFresh : Bool
  bytes : List UInt8
  text : List Char
  deriving Repr

namespace Receiving

/-- The start of a stream. -/
def initial : Receiving := ⟨true, [], []⟩

/-- Receives bytes, and gives out the messages that they complete. -/
def receive (r : Receiving) (bytes : List UInt8) : Receiving × List String :=
  let (cs, remainder) := Text.Utf8.decodePart (r.bytes ++ bytes)
  let cs := if r.isFresh then withoutMark cs else cs
  let text := r.text ++ cs
  let (messages, rest) := takeMessages (text.length + 1) text
  (⟨r.isFresh && cs.isEmpty, remainder, rest⟩, messages)

/-- What the stream delivers when it ends, with all of its body or without. -/
def finish (r : Receiving) (isWhole : Bool) : List Item :=
  (if isWhole then [] else [.failure (.stream ("Transport error: " ++ Http.cutShort))]) ++
    (if r.bytes.isEmpty then []
      else [.failure (.stream ("UTF8 error: " ++ Text.Utf8.fault r.bytes))]) ++
    [.ending]

end Receiving

/-! ### Streams -/

/-- What a stream delivers whose body is given: the messages of as much as is UTF-8, a failure if
the body is cut short, and one if there are bytes that are not UTF-8. -/
def items (r : Http.Response) : List Item :=
  let (cs, remainder) := Text.Utf8.decodePart r.arrived
  (messages cs).map .message ++
    (if r.isWhole then [] else [.failure (.stream ("Transport error: " ++ Http.cutShort))]) ++
    (if remainder.isEmpty then []
      else [.failure (.stream ("UTF8 error: " ++ Text.Utf8.fault remainder))])

end EventStream

/-- The address of a job's event stream at a backend. -/
def eventsAddress (base : String) (job : JobId) : String :=
  base ++ "/api/v1/sim/" ++ toString job ++ "/events"

/-- An event stream is about to be opened. -/
def Notice.openingStream (job : JobId) (address : String) : Log.Record where
  level := .debug
  target := "toolview::progress::sse"
  message := "Opening event stream"
  fields := [("job_id", toString job), ("url", address)]

/-- What an answer to the request for an event stream means. -/
def readStream (answer : Except Http.RequestFault Http.Response) :
    Except TransportError (List Item) :=
  match answer with
  | .error fault => .error (.opening fault.message)
  | .ok r => if r.isSuccess then .ok (EventStream.items r) else .error (.status r.status)

/-- Opens the event stream of a job, and answers with all that it delivers before its end. -/
def openStream [Monad m] (send : Http.Request → m Http.Reply) (base : String) (job : JobId) :
    m (Except TransportError (List Item) × List Log.Record) := do
  let address := eventsAddress base job
  let answer ← Http.exchange send address "text/event-stream" false
  pure (readStream answer, [Notice.openingStream job address])

end MachiningViewer.Progress
