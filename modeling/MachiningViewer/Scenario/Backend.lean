import MachiningViewer.Backend.FetchError
import MachiningViewer.Progress.Client

/-!
# A transport and a backend that follow a script

In a scenario the world outside the library is played by two parties that do as they are told: a
transport, whose streams deliver what is pushed into them, and a backend, which answers with
prepared snapshots and texts. Either can be made to keep a request waiting.
-/

namespace MachiningViewer.Scenario

open Progress (StreamId Item TransportError)

/-- A request to one of the two parties. -/
inductive Request where
  | openStream (job : JobId)
  | fetchJob (job : JobId)
  | fetchText (locator : String)
  deriving DecidableEq, Repr

/-- What keeps a request waiting. -/
inductive Obstacle where
  /-- Requests for a stream of a job wait until the hold on them is lifted. -/
  | holdOpen (job : JobId)
  /-- Requests for a text wait until the hold on them is lifted. -/
  | holdText (locator : String)
  /-- A request for a text waits for a pass of its own. -/
  | turnstile (locator : String)
  deriving DecidableEq, Repr

/-! ### The transport -/

/-- An open stream with what it has yet to deliver. -/
structure Channel where
  stream : StreamId
  job : JobId
  waiting : List Item
  /-- The far end still sends on this stream. -/
  sending : Bool
  deriving Repr

/-- The transport of a scenario. -/
structure Transport where
  /-- The jobs for which a stream was requested, in order. -/
  requested : List JobId
  /-- How many streams were given back. -/
  returned : Nat
  /-- The streams that are out, the newest last. -/
  channels : List Channel
  nextStream : StreamId
  refusing : Bool
  /-- The jobs whose requests are kept waiting. -/
  held : List JobId
  deriving Repr

namespace Transport

def initial : Transport := ⟨[], 0, [], 0, false, []⟩

/-- Opens a stream for a job. From now on it is the one to which messages for the job go. -/
def openStream (t : Transport) (job : JobId) : Transport × Except TransportError StreamId :=
  if t.refusing then (t, .error (.opening "refused"))
  else
    let others := t.channels.map fun c => if c.job = job then { c with sending := false } else c
    let channels := others ++ [⟨t.nextStream, job, [], true⟩]
    ({ t with channels, nextStream := t.nextStream + 1 }, .ok t.nextStream)

/-- A stream is given back. -/
def giveBack (t : Transport) (stream : StreamId) : Transport :=
  { t with returned := t.returned + 1, channels := t.channels.filter (·.stream != stream) }

/-- The stream to which messages for a job go. -/
def current? (t : Transport) (job : JobId) : Option Channel :=
  t.channels.find? fun c => c.job == job && c.sending

/-- Queues something on the current stream of a job, if there is one. After an ending nothing more
is sent. -/
def send (t : Transport) (job : JobId) (item : Item) : Transport :=
  match t.current? job with
  | none => t
  | some c =>
    let sending := item != .ending
    let channels := t.channels.map fun d =>
      if d.stream = c.stream then { d with waiting := d.waiting ++ [item], sending } else d
    { t with channels }

/-- Takes out all that waits on a stream. -/
def take (t : Transport) (stream : StreamId) : Transport × List Item :=
  match t.channels.find? (·.stream == stream) with
  | none => (t, [])
  | some c =>
    let channels := t.channels.map fun d =>
      if d.stream = stream then { d with waiting := [] } else d
    ({ t with channels }, c.waiting)

end Transport

/-! ### The backend -/

/-- The backend of a scenario. -/
structure Backend where
  /-- The answers for each job, in order; the last one repeats. -/
  snapshots : List (JobId × List (Except FetchError Job))
  texts : List (String × Except FetchError String)
  /-- The jobs that never get an answer. -/
  stalled : List JobId
  /-- The locators whose requests are kept waiting by a hold. -/
  holds : List String
  /-- The locators with a turnstile, where each request waits for a pass of its own, and whether
  there is a pass that nobody has used yet. -/
  turnstiles : List (String × Bool)
  jobRequests : Nat
  textRequests : Nat

namespace Backend

def initial : Backend := ⟨[], [], [], [], [], 0, 0⟩

/-- Gives a key a value in a list of pairs. -/
def assign [DecidableEq κ] (key : κ) (value : α) (pairs : List (κ × α)) : List (κ × α) :=
  (key, value) :: pairs.filter (·.1 ≠ key)

/-- The answer to a request for a snapshot. -/
def jobAnswer (b : Backend) (job : JobId) : Backend × Except FetchError Job :=
  match b.snapshots.lookup job with
  | some (first :: next :: rest) =>
    ({ b with snapshots := assign job (next :: rest) b.snapshots }, first)
  | some [last] => (b, last)
  | _ => (b, .error (.notFound job))

/-- The answer to a request for a text. -/
def textAnswer (b : Backend) (locator : String) : Except FetchError String :=
  (b.texts.lookup locator).getD (.error (.status 404 "no such object"))

end Backend

end MachiningViewer.Scenario
