import MachiningViewer.Progress.Notices
import MachiningViewer.Progress.State

/-!
# The progress client

A client holds at most one subscription to the progress of a job. Each subscription has a reader of
its own, which opens a stream at the transport and then applies what it receives to the client's
state. The client is a machine that makes one small step for each thing that happens:

* a *call* of its owner (`Client.call`), which always takes effect at once;
* a *happening* in the world outside (`Client.step`): a reader gets its first turn, the transport
  answers a request to open a stream, or a message arrives. Each of them happens to the reader of
  one generation.

A step is what a reader does between two pauses. To take a message from the stream and to apply it
is one step, and so it is to put the stream where it is read from and to write that it is live: no
call comes in between. A step answers with its *effects*, in order: what is asked of the transport,
which streams are given back, who has to be woken, and what is reported.

When a subscription ends, its stream is taken from its reader and given back before the call
returns, so the reader finds nothing to read any more. But the transport may be working on its
request just then. Such a request stays among the client's `late` ones, and the answer may come at
any time, out of the very call that ends the subscription, or never. A stream that comes this way is
given back unread. Nothing but the current generation may change the state.
-/

namespace MachiningViewer.Progress

/-- How far the reader of a subscription is. -/
inductive Reader where
  /-- It has not had a turn yet. -/
  | fresh
  /-- It waits for the transport to open a stream. -/
  | opening
  | reading (stream : StreamId)
  | finished
  deriving DecidableEq, Repr

/-- A request for a stream of a job's progress. -/
structure Request where
  job : JobId
  generation : Nat
  deriving DecidableEq, Repr

/-- A subscription to the progress of a job. -/
structure Subscription where
  job : JobId
  generation : Nat
  reader : Reader
  deriving DecidableEq, Repr

/-- A progress client. -/
structure Client where
  state : State
  active : Option Subscription
  /-- The job of the last subscription. -/
  lastJob : Option JobId
  /-- The requests that the transport was working on when their subscriptions ended. -/
  late : List Request
  /-- How often the state was announced to those who watch it. -/
  version : Nat
  /-- The client has no owner any more, but there may still be some who watch its state. -/
  dropped : Bool
  deriving Repr

/-- What the owner of a client can do. -/
inductive Call where
  | subscribe (job : JobId)
  | unsubscribe
  /-- Opens a new stream for the job of the last subscription. -/
  | resubscribe
  | drop
  deriving DecidableEq, Repr

/-- What happens outside, to the reader of a generation. -/
inductive Happening where
  /-- The reader gets its first turn. -/
  | turn (generation : Nat)
  /-- The transport answers the reader's request. -/
  | answer (generation : Nat) (result : Except TransportError StreamId)
  /-- The reader's stream delivers something. -/
  | receive (generation : Nat) (item : Item)

/-- What a step brings about outside the client. -/
inductive Effect where
  /-- The reader of a generation is to be given turns from now on. -/
  | spawnReader (generation : Nat)
  | requestStream (generation : Nat) (job : JobId)
  | giveBack (stream : StreamId)
  /-- Those who watch the state are told that it was written. -/
  | announce
  | report (r : Log.Record)
  deriving DecidableEq, Repr

namespace Subscription

/-- The stream that the subscription holds. -/
def stream? (s : Subscription) : Option StreamId :=
  match s.reader with
  | .reading stream => some stream
  | _ => none

/-- The request of the subscription, as long as the transport works on it. -/
def request? (s : Subscription) : Option Request :=
  match s.reader with
  | .opening => some ⟨s.job, s.generation⟩
  | _ => none

/-- Does the reader wait for this? -/
def awaits (s : Subscription) : Happening → Bool
  | .turn generation => s.generation == generation && s.reader == .fresh
  | .answer generation _ => s.generation == generation && s.reader == .opening
  | .receive generation _ => s.generation == generation && s.stream?.isSome

end Subscription

namespace Client

/-- A client as it is made. -/
def initial : Client where
  state := .initial
  active := none
  lastJob := none
  late := []
  version := 0
  dropped := false

/-! ### Calls -/

/-- Does a subscription to the job stand whose stream is open, or about to be? -/
def follows (c : Client) (job : JobId) : Bool :=
  match c.active with
  | some s => s.job == job && c.state.phase.isOpen
  | none => false

/-- Ends the current subscription, if there is one, and gives its stream back. -/
def teardown (c : Client) : Client × List Effect :=
  match c.active with
  | none => (c, [])
  | some s =>
    ({ c with active := none, late := c.late ++ s.request?.toList },
      .report (Notice.closing s.job) :: s.stream?.toList.map .giveBack)

/-- Writes the state and announces it. -/
def write (c : Client) (s : State) : Client :=
  { c with state := s, version := c.version + 1 }

/-- Subscribes to a job. Nothing happens if its stream is open already, or about to be. -/
def subscribe (c : Client) (job : JobId) : Client × List Effect :=
  if c.follows job then (c, [])
  else
    let (c, closing) := c.teardown
    let c := c.write (c.state.subscribe job)
    let generation := c.state.generation
    ({ c with active := some ⟨job, generation, .fresh⟩, lastJob := some job },
      closing ++
        [.announce, .report (Notice.subscribing job generation), .spawnReader generation])

/-- Subscribes to the job of the last subscription again, if there was one. -/
def resubscribe (c : Client) : Client × List Effect :=
  match c.lastJob with
  | some job => c.subscribe job
  | none => (c, [])

/-- Gives up the subscription. -/
def unsubscribe (c : Client) : Client × List Effect :=
  let (c, closing) := c.teardown
  (c.write c.state.unsubscribe, closing ++ [.announce])

/-- The owner lets go of the client. -/
def drop (c : Client) : Client × List Effect :=
  let (c, closing) := c.teardown
  ({ c with dropped := true }, closing)

/-- A call of the owner, who is gone once the client is dropped. -/
def call (c : Client) (k : Call) : Client × List Effect :=
  if c.dropped then (c, [])
  else
    match k with
    | .subscribe job => c.subscribe job
    | .unsubscribe => c.unsubscribe
    | .resubscribe => c.resubscribe
    | .drop => c.drop

/-! ### Happenings -/

/-- Puts the reader of the current subscription somewhere else. -/
def withReader (c : Client) (s : Subscription) (r : Reader) : Client :=
  { c with active := some { s with reader := r } }

/-- Changes the state on behalf of a generation, if that is still the current one. -/
def writeCurrent (c : Client) (generation : Nat) (f : State → State) : Client × List Effect :=
  if c.state.generation = generation then (c.write (f c.state), [.announce]) else (c, [])

/-- The phase of a generation is over because its stream is gone. -/
def disconnect (c : Client) (generation : Nat) : Client × List Effect :=
  c.writeCurrent generation fun s => { s with phase := .disconnected }

/-- The transport refuses a request. -/
def refused (c : Client) (r : Request) (e : TransportError) : Client × List Effect :=
  let (c, told) := c.disconnect r.generation
  (c, .report (Notice.openFailed r.job e) :: told)

/-- The transport answers the request of the current subscription. A stream is put in its place and
the phase is written in one step. -/
def opened (c : Client) (s : Subscription) (result : Except TransportError StreamId) :
    Client × List Effect :=
  match result with
  | .ok stream =>
    if c.state.generation = s.generation then
      ((c.withReader s (.reading stream)).write { c.state with phase := .live },
        [.announce, .report (Notice.live s.job)])
    else (c.withReader s .finished, [.giveBack stream])
  | .error e => (c.withReader s .finished).refused ⟨s.job, s.generation⟩ e

/-- What the reader of a subscription makes of what its stream delivers. A message that is no
progress event is passed over. -/
def hear (c : Client) (s : Subscription) : Item → Client × List Effect
  | .message payload =>
    match Event.decode? payload with
    | none => (c, [.report (Notice.ignoringUndecodable s.job payload)])
    | some e =>
      if c.state.generation = s.generation then (c.write (c.state.apply e), [.announce])
      else (c, [.report (Notice.discardingStale s.job)])
  | .failure e =>
    let (c, told) := c.disconnect s.generation
    (c, .report (Notice.disconnected s.job e) :: told)
  | .ending =>
    let (c, told) := c.disconnect s.generation
    (c, .report (Notice.closedByServer s.job) :: told)

/-- Does the reader of a subscription read on after this? -/
def readsOn (c : Client) (s : Subscription) : Item → Bool
  | .message payload => c.state.generation == s.generation || (Event.decode? payload).isNone
  | .failure _ | .ending => false

/-- The stream of the current subscription delivers something. A reader that does not read on gives
its stream back. -/
def received (c : Client) (s : Subscription) (item : Item) : Client × List Effect :=
  let readsOn := c.readsOn s item
  let (c, told) := c.hear s item
  if readsOn then (c, told)
  else (c.withReader s .finished, told ++ s.stream?.toList.map .giveBack)

/-- The reader of the current subscription gets what it waits for. -/
def stepCurrent (c : Client) (s : Subscription) : Happening → Client × List Effect
  | .turn _ => (c.withReader s .opening, [.requestStream s.generation s.job])
  | .answer _ result => c.opened s result
  | .receive _ item => c.received s item

/-- Forgets a late request. -/
def forget (c : Client) (r : Request) : Client :=
  { c with late := c.late.erase r }

/-- The transport answers a request whose subscription has ended. -/
def answeredLate (c : Client) (r : Request) :
    Except TransportError StreamId → Client × List Effect
  | .ok stream => (c, [.report (Notice.droppingLateStream r.job), .giveBack stream])
  | .error e => c.refused r e

/-- Something happens to the reader of a subscription that has ended. It can only be an answer: a
reader that gets a turn stops before it asks for anything, and there is no stream to receive from.
-/
def stepLate (c : Client) : Happening → Client × List Effect
  | .answer generation result =>
    match c.late.find? (·.generation == generation) with
    | some r => (c.forget r).answeredLate r result
    | none => (c, [])
  | .turn _ | .receive _ _ => (c, [])

/-- One step for something that happens outside. What cannot happen in the client's state changes
nothing. -/
def step (c : Client) (h : Happening) : Client × List Effect :=
  match c.active.filter (·.awaits h) with
  | some s => c.stepCurrent s h
  | none => c.stepLate h

end Client

end MachiningViewer.Progress
