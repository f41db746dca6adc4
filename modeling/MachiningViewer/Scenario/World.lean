import MachiningViewer.Scenario.Backend
import MachiningViewer.Viewer.Machine

/-!
# Scenarios

A scenario is a sequence of steps in a world that holds one machine, a progress client or a viewer,
and the two scripted parties it talks to. The world gives turns to the machine's tasks one at a
time, in the order in which they were started or woken; a task keeps its turn until it has to wait.
A step usually *settles*: turns are given until every task waits.

The owner of the machine may also act in the middle of a turn: a scenario can name a request inside
which the owner makes calls, just before the answer. So an answer can come after what asked for it
has been given up.
-/

namespace MachiningViewer.Scenario

open Progress (StreamId Item)

/-- The machine of a scenario. -/
inductive Subject where
  | client (c : Progress.Client)
  | viewer (m : Viewer.Machine)

/-- What the owner of the machine does. -/
inductive Act where
  | client (k : Progress.Call)
  | viewer (k : Viewer.Call)
  deriving DecidableEq, Repr

/-- A task of the machine, with the number of its subscription or session. -/
inductive Task where
  | reader (generation : Nat)
  | tracker (session : Nat)
  | relay (session : Nat)
  deriving DecidableEq, Repr

/-- The world of a scenario. -/
structure World where
  subject : Subject
  transport : Transport
  backend : Backend
  /-- The tasks that are to get a turn, in order. -/
  ready : List Task
  /-- The tasks whose request is kept waiting. -/
  waiting : List (Task × Obstacle)
  /-- The tasks that have been given a pass at a turnstile. -/
  passes : List Task
  /-- What the owner does inside the next request of each kind. -/
  interludes : List (Request × List Act)
  log : List Log.Record

namespace World

/-- A world with a progress client. -/
def ofClient : World := ⟨.client .initial, .initial, .initial, [], [], [], [], []⟩

/-- A world with a viewer. -/
def ofViewer (pollInterval : Nat) : World :=
  ⟨.viewer (.initial pollInterval), .initial, .initial, [], [], [], [], []⟩

/-- The progress client of the world's machine. -/
def client (w : World) : Progress.Client :=
  match w.subject with
  | .client c => c
  | .viewer m => m.client

/-- The viewer of the world, if its machine is one. -/
def viewer? (w : World) : Option Viewer.Machine :=
  match w.subject with
  | .client _ => none
  | .viewer m => some m

/-- The session of the world's viewer. -/
def session? (w : World) : Option Viewer.Session :=
  w.viewer?.bind (·.session)

/-- Gives a task a turn later, unless it is to get one anyway. -/
def wake (w : World) (t : Task) : World :=
  if w.ready.contains t then w else { w with ready := w.ready ++ [t] }

/-! ### Effects -/

/-- Wakes the relay if it waits for news of the progress client. -/
def wakeRelay (w : World) : World :=
  match w.session? with
  | some s => if s.relayed.isSome then w.wake (.relay s.number) else w
  | none => w

/-- An effect of a progress client. Requests are left to the task that makes them. -/
def applyProgress (w : World) : Progress.Effect → World
  | .spawnReader generation => w.wake (.reader generation)
  | .requestStream _ job =>
    { w with transport := { w.transport with requested := w.transport.requested ++ [job] } }
  | .giveBack stream => { w with transport := w.transport.giveBack stream }
  | .announce => w.wakeRelay
  | .report r => { w with log := w.log ++ [r] }

/-- An effect of a viewer. Requests are left to the task that makes them. -/
def applyEffect (w : World) : Viewer.Effect → World
  | .progress e => w.applyProgress e
  | .spawnTracker session => w.wake (.tracker session)
  | .spawnRelay session => w.wake (.relay session)
  | .fetchJob _ _ =>
    { w with backend := { w.backend with jobRequests := w.backend.jobRequests + 1 } }
  | .fetchText _ _ =>
    { w with backend := { w.backend with textRequests := w.backend.textRequests + 1 } }
  | .announce => w
  | .report r => { w with log := w.log ++ [r] }

/-- Something happens to the machine. -/
def happen (w : World) (h : Viewer.Happening) : World × List Viewer.Effect :=
  let (subject, effects) : Subject × List Viewer.Effect :=
    match w.subject, h with
    | .client c, .progress h =>
      let (c, effects) := c.step h
      (.client c, effects.map .progress)
    | .client c, _ => (.client c, [])
    | .viewer m, h =>
      let (m, effects) := m.step h
      (.viewer m, effects)
  (effects.foldl applyEffect { w with subject }, effects)

/-- The owner of the machine acts. What does not fit the machine does nothing. -/
def act (w : World) (a : Act) : World :=
  match w.subject, a with
  | .client c, .client k =>
    let (c, effects) := c.call k
    effects.foldl applyProgress { w with subject := .client c }
  | .viewer m, .viewer k =>
    let (m, effects) := m.call k
    effects.foldl applyEffect { w with subject := .viewer m }
  | _, _ => w

/-- What the owner does inside a request. It is done once. -/
def interlude (w : World) (r : Request) : World :=
  match w.interludes.lookup r with
  | none => w
  | some acts => acts.foldl act { w with interludes := w.interludes.filter (·.1 ≠ r) }

/-! ### Turns -/

/-- Is the reader of a generation the current one, and where does it stand? -/
def reader? (w : World) (generation : Nat) : Option Progress.Subscription :=
  w.client.active.filter (·.generation == generation)

/-- The reader of a generation takes all that waits on its stream, as far as it reads on. -/
def drain (w : World) (generation : Nat) (stream : StreamId) : World :=
  let (transport, items) := w.transport.take stream
  items.foldl (fun w item => (w.happen (.progress (.receive generation item))).1)
    { w with transport }

/-- The transport answers a request, and the reader goes on. -/
def answerOpen (w : World) (generation : Nat) (job : JobId) : World :=
  let w := w.interlude (.openStream job)
  let (transport, result) := w.transport.openStream job
  (({ w with transport } : World).happen (.progress (.answer generation result))).1

/-- The transport gets a request. -/
def requestOpen (w : World) (generation : Nat) (job : JobId) : World :=
  if w.transport.held.contains job then
    { w with waiting := w.waiting ++ [(.reader generation, .holdOpen job)] }
  else w.answerOpen generation job

/-- A reader's turn. -/
def readerTurn (w : World) (generation : Nat) : World :=
  match w.reader? generation with
  | none => w
  | some s =>
    match s.reader with
    | .fresh => (w.happen (.progress (.turn generation))).1.requestOpen generation s.job
    | .opening => w.answerOpen generation s.job
    | .reading stream => w.drain generation stream
    | .finished => w

/-- The backend answers a request for a text, and the tracker goes on. -/
def answerText (w : World) (session : Nat) (locator : String) : World :=
  let w := w.interlude (.fetchText locator)
  (w.happen (.textAnswer session (w.backend.textAnswer locator))).1

/-- A request for a text comes to the turnstile of its locator, if that has one. -/
def passTurnstile (w : World) (session : Nat) (locator : String) : World :=
  match w.backend.turnstiles.lookup locator with
  | none => w.answerText session locator
  | some true =>
    let turnstiles := Backend.assign locator false w.backend.turnstiles
    ({ w with backend := { w.backend with turnstiles } } : World).answerText session locator
  | some false => { w with waiting := w.waiting ++ [(.tracker session, .turnstile locator)] }

/-- The backend gets a request for a text. -/
def requestText (w : World) (session : Nat) (locator : String) : World :=
  if w.backend.holds.contains locator then
    { w with waiting := w.waiting ++ [(.tracker session, .holdText locator)] }
  else w.passTurnstile session locator

/-- The text that the effects of a step ask for, if they do. -/
def textRequest? (effects : List Viewer.Effect) : Option (Nat × String) :=
  effects.findSome? fun
    | .fetchText session artefact => some (session, artefact.locator)
    | _ => none

/-- The backend answers a request for a snapshot, and the tracker goes on. -/
def answerJob (w : World) (session : Nat) (job : JobId) : World :=
  let w := w.interlude (.fetchJob job)
  let (backend, result) := w.backend.jobAnswer job
  let (w, effects) := ({ w with backend } : World).happen (.jobAnswer session result)
  match textRequest? effects with
  | some (session, locator) => w.requestText session locator
  | none => w

/-- A tracker's turn. One whose time has not come yet goes on waiting. -/
def trackerTurn (w : World) (session : Nat) : World :=
  match w.session?.filter (·.number == session) with
  | none => w
  | some s =>
    match s.tracker with
    | .fetchingText artefact _ =>
      if w.passes.contains (.tracker session) then
        ({ w with passes := w.passes.erase (.tracker session) } : World).answerText session
          artefact.locator
      else w.passTurnstile session artefact.locator
    | _ =>
      let (w, effects) := w.happen (.trackerTurn session)
      let asks := effects.any fun
        | .fetchJob _ _ => true
        | _ => false
      if asks && !w.backend.stalled.contains s.job then w.answerJob session s.job else w

/-- A relay's turn. -/
def relayTurn (w : World) (session : Nat) : World :=
  match w.session?.filter (·.number == session) with
  | none => w
  | some _ => (w.happen (.relayTurn session)).1

/-- A task's turn. A task whose subscription or session has ended gets none. -/
def turn (w : World) : Task → World
  | .reader generation => w.readerTurn generation
  | .tracker session => w.trackerTurn session
  | .relay session => w.relayTurn session

/-- Gives turns until nobody is ready, at most as many as there is fuel for. -/
def run : Nat → World → World
  | 0, w => w
  | fuel + 1, w =>
    match w.ready with
    | [] => w
    | t :: ts => run fuel (({ w with ready := ts } : World).turn t)

/-- More turns than can be given: those of the tasks that are ready and of the three that each act
of an interlude may start, and for each of them one of a relay that it wakes. -/
def turns (w : World) : Nat :=
  let acts := w.interludes.foldl (fun n i => n + i.2.length) 0
  2 * (w.ready.length + 3 * acts) + 2

/-- Gives turns until every task waits. -/
def settle (w : World) : World :=
  w.run w.turns

/-! ### Steps -/

/-- A step of a scenario. -/
inductive Step where
  | act (a : Act)
  /-- Sends something on the current stream of a job. -/
  | send (job : JobId) (item : Item)
  | refuse (on : Bool)
  | holdOpen (job : JobId)
  | releaseOpen (job : JobId)
  /-- The owner is to act inside the next such request. -/
  | during (r : Request) (acts : List Act)
  | script (job : JobId) (snapshots : List (Except FetchError Job))
  | serveText (locator : String) (result : Except FetchError String)
  | stall (job : JobId)
  | holdText (locator : String)
  | releaseText (locator : String)
  | gateText (locator : String)
  | ungateText (locator : String)
  | advance (milliseconds : Nat)
  | settle

/-- Lets all whom an obstacle keeps waiting go on. -/
def release (w : World) (o : Obstacle) : World :=
  let (going, staying) := w.waiting.partition (·.2 = o)
  going.foldl (fun w (t, _) => w.wake t) { w with waiting := staying }

/-- Does the subscription or session of a task still stand? -/
def isCurrent (w : World) : Task → Bool
  | .reader generation => (w.reader? generation).isSome
  | .tracker session | .relay session => w.session?.any (·.number == session)

/-- Gives a pass to the one that waits at a turnstile, or lays it aside for the next one. -/
def ungate (w : World) (locator : String) : World :=
  if (w.backend.turnstiles.lookup locator).isNone then w
  else
    match w.waiting.find? fun (t, o) => o = .turnstile locator && w.isCurrent t with
    | some (t, o) =>
      ({ w with waiting := w.waiting.erase (t, o), passes := t :: w.passes } : World).wake t
    | none =>
      { w with backend :=
        { w.backend with turnstiles := Backend.assign locator true w.backend.turnstiles } }

/-- Puts up a new turnstile in the place of an old one. Whoever waits at the old one waits for
good. -/
def gate (w : World) (locator : String) : World :=
  { w with
    waiting := w.waiting.filter (·.2 ≠ .turnstile locator)
    backend :=
      { w.backend with turnstiles := Backend.assign locator false w.backend.turnstiles } }

/-- The reader of a job's current stream has something to take. -/
def wakeReader (w : World) (job : JobId) : World :=
  match w.client.active, w.transport.current? job with
  | some s, some c => if s.reader = .reading c.stream then w.wake (.reader s.generation) else w
  | _, _ => w

/-- The time moves on in one jump. Tasks that are ready get their turns at the new time before the
sleeping ones wake. -/
def advance (w : World) (milliseconds : Nat) : World :=
  let w := (w.happen (.elapse milliseconds)).1.settle
  match w.viewer? with
  | none => w
  | some m =>
    match m.session with
    | some s =>
      match s.tracker with
      | .sleeping wake => if wake ≤ m.clock then w.wake (.tracker s.number) else w
      | _ => w
    | none => w

/-- What a step does at once. -/
def apply (w : World) : Step → World
  | .act a => w.act a
  | .send job item => { w.wakeReader job with transport := w.transport.send job item }
  | .refuse on => { w with transport := { w.transport with refusing := on } }
  | .holdOpen job => { w with transport := { w.transport with held := job :: w.transport.held } }
  | .releaseOpen job =>
    ({ w with transport :=
      { w.transport with held := w.transport.held.filter (· ≠ job) } } : World).release
        (.holdOpen job)
  | .during r acts => { w with interludes := Backend.assign r acts w.interludes }
  | .script job snapshots =>
    { w with backend :=
      { w.backend with snapshots := Backend.assign job snapshots w.backend.snapshots } }
  | .serveText locator result =>
    { w with backend :=
      { w.backend with texts := Backend.assign locator result w.backend.texts } }
  | .stall job => { w with backend := { w.backend with stalled := job :: w.backend.stalled } }
  | .holdText locator =>
    { w with backend := { w.backend with holds := locator :: w.backend.holds } }
  | .releaseText locator =>
    ({ w with backend :=
      { w.backend with holds := w.backend.holds.filter (· ≠ locator) } } : World).release
        (.holdText locator)
  | .gateText locator => w.gate locator
  | .ungateText locator => w.ungate locator
  | .advance milliseconds => w.advance milliseconds
  | .settle => w

/-- Takes a step, and settles if the step is one that does. -/
def take (w : World) (s : Step) (settles : Bool) : World :=
  let w := w.apply s
  if settles then w.settle else w

end World

end MachiningViewer.Scenario
