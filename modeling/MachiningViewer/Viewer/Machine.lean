import MachiningViewer.Backend.FetchError
import MachiningViewer.Progress.Client
import MachiningViewer.Viewer.Notices
import MachiningViewer.Viewer.View

/-!
# The viewer

A viewer shows one job at a time. Opening a job starts a *session*, in which two flows run side by
side: the *tracker* fetches snapshots of the job until it is at its end, and the text of its
toolpath once there is one; the *relay* copies what the progress client knows into the view. Each
session has a number of its own, and only the current one may change the view.

Like the progress client it owns, a viewer is a machine with calls (`Machine.call`), happenings
(`Machine.step`) and effects, and a step is what a task does between two pauses. When a session
ends, nothing is started for it any more. What outlives it is a fetch that the backend is still
working on, among the viewer's `late` fetches. The answer may come at any time, out of the very call
that ends the session, or never.

On one thread that is all. A session that is ended on another thread than its tasks run on may also
leave a relay that has taken something from the progress client and not written it yet. It is the
one thing finer than a step that is kept, among the `lateRelays`; a run without late turns of the
relay is one on a single thread.

Time is counted in milliseconds and moves on only when it is told to.
-/

namespace MachiningViewer.Viewer

/-- How far the tracker of a session is. -/
inductive Tracker where
  /-- It has not had a turn yet. -/
  | fresh
  | fetchingJob
  /-- It waits for the text of a toolpath; the snapshot that led to it had the given status. -/
  | fetchingText (artefact : ArtefactRef) (status : JobStatus)
  /-- It waits for the time of the next snapshot. -/
  | sleeping (wake : Nat)
  | finished
  deriving DecidableEq, Repr

/-- A session on a job. -/
structure Session where
  job : JobId
  number : Nat
  /-- Has the toolpath been loaded in this session? -/
  loaded : Bool
  tracker : Tracker
  /-- The version of the progress client's state that the relay has seen. -/
  relayed : Option Nat
  deriving DecidableEq, Repr

/-- What a fetch is for. -/
inductive Fetch where
  | job
  | text (status : JobStatus)
  deriving DecidableEq, Repr

/-- A fetch whose session has ended. -/
structure LateFetch where
  job : JobId
  number : Nat
  fetch : Fetch
  deriving DecidableEq, Repr

/-- A relay whose session has ended while it was copying, on another thread. -/
structure LateRelay where
  job : JobId
  number : Nat
  /-- What it has taken from the progress client. -/
  taken : Progress.State
  deriving Repr

/-- A viewer. -/
structure Machine where
  client : Progress.Client
  view : View
  /-- How often the view was announced to those who watch it. -/
  version : Nat
  session : Option Session
  late : List LateFetch
  lateRelays : List LateRelay
  /-- The least time between two snapshots of a job. -/
  pollInterval : Nat
  clock : Nat
  /-- The viewer has no owner any more, but there may still be some who watch its view. -/
  dropped : Bool
  deriving Repr

/-- What the owner of a viewer can do. -/
inductive Call where
  /-- Starts a session on a job. -/
  | view (job : JobId)
  | close
  /-- Opens the progress stream of the session again. -/
  | retryStream
  | drop
  deriving DecidableEq, Repr

/-- What happens outside. -/
inductive Happening where
  | progress (h : Progress.Happening)
  /-- The tracker of a session gets a turn: its first one, or the one it waited for. -/
  | trackerTurn (session : Nat)
  /-- The backend answers the request of a session for a snapshot. -/
  | jobAnswer (session : Nat) (result : Except FetchError Job)
  /-- The backend answers the request of a session for a text. -/
  | textAnswer (session : Nat) (result : Except FetchError String)
  /-- The relay of a session gets a turn. -/
  | relayTurn (session : Nat)
  | elapse (milliseconds : Nat)

/-- What a step brings about outside the viewer. -/
inductive Effect where
  | progress (e : Progress.Effect)
  /-- The tracker of a session is to be given turns from now on. -/
  | spawnTracker (session : Nat)
  /-- The relay of a session is to be given turns from now on. -/
  | spawnRelay (session : Nat)
  | fetchJob (session : Nat) (job : JobId)
  | fetchText (session : Nat) (artefact : ArtefactRef)
  /-- Those who watch the view are told that it was written. -/
  | announce
  | report (r : Log.Record)
  deriving DecidableEq, Repr

/-- The fetch that outlives the session if it ends now. -/
def Session.pending? (s : Session) : Option LateFetch :=
  match s.tracker with
  | .fetchingJob => some ⟨s.job, s.number, .job⟩
  | .fetchingText _ status => some ⟨s.job, s.number, .text status⟩
  | _ => none

namespace Machine

/-- A viewer as it is made. -/
def initial (pollInterval : Nat) : Machine where
  client := .initial
  view := .initial
  version := 0
  session := none
  late := []
  lateRelays := []
  pollInterval
  clock := 0
  dropped := false

/-- The job of the session, if there is one. -/
def sessionJob? (m : Machine) : Option JobId :=
  m.session.map (·.job)

/-- The session whose tracker makes a pause, and when that ends. -/
def pause? (m : Machine) : Option (Nat × Nat) :=
  m.session.bind fun s =>
    match s.tracker with
    | .sleeping wake => some (s.number, wake)
    | _ => none

/-- Writes the view and announces it. -/
def write (m : Machine) (v : View) : Machine :=
  { m with view := v, version := m.version + 1 }

/-- Hands a step of the progress client on. -/
def withClient (m : Machine) (r : Progress.Client × List Progress.Effect) :
    Machine × List Effect :=
  ({ m with client := r.1 }, r.2.map .progress)

/-! ### Calls -/

/-- Ends the session, if there is one. -/
def cancel (m : Machine) : Machine × List Effect :=
  match m.session with
  | none => (m, [])
  | some s =>
    ({ m with
        session := none
        late := m.late ++ s.pending?.toList
        lateRelays := m.lateRelays ++ [⟨s.job, s.number, m.client.state⟩] },
      [.report (Notice.cancelling s.job)])

/-- Starts a session on a job, after the one before it is ended. A stream of the same job is kept.
-/
def openJob (m : Machine) (job : JobId) : Machine × List Effect :=
  let (m, cancelled) := m.cancel
  let number := m.view.session + 1
  let m := m.write (.opened job number)
  let (m, subscribed) := m.withClient (m.client.subscribe job)
  ({ m with session := some ⟨job, number, false, .fresh, none⟩ },
    cancelled ++ [.announce, .report (Notice.opening job number), .spawnTracker number] ++
      subscribed ++ [.spawnRelay number])

/-- Ends the session and gives up the progress stream. -/
def close (m : Machine) : Machine × List Effect :=
  let said := m.sessionJob?.toList.map fun job => Effect.report (Notice.closing job)
  let (m, cancelled) := m.cancel
  let (m, unsubscribed) := m.withClient m.client.unsubscribe
  (m.write m.view.closed, said ++ cancelled ++ unsubscribed ++ [.announce])

/-- Opens the progress stream again, if there is a session and its stream is neither open nor about
to be. -/
def retryStream (m : Machine) : Machine × List Effect :=
  match m.session with
  | some _ => m.withClient m.client.resubscribe
  | none => (m, [])

/-- The owner lets go of the viewer, and with it of the progress client. -/
def drop (m : Machine) : Machine × List Effect :=
  let (m, cancelled) := m.cancel
  let (m, dropped) := m.withClient m.client.drop
  ({ m with dropped := true }, cancelled ++ dropped)

/-- A call of the owner, who is gone once the viewer is dropped. -/
def call (m : Machine) (k : Call) : Machine × List Effect :=
  if m.dropped then (m, [])
  else
    match k with
    | .view job => m.openJob job
    | .close => m.close
    | .retryStream => m.retryStream
    | .drop => m.drop

/-! ### The tracker -/

/-- Puts the tracker of the session somewhere else. -/
def withTracker (m : Machine) (s : Session) (t : Tracker) : Machine :=
  { m with session := some { s with tracker := t } }

/-- Changes the view on behalf of a session, if that is still the current one. -/
def writeCurrent (m : Machine) (number : Nat) (f : View → View) : Machine × List Effect :=
  if m.view.session = number then (m.write (f m.view), [.announce]) else (m, [])

/-- Asks for a snapshot. -/
def requestJob (m : Machine) (s : Session) : Machine × List Effect :=
  (m.withTracker s .fetchingJob, [.fetchJob s.number s.job])

/-- Waits for the time of the next snapshot. -/
def sleep (m : Machine) (s : Session) : Machine :=
  m.withTracker s (.sleeping (m.clock + m.pollInterval))

/-- What follows when all that a snapshot led to is done: tracking ends with the job. -/
def afterRound (m : Machine) (s : Session) (status : JobStatus) : Machine × List Effect :=
  if status.isTerminal then
    (m.withTracker s .finished, [.report (Notice.jobFinished s.job status)])
  else (m.sleep s, [])

/-- A snapshot arrives for the session. If it tells of a toolpath that is not loaded yet, its text
is fetched before anything else. -/
def receivedJob (m : Machine) (s : Session) (job : Job) : Machine × List Effect :=
  if m.view.session = s.number then
    let m := m.write (m.view.withJob job)
    let said := [.announce, .report (Notice.appliedSnapshot s.job job.status)]
    match job.resolve? .toolpathText, s.loaded with
    | some artefact, false =>
      (m.withTracker s (.fetchingText artefact job.status),
        said ++ [.fetchText s.number artefact])
    | _, _ =>
      let (m, after) := m.afterRound s job.status
      (m, said ++ after)
  else (m.withTracker s .finished, [.report (Notice.discardingSnapshot s.job)])

/-- A snapshot cannot be had. Only a job that is not known is given up. -/
def receivedJobError (m : Machine) (s : Session) (e : FetchError) : Machine × List Effect :=
  let (m, told) := m.writeCurrent s.number fun v => v.withError e.message
  let m := if e.isNotFound then m.withTracker s .finished else m.sleep s
  (m, .report (Notice.snapshotFailed s.job e.message) :: told)

/-- The backend answers the session's request for a snapshot. -/
def answeredJob (m : Machine) (s : Session) : Except FetchError Job → Machine × List Effect
  | .ok job => m.receivedJob s job
  | .error e => m.receivedJobError s e

/-- The text of the toolpath arrives for the session, or cannot be had. -/
def receivedText (m : Machine) (s : Session) (status : JobStatus)
    (result : Except FetchError String) : Machine × List Effect :=
  match result with
  | .ok text =>
    let t := Toolpath.interpret text
    let loaded := m.view.session == s.number
    let (m, told) := m.writeCurrent s.number fun v => v.withToolpath t
    let (m, after) := m.afterRound { s with loaded } status
    (m, .report t.notice :: .report (Notice.toolpathLoaded s.job t) :: told ++ after)
  | .error e =>
    let (m, told) := m.writeCurrent s.number fun v => v.withToolpathError e.message
    let (m, after) := m.afterRound s status
    (m, .report (Notice.toolpathFailed s.job e.message) :: told ++ after)

/-! ### The relay -/

/-- Copies a state of the progress client into the view on behalf of a session, if it is a state of
the session's job. -/
def copyProgress (m : Machine) (job : JobId) (number : Nat) (p : Progress.State) :
    Machine × List Effect :=
  if p.job = some job then m.writeCurrent number fun v => v.withProgress p else (m, [])

/-- The relay copies the progress client's state into the view if it has not seen it yet. -/
def relay (m : Machine) (s : Session) : Machine × List Effect :=
  if s.relayed = some m.client.version then (m, [])
  else
    ({ m with session := some { s with relayed := some m.client.version } } : Machine).copyProgress
      s.job s.number m.client.state

/-! ### After the end of a session -/

/-- What is said at the end of a job although nobody tracks it any more. -/
def lastWord (job : JobId) (status : JobStatus) : List Effect :=
  if status.isTerminal then [.report (Notice.jobFinished job status)] else []

/-- A snapshot arrives for a session that has ended. Nothing more is fetched for it. -/
def lateJob (m : Machine) (l : LateFetch) (result : Except FetchError Job) :
    Machine × List Effect :=
  match result with
  | .ok job =>
    if m.view.session = l.number then
      (m.write (m.view.withJob job),
        [.announce, .report (Notice.appliedSnapshot l.job job.status)] ++ lastWord l.job job.status)
    else (m, [.report (Notice.discardingSnapshot l.job)])
  | .error e =>
    let (m, told) := m.writeCurrent l.number fun v => v.withError e.message
    (m, .report (Notice.snapshotFailed l.job e.message) :: told)

/-- A text arrives for a session that has ended. -/
def lateText (m : Machine) (l : LateFetch) (status : JobStatus)
    (result : Except FetchError String) : Machine × List Effect :=
  match result with
  | .ok text =>
    let t := Toolpath.interpret text
    let (m, told) := m.writeCurrent l.number fun v => v.withToolpath t
    (m, .report t.notice :: .report (Notice.toolpathLoaded l.job t) :: told ++
      lastWord l.job status)
  | .error e =>
    let (m, told) := m.writeCurrent l.number fun v => v.withToolpathError e.message
    (m, .report (Notice.toolpathFailed l.job e.message) :: told ++ lastWord l.job status)

/-- The late fetch of a session, if it is the one that is meant. -/
def late? (m : Machine) (number : Nat) (isMeant : Fetch → Bool) : Option LateFetch :=
  m.late.find? fun l => l.number == number && isMeant l.fetch

/-- Forgets a late fetch. -/
def forget (m : Machine) (l : LateFetch) : Machine :=
  { m with late := m.late.erase l }

/-- A relay whose session has ended writes what it has taken, and stops. -/
def lateRelay (m : Machine) (l : LateRelay) : Machine × List Effect :=
  ({ m with lateRelays := m.lateRelays.filter (·.number != l.number) } : Machine).copyProgress
    l.job l.number l.taken

/-! ### Happenings -/

/-- The session of a number, if it is the current one. -/
def current? (m : Machine) (number : Nat) : Option Session :=
  m.session.filter (·.number == number)

/-- Something happens to the current session. It passes by if the session does not wait for it. -/
def stepCurrent (m : Machine) (s : Session) : Happening → Machine × List Effect
  | .trackerTurn _ =>
    match s.tracker with
    | .fresh => m.requestJob s
    | .sleeping wake => if wake ≤ m.clock then m.requestJob s else (m, [])
    | _ => (m, [])
  | .jobAnswer _ result =>
    match s.tracker with
    | .fetchingJob => m.answeredJob s result
    | _ => (m, [])
  | .textAnswer _ result =>
    match s.tracker with
    | .fetchingText _ status => m.receivedText s status result
    | _ => (m, [])
  | .relayTurn _ => m.relay s
  | .progress _ | .elapse _ => (m, [])

/-- Something happens to a session that has ended. -/
def stepLate (m : Machine) (number : Nat) : Happening → Machine × List Effect
  | .jobAnswer _ result =>
    match m.late? number (· == .job) with
    | some l => (m.forget l).lateJob l result
    | none => (m, [])
  | .textAnswer _ result =>
    match m.late? number (· != .job) with
    | some l =>
      match l.fetch with
      | .text status => (m.forget l).lateText l status result
      | .job => (m, [])
    | none => (m, [])
  | .relayTurn _ =>
    match m.lateRelays.find? (·.number == number) with
    | some l => m.lateRelay l
    | none => (m, [])
  | .trackerTurn _ | .progress _ | .elapse _ => (m, [])

/-- Something happens to the session of a number. -/
def stepSession (m : Machine) (number : Nat) (h : Happening) : Machine × List Effect :=
  match m.current? number with
  | some s => m.stepCurrent s h
  | none => m.stepLate number h

/-- One step for something that happens outside. What cannot happen in the viewer's state changes
nothing. -/
def step (m : Machine) : Happening → Machine × List Effect
  | .progress h => m.withClient (m.client.step h)
  | .trackerTurn number => m.stepSession number (.trackerTurn number)
  | .jobAnswer number result => m.stepSession number (.jobAnswer number result)
  | .textAnswer number result => m.stepSession number (.textAnswer number result)
  | .relayTurn number => m.stepSession number (.relayTurn number)
  | .elapse milliseconds => ({ m with clock := m.clock + milliseconds }, [])

end Machine

end MachiningViewer.Viewer
