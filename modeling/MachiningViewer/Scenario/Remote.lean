import MachiningViewer.Backend.Fetch
import MachiningViewer.Progress.EventStream
import MachiningViewer.Scenario.Server
import MachiningViewer.Viewer.Machine

/-!
# A viewer and a server

What is outside a viewer that talks to a scripted server. Every request is answered at once, and
what the answers bring about happens to the viewer one after the other. When nothing more is to
come, the time moves on to the end of the viewer's pause.
-/

namespace MachiningViewer.Scenario

open Progress (StreamId Item)

/-- What is outside the viewer. -/
structure Remote where
  server : Server
  /-- The base of the server's addresses. -/
  base : String
  /-- What is to happen to the viewer, in order. -/
  coming : List Viewer.Happening
  /-- The session whose relay waits for news of the progress client. -/
  relay : Option Nat
  nextStream : StreamId
  log : List Log.Record

namespace Remote

/-- Before anything has happened. -/
def initial (server : Server) (base : String) : Remote :=
  ⟨server, base, [], none, 0, []⟩

/-- Lets something happen later. -/
def await (r : Remote) (hs : List Viewer.Happening) : Remote :=
  { r with coming := r.coming ++ hs }

/-- Reports something. -/
def report (r : Remote) (records : List Log.Record) : Remote :=
  { r with log := r.log ++ records }

/-- Gives the relay a turn, unless it is to get one anyway. -/
def wakeRelay (r : Remote) : Remote :=
  match r.relay with
  | none => r
  | some session =>
    if r.coming.any fun | .relayTurn _ => true | _ => false then r
    else r.await [.relayTurn session]

/-- What happens when the request of a generation for a stream is answered. -/
def openStream (r : Remote) (generation : Nat) (job : JobId) : Remote :=
  let ((opened, log), server) :=
    Id.run ((Progress.openStream Server.answer r.base job).run r.server)
  let stream := r.nextStream
  let r := { r.report log with server, nextStream := stream + 1 }
  match opened with
  | .error e => r.await [.progress (.answer generation (.error e))]
  | .ok items =>
    r.await (.progress (.answer generation (.ok stream)) ::
      (items ++ [Item.ending]).map fun item => .progress (.receive generation item))

/-- What happens when the request of a session for a snapshot is answered. -/
def fetchJob (r : Remote) (session : Nat) (job : JobId) : Remote :=
  let (fetched, server) := Id.run ((Backend.fetchJob Server.answer r.base job).run r.server)
  ({ r.report fetched.log with server } : Remote).await [.jobAnswer session fetched.result]

/-- What happens when the request of a session for a text is answered. -/
def fetchText (r : Remote) (session : Nat) (artefact : ArtefactRef) : Remote :=
  let (fetched, server) := Id.run ((Backend.fetchText Server.answer artefact).run r.server)
  ({ r.report fetched.log with server } : Remote).await [.textAnswer session fetched.result]

/-- An effect of the viewer. -/
def apply (r : Remote) : Viewer.Effect → Remote
  | .progress (.spawnReader generation) => r.await [.progress (.turn generation)]
  | .progress (.requestStream generation job) => r.openStream generation job
  | .progress (.giveBack _) => r
  | .progress .announce => r.wakeRelay
  | .progress (.report record) => r.report [record]
  | .spawnTracker session => r.await [.trackerTurn session]
  | .spawnRelay session => ({ r with relay := some session } : Remote).wakeRelay
  | .fetchJob session job => r.fetchJob session job
  | .fetchText session artefact => r.fetchText session artefact
  | .announce => r
  | .report record => r.report [record]

/-- What happens next to the viewer, if anything ever will. -/
def next? (r : Remote) (m : Viewer.Machine) : Option (Viewer.Happening × Remote) :=
  match r.coming with
  | h :: hs => some (h, { r with coming := hs })
  | [] => m.pause?.map fun (session, wake) =>
      (.elapse (wake - m.clock), { r with coming := [.trackerTurn session] })

/-- More steps than there can be before everything repeats. A round of the tracker is at most five
steps and uses up an answer, unless all that are asked for repeat; an item of a stream is a step and
a relay's turn, and takes more than one byte of its body. -/
def steps (r : Remote) : Nat :=
  8 * r.server.supply + 64

/-- Lets things happen to the viewer until `isOver` holds. -/
def run (isOver : Viewer.Machine → Bool) : Nat → Remote → Viewer.Machine → Remote × Viewer.Machine
  | 0, r, m => (r, m)
  | fuel + 1, r, m =>
    if isOver m then (r, m)
    else
      match r.next? m with
      | none => (r, m)
      | some (h, r) =>
        let (m, effects) := m.step h
        run isOver fuel (effects.foldl apply r) m

/-- Is the job known to be at its end with its toolpath, or not to exist, and its stream gone? -/
def isOver (job : JobId) (m : Viewer.Machine) : Bool :=
  m.view.stream == .disconnected &&
    ((m.view.isSettled && !m.view.toolpath.isPending) ||
      m.view.error == some (FetchError.notFound job).message)

/-- Shows a job in a new viewer until there is nothing more to see. -/
def follow (server : Server) (base : String) (pollInterval : Nat) (job : JobId) :
    Remote × Viewer.Machine :=
  let (m, effects) := (Viewer.Machine.initial pollInterval).call (.view job)
  let r := effects.foldl apply (.initial server base)
  run (isOver job) r.steps r m

end Remote

end MachiningViewer.Scenario
