import MachiningViewer.Backend.Fetch
import MachiningViewer.CommandLine.Host
import MachiningViewer.Local.Network
import Std.Async.Signal
import Std.Sync.Channel

/-!
# Following a watch

What happens to a watch on this machine. All that is outside the watch goes on in the background:
its requests, its progress stream, its pauses and the user who may interrupt it. Whatever comes of
that arrives in one queue, and the watch takes one step after the other for what it finds there.
-/

namespace MachiningViewer.Local

open CommandLine (Said Watch)
open Progress (StreamId)
open Std.Async (Async)

/-- What arrives for a watch. -/
inductive Arrival where
  | happening (h : Watch.Happening)
  /-- A stream delivers something. -/
  | delivery (stream : StreamId) (item : Progress.Item)
  | records (log : List Log.Record)
  /-- It may be time for the tracker of a session to go on after a pause. -/
  | pauseOver (session : Nat)

instance : Inhabited Arrival := ⟨.records []⟩

/-- Starts something that goes on in the background. -/
def inBackground (act : Async Unit) : IO Unit :=
  discard ((Std.Async.background act).block)

variable (c : Config) (send : Arrival → BaseIO Unit)

/-- Lets something happen to the viewer of a watch. -/
def happen (h : Viewer.Happening) : BaseIO Unit :=
  send (.happening (.viewer h))

/-- Asks for the progress stream of a job. A generation asks for one stream at most, so its number
is the stream's. -/
def requestStream (generation : Nat) (job : JobId) : Async Unit := do
  let (opened, log) ← openStream c.base job
  send (.records log)
  happen send (.progress (.answer generation (opened.map fun _ => generation)))
  match opened with
  | .ok connection => deliver connection fun item => send (.delivery generation item)
  | .error _ => pure ()

/-- Asks for a snapshot of a job. -/
def requestJob (session : Nat) (job : JobId) : Async Unit := do
  let fetched ← Backend.fetchJob (fetch c.requestTimeout) c.base job
  send (.records fetched.log)
  happen send (.jobAnswer session fetched.result)

/-- Asks for the text of an artefact. -/
def requestText (session : Nat) (artefact : ArtefactRef) : Async Unit := do
  let fetched ← Backend.fetchText (fetch c.requestTimeout) artefact
  send (.records fetched.log)
  happen send (.textAnswer session fetched.result)

/-- Brings about an effect of the viewer, in the state in which that is now. The streams are given
back when the program ends. -/
def bringAbout (m : Viewer.Machine) : Viewer.Effect → IO Unit
  | .progress (.spawnReader generation) => happen send (.progress (.turn generation))
  | .progress (.requestStream generation job) => inBackground (requestStream c send generation job)
  | .progress (.giveBack _) => pure ()
  | .progress .announce => m.session.forM fun s => happen send (.relayTurn s.number)
  | .progress (.report r) => send (.records [r])
  | .spawnTracker session => happen send (.trackerTurn session)
  | .spawnRelay session => happen send (.relayTurn session)
  | .fetchJob session job => inBackground (requestJob c send session job)
  | .fetchText session artefact => inBackground (requestText c send session artefact)
  | .announce => pure ()
  | .report r => send (.records [r])

/-- The stream that a watch reads. -/
def streamOf? (w : Watch) : Option StreamId :=
  w.viewer.client.active.bind (·.stream?)

/-- Lets a watch know how much time has passed since the clock was last looked at. -/
def keepTime (clock : IO.Ref Nat) (w : Watch) : IO Watch := do
  let now ← IO.monoMsNow
  let before ← clock.swap now
  pure (w.step (.viewer (.elapse (now - before)))).1

/-- Waits for the end of a pause. -/
def awaitPause (session milliseconds : Nat) : Async Unit := do
  Std.Async.sleep (.ofNat milliseconds)
  send (.pauseOver session)

/-- Waits for the user's interruption. -/
def awaitInterruption : Async Unit := do
  let waiter ← Std.Async.Signal.Waiter.mk .sigint false
  let _ ← Async.ofAsyncTask (← waiter.wait)
  send (.happening .interrupt)

/-- What an arrival is for a watch. What comes on a stream that the watch has given back is nothing,
and a stream's number is that of its generation. -/
def happening? (w : Watch) : Arrival → Option Watch.Happening
  | .happening h => some h
  | .delivery stream item =>
    if streamOf? w = some stream then some (.viewer (.progress (.receive stream item))) else none
  | .records _ => none
  | .pauseOver session => some (.viewer (.trackerTurn session))

/-- Brings about an effect of a watch. -/
def bringAboutAll (tell : Said → IO Unit) (w : Watch) : Watch.Effect → IO Unit
  | .viewer e => bringAbout c send w.viewer e
  | .print v h => tell (.view v h)
  | .sayInterrupted => tell .interruption

/-- Lets things happen to a watch until it ends. It looks at what is new before anything else
happens. -/
def follow (c : Config) (start : Watch × List Watch.Effect) (tell : Said → IO Unit) : IO Unit := do
  let arrivals ← Std.Channel.new
  let send (a : Arrival) : BaseIO Unit := discard (arrivals.send a)
  let clock ← IO.mkRef (← IO.monoMsNow)
  inBackground (awaitInterruption send)
  start.2.forM (bringAboutAll c send tell start.1)
  let mut w := start.1
  let mut pause : Option (Nat × Nat) := none
  while w.stage = .watching do
    if w.hasNews then
      let (next, effects) := w.step .turn
      w := next
      effects.forM (bringAboutAll c send tell w)
    else
      let arrival ← arrivals.sync.recv
      w ← keepTime clock w
      match arrival with
      | .records log => log.forM fun r => tell (.record r)
      | .pauseOver _ => pause := none
      | _ => pure ()
      if let some h := happening? w arrival then
        let (next, effects) := w.step h
        w := next
        effects.forM (bringAboutAll c send tell w)
    if let some (session, wake) := w.viewer.pause? then
      if pause ≠ some (session, wake) then
        pause := some (session, wake)
        inBackground (awaitPause send session (wake - w.viewer.clock))

end MachiningViewer.Local
