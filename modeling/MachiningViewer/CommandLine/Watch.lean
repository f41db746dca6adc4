import MachiningViewer.CommandLine.Headline
import MachiningViewer.Viewer.Machine

/-!
# Watching a job

A watch opens a job in a viewer of its own and looks at the view whenever that has changed. It
prints what is new, and leaves when there is nothing more to wait for: the job is at its end, it is
known whether there is a toolpath, and the progress stream is neither open nor about to be. Its user
may interrupt it before.

Like the viewer, a watch is a machine with happenings and effects. A turn of its own is one of the
happenings, so whatever happens to the viewer may come between two looks.
-/

namespace MachiningViewer

open Viewer (View Machine)

/-- Is there nothing more to wait for? -/
def Viewer.View.isFinal (v : View) : Bool :=
  v.isSettled && !v.toolpath.isPending && !v.stream.isOpen

namespace CommandLine

/-- How far a watch is. -/
inductive Stage where
  | watching
  /-- There was nothing more to wait for. -/
  | left
  | interrupted
  deriving DecidableEq, Repr

/-- A watch. -/
structure Watch where
  viewer : Machine
  /-- The version of the view at the last look. -/
  seen : Option Nat
  /-- What was printed last. -/
  printed : Option Headline
  stage : Stage
  deriving Repr

namespace Watch

/-- What happens to a watch. -/
inductive Happening where
  | viewer (h : Viewer.Happening)
  /-- The watch gets a turn to look at the view. -/
  | turn
  | interrupt

/-- What a step brings about outside the watch. -/
inductive Effect where
  | viewer (e : Viewer.Effect)
  /-- The view is printed. -/
  | print (v : View) (h : Headline)
  /-- The user is told that the watch ends here. -/
  | sayInterrupted
  deriving Repr

/-- Hands a step of the viewer on. -/
def withViewer (w : Watch) (r : Machine × List Viewer.Effect) : Watch × List Effect :=
  ({ w with viewer := r.1 }, r.2.map .viewer)

/-- A watch on a job, before its first look. -/
def start (pollInterval : Nat) (job : JobId) : Watch × List Effect :=
  let w : Watch := ⟨.initial pollInterval, none, none, .watching⟩
  w.withViewer (w.viewer.call (.view job))

/-- Is there something that the watch has not looked at yet? -/
def hasNews (w : Watch) : Bool :=
  w.seen != some w.viewer.version

/-- The watch ends and closes its viewer. -/
def finish (w : Watch) (stage : Stage) : Watch × List Effect :=
  ({ w with stage } : Watch).withViewer (w.viewer.call .close)

/-- Looks at the view: prints it if its headline is new, and leaves if it is final. -/
def look (w : Watch) : Watch × List Effect :=
  let v := w.viewer.view
  let h := Headline.ofView v
  let printed : List Effect := if w.printed = some h then [] else [.print v h]
  let w := { w with seen := some w.viewer.version, printed := some h }
  if v.isFinal then
    let (w, closing) := w.finish .left
    (w, printed ++ closing)
  else (w, printed)

/-- One step for something that happens. A watch that has ended looks at nothing any more. -/
def step (w : Watch) : Happening → Watch × List Effect
  | .viewer h => w.withViewer (w.viewer.step h)
  | .turn => if w.stage = .watching ∧ w.hasNews then w.look else (w, [])
  | .interrupt =>
    if w.stage = .watching then
      let (w, closing) := w.finish .interrupted
      (w, .sayInterrupted :: closing)
    else (w, [])

end Watch

end CommandLine

end MachiningViewer
