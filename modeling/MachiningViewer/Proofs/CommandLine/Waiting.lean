import MachiningViewer.Proofs.CommandLine.Watch

/-!
# What a watch waits for

A watch that has seen the view as it is waits for something new. Something new may come exactly if
something of its viewer is under way: the tracker has not stopped, or the stream is open or about to
be, or the relay has not seen the latest. Otherwise the watch waits for nothing, until its user
interrupts it (`exists_hasNews_run_iff_of_watching`).

There is one way to that. All that a session can come to rest with makes the view final, but for the
answer that the job is not known: it stops the tracker, and leaves the view without a job at its
end.
-/

namespace MachiningViewer

namespace Viewer.Machine

variable {m : Machine} {s : Session} {is : List Input}

theorem Coherent.version_le_run (hc : m.Coherent) (hs : List Happening) :
    m.version ≤ (m.run (hs.map .happening)).version := by
  induction hs generalizing m with
  | nil => exact Nat.le_refl _
  | cons h hs ih =>
    refine Nat.le_trans ?_ (ih (hc.step h))
    show m.version ≤ (m.step h).1.version
    rcases hc.step_announced h with ⟨-, heq⟩ | hlt
    · exact Nat.le_of_eq heq.symm
    · exact Nat.le_of_lt hlt

/-- **A session that has come to rest shows a final view**, unless its job is not known. -/
theorem isFinal_of_resting {pollInterval : Nat}
    (hs : ((initial pollInterval).run is).session = some s)
    (hf : s.tracker = .finished)
    (ho : ¬ ((initial pollInterval).run is).client.state.phase.isOpen)
    (hv : s.relayed = some ((initial pollInterval).run is).client.version) :
    ((initial pollInterval).run is).view.isFinal ∨
      ∃ job, lastSnapshot? (answered s.number (initial pollInterval) is) =
        some (.error (.notFound job)) := by
  obtain ⟨hpart, hfollows⟩ := told_of_session hs
  have htracked := tracked_run hs
  obtain ⟨result, hlast, hfinal⟩ := htracked.finished hf
  cases result with
  | error e =>
    obtain ⟨job, rfl⟩ := FetchError.isNotFound_iff.1 hfinal
    exact .inr ⟨job, hlast⟩
  | ok snapshot =>
    left
    have hcourse : Course (answered s.number (initial pollInterval) is) none := by
      simpa only [hf, Tracker.wanted?] using hfollows.course
    have hsettled : ((initial pollInterval).run is).view.isSettled := by
      rw [View.isSettled, htracked.shown snapshot hlast]
      exact hfinal
    obtain ⟨job, -, hjob, -⟩ := ended_of_isSettled hs hsettled
    -- The toolpath is not open, since a snapshot has come, and the stream is as the client has it.
    have htoolpath : ((initial pollInterval).run is).view.toolpath ≠ .pending := by
      have heq : ((initial pollInterval).run is).view.toolpath =
          (Answer.replay (answered s.number (initial pollInterval) is)).toolpath :=
        congrArg (·.2.1) hpart
      rw [heq]
      exact hcourse.toolpath_ne_pending hjob
    have hstream : ((initial pollInterval).run is).view.stream =
        ((initial pollInterval).run is).client.state.phase :=
      congrArg (·.2.2) ((mirrors_of_session hs).shown hv)
    exact View.isFinal_iff.2 ⟨hsettled, htoolpath, hstream ▸ ho⟩

/-- A job that turned out not to be known has stopped the tracker. -/
theorem finished_of_notFound {pollInterval : Nat} {job : JobId}
    (hs : ((initial pollInterval).run is).session = some s)
    (hlast : lastSnapshot? (answered s.number (initial pollInterval) is) =
      some (.error (.notFound job))) : s.tracker = .finished := by
  obtain ⟨-, hended⟩ := ended_run hs _ (mem_of_lastSnapshot? hlast) rfl
  refine hended.resolve_right fun hwanted => ?_
  obtain ⟨artefact, hw⟩ := Option.ne_none_iff_exists'.1 hwanted
  obtain ⟨status, ht⟩ := Tracker.eq_of_wanted? hw
  obtain ⟨snapshot, hsnapshot, -⟩ := (tracked_run hs).text artefact status ht
  rw [hlast] at hsnapshot
  cases hsnapshot

end Viewer.Machine

namespace CommandLine.Watch

open Viewer (Machine)

variable {w : Watch} {hs : List Happening} {pollInterval : Nat} {job : JobId}

theorem run_viewer (w : Watch) (es : List Viewer.Happening) :
    w.run (es.map .viewer) = { w with viewer := w.viewer.run (es.map .happening) } := by
  induction es generalizing w with
  | nil => rfl
  | cons e es ih => exact ih { w with viewer := (w.viewer.step e).1 }

/-- To a watch that has seen the view as it is, news comes with a new version. -/
theorem hasNews_run_iff (hc : w.viewer.Coherent) (hn : ¬ w.hasNews) (es : List Viewer.Happening) :
    (w.run (es.map .viewer)).hasNews ↔
      w.viewer.version < (w.viewer.run (es.map .happening)).version := by
  have hle := hc.version_le_run es
  rw [run_viewer, hasNews, seen_of_not_hasNews hn]
  simp only [bne_iff_ne, ne_eq, Option.some.injEq]
  omega

/-- **What a watch waits for.** In every state of a run in which a watch has seen the view and waits
for it to change, (a) the tracker has not stopped, or the stream is open or about to be, or the
relay has not seen the latest, exactly if something can happen to the viewer that the watch gets to
see; and (b) nothing of the kind is so exactly if the last answer to a request for a snapshot is
that the job is not known, and nothing is to come of the stream. Then the watch waits for nothing.
-/
theorem exists_hasNews_run_iff_of_watching
    (hw : (watched pollInterval job hs).stage = .watching)
    (hn : ¬ (watched pollInterval job hs).hasNews) :
    let w := watched pollInterval job hs
    let c := w.viewer.client
    ∃ s, w.viewer.session = some s ∧ s.number = 1 ∧ s.job = job ∧
      ((s.tracker ≠ .finished ∨ c.state.phase.isOpen ∨ s.relayed ≠ some c.version) ↔
        ∃ es : List Viewer.Happening, (w.run (es.map .viewer)).hasNews) ∧
      (¬ (s.tracker ≠ .finished ∨ c.state.phase.isOpen ∨ s.relayed ≠ some c.version) ↔
        (∃ job', Viewer.lastSnapshot? (Machine.answered 1 (.initial pollInterval)
            (viewerRun job hs)) = some (.error (.notFound job'))) ∧
          ¬ c.state.phase.isOpen ∧ s.relayed = some c.version) := by
  intro w c
  have hc : w.viewer.Coherent := coherent_of_watching hw
  obtain ⟨s, hs', hnumber, hjob⟩ := session_of_watching hw
  have hrun : w.viewer = (Machine.initial pollInterval).run (viewerRun job hs) :=
    viewer_of_watching hw
  have hs : ((Machine.initial pollInterval).run (viewerRun job hs)).session = some s := hrun ▸ hs'
  refine ⟨s, hs', hnumber, hjob, ?_, ?_⟩
  · rw [← hc.exists_news_iff hs' (hrun ▸ Machine.mirrors_of_session hs)]
    exact exists_congr fun es => (hasNews_run_iff hc hn es).symm
  · rw [← hnumber]
    simp only [not_or, not_not]
    constructor
    · -- The watch would have left if it had seen a final view.
      rintro ⟨hf, ho, hv⟩
      refine ⟨?_, ho, hv⟩
      have hnot : ¬ w.viewer.view.isFinal :=
        (looking_of_watching hw).not_final (seen_of_not_hasNews hn)
      have hrests := Machine.isFinal_of_resting hs hf
        (by rw [← hrun]; exact ho) (by rw [← hrun]; exact hv)
      rw [← hrun] at hrests
      exact hrests.resolve_left hnot
    · rintro ⟨⟨job', hlast⟩, ho, hv⟩
      exact ⟨Machine.finished_of_notFound hs hlast, ho, hv⟩

/-- A run in which the job is gone when its watch asks for it, and its stream cannot be opened. -/
def forgottenJob : List Happening :=
  [.viewer (.trackerTurn 1), .viewer (.jobAnswer 1 (.error (.notFound 1))),
    .viewer (.progress (.turn 1)), .viewer (.progress (.answer 1 (.error (.status 404)))),
    .viewer (.relayTurn 1), .turn]

/-- Nothing comes of it any more, whatever happens to the viewer. -/
theorem forgottenJob_waits :
    ¬ ∃ es : List Viewer.Happening,
      ((watched 500 1 forgottenJob).run (es.map .viewer)).hasNews := by
  have hw : (watched 500 1 forgottenJob).stage = .watching := rfl
  have hn : ¬ (watched 500 1 forgottenJob).hasNews := by decide
  obtain ⟨s, hs, -, -, hnews, hrests⟩ :=
    exists_hasNews_run_iff_of_watching hw hn
  have hs : some (⟨1, 1, false, .finished, some 2⟩ : Viewer.Session) = some s := hs
  obtain rfl := Option.some.inj hs
  rw [← hnews]
  exact hrests.2 ⟨⟨1, rfl⟩, Bool.false_ne_true, rfl⟩

/-- **A watch may wait for nothing.** It watches and has seen the view, its tracker has stopped, its
stream is neither open nor about to be, and its relay has seen the latest. -/
theorem forgottenJob_rests :
    let w := watched 500 1 forgottenJob
    w.stage = .watching ∧ ¬ w.hasNews ∧ w.viewer.session.map (·.tracker) = some .finished ∧
      ¬ w.viewer.client.state.phase.isOpen ∧
      w.viewer.session.map (·.relayed) = some (some w.viewer.client.version) :=
  ⟨rfl, by decide, rfl, by decide, rfl⟩

end CommandLine.Watch

end MachiningViewer
