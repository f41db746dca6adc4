import MachiningViewer.Proofs.CommandLine.Watch

/-!
# How a watch leaves

A watch leaves when it sees the job at its end, the toolpath no longer open and no stream. Mostly
the tracker has stopped then, and what is shown of the job is final. But a toolpath is open only
until the first word on it. If an earlier snapshot told of no toolpath, or an earlier fetch of its
text has failed, then that still stands while the text is fetched that the last snapshot tells of,
and a watch that looks just then leaves before the text is there
(`printed_eq_and_wanted?_iff_of_left`).
-/

namespace MachiningViewer

namespace Viewer

variable {as : List Answer} {artefact : ArtefactRef}

/-- **When a text is to come**: right after a snapshot that tells of it, if none has been loaded. -/
theorem Course.wanted_iff {wanted : Option ArtefactRef} (h : Course as wanted) :
    wanted = some artefact ↔ ∃ before snapshot, as = before ++ [.job (.ok snapshot)] ∧
      snapshot.resolve? .toolpathText = some artefact ∧ ¬ before.any (·.isText) := by
  constructor
  · rintro rfl
    cases h with
    | @told as _ snapshot _ hjob has => exact ⟨as, snapshot, rfl, hjob, has⟩
  · -- The last answer is a snapshot, which rules out all but two ways for the course to go on.
    rintro ⟨before, snapshot, heq, hjob, hbefore⟩
    cases h with
    | start => simp at heq
    | failed h e =>
      obtain ⟨-, hlast⟩ := List.append_inj' heq rfl
      cases hlast
    | settled h hsettled =>
      obtain ⟨rfl, hlast⟩ := List.append_inj' heq rfl
      cases hlast
      -- A settled course has no toolpath to ask for, or a text of it already.
      rcases hsettled with hnone | hany
      · rw [hjob] at hnone
        cases hnone
      · exact absurd hany hbefore
    | told h hjob' has =>
      obtain ⟨rfl, hlast⟩ := List.append_inj' heq rfl
      cases hlast
      exact hjob'.symm.trans hjob
    | text h result =>
      obtain ⟨-, hlast⟩ := List.append_inj' heq rfl
      cases hlast

/-- Without a snapshot the toolpath is open. -/
theorem Course.toolpath_of_lastJob?_eq_none {wanted : Option ArtefactRef} (h : Course as wanted)
    (hlast : lastJob? as = none) : (Answer.replay as).toolpath = .pending := by
  induction h with
  | start => rfl
  | failed h e ih =>
    rw [lastJob?_append_singleton] at hlast
    rw [replay_append_singleton]
    exact ih hlast
  | settled h hjob ih =>
    rw [lastJob?_append_singleton] at hlast
    cases hlast
  | told h hjob has ih =>
    rw [lastJob?_append_singleton] at hlast
    cases hlast
  | text h result ih =>
    -- A text comes only after a snapshot that tells of it.
    obtain ⟨-, snapshot, hsome, -⟩ := h.lastJob?_of_some
    rw [lastJob?_append_singleton] at hlast
    exact absurd (hlast.symm.trans hsome) nofun

/-- **What is shown while a text is to come** and the toolpath is not open: an earlier word on it.
-/
theorem Course.toolpath_of_wanted (h : Course as (some artefact))
    (hpending : (Answer.replay as).toolpath ≠ .pending) :
    ∃ before snapshot earlier, as = before ++ [.job (.ok snapshot)] ∧
      lastJob? before = some earlier ∧
      (earlier.resolve? .toolpathText = none ∧ (Answer.replay as).toolpath = .notProduced ∨
        ∃ e, lastText? before = some (.error e) ∧
          (Answer.replay as).toolpath = .failed e.message) := by
  cases h with
  | @told before hcourse snapshot _ hjob hany =>
    -- A snapshot that tells of a toolpath leaves the word on it as it was.
    have hkept : (Answer.replay (before ++ [.job (.ok snapshot)])).toolpath =
        (Answer.replay before).toolpath := by
      rw [replay_append_snapshot_toolpath, if_neg (by rw [hjob]; exact Option.some_ne_none _)]
    rw [hkept] at hpending ⊢
    cases hlast : lastJob? before with
    | none => exact absurd (hcourse.toolpath_of_lastJob?_eq_none hlast) hpending
    | some earlier =>
      refine ⟨before, snapshot, earlier, rfl, hlast, ?_⟩
      exact (hcourse.toolpath_of_not_isText hany hlast).imp_right And.right

namespace Machine

variable {m : Machine} {s : Session}

/-- The text that a session waits for, or why it cannot be had, is shown when it comes. -/
theorem Coherent.toolpath_textAnswer (hc : m.Coherent) (hs : m.session = some s)
    {artefact : ArtefactRef} (hw : s.tracker.wanted? = some artefact)
    (result : Except FetchError String) :
    (m.step (.textAnswer s.number result)).1.view.toolpath = .ofText result := by
  have hn : m.view.session = s.number := (hc.number_eq s hs).symm
  obtain ⟨status, ht⟩ := Tracker.eq_of_wanted? hw
  rw [step_textAnswer hs ht, receivedText_fst_eq, writeCurrent_of_eq _ hn]
  cases result <;> rfl

end Machine

end Viewer

namespace CommandLine.Watch

open Viewer (Machine Answer)

variable {w : Watch} {hs : List Happening} {pollInterval : Nat} {job : JobId}

/-- A watch leaves with a look at a final view, which is what is printed last. -/
theorem final_of_left (hw : w.stage = .watching) (hl : (w.after .turn).stage = .left) :
    w.viewer.view.isFinal ∧ (w.after .turn).printed = some (Headline.ofView w.viewer.view) := by
  unfold after at hl ⊢
  simp only [step] at hl ⊢
  split at hl
  · rename_i hlook
    rw [if_pos hlook]
    simp only [look] at hl ⊢
    split at hl
    · rename_i hfinal
      rw [if_pos hfinal]
      exact ⟨hfinal, rfl⟩
    · cases hlook.1.symm.trans hl
  · cases hw.symm.trans hl

/-- **How a watch leaves.** In every run in which a watch leaves by itself, what it has printed last
is the view as it was then. (a) A text is still being fetched exactly if the last answer of all was
a snapshot that tells of it, and no text had been loaded before. (b) If none is being fetched, the
tracker has stopped, and what the view shows of the job is final, whatever may still happen to the
viewer. (c) If one is being fetched, the toolpath shown is not what comes of it but an earlier word:
that of an earlier snapshot, which told of none, or of an earlier fetch, which failed; and the text,
or why it cannot be had, would be shown when it comes. -/
theorem printed_eq_and_wanted?_iff_of_left
    (hw : (watched pollInterval job hs).stage = .watching)
    (hl : ((watched pollInterval job hs).after .turn).stage = .left) :
    let w := watched pollInterval job hs
    let m := w.viewer
    let answers := Machine.answered 1 (.initial pollInterval) (viewerRun job hs)
    (w.after .turn).printed = some (Headline.ofView m.view) ∧
    ∃ s, m.session = some s ∧ s.number = 1 ∧ s.job = job ∧
      (∀ artefact, s.tracker.wanted? = some artefact ↔
        ∃ before snapshot, answers = before ++ [.job (.ok snapshot)] ∧
          snapshot.resolve? .toolpathText = some artefact ∧ ¬ before.any (·.isText)) ∧
      (s.tracker.wanted? = none → s.tracker = .finished ∧
        ∀ es : List Viewer.Happening,
          (m.run (es.map .happening)).view.jobPart = m.view.jobPart) ∧
      (∀ artefact, s.tracker.wanted? = some artefact →
        (∃ before snapshot earlier, answers = before ++ [.job (.ok snapshot)] ∧
          Viewer.lastJob? before = some earlier ∧
          (earlier.resolve? .toolpathText = none ∧ m.view.toolpath = .notProduced ∨
            ∃ e, Viewer.lastText? before = some (.error e) ∧
              m.view.toolpath = .failed e.message)) ∧
        ∀ result, (m.step (.textAnswer 1 result)).1.view.toolpath = .ofText result) := by
  intro w m answers
  obtain ⟨hfinal, hprinted⟩ := final_of_left hw hl
  have hc : m.Coherent := coherent_of_watching hw
  obtain ⟨s, hs', hnumber, hjob⟩ := session_of_watching hw
  have hrun : m = (Machine.initial pollInterval).run (viewerRun job hs) := viewer_of_watching hw
  have hs : ((Machine.initial pollInterval).run (viewerRun job hs)).session = some s := hrun ▸ hs'
  obtain ⟨hpart, hfollows⟩ := Machine.told_of_session hs
  rw [hnumber] at hpart hfollows
  have htoolpath : m.view.toolpath = (Answer.replay answers).toolpath := by
    rw [hrun]
    exact congrArg (·.2.1) hpart
  obtain ⟨hsettled, hpending, -⟩ := Viewer.View.isFinal_iff.1 hfinal
  refine ⟨hprinted, s, hs', hnumber, hjob, fun artefact => hfollows.course.wanted_iff,
    fun hnone => ?_, fun artefact hwanted => ⟨?_, fun result => ?_⟩⟩
  · -- The job is at its end and no text is to come, so the tracker has stopped.
    have hf : s.tracker = .finished := by
      obtain ⟨snapshot, -, -, hended⟩ := Machine.ended_of_isSettled hs (hrun ▸ hsettled)
      exact hended.resolve_right (not_not.2 hnone)
    exact ⟨hf, fun es => hc.jobPart_run_of_finished hs' hf fun _ => goesOn_of_mem_map⟩
  · rw [htoolpath] at hpending ⊢
    have hcourse : Viewer.Course answers (some artefact) := hwanted ▸ hfollows.course
    exact hcourse.toolpath_of_wanted hpending
  · have hshown := hc.toolpath_textAnswer hs' hwanted result
    rwa [hnumber] at hshown

/-- A run in which the job comes to its end with a toolpath that it did not have before, and the
stream could not be opened. The text is asked for and has not come yet. -/
def lateToolpath : List Happening :=
  [.viewer (.trackerTurn 1), .viewer (.jobAnswer 1 (.ok (.brief 5 .running []))),
    .viewer (.progress (.turn 1)), .viewer (.progress (.answer 1 (.error (.status 404)))),
    .viewer (.relayTurn 1), .turn, .viewer (.elapse 500), .viewer (.trackerTurn 1),
    .viewer (.jobAnswer 1 (.ok (.brief 5 .success [(.toolpathText, "u1")])))]

/-- The watch leaves then. What it prints last is the view as it is, and the text would still be
shown when it comes. -/
theorem lateToolpath_leaves :
    ((watched 500 5 lateToolpath).after .turn).printed =
        some (Headline.ofView (watched 500 5 lateToolpath).viewer.view) ∧
      ((watched 500 5 lateToolpath).viewer.step (.textAnswer 1 (.ok "G21"))).1.view.toolpath =
        .ofText (.ok "G21") := by
  have hw : (watched 500 5 lateToolpath).stage = .watching := rfl
  obtain ⟨hprinted, s, hs, -, -, -, -, hwanted⟩ :=
    printed_eq_and_wanted?_iff_of_left hw rfl
  refine ⟨hprinted, ?_⟩
  have hs : some (⟨5, 1, false, .fetchingText ⟨.toolpathText, "u1", none, none⟩ .success, some 2⟩ :
    Viewer.Session) = some s := hs
  obtain rfl := Option.some.inj hs
  exact (hwanted _ rfl).2 (.ok "G21")

/-- **A watch may leave while a text is being fetched.** The job is at its end, the toolpath is not
open and there is no stream, and the tracker waits for the text. -/
theorem lateToolpath_fetches :
    let w := watched 500 5 lateToolpath
    w.stage = .watching ∧ (w.after .turn).stage = .left ∧
      w.viewer.session.map (·.pending?) = some (some ⟨5, 1, .text .success⟩) ∧
      w.viewer.view.toolpath = .notProduced :=
  ⟨rfl, rfl, rfl, rfl⟩

end CommandLine.Watch

end MachiningViewer
