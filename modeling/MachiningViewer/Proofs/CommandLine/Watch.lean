import MachiningViewer.CommandLine.Watch
import MachiningViewer.Proofs.Viewer.Endings

/-!
# Runs of a watch

A run of a watch is a list of happenings. As long as it watches, a watch does no more to its viewer
than to open its job at the beginning. So its viewer is where a run of the viewer has led it
(`viewer_of_watching`), and all that is known of runs of a viewer is known of it. The session is the
first one, and it goes on (`session_of_watching`).

What a watch has seen is not newer than the view, and a view that it has seen and not left is not
final (`Looking`).
-/

namespace MachiningViewer

namespace Viewer

theorem ToolpathState.isPending_iff {t : ToolpathState} : t.isPending ↔ t = .pending := by
  cases t <;> simp [isPending]

theorem View.isFinal_iff {v : View} :
    v.isFinal ↔ v.isSettled ∧ v.toolpath ≠ .pending ∧ ¬ v.stream.isOpen := by
  simp [isFinal, ← ToolpathState.isPending_iff, and_assoc]

end Viewer

namespace CommandLine.Watch

open Viewer (Machine)

/-- What happens to the viewer, if it is that. -/
def Happening.viewer? : Happening → Option Viewer.Happening
  | .viewer h => some h
  | .turn | .interrupt => none

/-- The watch after a happening. -/
def after (w : Watch) (h : Happening) : Watch :=
  (w.step h).1

/-- The watch after a run. -/
def run (w : Watch) (hs : List Happening) : Watch :=
  hs.foldl after w

/-- A watch on a job after a run. -/
def watched (pollInterval : Nat) (job : JobId) (hs : List Happening) : Watch :=
  (start pollInterval job).1.run hs

/-- What the viewer of a watch is given in a run. -/
def viewerRun (job : JobId) (hs : List Happening) : List Viewer.Input :=
  .call (.view job) :: (hs.filterMap Happening.viewer?).map .happening

variable {w : Watch} {h : Happening} {hs : List Happening} {pollInterval : Nat} {job : JobId}

theorem watched_concat (pollInterval : Nat) (job : JobId) (hs : List Happening) (h : Happening) :
    watched pollInterval job (hs ++ [h]) = (watched pollInterval job hs).after h :=
  List.foldl_append

theorem viewerRun_concat (job : JobId) (hs : List Happening) (h : Happening) :
    viewerRun job (hs ++ [h]) = viewerRun job hs ++ (h.viewer?.map .happening).toList := by
  unfold viewerRun
  cases hv : h.viewer? <;> simp [List.filterMap_append, hv]

/-- **What can happen to a watch that goes on watching.** Something happens to its viewer, or
nothing, or it looks at a view that is not final. -/
theorem after_cases (hw : (w.after h).stage = .watching) : w.stage = .watching ∧
    ((∃ e, h = .viewer e ∧ w.after h = { w with viewer := (w.viewer.step e).1 }) ∨
      h.viewer? = none ∧ w.after h = w ∨
      h.viewer? = none ∧ ¬ w.viewer.view.isFinal ∧
        w.after h = { w with
          seen := some w.viewer.version
          printed := some (Headline.ofView w.viewer.view) }) := by
  cases h with
  | viewer e => exact ⟨hw, .inl ⟨e, rfl, rfl⟩⟩
  | turn =>
    unfold after at hw ⊢
    simp only [step] at hw ⊢
    split at hw
    · -- The watch looks, and goes on only if the view is not final.
      rename_i hlook
      rw [if_pos hlook]
      refine ⟨hlook.1, .inr (.inr ⟨rfl, ?_⟩)⟩
      simp only [look] at hw ⊢
      split at hw
      · cases hw
      · rename_i hfinal
        rw [if_neg hfinal]
        exact ⟨hfinal, rfl⟩
    · rename_i hrests
      rw [if_neg hrests]
      exact ⟨hw, .inr (.inl ⟨rfl, rfl⟩)⟩
  | interrupt =>
    unfold after at hw ⊢
    simp only [step] at hw ⊢
    split at hw
    · cases hw
    · rename_i hrests
      rw [if_neg hrests]
      exact ⟨hw, .inr (.inl ⟨rfl, rfl⟩)⟩

/-- **The viewer of a watch that watches** is where a run of its own has led it. -/
theorem viewer_of_watching (hw : (watched pollInterval job hs).stage = .watching) :
    (watched pollInterval job hs).viewer =
      (Machine.initial pollInterval).run (viewerRun job hs) := by
  -- A watch that has left or was interrupted does not watch again, so the run before watched too.
  induction hs using List.reverseRecOn with
  | nil => rfl
  | append_singleton hs h ih =>
    rw [watched_concat] at hw ⊢
    rw [viewerRun_concat, Machine.run_append]
    obtain ⟨hw, ⟨e, rfl, heq⟩ | ⟨hnone, heq⟩ | ⟨hnone, -, heq⟩⟩ := after_cases hw
    · rw [heq, ← ih hw]
      rfl
    · rw [heq, hnone, ih hw]
      rfl
    · rw [heq, hnone, ← ih hw]
      rfl

theorem goesOn_of_mem_map {i : Viewer.Input} {es : List Viewer.Happening}
    (hi : i ∈ es.map Viewer.Input.happening) : i.goesOn := by
  obtain ⟨e, -, rfl⟩ := List.mem_map.1 hi
  rfl

theorem drop_not_mem_viewerRun (job : JobId) (hs : List Happening) :
    .call .drop ∉ viewerRun job hs := by
  simp [viewerRun]

theorem coherent_of_watching (hw : (watched pollInterval job hs).stage = .watching) :
    (watched pollInterval job hs).viewer.Coherent := by
  rw [viewer_of_watching hw]
  exact Machine.coherent_run pollInterval (drop_not_mem_viewerRun job hs)

/-- **There is one session as long as a watch watches**, the first, and it is on the job. -/
theorem session_of_watching (hw : (watched pollInterval job hs).stage = .watching) :
    ∃ s, (watched pollInterval job hs).viewer.session = some s ∧ s.number = 1 ∧ s.job = job := by
  rw [viewer_of_watching hw]
  have hopened := (Machine.coherent_initial pollInterval).openJob job
  exact hopened.session_run (Machine.session_of_openJob (.initial pollInterval) job)
    fun _ => goesOn_of_mem_map

/-! ### What a watch has seen -/

/-- What is known of a watch from its looks. -/
structure Looking (w : Watch) : Prop where
  seen_le : ∀ v, w.seen = some v → v ≤ w.viewer.version
  not_final : w.seen = some w.viewer.version → ¬ w.viewer.view.isFinal

/-- A viewer that announces what it writes may go on under the eyes of the watch. -/
theorem Looking.withViewer {m : Machine} (hl : w.Looking) (ha : w.viewer.Announced m) :
    ({ w with viewer := m } : Watch).Looking where
  seen_le v hv := by
    have hle := hl.seen_le v hv
    rcases ha with ⟨-, hversion⟩ | hlt
    · exact hversion ▸ hle
    · exact Nat.le_of_lt (Nat.lt_of_le_of_lt hle hlt)
  not_final hv := by
    have hv : w.seen = some m.version := hv
    show ¬ m.view.isFinal
    rcases ha with ⟨hview, hversion⟩ | hlt
    · rw [hversion] at hv
      rw [hview]
      exact hl.not_final hv
    · exact absurd (hl.seen_le _ hv) (Nat.not_le_of_lt hlt)

theorem looking_of_watching (hw : (watched pollInterval job hs).stage = .watching) :
    (watched pollInterval job hs).Looking := by
  induction hs using List.reverseRecOn with
  | nil => exact ⟨nofun, nofun⟩
  | append_singleton hs h ih =>
    rw [watched_concat] at hw ⊢
    obtain ⟨hw, ⟨e, rfl, heq⟩ | ⟨-, heq⟩ | ⟨-, hfinal, heq⟩⟩ := after_cases hw
    · -- If the view is changed, its version is raised too.
      rw [heq]
      exact (ih hw).withViewer ((coherent_of_watching hw).step_announced e)
    · rw [heq]
      exact ih hw
    · rw [heq]
      refine ⟨?_, fun _ => hfinal⟩
      rintro v ⟨⟩
      exact Nat.le_refl _

/-- A watch that waits has seen the view as it is. -/
theorem seen_of_not_hasNews (hn : ¬ w.hasNews) : w.seen = some w.viewer.version := by
  simpa [hasNews] using hn

end CommandLine.Watch

end MachiningViewer
