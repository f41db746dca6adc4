import MachiningViewer.Proofs.Viewer.Drop
import MachiningViewer.Proofs.Viewer.Loading

/-!
# The unit that is shown

The view has one field for the toolpath and one for its unit. A text that arrives writes both, and a
session begins with neither. Only a snapshot without a toolpath takes the toolpath off the view and
leaves the unit where it is. So the unit is that of the last toolpath that has not been taken off
(`unit_of_last_kept`), be it shown still or not.

What one step does is said once for every state of every run (`unitGoesOn_after`). That a text which
cannot be had leaves no other unit behind is the matter of the course of the answers: as long as a
text is awaited, none has been loaded, and the unit is not known (`unit_of_wanted`).
-/

namespace MachiningViewer.Viewer

/-- The unit of the toolpath, if it is there. -/
def ToolpathState.unit : ToolpathState → LengthUnit
  | .loaded t => t.unit
  | _ => .unknown

/-- From one view to the next, the toolpath is taken off or stays and the unit stays, or the unit is
that of the toolpath. -/
inductive View.UnitGoesOn (v v' : View) : Prop
  | takenOff (htoolpath : v'.toolpath = .notProduced) (hunit : v'.unit = v.unit)
  | same (htoolpath : v'.toolpath = v.toolpath) (hunit : v'.unit = v.unit)
  | fits {t : ToolpathState} (htoolpath : v'.toolpath = t) (hkept : t ≠ .notProduced)
      (hunit : v'.unit = t.unit)

variable {v v' : View} {a : Answer} {as : List Answer} {artefact : ArtefactRef}

/-! ### What an answer does to the unit -/

/-- As long as no text has been loaded, the unit is not known. -/
theorem replay_unit_of_not_any_isText (has : ¬ as.any (·.isText)) :
    (Answer.replay as).unit = .unknown := by
  induction as using List.reverseRecOn with
  | nil => rfl
  | append_singleton as a ih =>
    rw [any_isText_append_singleton, Bool.or_eq_true, not_or] at has
    rw [replay_append_singleton]
    rcases a with ⟨_ | _⟩ | ⟨_, _ | _⟩
    · exact ih has.1
    · exact ih has.1
    · exact ih has.1
    · exact absurd rfl has.2

theorem unitGoesOn_of_jobPart_eq (h : v'.jobPart = v.jobPart) : v.UnitGoesOn v' :=
  .same (congrArg (·.2.1) h) (congrArg (·.2.2.1) h)

/-- What an answer makes of the unit, if a text is answered for while the unit is not known. -/
theorem unitGoesOn_write (h : v'.jobPart = (a.write v).jobPart)
    (ha : ∀ artefact result, a = .text artefact result → v.unit = .unknown) : v.UnitGoesOn v' := by
  have htoolpath : v'.toolpath = (a.write v).toolpath := congrArg (·.2.1) h
  have hunit : v'.unit = (a.write v).unit := congrArg (·.2.2.1) h
  cases a with
  | job result =>
    cases result with
    | error e => exact .same htoolpath hunit
    | ok snapshot =>
      by_cases hhas : snapshot.hasArtefact .toolpathText
      · exact .same (htoolpath.trans (if_pos hhas)) hunit
      · exact .takenOff (htoolpath.trans (if_neg hhas)) hunit
  | text artefact result =>
    cases result with
    | error e =>
      -- Only here does it matter that nothing was known before: the unit is not written.
      exact .fits htoolpath ToolpathState.noConfusion (hunit.trans (ha artefact _ rfl))
    | ok text => exact .fits htoolpath ToolpathState.noConfusion hunit

namespace Machine

variable {s : Session} {pollInterval : Nat} {is : List Input}

/-- **While a text is awaited, the unit is not known.** -/
theorem unit_of_wanted (hs : ((initial pollInterval).run is).session = some s)
    (hw : s.tracker.wanted? = some artefact) :
    ((initial pollInterval).run is).view.unit = .unknown := by
  have ht := told_run pollInterval ((coherent_initial _).not_drop_of_session hs)
  have hcourse := (ht.session s hs).2.course
  rw [hw] at hcourse
  have hunit := congrArg (·.2.2.1) ht.jobPart_eq
  exact hunit.trans (replay_unit_of_not_any_isText hcourse.lastJob?_of_some.1)

theorem wanted?_of_request?_text {result : Except FetchError String}
    (hr : s.tracker.request? s = some (Answer.request s (.text artefact result))) :
    s.tracker.wanted? = some artefact := by
  cases ht : s.tracker with
  | fetchingText artefact' status =>
    rw [ht] at hr
    cases hr
    rfl
  | _ =>
    rw [ht] at hr
    cases hr

/-! ### What a step does to the unit -/

/-- **What a step makes of the unit**, in every state of every run. -/
theorem unitGoesOn_after (pollInterval : Nat) (is : List Input) (i : Input) :
    ((initial pollInterval).run is).view.UnitGoesOn
      (((initial pollInterval).run is).after i).view := by
  by_cases hd : .call .drop ∈ is
  · -- What comes after the drop is what the drop has left to come.
    obtain ⟨before, since, rfl, hd'⟩ := List.eq_append_cons_of_mem hd
    have hleaves := (coherent_run pollInterval hd').leaves_drop.run since
    rw [run_append, run_cons]
    rcases hleaves.jobPart_after_cases i with hsame | ⟨hpart, a, ⟨s, hs, hrequest⟩, hwrite⟩
    · exact unitGoesOn_of_jobPart_eq hsame
    · refine unitGoesOn_write hwrite fun artefact result ha => ?_
      rw [ha] at hrequest
      have hunit := congrArg (·.2.2.1) hpart
      exact hunit.trans (unit_of_wanted hs (wanted?_of_request?_text hrequest))
  · by_cases hi : i = .call .drop
    · subst hi
      rw [(coherent_run pollInterval hd).after_drop]
      exact .same rfl rfl
    rcases jobPart_after_cases hd hi with hsame | ⟨job, -, hopened⟩ | ⟨s, a, hs, ha, hwrite⟩
    · exact unitGoesOn_of_jobPart_eq hsame
    · have htoolpath : (((initial pollInterval).run is).after i).view.toolpath = .pending :=
        congrArg (·.2.1) hopened
      exact .fits htoolpath ToolpathState.noConfusion (congrArg (·.2.2.1) hopened)
    · refine unitGoesOn_write hwrite fun artefact result htext => ?_
      subst htext
      obtain ⟨_, -, -, -, hround⟩ :=
        (coherent_run pollInterval hd).round hs (goesOn_of_mem_answers ha)
      exact unit_of_wanted hs (hround.wanted?_of_text_mem ha)

theorem unitGoesOn_append (pollInterval : Nat) (is : List Input) (i : Input) :
    ((initial pollInterval).run is).view.UnitGoesOn
      ((initial pollInterval).run (is ++ [i])).view := by
  rw [run_append]
  exact unitGoesOn_after pollInterval is i

/-! ### The unit in a run -/

/-- **Unless the toolpath is taken off, the unit is that of the toolpath.** -/
theorem unit_of_kept (pollInterval : Nat) (is : List Input)
    (hkept : ((initial pollInterval).run is).view.toolpath ≠ .notProduced) :
    ((initial pollInterval).run is).view.unit =
      ((initial pollInterval).run is).view.toolpath.unit := by
  induction is using List.reverseRecOn with
  | nil => rfl
  | append_singleton is i ih =>
    cases unitGoesOn_append pollInterval is i with
    | takenOff htoolpath hunit => exact absurd htoolpath hkept
    | same htoolpath hunit =>
      rw [htoolpath] at hkept ⊢
      exact hunit.trans (ih hkept)
    | fits htoolpath _ hunit =>
      rw [htoolpath]
      exact hunit

/-- **The unit is that of the last toolpath that has not been taken off.** In every state of every
run (a) unless the view says that there is no toolpath, the unit is that of the toolpath, and not
known if none has been loaded; and (b) if it says so, the unit is the one that went with the
toolpath the last time that it did not say so. -/
theorem unit_of_last_kept (pollInterval : Nat) (is : List Input) :
    let view (is : List Input) := ((initial pollInterval).run is).view
    ((view is).toolpath ≠ .notProduced → (view is).unit = (view is).toolpath.unit) ∧
      ∃ before since, is = before ++ since ∧ (view before).toolpath ≠ .notProduced ∧
        (∀ mid, mid <+: since → mid ≠ [] → (view (before ++ mid)).toolpath = .notProduced) ∧
        (view is).unit = (view before).toolpath.unit := by
  intro view
  refine ⟨unit_of_kept pollInterval is, ?_⟩
  induction is using List.reverseRecOn with
  | nil =>
    refine ⟨[], [], rfl, ToolpathState.noConfusion, ?_, rfl⟩
    intro mid hmid hne
    exact absurd (List.prefix_nil.1 hmid) hne
  | append_singleton is i ih =>
    by_cases hkept : (view (is ++ [i])).toolpath = .notProduced
    · -- The unit stays, so it is still the one from before.
      have hsame : (view (is ++ [i])).unit = (view is).unit := by
        cases unitGoesOn_append pollInterval is i with
        | takenOff htoolpath hunit => exact hunit
        | same htoolpath hunit => exact hunit
        | fits htoolpath hne _ => exact absurd (htoolpath.symm.trans hkept) hne
      obtain ⟨before, since, rfl, hbefore, hsince, hunit⟩ := ih
      refine ⟨before, since ++ [i], List.append_assoc .., hbefore, ?_, hsame.trans hunit⟩
      intro mid hmid hne
      rcases List.prefix_concat_iff.1 hmid with rfl | hmid
      · rw [← List.append_assoc]
        exact hkept
      · exact hsince mid hmid hne
    · refine ⟨is ++ [i], [], (List.append_nil _).symm, hkept, ?_, unit_of_kept _ _ hkept⟩
      intro mid hmid hne
      exact absurd (List.prefix_nil.1 hmid) hne

/-- While the toolpath is shown, so is the unit of its text. -/
theorem loadedOnce_unit : ((initial 500).run loadedOnce).view.unit = .millimetre := by
  have hkept : ((initial 500).run loadedOnce).view.toolpath ≠ .notProduced := nofun
  have hunit : (Toolpath.interpret "G21").unit = .millimetre := by decide +kernel
  exact ((unit_of_last_kept 500 loadedOnce).1 hkept).trans hunit

/-- **A unit can outlast its toolpath.** A snapshot without a toolpath takes the toolpath off that
was loaded, and the unit of its text is still shown. -/
theorem takenOff_unit :
    let m := (initial 500).run (loadedOnce ++ nextSnapshot [])
    m.view.toolpath = .notProduced ∧ m.view.unit = .millimetre ∧
      m.view.toolpath.unit = .unknown :=
  ⟨rfl, by decide +kernel, rfl⟩

end Machine

end MachiningViewer.Viewer
