import MachiningViewer.Proofs.Viewer.Snapshots

/-!
# Whether there is a toolpath to show

Between two rounds of a session, when no text is on its way, it is settled whether there is a
toolpath to show: none if the last snapshot tells of none, and else what came of the request for its
text (`toolpath_availability`). There is one way out of step. A text that has been loaded is not
asked for again, but a snapshot that does not tell of it any more takes it off the view, so a
toolpath that goes and comes back after it was loaded stays away for the rest of the session
(`Answer.Lost`).

The proof follows the course of the answers, apart for sessions that have loaded a text
(`Course.toolpath_of_isText`) and sessions that have not (`Course.toolpath_of_not_isText`); both
show the same as long as the toolpath is not lost (`Course.toolpath_of_not_lost`).
-/

namespace MachiningViewer.Viewer

namespace Answer

/-- What came of a request for a text, if it is the answer to one. -/
def text? : Answer → Option (Except FetchError String)
  | .text _ result => some result
  | .job _ => none

/-- After a text was loaded, a snapshot has come that tells of no toolpath. -/
def Lost (as : List Answer) : Prop :=
  ∃ before after snapshot, as = before ++ .job (.ok snapshot) :: after ∧
    before.any (·.isText) ∧ snapshot.resolve? .toolpathText = none

end Answer

/-- What came of the last request for a text. -/
def lastText? (as : List Answer) : Option (Except FetchError String) :=
  (as.filterMap (·.text?)).getLast?

/-- What a view shows of the toolpath when the request for its text has been answered. -/
def ToolpathState.ofText : Except FetchError String → ToolpathState
  | .ok text => .loaded (Toolpath.interpret text)
  | .error e => .failed e.message

theorem ToolpathState.ofText_ne_notProduced (result : Except FetchError String) :
    ofText result ≠ .notProduced := by
  cases result <;> exact ToolpathState.noConfusion

theorem ToolpathState.ofText_ne_pending (result : Except FetchError String) :
    ofText result ≠ .pending := by
  cases result <;> exact ToolpathState.noConfusion

variable {as : List Answer} {a : Answer} {wanted : Option ArtefactRef} {snapshot : Job}

@[simp]
theorem lastText?_append_singleton (as : List Answer) (a : Answer) :
    lastText? (as ++ [a]) = a.text?.or (lastText? as) := by
  cases h : a.text? <;> simp [lastText?, List.filterMap_append, h]

theorem any_isText_append_singleton (as : List Answer) (a : Answer) :
    (as ++ [a]).any (·.isText) = (as.any (·.isText) || a.isText) := by
  rw [List.any_append, List.any_cons, List.any_nil, Bool.or_false]

/-- A toolpath that is lost was lost before, or is lost with the last answer. -/
theorem lost_append_singleton :
    Answer.Lost (as ++ [a]) ↔ Answer.Lost as ∨
      as.any (·.isText) ∧ ∃ snapshot, a = .job (.ok snapshot) ∧
        snapshot.resolve? .toolpathText = none := by
  constructor
  · rintro ⟨before, after, snapshot, heq, hbefore, hnone⟩
    rcases after.eq_nil_or_concat with rfl | ⟨after, last, rfl⟩
    · obtain ⟨rfl, hlast⟩ := List.append_inj' heq rfl
      exact .inr ⟨hbefore, snapshot, List.cons.inj hlast |>.1, hnone⟩
    · rw [List.concat_eq_append, ← List.cons_append, ← List.append_assoc] at heq
      obtain ⟨rfl, -⟩ := List.append_inj' heq rfl
      exact .inl ⟨before, after, snapshot, rfl, hbefore, hnone⟩
  · rintro (⟨before, after, snapshot, rfl, hbefore, hnone⟩ | ⟨hany, snapshot, rfl, hnone⟩)
    · exact ⟨before, after ++ [a], snapshot, by simp, hbefore, hnone⟩
    · exact ⟨as, [], snapshot, rfl, hany, hnone⟩

/-- What was never loaded cannot be lost. -/
theorem any_isText_of_lost (h : Answer.Lost as) : as.any (·.isText) := by
  obtain ⟨before, after, snapshot, rfl, hbefore, -⟩ := h
  rw [List.any_append, hbefore, Bool.true_or]

/-! ### Along the course of the answers -/

/-- When a text is to come, the last snapshot tells of it, and none has been loaded. -/
theorem Course.lastJob?_of_some {artefact : ArtefactRef} (h : Course as (some artefact)) :
    ¬ as.any (·.isText) ∧
      ∃ snapshot, lastJob? as = some snapshot ∧
        snapshot.resolve? .toolpathText = some artefact := by
  cases h with
  | @told as _ job _ hjob has =>
    rw [any_isText_append_singleton, lastJob?_append_singleton]
    exact ⟨by simpa [Answer.isText] using has, job, rfl, hjob⟩

/-- What a snapshot makes of the toolpath. -/
theorem replay_append_snapshot_toolpath (as : List Answer) (snapshot : Job) :
    (Answer.replay (as ++ [.job (.ok snapshot)])).toolpath =
      if snapshot.resolve? .toolpathText = none then .notProduced
      else (Answer.replay as).toolpath := by
  rw [replay_append_singleton]
  show (if (snapshot.resolve? .toolpathText).isSome then _ else _) = _
  cases snapshot.resolve? .toolpathText <;> rfl

/-- **A toolpath that is lost is not shown.** -/
theorem Course.toolpath_of_lost (h : Course as wanted) (hl : Answer.Lost as) :
    (Answer.replay as).toolpath = .notProduced := by
  induction h with
  | start => cases any_isText_of_lost hl
  | failed h e ih =>
    rw [replay_append_singleton]
    exact ih (by simpa [lost_append_singleton] using hl)
  | @settled as h snapshot hsnapshot ih =>
    rw [replay_append_snapshot_toolpath]
    -- A snapshot without the artefact shows `NotProduced` itself. One with it leaves the view as it
    -- was.
    by_cases hnone : snapshot.resolve? .toolpathText = none
    · exact if_pos hnone
    · rw [if_neg hnone]
      exact ih (by simpa [lost_append_singleton, hnone] using hl)
  | told h hsnapshot has =>
    have hany := any_isText_of_lost hl
    rw [any_isText_append_singleton, Answer.isText, Bool.or_false] at hany
    exact absurd hany has
  | @text as artefact h result =>
    -- A text is asked for only before the first one has come, so nothing can be lost yet.
    have hl : Answer.Lost as := by simpa [lost_append_singleton] using hl
    exact absurd (any_isText_of_lost hl) h.lastJob?_of_some.1

/-- **A toolpath that has been loaded and is not lost is shown.** -/
theorem Course.toolpath_of_isText (h : Course as wanted) (hany : as.any (·.isText))
    (hl : ¬ Answer.Lost as) :
    (∃ snapshot, lastJob? as = some snapshot ∧ snapshot.resolve? .toolpathText ≠ none) ∧
      ∃ text, lastText? as = some (.ok text) ∧
        (Answer.replay as).toolpath = .loaded (Toolpath.interpret text) := by
  induction h with
  | start => cases hany
  | failed h e ih =>
    rw [any_isText_append_singleton, Answer.isText, Bool.or_false] at hany
    rw [lastJob?_append_singleton, lastText?_append_singleton, replay_append_singleton]
    exact ih hany (by simpa [lost_append_singleton] using hl)
  | @settled as h snapshot hsnapshot ih =>
    rw [any_isText_append_singleton, Answer.isText, Bool.or_false] at hany
    -- After the first text a snapshot without the artefact would be the loss excluded here.
    obtain ⟨hl, htells⟩ : ¬ Answer.Lost as ∧ snapshot.resolve? .toolpathText ≠ none := by
      simpa [lost_append_singleton, hany] using hl
    obtain ⟨-, text, htext, htoolpath⟩ := ih hany hl
    rw [lastJob?_append_singleton, lastText?_append_singleton, replay_append_snapshot_toolpath,
      if_neg htells]
    exact ⟨⟨snapshot, rfl, htells⟩, text, htext, htoolpath⟩
  | told h hsnapshot has =>
    rw [any_isText_append_singleton, Answer.isText, Bool.or_false] at hany
    exact absurd hany has
  | text h result =>
    obtain ⟨hnot, snapshot, hlast, hresolve⟩ := h.lastJob?_of_some
    rw [any_isText_append_singleton, Bool.or_eq_true] at hany
    have hany := hany.resolve_left hnot
    cases result with
    | error e => cases hany
    | ok text =>
      rw [lastJob?_append_singleton, lastText?_append_singleton, replay_append_singleton]
      have htells : snapshot.resolve? .toolpathText ≠ none := by
        rw [hresolve]
        exact Option.some_ne_none _
      exact ⟨⟨snapshot, hlast, htells⟩, text, rfl, rfl⟩

/-- **As long as no text has been loaded**, the toolpath is absent if the last snapshot tells of
none, and its text could not be had if it does. -/
theorem Course.toolpath_of_not_isText (h : Course as none) (hany : ¬ as.any (·.isText))
    (hlast : lastJob? as = some snapshot) :
    (snapshot.resolve? .toolpathText = none ∧ (Answer.replay as).toolpath = .notProduced) ∨
      snapshot.resolve? .toolpathText ≠ none ∧
        ∃ e, lastText? as = some (.error e) ∧ (Answer.replay as).toolpath = .failed e.message := by
  -- The induction is on the course with nothing wanted, which a snapshot just told about is not.
  generalize hw : (none : Option ArtefactRef) = wanted at h
  induction h generalizing snapshot with
  | start => cases hlast
  | failed h e ih =>
    rw [any_isText_append_singleton, Answer.isText, Bool.or_false] at hany
    rw [lastText?_append_singleton, replay_append_singleton]
    rw [lastJob?_append_singleton] at hlast
    exact ih hany hlast rfl
  | settled h hsnapshot ih =>
    rw [any_isText_append_singleton, Answer.isText, Bool.or_false] at hany
    rw [lastJob?_append_singleton] at hlast
    obtain rfl := Option.some.inj hlast
    -- No text has come, so if the snapshot told of one the tracker would be waiting for it.
    have hnone := hsnapshot.resolve_right hany
    rw [replay_append_snapshot_toolpath, if_pos hnone]
    exact .inl ⟨hnone, rfl⟩
  | told h hsnapshot has => cases hw
  | text h result =>
    obtain ⟨-, snapshot', hlast', hresolve⟩ := h.lastJob?_of_some
    rw [lastJob?_append_singleton] at hlast
    obtain rfl : snapshot = snapshot' := Option.some.inj (hlast.symm.trans hlast')
    rw [any_isText_append_singleton, Bool.or_eq_true, not_or] at hany
    rw [lastText?_append_singleton, replay_append_singleton]
    cases result with
    | ok text => exact absurd rfl hany.2
    | error e =>
      refine .inr ⟨?_, e, rfl, rfl⟩
      rw [hresolve]
      exact Option.some_ne_none _

/-- **Unless the toolpath is lost**, it is absent if the last snapshot tells of none, and else what
came of the last request for its text. -/
theorem Course.toolpath_of_not_lost (h : Course as none) (hl : ¬ Answer.Lost as)
    (hlast : lastJob? as = some snapshot) :
    (snapshot.resolve? .toolpathText = none ∧ (Answer.replay as).toolpath = .notProduced) ∨
      snapshot.resolve? .toolpathText ≠ none ∧
        ∃ result, lastText? as = some result ∧
          (Answer.replay as).toolpath = .ofText result := by
  by_cases hany : as.any (·.isText)
  · obtain ⟨⟨snapshot', hlast', htells⟩, text, htext, hshown⟩ := h.toolpath_of_isText hany hl
    obtain rfl : snapshot = snapshot' := Option.some.inj (hlast.symm.trans hlast')
    exact .inr ⟨htells, .ok text, htext, hshown⟩
  · exact (h.toolpath_of_not_isText hany hlast).imp_right
      fun ⟨htells, e, htext, hshown⟩ => ⟨htells, .error e, htext, hshown⟩

namespace Machine

variable {s : Session} {is : List Input}

/-- **Whether there is a toolpath to show.** In every state of a run with an open session in which
no text is being fetched and at least one snapshot has been applied, (a) the toolpath is shown as
not produced exactly when the last snapshot tells of none, or when it was lost: a text had been
loaded, and a later snapshot has told of none; (b) in all other such states it is shown as what came
of the last request for its text, which has been loaded or has failed; and (c) it is never open. -/
theorem toolpath_availability {pollInterval : Nat} {snapshot : Job}
    (hs : ((initial pollInterval).run is).session = some s)
    (hrests : s.tracker.wanted? = none)
    (hlast : lastJob? (answered s.number (initial pollInterval) is) = some snapshot) :
    let answers := answered s.number (initial pollInterval) is
    let toolpath := ((initial pollInterval).run is).view.toolpath
    (toolpath = .notProduced ↔
        snapshot.resolve? .toolpathText = none ∨ Answer.Lost answers) ∧
      (toolpath ≠ .notProduced → ∃ result, lastText? answers = some result ∧
        toolpath = .ofText result) ∧
      toolpath ≠ .pending := by
  intro answers toolpath
  have hd := (coherent_initial pollInterval).not_drop_of_session hs
  have ht := told_run pollInterval hd
  obtain ⟨hbegun, hf⟩ := ht.session s hs
  have hanswers : (initial pollInterval).latestAnswers is = answers := by
    rw [latestAnswers, hbegun]
    rfl
  rw [hanswers] at ht hf
  have hcourse : Course answers none := hrests ▸ hf.course
  have htoolpath : toolpath = (Answer.replay answers).toolpath := congrArg (·.2.1) ht.jobPart_eq
  rw [htoolpath]
  -- Once the toolpath is lost the last snapshot does not matter. Before that it decides.
  by_cases hl : Answer.Lost answers
  · rw [hcourse.toolpath_of_lost hl]
    exact ⟨⟨fun _ => .inr hl, fun _ => rfl⟩, fun h => absurd rfl h, ToolpathState.noConfusion⟩
  · rcases hcourse.toolpath_of_not_lost hl hlast with
      ⟨hnone, hshown⟩ | ⟨htells, result, htext, hshown⟩
    · rw [hshown]
      exact ⟨⟨fun _ => .inl hnone, fun _ => rfl⟩, fun h => absurd rfl h, ToolpathState.noConfusion⟩
    · rw [hshown]
      exact ⟨⟨fun h => absurd h (ToolpathState.ofText_ne_notProduced result),
        fun h => (h.elim htells hl).elim⟩, fun _ => ⟨result, htext, rfl⟩,
        ToolpathState.ofText_ne_pending result⟩

/-- The first session asks for a snapshot, which arrives with the given artefacts. -/
def nextSnapshot (artefacts : List (ArtefactKind × String)) : List Input :=
  [.happening (.elapse 500), .happening (.trackerTurn 1),
    .happening (.jobAnswer 1 (.ok (.brief 1 .running artefacts)))]

/-- A run in which a toolpath is loaded. -/
def loadedOnce : List Input :=
  .call (.view 1) :: nextSnapshot [(.toolpathText, "u1")] ++
    [.happening (.textAnswer 1 (.ok "G21"))]

/-- The toolpath goes after it was loaded, and comes back. -/
def comesBack : List Input :=
  loadedOnce ++ nextSnapshot [] ++ nextSnapshot [(.toolpathText, "u1")]

/-- The toolpath is shown then. -/
theorem loadedOnce_toolpath :
    ((initial 500).run loadedOnce).view.toolpath = .ofText (.ok "G21") := by
  have hs : ((initial 500).run loadedOnce).session = some ⟨1, 1, true, .sleeping 1000, none⟩ := rfl
  have hlast : lastJob? (answered 1 (initial 500) loadedOnce) =
      some (.brief 1 .running [(.toolpathText, "u1")]) := rfl
  have hshown : ((initial 500).run loadedOnce).view.toolpath ≠ .notProduced := nofun
  obtain ⟨result, htext, htoolpath⟩ := (toolpath_availability hs rfl hlast).2.1 hshown
  have htext : some (Except.ok "G21") = some result := htext
  rw [htoolpath, ← Option.some.inj htext]

/-- **A toolpath that comes back is not shown**, if a snapshot without it has come in between, not
even when nothing is being fetched and the last snapshot tells of it. -/
theorem comesBack_toolpath :
    let m := (initial 500).run comesBack
    m.session.map (·.pending?) = some none ∧
      m.view.job.map (·.hasArtefact .toolpathText) = some true ∧
      m.view.toolpath = .notProduced :=
  ⟨rfl, rfl, rfl⟩

end Machine

end MachiningViewer.Viewer
