import MachiningViewer.Proofs.Viewer.Polling

/-!
# What a view shows of its job

All that a view shows of its job comes from the answers that its session has got: replayed one
after the other on an empty view (`Answer.replay`), they give the same (`told_run`). This goes on
after the session has ended, until another job is opened.

The answers do not come in any order. A text is only asked for when a snapshot has told of it, and
nothing else is asked for meanwhile (`Course`). This is why the error of a view is always that of
the last fetch: a text that arrives leaves the error as it is, but the snapshot before it has
cleared it.
-/

namespace MachiningViewer.Viewer

/-! ### Answers -/

namespace Answer

/-- The snapshot, if it is one. -/
def job? : Answer → Option Job
  | .job (.ok snapshot) => some snapshot
  | .job (.error _) | .text _ _ => none

/-- Why the fetch failed, if it did. -/
def failure? : Answer → Option String
  | .job (.error e) | .text _ (.error e) => some e.message
  | .job (.ok _) | .text _ (.ok _) => none

/-- Is it the text of a toolpath? -/
def isText : Answer → Bool
  | .text _ (.ok _) => true
  | .text _ (.error _) | .job _ => false

/-- What the answer makes of a view. -/
def write : Answer → View → View
  | .job result => Machine.ofSnapshot result
  | .text _ result => Machine.ofText result

/-- What answers make of an empty view. -/
def replay (as : List Answer) : View :=
  as.foldl (fun v a => a.write v) .initial

end Answer

/-- The last snapshot among answers. -/
def lastJob? (as : List Answer) : Option Job :=
  (as.filterMap (·.job?)).getLast?

@[simp]
theorem replay_append_singleton (as : List Answer) (a : Answer) :
    Answer.replay (as ++ [a]) = a.write (Answer.replay as) :=
  List.foldl_append

@[simp]
theorem lastJob?_append_singleton (as : List Answer) (a : Answer) :
    lastJob? (as ++ [a]) = a.job?.or (lastJob? as) := by
  cases h : a.job? <;> simp [lastJob?, List.filterMap_append, h]

/-- **The job and the actions** of a replay are those of the last snapshot. -/
theorem replay_job (as : List Answer) :
    (Answer.replay as).job = lastJob? as ∧
      (Answer.replay as).actions = (lastJob? as).elim .none Job.permittedActions := by
  induction as using List.reverseRecOn with
  | nil => exact ⟨rfl, rfl⟩
  | append_singleton as a ih =>
    rw [replay_append_singleton, lastJob?_append_singleton]
    cases a with
    | job result =>
      cases result with
      | ok job => exact ⟨rfl, rfl⟩
      | error e => exact ih
    | text artefact result =>
      cases result with
      | ok text => exact ih
      | error e => exact ih

/-- What an answer makes of what a view shows of its job depends on nothing else. -/
theorem jobPart_write_congr {v v' : View} (h : v.jobPart = v'.jobPart) (a : Answer) :
    (a.write v).jobPart = (a.write v').jobPart := by
  obtain ⟨hjob, htoolpath, hunit, hactions, herror⟩ :
      v.job = v'.job ∧ v.toolpath = v'.toolpath ∧ v.unit = v'.unit ∧ v.actions = v'.actions ∧
        v.error = v'.error := by simpa only [View.jobPart, Prod.mk.injEq] using h
  cases a with
  | job result =>
    cases result <;>
      simp [Answer.write, Machine.ofSnapshot, View.withJob, View.withError, View.jobPart, *]
  | text artefact result =>
    cases result <;>
      simp [Answer.write, Machine.ofText, View.withToolpath, View.withToolpathError,
        View.jobPart, *]

theorem jobPart_foldl_congr {v v' : View} (h : v.jobPart = v'.jobPart) (as : List Answer) :
    (as.foldl (fun v a => a.write v) v).jobPart = (as.foldl (fun v a => a.write v) v').jobPart := by
  induction as generalizing v v' with
  | nil => exact h
  | cons a as ih => exact ih (jobPart_write_congr h a)

/-! ### How the answers follow each other -/

/-- How the answers of a session can follow each other, and which text is still to come. The text of
a toolpath is fetched right after a snapshot that tells of it, unless it has been loaded before. -/
inductive Course : List Answer → Option ArtefactRef → Prop
  | start : Course [] none
  | failed {as : List Answer} (h : Course as none) (e : FetchError) :
    Course (as ++ [.job (.error e)]) none
  | settled {as : List Answer} (h : Course as none) {job : Job}
    (hjob : job.resolve? .toolpathText = none ∨ as.any (·.isText)) :
    Course (as ++ [.job (.ok job)]) none
  | told {as : List Answer} (h : Course as none) {job : Job} {artefact : ArtefactRef}
    (hjob : job.resolve? .toolpathText = some artefact) (has : ¬ as.any (·.isText)) :
    Course (as ++ [.job (.ok job)]) (some artefact)
  | text {as : List Answer} {artefact : ArtefactRef} (h : Course as (some artefact))
    (result : Except FetchError String) : Course (as ++ [.text artefact result]) none

/-- When a text is to come, there is no error. -/
theorem Course.error_of_some {as : List Answer} {artefact : ArtefactRef}
    (h : Course as (some artefact)) : (Answer.replay as).error = none := by
  cases h with
  | told h hjob has =>
    rw [replay_append_singleton]
    rfl

/-- **The error of a replay** is why the last fetch failed. -/
theorem Course.error_eq {as : List Answer} {wanted : Option ArtefactRef} (h : Course as wanted) :
    (Answer.replay as).error = as.getLast?.bind (·.failure?) := by
  cases h with
  | start => rfl
  | failed h e => rw [replay_append_singleton, List.getLast?_concat]; rfl
  | settled h hjob => rw [replay_append_singleton, List.getLast?_concat]; rfl
  | told h hjob has => rw [replay_append_singleton, List.getLast?_concat]; rfl
  | text h result =>
    rw [replay_append_singleton, List.getLast?_concat]
    cases result with
    | ok text => exact h.error_of_some
    | error e => rfl

/-- The text that the tracker waits for. -/
def Tracker.wanted? : Tracker → Option ArtefactRef
  | .fetchingText artefact _ => some artefact
  | _ => none

/-- The session is where the answers that it has got have led it. -/
structure Session.Follows (s : Session) (as : List Answer) : Prop where
  course : Course as s.tracker.wanted?
  loaded_eq : s.loaded = as.any (·.isText)

namespace Machine

variable {m : Machine} {s s' : Session} {n : Nat} {i : Input} {is : List Input} {as : List Answer}

theorem wanted?_of_isDue {t : Tracker} {clock : Nat} (hd : t.isDue clock) : t.wanted? = none := by
  cases t <;> first | rfl | cases hd

theorem wanted?_nextRound (m : Machine) (isLast : Bool) : (m.nextRound isLast).wanted? = none := by
  cases isLast <;> rfl

/-- The answer to a request for a snapshot leads the session on. -/
theorem follows_afterSnapshot (hf : s.Follows as) (hn : m.view.session = s.number)
    (hw : s.tracker = .fetchingJob) (result : Except FetchError Job) :
    ({ s with tracker := m.afterSnapshot s result } : Session).Follows (as ++ [.job result]) := by
  have hcourse : Course as none := by simpa only [hw, Tracker.wanted?] using hf.course
  have hloaded : s.loaded = (as ++ [Answer.job result]).any (·.isText) := by
    simp [hf.loaded_eq, Answer.isText]
  refine ⟨?_, hloaded⟩
  show Course _ (m.afterSnapshot s result).wanted?
  cases result with
  | error e =>
    rw [afterSnapshot, wanted?_nextRound]
    exact hcourse.failed e
  | ok job =>
    rw [afterSnapshot]
    simp only [if_pos hn]
    -- The tracker asks for the text when the snapshot has one and none was loaded, which is what
    -- the course records.
    unfold trackerAfter
    cases hjob : job.resolve? .toolpathText with
    | none =>
      rw [wanted?_nextRound]
      exact hcourse.settled (.inl hjob)
    | some artefact =>
      have hany := hf.loaded_eq
      cases hl : s.loaded with
      | false => exact hcourse.told hjob (by rw [← hany, hl]; exact Bool.false_ne_true)
      | true =>
        simp only [wanted?_nextRound]
        exact hcourse.settled (.inr (by rw [← hany, hl]))

/-- The answer to a request for a text leads the session on. -/
theorem follows_nextRound (hf : s.Follows as) (hn : m.view.session = s.number)
    {artefact : ArtefactRef} {status : JobStatus} (hw : s.tracker = .fetchingText artefact status)
    (result : Except FetchError String) (isLast : Bool) :
    ({ m.takesText s result with tracker := m.nextRound isLast } : Session).Follows
      (as ++ [.text artefact result]) := by
  have hcourse : Course as (some artefact) := by simpa only [hw, Tracker.wanted?] using hf.course
  constructor
  · show Course _ (m.nextRound isLast).wanted?
    rw [wanted?_nextRound]
    exact hcourse.text result
  · cases result with
    | ok text => simp [takesText, Answer.isText, hn]
    | error e => simp [takesText, Answer.isText, hf.loaded_eq]

/-- **What happens to a session** leads it on by the answer that it gets, if it gets one, and the
view shows of the job what the answer makes of it. -/
theorem follows_stepCurrent (hf : s.Follows as) (hs : m.session = some s)
    (hn : m.view.session = s.number) (h : Happening) :
    ∃ s', (m.stepCurrent s h).1.session = some s' ∧
      s'.Follows (as ++ (s.tracker.hears? h).toList) ∧
      (m.stepCurrent s h).1.view.jobPart =
        ((s.tracker.hears? h).toList.foldl (fun v a => a.write v) m.view).jobPart := by
  -- The three steps in which nothing is heard leave the answers, the two others append one.
  rcases m.stepCurrent_cases s h with ⟨heq, hhears⟩ | ⟨heq, hhears⟩ | ⟨hdue, heq, hhears⟩ |
      ⟨result, hwaits, heq, hhears⟩ | ⟨artefact, status, result, hwaits, heq, hhears⟩ <;>
    rw [heq, hhears]
  · rw [Option.toList_none, List.append_nil]
    exact ⟨s, hs, hf, rfl⟩
  · obtain ⟨s', hs', hside, -⟩ := relay_rests hs
    have htracker : s'.tracker = s.tracker := congrArg (·.tracker) hside
    have hloaded : s'.loaded = s.loaded := congrArg (·.loaded) hside
    rw [Option.toList_none, List.append_nil]
    exact ⟨s', hs', ⟨htracker ▸ hf.course, hloaded.trans hf.loaded_eq⟩,
      congrArg (·.view.jobPart) (jobSide_relay hs)⟩
  · have hcourse := hf.course
    rw [wanted?_of_isDue hdue] at hcourse
    rw [Option.toList_none, List.append_nil]
    exact ⟨{ s with tracker := .fetchingJob }, rfl, ⟨hcourse, hf.loaded_eq⟩, rfl⟩
  · refine ⟨_, ?_, follows_afterSnapshot hf hn hwaits result, ?_⟩
    · rw [answeredJob_fst]
      rfl
    · rw [answeredJob_fst, writeCurrent_of_eq _ hn]
      rfl
  · refine ⟨_, ?_, follows_nextRound hf hn hwaits result status.isTerminal, ?_⟩
    · rw [receivedText_fst_eq]
      rfl
    · rw [receivedText_fst_eq, writeCurrent_of_eq _ hn]
      rfl

/-! ### The session that was opened last -/

/-- The number of the session that begins with an input, if one does. -/
def begins (m : Machine) : Input → List Nat
  | .call (.view job) => ((m.after (.call (.view job))).session.map (·.number)).toList
  | _ => []

/-- The number of the session that was opened last in a run. -/
def lastBegun? (m : Machine) (is : List Input) : Option Nat :=
  (gather after begins m is).getLast?

/-- The answers that the session which was opened last has got while it was open. -/
def latestAnswers (m : Machine) (is : List Input) : List Answer :=
  (m.lastBegun? is).elim [] fun n => answered n m is

/-- What is known of the view and of the open session, if there is one, from the answers that the
session which was opened last has got. -/
structure Told (m : Machine) (last : Option Nat) (as : List Answer) : Prop where
  jobPart_eq : m.view.jobPart = (Answer.replay as).jobPart
  course : ∃ wanted, Course as wanted
  session : ∀ s, m.session = some s → last = some s.number ∧ s.Follows as

theorem begins_view (hn : m.dropped = false) (job : JobId) :
    m.begins (.call (.view job)) = [m.view.session + 1] := by
  rw [begins, after_view hn, session_of_openJob]
  rfl

theorem lastBegun?_append_view (hn : (m.run is).dropped = false) (job : JobId) :
    m.lastBegun? (is ++ [.call (.view job)]) = some ((m.run is).view.session + 1) := by
  rw [lastBegun?, gather_append, gather_singleton]
  show (_ ++ (m.run is).begins (.call (.view job))).getLast? = _
  rw [begins_view hn, List.getLast?_concat]

theorem lastBegun?_append_of_ne (hv : ∀ job, i ≠ .call (.view job)) (m : Machine)
    (is : List Input) : m.lastBegun? (is ++ [i]) = m.lastBegun? is := by
  have hbegins (m' : Machine) : m'.begins i = [] := by
    unfold begins
    split
    · exact absurd rfl (hv _)
    · rfl
  rw [lastBegun?, gather_append, gather_singleton, hbegins, List.append_nil]
  rfl

theorem latestAnswers_append_of_ne (hv : ∀ job, i ≠ .call (.view job)) (m : Machine)
    (is : List Input) :
    m.latestAnswers (is ++ [i]) =
      m.latestAnswers is ++ (m.lastBegun? is).elim [] fun n => (m.run is).answers n i := by
  rw [latestAnswers, lastBegun?_append_of_ne hv, latestAnswers]
  cases m.lastBegun? is with
  | none => rfl
  | some n =>
    simp only [Option.elim_some]
    rw [answered, gather_append, gather_singleton]
    rfl

/-- A session that has just begun has got no answer. -/
theorem latestAnswers_append_view {pollInterval : Nat} (hd : .call .drop ∉ is) (job : JobId) :
    (initial pollInterval).latestAnswers (is ++ [.call (.view job)]) = [] := by
  have hn := (coherent_run pollInterval hd).not_dropped
  have hnew : ((initial pollInterval).run is).view.session <
      ((initial pollInterval).run is).view.session + 1 := Nat.lt_succ_self _
  rw [latestAnswers, lastBegun?_append_view hn]
  simp only [Option.elim_some]
  rw [answered, gather_append, gather_singleton,
    (coherent_initial pollInterval).gather_eq_nil session_of_mem_answers hd hnew]
  rfl

theorem answers_of_none (hs : m.session = none) (n : Nat) (i : Input) : m.answers n i = [] := by
  refine List.eq_nil_iff_forall_not_mem.2 fun a ha => ?_
  obtain ⟨s, hs', -⟩ := session_of_mem_answers ha
  rw [hs] at hs'
  cases hs'

/-- Without a session, or when it is closed, what the view shows of the job stays. -/
theorem Coherent.jobPart_after (hc : m.Coherent) (hi : i ≠ .call .drop)
    (hv : ∀ job, i ≠ .call (.view job)) (hends : m.session = none ∨ ¬ i.goesOn) :
    (m.after i).session = none ∧ (m.after i).view.jobPart = m.view.jobPart ∧
      ∀ n, m.answers n i = [] := by
  by_cases hs : m.session = none
  · obtain ⟨hview, hnone⟩ := hc.after_of_none hs hi hv
    refine ⟨hnone, ?_, fun n => answers_of_none hs n i⟩
    rw [hview]
    split <;> rfl
  · -- With a session open and no drop, closing is the only input that does not go on.
    obtain rfl : i = .call .close := by
      cases i with
      | happening h => exact absurd rfl (hends.resolve_left hs)
      | call k =>
        cases k with
        | view job => exact absurd rfl (hv job)
        | close => rfl
        | retryStream => exact absurd rfl (hends.resolve_left hs)
        | drop => exact absurd rfl hi
    have hpart : m.close.1.view.jobPart = m.view.jobPart := by
      show m.cancel.1.view.jobPart = _
      rw [cancel_view]
    rw [after_close hc.not_dropped]
    exact ⟨m.cancel_session, hpart, fun _ => rfl⟩

/-- **While a session goes on**, its answers lead it on and make what the view shows of the job. -/
theorem Told.goesOn {last : Option Nat} (ht : m.Told last as) (hc : m.Coherent)
    (hs : m.session = some s) (hi : i.goesOn) :
    (m.after i).Told last (as ++ m.answers s.number i) := by
  obtain ⟨hlast, hf⟩ := ht.session s hs
  rcases hc.stepCurrent_of_goesOn hs hi with
    ⟨hsession, hview, -, hanswers⟩ | ⟨h, hafter, -, hanswers⟩
  · rw [hanswers, List.append_nil]
    refine ⟨hview ▸ ht.jobPart_eq, ht.course, fun s' hs' => ?_⟩
    obtain rfl : s = s' := Option.some.inj (hsession.symm.trans hs')
    exact ⟨hlast, hf⟩
  · obtain ⟨s₁, hs₁, hf₁, hpart⟩ := follows_stepCurrent hf hs (hc.number_eq s hs).symm h
    obtain ⟨s₂, hs₂, hnumber, -⟩ := hc.session_after hs hi
    rw [hafter] at hs₂ ⊢
    rw [hanswers]
    refine ⟨?_, ⟨_, hf₁.course⟩, fun s' hs' => ?_⟩
    · rw [hpart, Answer.replay, List.foldl_append]
      exact jobPart_foldl_congr ht.jobPart_eq _
    · obtain rfl : s₁ = s' := Option.some.inj (hs₁.symm.trans hs')
      obtain rfl : s₁ = s₂ := Option.some.inj (hs₁.symm.trans hs₂)
      exact ⟨hnumber ▸ hlast, hf₁⟩

/-- **The view shows what the last session was told**, in every run without a drop. -/
theorem told_run (pollInterval : Nat) (hd : .call .drop ∉ is) :
    ((initial pollInterval).run is).Told ((initial pollInterval).lastBegun? is)
      ((initial pollInterval).latestAnswers is) := by
  induction is using List.reverseRecOn with
  | nil => exact ⟨rfl, ⟨none, .start⟩, fun s hs => nomatch hs⟩
  | append_singleton is i ih =>
    obtain ⟨hd', hi⟩ : .call .drop ∉ is ∧ i ≠ .call .drop := by
      simpa [not_or, eq_comm] using hd
    have hc := coherent_run pollInterval hd'
    have ht := ih hd'
    -- A new session starts with no answers. Before the first one, and after its end, none come.
    by_cases hview : ∃ job, i = .call (.view job)
    · obtain ⟨job, rfl⟩ := hview
      rw [latestAnswers_append_view hd', lastBegun?_append_view hc.not_dropped, run_append]
      show (((initial pollInterval).run is).after (.call (.view job))).Told _ _
      rw [after_view hc.not_dropped]
      refine ⟨rfl, ⟨none, .start⟩, fun s hs => ?_⟩
      obtain rfl := Option.some.inj ((session_of_openJob _ job).symm.trans hs)
      exact ⟨rfl, .start, rfl⟩
    · have hview (job : JobId) : i ≠ .call (.view job) := fun he => hview ⟨job, he⟩
      rw [latestAnswers_append_of_ne hview, lastBegun?_append_of_ne hview, run_append]
      by_cases hgoes : ((initial pollInterval).run is).session = none ∨ ¬ i.goesOn
      · obtain ⟨hnone, hpart, hanswers⟩ := hc.jobPart_after hi hview hgoes
        have hnothing : ((initial pollInterval).lastBegun? is).elim []
            (fun n => ((initial pollInterval).run is).answers n i) = [] := by
          cases (initial pollInterval).lastBegun? is <;> first | rfl | exact hanswers _
        rw [hnothing, List.append_nil]
        refine ⟨hpart.trans ht.jobPart_eq, ht.course, fun s hs => ?_⟩
        have hs : (((initial pollInterval).run is).after i).session = some s := hs
        rw [hnone] at hs
        cases hs
      · obtain ⟨hsome, hgoes⟩ := not_or.1 hgoes
        obtain ⟨s, hs⟩ := Option.ne_none_iff_exists'.1 hsome
        have hlast := (ht.session s hs).1
        rw [hlast] at ht ⊢
        exact ht.goesOn hc hs (not_not.1 hgoes)

/-! ### The fields of the view -/

/-- **The fields of a snapshot go together.** In every state of a run in which the viewer has not
been dropped, with the answers that the session which was opened last has got while it was open,
(a) the actions are those that the shown job permits, and nothing is permitted if none is shown;
(b) the shown job is the last snapshot among the answers, if there is one; and (c) the error is why
the last of all the fetches failed, and there is none if it did not fail or nothing has been
fetched. -/
theorem snapshot_fields_coherent (pollInterval : Nat) (hd : .call .drop ∉ is) :
    let v := ((initial pollInterval).run is).view
    let answers := (initial pollInterval).latestAnswers is
    v.actions = v.job.elim .none Job.permittedActions ∧
      v.job = lastJob? answers ∧
      v.error = answers.getLast?.bind (·.failure?) := by
  intro v answers
  have ht := told_run pollInterval hd
  obtain ⟨wanted, hcourse⟩ := ht.course
  obtain ⟨hjob, hactions⟩ := replay_job answers
  obtain ⟨hvjob, -, -, hvactions, hverror⟩ : v.job = (Answer.replay answers).job ∧
      v.toolpath = (Answer.replay answers).toolpath ∧ v.unit = (Answer.replay answers).unit ∧
      v.actions = (Answer.replay answers).actions ∧ v.error = (Answer.replay answers).error := by
    simpa only [View.jobPart, Prod.mk.injEq] using ht.jobPart_eq
  refine ⟨?_, hvjob.trans hjob, hverror.trans hcourse.error_eq⟩
  rw [hvactions, hactions, hvjob, hjob]

/-- A run whose session gets a snapshot that tells of a toolpath, and not the text of it. The viewer
is closed then. -/
def untold : List Input :=
  [.call (.view 1), .happening (.trackerTurn 1),
    .happening (.jobAnswer 1 (.ok (.brief 1 .running [(.toolpathText, "u1")]))),
    .happening (.textAnswer 1 (.error .forbidden)), .call .close]

/-- The view shows the snapshot and what it permits, and why there is no text. -/
theorem untold_fields :
    ((initial 500).run untold).view.actions = ⟨false, true, false, true⟩ ∧
      ((initial 500).run untold).view.job =
        some (.brief 1 .running [(.toolpathText, "u1")]) ∧
      ((initial 500).run untold).view.error = some FetchError.forbidden.message := by
  have hd : .call .drop ∉ untold := by simp [untold]
  obtain ⟨hactions, hjob, herror⟩ := snapshot_fields_coherent 500 hd
  rw [hactions, hjob, herror]
  exact ⟨rfl, rfl, rfl⟩

end Machine

end MachiningViewer.Viewer
