import MachiningViewer.Proofs.Viewer.Endings

/-!
# How often a text is asked for

A session asks for the text of a toolpath whenever a snapshot tells of one, and for the first one
that it tells of, until a text has been loaded; then it asks for none any more
(`textsWanted_run`). So at most one text is loaded in a session (`countP_isText_le`). A toolpath is
shown only when its text arrives (`toolpath_after_cases`), and from then on, until another job is
opened, it is shown or taken off the view, but never open or failed (`toolpath_run_of_loaded`).

All of it rests on what the course of the answers says of a session that waits for a text: no text
has been loaded before (`not_any_isText_of_text_mem`).
-/

namespace MachiningViewer.Viewer

/-- The artefact whose text is asked for, if the effect is a request for a text. -/
def Effect.text? : Effect → Option ArtefactRef
  | .fetchText _ artefact => some artefact
  | _ => none

/-- The toolpath that an answer tells of: the first one of the snapshot, if it is one. -/
def Answer.toolpath? (a : Answer) : Option ArtefactRef :=
  a.job?.bind (·.resolve? .toolpathText)

namespace Machine

variable {m : Machine} {s : Session} {n pollInterval : Nat} {i : Input} {is : List Input}
  {as : List Answer} {t : Toolpath}

/-- The artefacts whose texts the session of a number asks for in one step. -/
def textsWanted (n : Nat) (m : Machine) (i : Input) : List ArtefactRef :=
  (m.fetches n i).filterMap (·.text?)

/-! ### Which texts are asked for -/

theorem filterMap_toolpath?_snapshot (snapshot : Job) :
    [Answer.job (.ok snapshot)].filterMap (·.toolpath?) =
      (snapshot.resolve? .toolpathText).toList := by
  have htells : (Answer.job (.ok snapshot)).toolpath? = snapshot.resolve? .toolpathText := rfl
  rw [List.filterMap_cons, htells]
  cases snapshot.resolve? .toolpathText <;> rfl

theorem filterMap_text?_request? (s : Session) (t : Tracker) :
    (t.request? s).toList.filterMap (·.text?) = t.wanted?.toList := by
  cases t <;> rfl

theorem wanted?_trackerAfter (m : Machine) (s : Session) (job : Job) :
    (m.trackerAfter s job).wanted? =
      if s.loaded then none else job.resolve? .toolpathText := by
  unfold trackerAfter
  cases job.resolve? .toolpathText with
  | none => simp [wanted?_nextRound]
  | some artefact =>
    cases s.loaded with
    | true => simp [wanted?_nextRound]
    | false => rfl

/-- One input makes the session ask for the toolpath that it tells of, unless one is loaded. -/
theorem texts_of_round {tracker : Tracker} {job? : Option Job} {fs : List Effect}
    {as' : List Answer} (hf : s.Follows as) (hn : m.view.session = s.number)
    (hr : m.Round s tracker job? fs as') :
    fs.filterMap (·.text?) =
      if as.any (·.isText) then [] else as'.filterMap (·.toolpath?) := by
  cases hr with
  | rest => split <;> rfl
  | ask hdue => split <;> rfl
  | snapshot hwaits result =>
    rw [filterMap_text?_request?]
    cases result with
    | ok job =>
      simp only [afterSnapshot, if_pos hn, wanted?_trackerAfter, hf.loaded_eq,
        filterMap_toolpath?_snapshot]
      split <;> rfl
    | error e =>
      simp only [afterSnapshot, wanted?_nextRound]
      split <;> rfl
  | text hwaits result => split <;> rfl

/-- **Which texts are asked for** in a step of a run: those that its snapshots tell of, unless a
text of the session has been loaded before. -/
theorem textsWanted_run (hd : .call .drop ∉ is) (n : Nat) (i : Input) :
    ((initial pollInterval).run is).textsWanted n i =
      if (answered n (initial pollInterval) is).any (·.isText) then []
      else (((initial pollInterval).run is).answers n i).filterMap (·.toolpath?) := by
  have hc := coherent_run pollInterval hd
  unfold textsWanted
  by_cases h : i.goesOn ∧ ∃ s, ((initial pollInterval).run is).session = some s ∧ s.number = n
  · obtain ⟨hi, s, hs, rfl⟩ := h
    obtain ⟨s', -, -, -, hround⟩ := hc.round hs hi
    exact texts_of_round (told_of_session hs).2 (hc.number_eq s hs).symm hround
  · -- Nothing is asked for and nothing is answered but in the open session.
    have hfetches : ((initial pollInterval).run is).fetches n i = [] :=
      List.eq_nil_iff_forall_not_mem.2 fun e he => h (session_of_mem_fetches he)
    have hanswers : ((initial pollInterval).run is).answers n i = [] :=
      List.eq_nil_iff_forall_not_mem.2 fun a ha =>
        h ⟨goesOn_of_mem_answers ha, session_of_mem_answers ha⟩
    rw [hfetches, hanswers]
    simp

/-- The tracker gets at most one answer in a step. -/
theorem answers_eq_singleton {a : Answer} (ha : a ∈ m.answers n i) : m.answers n i = [a] := by
  cases i with
  | call k => cases ha
  | happening h =>
    rw [answers] at ha ⊢
    split at ha
    · rename_i hn
      rw [if_pos hn, Option.mem_toList.1 ha]
      rfl
    · cases ha

/-- A snapshot that arrives is shown. -/
theorem Round.shown_of_job_mem {tracker : Tracker} {job? : Option Job} {fs : List Effect}
    {snapshot : Job} (hr : m.Round s tracker job? fs as) (ha : .job (.ok snapshot) ∈ as) :
    job? = some snapshot := by
  cases hr with
  | rest => cases ha
  | ask hdue => cases ha
  | snapshot hwaits result' =>
    obtain rfl := Answer.job.inj (List.mem_singleton.1 ha)
    rfl
  | text hwaits result' => simp at ha

/-- A snapshot is shown when it arrives, and leads to a request for the text that it tells of. -/
theorem shown_and_textsWanted_of_job_mem (hd : .call .drop ∉ is) {snapshot : Job}
    (ha : .job (.ok snapshot) ∈ ((initial pollInterval).run is).answers n i) :
    (((initial pollInterval).run is).after i).view.job = some snapshot ∧
      ((initial pollInterval).run is).textsWanted n i =
        if (answered n (initial pollInterval) is).any (·.isText) then []
        else (snapshot.resolve? .toolpathText).toList := by
  have hwanted := @textsWanted_run pollInterval is hd n i
  rw [answers_eq_singleton ha, filterMap_toolpath?_snapshot] at hwanted
  obtain ⟨s, hs, rfl⟩ := session_of_mem_answers ha
  obtain ⟨_, -, -, -, hround⟩ := (coherent_run pollInterval hd).round hs (goesOn_of_mem_answers ha)
  exact ⟨hround.shown_of_job_mem ha, hwanted⟩

/-- Nothing but a snapshot leads to a request for a text. -/
theorem textsWanted_eq_nil (hd : .call .drop ∉ is)
    (hnone : ∀ snapshot, .job (.ok snapshot) ∉ ((initial pollInterval).run is).answers n i) :
    ((initial pollInterval).run is).textsWanted n i = [] := by
  have hnothing : (((initial pollInterval).run is).answers n i).filterMap (·.toolpath?) = [] := by
    refine List.filterMap_eq_nil_iff.2 fun a ha => ?_
    cases a with
    | job result =>
      cases result with
      | ok snapshot => exact absurd ha (hnone snapshot)
      | error e => rfl
    | text artefact result => rfl
  rw [textsWanted_run hd, hnothing]
  split <;> rfl

/-! ### At most one text is loaded -/

/-- Who gets the answer to a request for a text has waited for it. -/
theorem Round.wanted?_of_text_mem {tracker : Tracker} {job? : Option Job} {fs : List Effect}
    {artefact : ArtefactRef} {result : Except FetchError String}
    (hr : m.Round s tracker job? fs as) (ha : .text artefact result ∈ as) :
    s.tracker.wanted? = some artefact := by
  cases hr with
  | rest => cases ha
  | ask hdue => cases ha
  | snapshot hwaits result' => simp at ha
  | text hwaits result' =>
    obtain ⟨rfl, -⟩ := Answer.text.inj (List.mem_singleton.1 ha)
    rw [hwaits]
    rfl

/-- **A text that arrives is the first one of its session to be loaded**, if it is loaded. -/
theorem not_any_isText_of_text_mem (hd : .call .drop ∉ is) {artefact : ArtefactRef}
    {result : Except FetchError String}
    (ha : .text artefact result ∈ ((initial pollInterval).run is).answers n i) :
    ¬ (answered n (initial pollInterval) is).any (·.isText) := by
  obtain ⟨s, hs, rfl⟩ := session_of_mem_answers ha
  obtain ⟨_, -, -, -, hround⟩ := (coherent_run pollInterval hd).round hs (goesOn_of_mem_answers ha)
  -- The tracker wants a text only while none has been loaded in its session.
  have hcourse := (told_of_session hs).2.course
  rw [hround.wanted?_of_text_mem ha] at hcourse
  exact hcourse.lastJob?_of_some.1

/-- **At most one text is loaded in a session.** -/
theorem countP_isText_le (hd : .call .drop ∉ is) (n : Nat) :
    (answered n (initial pollInterval) is).countP (·.isText) ≤ 1 := by
  induction is using List.reverseRecOn with
  | nil => exact Nat.zero_le 1
  | append_singleton is i ih =>
    have hd' : .call .drop ∉ is := fun h => hd (List.mem_append_left _ h)
    rw [answered, gather_append, gather_singleton, List.countP_append]
    show (answered n (initial pollInterval) is).countP _ +
      (((initial pollInterval).run is).answers n i).countP _ ≤ 1
    -- Induction over the run: a text that arrives now is the first one.
    by_cases hnew : ∃ a ∈ ((initial pollInterval).run is).answers n i, a.isText
    · obtain ⟨a, ha, htext⟩ := hnew
      have hbefore : (answered n (initial pollInterval) is).countP (·.isText) = 0 := by
        cases a with
        | job result => cases htext
        | text artefact result =>
          exact List.countP_eq_zero.2 fun a' ha' htext' =>
            not_any_isText_of_text_mem hd' ha (List.any_eq_true.2 ⟨a', ha', htext'⟩)
      rw [hbefore, Nat.zero_add, answers_eq_singleton ha]
      exact List.countP_le_length
    · have hnow : (((initial pollInterval).run is).answers n i).countP (·.isText) = 0 :=
        List.countP_eq_zero.2 fun a ha htext => hnew ⟨a, ha, htext⟩
      rw [hnow, Nat.add_zero]
      exact ih hd'

/-! ### What the view shows of the toolpath -/

/-- **What a step makes of what the view shows of the job.** It stays, or another job is opened, or
an answer of the open session writes it. -/
theorem jobPart_after_cases (hd : .call .drop ∉ is) (hi : i ≠ .call .drop) :
    let m := (initial pollInterval).run is
    (m.after i).view.jobPart = m.view.jobPart ∨
      (∃ job, i = .call (.view job) ∧ (m.after i).view.jobPart = View.initial.jobPart) ∨
      ∃ s a, m.session = some s ∧ a ∈ m.answers s.number i ∧
        (m.after i).view.jobPart = (a.write m.view).jobPart := by
  intro m
  have hc : m.Coherent := coherent_run pollInterval hd
  -- Opening a job starts afresh, and what ends the session or meets none leaves the job as it is.
  by_cases hview : ∃ job, i = .call (.view job)
  · obtain ⟨job, rfl⟩ := hview
    rw [after_view hc.not_dropped]
    exact .inr (.inl ⟨job, rfl, rfl⟩)
  have hview (job : JobId) : i ≠ .call (.view job) := fun he => hview ⟨job, he⟩
  by_cases hends : m.session = none ∨ ¬ i.goesOn
  · exact .inl (hc.jobPart_after hi hview hends).2.1
  -- What is left is a step of the open session, which may bring an answer.
  obtain ⟨hsome, hgoes⟩ := not_or.1 hends
  obtain ⟨s, hs⟩ := Option.ne_none_iff_exists'.1 hsome
  rcases hc.stepCurrent_of_goesOn hs (not_not.1 hgoes) with
    ⟨-, hsame, -⟩ | ⟨h, hafter, -, hanswers⟩
  · exact .inl (congrArg View.jobPart hsame)
  obtain ⟨_, -, -, hpart⟩ :=
    follows_stepCurrent (told_of_session hs).2 hs (hc.number_eq s hs).symm h
  rw [hafter]
  cases hhears : s.tracker.hears? h with
  | none =>
    rw [hhears] at hpart
    exact .inl hpart
  | some a =>
    rw [hhears] at hpart hanswers
    exact .inr (.inr ⟨s, a, hs, hanswers ▸ List.mem_singleton_self a, hpart⟩)

/-- What a step makes of the toolpath. -/
theorem toolpath_after_cases (hd : .call .drop ∉ is) (hi : i ≠ .call .drop) :
    let m := (initial pollInterval).run is
    (m.after i).view.toolpath = m.view.toolpath ∨
      (∃ job, i = .call (.view job) ∧ (m.after i).view.toolpath = .pending) ∨
      ∃ s a, m.session = some s ∧ a ∈ m.answers s.number i ∧
        (m.after i).view.toolpath = (a.write m.view).toolpath := by
  intro m
  -- The toolpath is one of the fields of the job.
  rcases @jobPart_after_cases pollInterval i is hd hi with hsame | ⟨job, hjob, hopened⟩ |
    ⟨s, a, hs, ha, hwrite⟩
  · exact .inl (congrArg (·.2.1) hsame)
  · exact .inr (.inl ⟨job, hjob, congrArg (·.2.1) hopened⟩)
  · exact .inr (.inr ⟨s, a, hs, ha, congrArg (·.2.1) hwrite⟩)

/-- A toolpath in the place of which another one is shown has been loaded from the text that was
asked for. -/
theorem text_of_loaded (hd : .call .drop ∉ is) (hi : i ≠ .call .drop)
    (hbefore : ((initial pollInterval).run is).view.toolpath ≠ .loaded t)
    (hafter : (((initial pollInterval).run is).after i).view.toolpath = .loaded t) :
    ∃ s artefact text, ((initial pollInterval).run is).session = some s ∧
      .text artefact (.ok text) ∈ ((initial pollInterval).run is).answers s.number i ∧
      .fetchText s.number artefact ∈ fetched s.number (initial pollInterval) is ∧
      t = Toolpath.interpret text := by
  rcases toolpath_after_cases hd hi with hsame | ⟨job, -, hpending⟩ | ⟨s, a, hs, ha, hwrite⟩
  · -- Nothing was written, or another job was opened, which shows no toolpath at first.
    exact absurd (hsame.symm.trans hafter) hbefore
  · rw [hpending] at hafter
    cases hafter
  rw [hwrite] at hafter
  -- Of all answers only a text puts a toolpath there.
  cases a with
  | job result =>
    cases result with
    | ok snapshot =>
      simp only [Answer.write, ofSnapshot, View.withJob] at hafter
      split at hafter
      · exact absurd hafter hbefore
      · cases hafter
    | error e => exact absurd hafter hbefore
  | text artefact result =>
    cases result with
    | error e => cases hafter
    | ok text =>
      refine ⟨s, artefact, text, hs, ha, ?_, (ToolpathState.loaded.inj hafter).symm⟩
      -- The request that the tracker waits on is the last that the session has made.
      obtain ⟨_, -, -, -, hround⟩ :=
        (coherent_run pollInterval hd).round hs (goesOn_of_mem_answers ha)
      obtain ⟨status, htracker⟩ := Tracker.eq_of_wanted? (hround.wanted?_of_text_mem ha)
      rw [(tracked_run hs).account, htracker]
      exact List.mem_append_right _ (List.mem_singleton_self _)

/-! ### A toolpath that has been loaded -/

/-- Only a text makes a replay show a toolpath. -/
theorem any_isText_of_replay (h : (Answer.replay as).toolpath = .loaded t) :
    as.any (·.isText) := by
  -- The last answer decides, unless it leaves the toolpath as it is.
  induction as using List.reverseRecOn with
  | nil => cases h
  | append_singleton as a ih =>
    rw [replay_append_singleton] at h
    rw [any_isText_append_singleton]
    cases a with
    | job result =>
      cases result with
      | ok snapshot =>
        simp only [Answer.write, ofSnapshot, View.withJob] at h
        split at h
        · simp [ih h]
        · cases h
      | error e => simp [ih h]
    | text artefact result =>
      cases result with
      | ok text => simp [Answer.isText]
      | error e => cases h

/-- **A toolpath that has been loaded stays, or is taken off the view**, until another job is
opened. -/
theorem toolpath_run_of_loaded {since : List Input} (hd : .call .drop ∉ is ++ since)
    (hview : ∀ job, .call (.view job) ∉ since)
    (hloaded : ((initial pollInterval).run is).view.toolpath = .loaded t) :
    ((initial pollInterval).latestAnswers (is ++ since)).any (·.isText) ∧
      (((initial pollInterval).run (is ++ since)).view.toolpath = .loaded t ∨
        ((initial pollInterval).run (is ++ since)).view.toolpath = .notProduced) := by
  -- Beside the claim it is kept that a text was loaded, so that no other text is to come.
  induction since using List.reverseRecOn with
  | nil =>
    rw [List.append_nil] at hd ⊢
    have hpart := congrArg (·.2.1) (told_run pollInterval hd).jobPart_eq
    exact ⟨any_isText_of_replay (hpart.symm.trans hloaded), .inl hloaded⟩
  | append_singleton since i ih =>
    obtain ⟨hd', hi⟩ : .call .drop ∉ is ++ since ∧ i ≠ .call .drop := by
      simpa [not_or, eq_comm, and_assoc] using hd
    obtain ⟨hview', hiview⟩ :
        (∀ job, .call (.view job) ∉ since) ∧ ∀ job, i ≠ .call (.view job) := by
      simpa [not_or, eq_comm, forall_and] using hview
    obtain ⟨hany, hshown⟩ := ih hd' hview'
    rw [← List.append_assoc]
    refine ⟨?_, ?_⟩
    · -- Answers are only added, for no job is opened.
      rw [latestAnswers_append_of_ne hiview, List.any_append, hany]
      rfl
    · rw [run_append]
      show (((initial pollInterval).run (is ++ since)).after i).view.toolpath = _ ∨
        (((initial pollInterval).run (is ++ since)).after i).view.toolpath = _
      rcases toolpath_after_cases hd' hi with hsame | ⟨job, rfl, -⟩ | ⟨s, a, hs, ha, hwrite⟩
      · rw [hsame]
        exact hshown
      · exact absurd rfl (hiview job)
      rw [hwrite]
      cases a with
      | job result =>
        cases result with
        | ok snapshot =>
          simp only [Answer.write, ofSnapshot, View.withJob]
          split
          · exact hshown
          · exact .inr rfl
        | error e => exact hshown
      | text artefact result =>
        -- No text is asked for when one has been loaded.
        have hlatest := (told_run pollInterval hd').session s hs
        rw [latestAnswers, hlatest.1] at hany
        exact absurd hany (not_any_isText_of_text_mem hd' ha)

/-- **The toolpath text is loaded at most once in a session.** In every run in which the viewer has
not been dropped, (a) at most one text arrives in each session; (b) a snapshot that arrives in a
session is shown, and the session asks at once for the text of the first toolpath that it tells of,
if it tells of one, and for nothing else, unless a text of the session has arrived before; then, and
when no snapshot arrives, no text is asked for; (c) a toolpath comes to be shown only when a text
arrives that the open session has asked for, and it is what that text says; and (d) from then on,
until another job is opened, that toolpath is shown or there is none, whatever happens. -/
theorem toolpath_loaded_once (pollInterval : Nat) (hd : .call .drop ∉ is) :
    let start := initial pollInterval
    (∀ n, (answered n start is).countP (·.isText) ≤ 1) ∧
      (∀ before i after n, is = before ++ i :: after →
        (∀ snapshot, .job (.ok snapshot) ∈ (start.run before).answers n i →
            ((start.run before).after i).view.job = some snapshot ∧
            (start.run before).textsWanted n i =
              if (answered n start before).any (·.isText) then []
              else (snapshot.resolve? .toolpathText).toList) ∧
          ((∀ snapshot, .job (.ok snapshot) ∉ (start.run before).answers n i) →
            (start.run before).textsWanted n i = [])) ∧
      (∀ before i after t, is = before ++ i :: after →
        (start.run before).view.toolpath ≠ .loaded t →
        ((start.run before).after i).view.toolpath = .loaded t →
        ∃ s artefact text, (start.run before).session = some s ∧
          .text artefact (.ok text) ∈ (start.run before).answers s.number i ∧
          .fetchText s.number artefact ∈ fetched s.number start before ∧
          t = Toolpath.interpret text) ∧
      ∀ before since t, is = before ++ since → (∀ job, .call (.view job) ∉ since) →
        (start.run before).view.toolpath = .loaded t →
        (start.run is).view.toolpath = .loaded t ∨
          (start.run is).view.toolpath = .notProduced := by
  intro start
  refine ⟨fun n => countP_isText_le hd n, fun before i after n his => ?_,
    fun before i after t his hbefore hafter => ?_, fun before since t his hview hloaded => ?_⟩
  · -- (b) What is asked for in a step is told by the answers of the step.
    subst his
    have hd' : .call .drop ∉ before := fun h => hd (List.mem_append_left _ h)
    exact ⟨fun snapshot ha => shown_and_textsWanted_of_job_mem hd' ha, textsWanted_eq_nil hd'⟩
  · -- (c) What is not shown yet must be loaded in this very step.
    subst his
    obtain ⟨hd', hi⟩ : .call .drop ∉ before ∧ i ≠ .call .drop := by
      simp only [List.mem_append, List.mem_cons, not_or] at hd
      exact ⟨hd.1, Ne.symm hd.2.1⟩
    exact text_of_loaded hd' hi hbefore hafter
  · -- (d) It holds from the moment when the toolpath is shown.
    subst his
    exact (toolpath_run_of_loaded hd hview hloaded).2

/-- The first session asks for a snapshot. -/
def asking : List Input :=
  [.happening (.elapse 500), .happening (.trackerTurn 1)]

/-- A snapshot arrives in the first session, with the given artefacts. -/
def telling (artefacts : List (ArtefactKind × String)) : Input :=
  .happening (.jobAnswer 1 (.ok (.brief 1 .running artefacts)))

/-- A run in which the first request for a text is turned down. -/
def textRefused : List Input :=
  .call (.view 1) :: asking ++ telling [(.toolpathText, "u1")] ::
    .happening (.textAnswer 1 (.error .forbidden)) :: asking

/-- The same run, in which the next snapshot tells of other toolpaths, and a text is loaded. -/
def textLoaded : List Input :=
  textRefused ++ telling [(.log, "l"), (.toolpathText, "u2"), (.toolpathText, "u3")] ::
    .happening (.textAnswer 1 (.ok "G21")) :: asking

/-- The text of the first of the other toolpaths is asked for, and no text after it has been loaded,
although the first toolpath is told of again. It stays on the view. -/
theorem textLoaded_asks :
    ((initial 500).run textRefused).textsWanted 1
        (telling [(.log, "l"), (.toolpathText, "u2"), (.toolpathText, "u3")]) =
          [⟨.toolpathText, "u2", none, none⟩] ∧
      ((initial 500).run textLoaded).textsWanted 1 (telling [(.toolpathText, "u1")]) = [] ∧
      ((initial 500).run (textLoaded ++ [telling [(.toolpathText, "u1")]])).view.toolpath ≠
        .pending := by
  have hd : .call .drop ∉ textLoaded ++ [telling [(.toolpathText, "u1")]] := by
    simp [textLoaded, textRefused, asking, telling]
  obtain ⟨-, hasks, -, hstays⟩ := toolpath_loaded_once 500 hd
  refine ⟨?_, ?_, ?_⟩
  · exact ((hasks textRefused _ _ 1 rfl).1 _ List.mem_cons_self).2
  · exact ((hasks textLoaded _ [] 1 rfl).1 _ List.mem_cons_self).2
  · have hview (job : JobId) : Input.call (.view job) ∉ [telling [(.toolpathText, "u1")]] := by
      simp [telling]
    rcases hstays textLoaded _ (Toolpath.interpret "G21") rfl hview rfl with h | h <;> rw [h] <;>
      exact ToolpathState.noConfusion

end Machine

end MachiningViewer.Viewer
