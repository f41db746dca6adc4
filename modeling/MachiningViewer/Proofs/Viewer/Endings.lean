import MachiningViewer.Proofs.Viewer.Availability
import MachiningViewer.Proofs.Viewer.Mirror

/-!
# How a session comes to rest

As long as anything of a session is under way, the view may still change: a tracker that has not
stopped gets an answer at some time, a stream that is open or about to be comes to its end, and a
relay that has not seen the latest copies it (`Coherent.exists_news_of_tracker`,
`Coherent.exists_news_of_open`, `Coherent.news_of_relay`). When nothing is under way any more, the
session is at rest for good (`Resting`).

The tracker comes to rest with a final answer: one that tells of the end of the job, or that the job
is not known. No snapshot is asked for after that, so a final answer is the last of its kind, and
all that may still come is the text of the toolpath (`Ended`).
-/

namespace MachiningViewer

namespace Progress.Client

variable {c : Client} {s : Subscription} {h : Happening}

/-- What a reader that waits for its stream or reads from it gets can be the end of it, and that is
announced. -/
theorem Coherent.exists_news (hc : c.Coherent) (hs : c.active = some s)
    (hr : s.reader = .opening ∨ ∃ stream, s.reader = .reading stream) :
    ∃ h, c.version < (c.step h).1.version := by
  have hg := hc.generation_eq s hs
  -- A failed opening and the end of the stream both disconnect, and that is a write.
  rcases hr with hr | ⟨stream, hr⟩
  · have ha : s.awaits (.answer s.generation (.error (.opening ""))) := by
      simp [Subscription.awaits, hr]
    have hg' : (c.withReader s .finished).state.generation = s.generation := hg
    refine ⟨.answer s.generation (.error (.opening "")), ?_⟩
    rw [step_of_awaits hs ha]
    simp only [Client.stepCurrent, opened, refused, disconnect, writeCurrent_of_eq _ hg']
    exact Nat.lt_succ_self _
  · have ha : s.awaits (.receive s.generation .ending) := by
      simp [Subscription.awaits, Subscription.stream?, hr]
    refine ⟨.receive s.generation .ending, ?_⟩
    rw [step_of_awaits hs ha]
    simp only [Client.stepCurrent, received, readsOn, hear, disconnect, writeCurrent_of_eq _ hg]
    exact Nat.lt_succ_self _

/-- **A stream that is open or about to be comes to an end**, if the world outside will have it. -/
theorem Coherent.exists_news_of_open (hc : c.Coherent) (ho : c.state.phase.isOpen) :
    ∃ hs : List Happening, c.version < (c.run (hs.map .happening)).version := by
  cases hs : c.active with
  | none =>
    rcases hc.phase_of_none hs with hp | hp <;> rw [hp] at ho <;> cases ho
  | some s =>
    have hp := hc.phase_eq s hs
    cases hr : s.reader with
    | fresh =>
      -- The reader takes its first turn, and waits for its stream then.
      have ha : s.awaits (.turn s.generation) := by simp [Subscription.awaits, hr]
      have hstep : (c.step (.turn s.generation)).1 = c.withReader s .opening := by
        rw [step_of_awaits hs ha]
        rfl
      have hc' := hc.step (.turn s.generation)
      rw [hstep] at hc'
      obtain ⟨h, hnews⟩ := hc'.exists_news (s := { s with reader := .opening }) rfl (.inl rfl)
      refine ⟨[.turn s.generation, h], ?_⟩
      show c.version < ((c.step (.turn s.generation)).1.step h).1.version
      rwa [hstep]
    | opening =>
      obtain ⟨h, hnews⟩ := hc.exists_news hs (.inl hr)
      exact ⟨[h], hnews⟩
    | reading stream =>
      obtain ⟨h, hnews⟩ := hc.exists_news hs (.inr ⟨stream, hr⟩)
      exact ⟨[h], hnews⟩
    | finished =>
      rw [hp, hr] at ho
      cases ho

end Progress.Client

namespace Viewer

/-! ### Final answers -/

/-- What is known of a session from a final answer, if it has got one: there was no snapshot after
it, and the tracker has stopped, unless it still waits for a text. -/
def Session.Ended (s : Session) (as : List Answer) : Prop :=
  ∀ result, .job result ∈ as → isFinal result →
    lastSnapshot? as = some result ∧ (s.tracker = .finished ∨ s.tracker.wanted? ≠ none)

theorem mem_of_lastJob? {as : List Answer} {snapshot : Job} (hl : lastJob? as = some snapshot) :
    .job (.ok snapshot) ∈ as := by
  obtain ⟨a, ha, hjob⟩ := List.mem_filterMap.1 (List.mem_of_getLast? hl)
  cases a with
  | job result =>
    cases result with
    | ok job => cases hjob; exact ha
    | error e => cases hjob
  | text artefact result => cases hjob

theorem mem_of_lastSnapshot? {as : List Answer} {result : Except FetchError Job}
    (hl : lastSnapshot? as = some result) : .job result ∈ as := by
  obtain ⟨a, ha, hjob⟩ := List.mem_filterMap.1 (List.mem_of_getLast? hl)
  cases a with
  | job result' => cases hjob; exact ha
  | text artefact result' => cases hjob

/-- The toolpath is not open any more when a snapshot has come and no text is to come. -/
theorem Course.toolpath_ne_pending {as : List Answer} {snapshot : Job} (h : Course as none)
    (hlast : lastJob? as = some snapshot) : (Answer.replay as).toolpath ≠ .pending := by
  by_cases hl : Answer.Lost as
  · rw [h.toolpath_of_lost hl]
    exact ToolpathState.noConfusion
  · rcases h.toolpath_of_not_lost hl hlast with ⟨-, hshown⟩ | ⟨-, result, -, hshown⟩
    · rw [hshown]
      exact ToolpathState.noConfusion
    · rw [hshown]
      exact ToolpathState.ofText_ne_pending result

/-- A tracker wants a text just when it waits for one. -/
theorem Tracker.eq_of_wanted? {t : Tracker} {artefact : ArtefactRef}
    (hw : t.wanted? = some artefact) : ∃ status, t = .fetchingText artefact status := by
  cases t with
  | fetchingText a status => cases hw; exact ⟨status, rfl⟩
  | fresh => cases hw
  | fetchingJob => cases hw
  | sleeping wake => cases hw
  | finished => cases hw

namespace Machine

variable {m m' : Machine} {s s' : Session} {i : Input} {is : List Input} {as : List Answer}

theorem not_isDue_of_ended {clock : Nat} {t : Tracker} (h : t = .finished ∨ t.wanted? ≠ none) :
    ¬ t.isDue clock := by
  rcases h with rfl | h
  · exact Bool.false_ne_true
  · obtain ⟨artefact, hw⟩ := Option.ne_none_iff_exists'.1 h
    obtain ⟨status, rfl⟩ := Tracker.eq_of_wanted? hw
    exact Bool.false_ne_true

/-- **A final answer stays the last**, while the session goes on. -/
theorem ended_round {t : Tracker} {job? : Option Job} {fs fs' : List Effect} {as' : List Answer}
    (he : s.Ended as) (hm : m.Tracked s fs as) (hn : m.view.session = s.number)
    (hr : m.Round s t job? fs' as') (ht : s'.tracker = t) : s'.Ended (as ++ as') := by
  intro result hmem hfinal
  cases hr with
  | rest =>
    rw [List.append_nil] at hmem ⊢
    rw [ht]
    exact he result hmem hfinal
  | ask hdue =>
    -- A tracker with a final answer has no turn any more.
    rw [List.append_nil] at hmem
    exact absurd hdue (not_isDue_of_ended (he result hmem hfinal).2)
  | snapshot hwaits answer =>
    rcases List.mem_append.1 hmem with hmem | hmem
    · -- A tracker that waits for a snapshot has got no final answer.
      rcases (he result hmem hfinal).2 with h | h <;> rw [hwaits] at h
      · cases h
      · exact absurd rfl h
    · obtain rfl : result = answer := by simpa using hmem
      rw [lastSnapshot?_append_job, ht]
      refine ⟨rfl, ?_⟩
      rcases afterSnapshot_cases hn result with ⟨job, artefact, -, hnext⟩ | hnext <;> rw [hnext]
      · exact .inr (Option.some_ne_none artefact)
      · rw [hfinal]
        exact .inl rfl
  | @text artefact status hwaits answer =>
    have hmem : .job result ∈ as := by simpa using hmem
    obtain ⟨hlast, -⟩ := he result hmem hfinal
    -- The tracker remembers the status of the snapshot that told of the text.
    obtain ⟨job, hl, rfl⟩ := hm.text artefact status hwaits
    obtain rfl := Option.some.inj (hlast.symm.trans hl)
    have hterminal : job.status.isTerminal = true := hfinal
    rw [lastSnapshot?_append_text, ht, hterminal]
    exact ⟨hlast, .inl rfl⟩

theorem ended_run {pollInterval : Nat} (hs : ((initial pollInterval).run is).session = some s) :
    s.Ended (answered s.number (initial pollInterval) is) := by
  refine session_induction (P := fun is s =>
      s.Ended (answered s.number (initial pollInterval) is))
    (fun is job hd => ?_) (fun {is i s s'} hc hs he hi hs' hnumber _ => ?_) hs
  · rw [answered, gather_append, gather_singleton,
      (coherent_initial pollInterval).gather_eq_nil session_of_mem_answers hd (Nat.lt_succ_self _)]
    exact fun _ hmem => (List.not_mem_nil hmem).elim
  · obtain ⟨s₁, hs₁, -, -, hround⟩ := hc.round hs hi
    obtain rfl : s' = s₁ := Option.some.inj (hs'.symm.trans hs₁)
    rw [answered, gather_append, gather_singleton, hnumber]
    exact ended_round he (tracked_run hs) (hc.number_eq s hs).symm hround rfl

/-- What the view shows of the job of the open session is what the session's answers make of it. -/
theorem told_of_session {pollInterval : Nat}
    (hs : ((initial pollInterval).run is).session = some s) :
    ((initial pollInterval).run is).view.jobPart =
        (Answer.replay (answered s.number (initial pollInterval) is)).jobPart ∧
      s.Follows (answered s.number (initial pollInterval) is) := by
  have ht := told_run pollInterval ((coherent_initial pollInterval).not_drop_of_session hs)
  obtain ⟨hbegun, hf⟩ := ht.session s hs
  have hanswers : (initial pollInterval).latestAnswers is =
      answered s.number (initial pollInterval) is := by
    rw [latestAnswers, hbegun]
    rfl
  rw [← hanswers]
  exact ⟨ht.jobPart_eq, hf⟩

/-- **When the shown job is at its end**, the last snapshot has told so, and the tracker has stopped
unless it still waits for a text. -/
theorem ended_of_isSettled {pollInterval : Nat}
    (hs : ((initial pollInterval).run is).session = some s)
    (hv : ((initial pollInterval).run is).view.isSettled) :
    ∃ job, lastSnapshot? (answered s.number (initial pollInterval) is) = some (.ok job) ∧
      lastJob? (answered s.number (initial pollInterval) is) = some job ∧
      (s.tracker = .finished ∨ s.tracker.wanted? ≠ none) := by
  obtain ⟨hpart, -⟩ := told_of_session hs
  have hjob : ((initial pollInterval).run is).view.job =
      lastJob? (answered s.number (initial pollInterval) is) :=
    (congrArg Prod.fst hpart).trans (replay_job _).1
  rw [View.isSettled, hjob] at hv
  obtain ⟨job, hl, hterminal⟩ := (Option.any_eq_true ..).1 hv
  obtain ⟨hlast, hended⟩ := ended_run hs (.ok job) (mem_of_lastJob? hl) hterminal
  exact ⟨job, hlast, hl, hended⟩

/-! ### What the view shows of the job when the tracker has stopped -/

theorem Coherent.jobPart_after_of_finished (hc : m.Coherent) (hs : m.session = some s)
    (hf : s.tracker = .finished) (hi : i.goesOn) :
    (m.after i).view.jobPart = m.view.jobPart ∧
      ∃ s', (m.after i).session = some s' ∧ s'.tracker = .finished := by
  rcases hc.stepCurrent_of_goesOn hs hi with ⟨hsession, hview, -⟩ | ⟨h, hafter, -⟩
  · rw [hview]
    exact ⟨rfl, s, hsession, hf⟩
  · rw [hafter]
    -- A finished tracker waits for nothing, so only the relay can still take a step.
    rcases m.stepCurrent_cases s h with ⟨heq, -⟩ | ⟨heq, -⟩ | ⟨hdue, -⟩ | ⟨result, hwaits, -⟩ |
        ⟨artefact, status, result, hwaits, -⟩
    · rw [heq]
      exact ⟨rfl, s, hs, hf⟩
    · obtain ⟨s', hs', hside, -⟩ := relay_rests hs
      have htracker : s'.tracker = s.tracker := congrArg (·.tracker) hside
      rw [heq]
      exact ⟨congrArg (·.view.jobPart) (jobSide_relay hs), s', hs', htracker.trans hf⟩
    · rw [hf] at hdue
      cases hdue
    · rw [hf] at hwaits
      cases hwaits
    · rw [hf] at hwaits
      cases hwaits

/-- **When the tracker has stopped, what the view shows of the job is final**, as long as the
session goes on. -/
theorem Coherent.jobPart_run_of_finished (hc : m.Coherent) (hs : m.session = some s)
    (hf : s.tracker = .finished) (his : ∀ i ∈ is, i.goesOn) :
    (m.run is).view.jobPart = m.view.jobPart := by
  induction is generalizing m s with
  | nil => rfl
  | cons i is ih =>
    obtain ⟨hi, his⟩ := List.forall_mem_cons.1 his
    obtain ⟨hpart, s', hs', hf'⟩ := hc.jobPart_after_of_finished hs hf hi
    rw [run_cons, ih (hc.after (Input.ne_drop_of_goesOn hi)) hs' hf' his, hpart]

/-! ### What is written is announced -/

/-- From one viewer to the other, the view has been written with a new version, or it is the same.
-/
def Announced (m m' : Machine) : Prop :=
  m'.view = m.view ∧ m'.version = m.version ∨ m.version < m'.version

theorem writeCurrent_announced (m : Machine) (n : Nat) (f : View → View) :
    m.Announced (m.writeCurrent n f).1 := by
  unfold writeCurrent
  split
  · exact .inr (Nat.lt_succ_self _)
  · exact .inl ⟨rfl, rfl⟩

theorem relay_announced (m : Machine) (s : Session) : m.Announced (m.relay s).1 := by
  unfold relay copyProgress
  split
  · exact .inl ⟨rfl, rfl⟩
  · split
    · exact writeCurrent_announced
        { m with session := some { s with relayed := some m.client.version } } s.number _
    · exact .inl ⟨rfl, rfl⟩

/-- **Nothing that happens changes the view unannounced.** -/
theorem Coherent.step_announced (hc : m.Coherent) (h : Happening) : m.Announced (m.step h).1 := by
  rcases happening_cases h with ⟨e, rfl⟩ | ⟨ms, rfl⟩ | ⟨n, -, heq⟩
  · exact .inl ⟨rfl, rfl⟩
  · exact .inl ⟨rfl, rfl⟩
  · rw [heq, Machine.stepSession]
    cases hs : m.current? n with
    | some s =>
      show m.Announced (m.stepCurrent s h).1
      -- Every write to the view goes through `writeCurrent` or the relay, which count it.
      rcases m.stepCurrent_cases s h with ⟨heq, -⟩ | ⟨heq, -⟩ | ⟨-, heq, -⟩ | ⟨result, -, heq, -⟩ |
          ⟨artefact, status, result, -, heq, -⟩ <;> rw [heq]
      · exact .inl ⟨rfl, rfl⟩
      · exact m.relay_announced s
      · exact .inl ⟨rfl, rfl⟩
      · rw [answeredJob_fst]
        exact m.writeCurrent_announced s.number (ofSnapshot result)
      · rw [receivedText_fst_eq]
        exact m.writeCurrent_announced s.number (ofText result)
    | none =>
      have hforgets := (hc.stepLate n h).eq
      exact .inl ⟨congrArg (·.view) hforgets, congrArg (·.version) hforgets⟩

/-! ### What is under way -/

theorem step_jobAnswer (hs : m.session = some s) (hw : s.tracker = .fetchingJob)
    (result : Except FetchError Job) :
    m.step (.jobAnswer s.number result) = m.answeredJob s result := by
  show m.stepSession s.number _ = _
  simp only [stepSession, current?_self hs, stepCurrent, hw]

theorem step_textAnswer (hs : m.session = some s) {artefact : ArtefactRef} {status : JobStatus}
    (hw : s.tracker = .fetchingText artefact status) (result : Except FetchError String) :
    m.step (.textAnswer s.number result) = m.receivedText s status result := by
  show m.stepSession s.number _ = _
  simp only [stepSession, current?_self hs, stepCurrent, hw]

/-- A tracker that waits for the backend gets an answer, if the backend will have it. -/
theorem Coherent.exists_news_of_request (hc : m.Coherent) (hs : m.session = some s)
    (hr : s.tracker.request? s ≠ none) : ∃ h, m.version < (m.step h).1.version := by
  have hn : m.view.session = s.number := (hc.number_eq s hs).symm
  cases ht : s.tracker with
  | fetchingJob =>
    refine ⟨.jobAnswer s.number (.error .forbidden), ?_⟩
    rw [step_jobAnswer hs ht, answeredJob_fst, writeCurrent_of_eq _ hn]
    exact Nat.lt_succ_self _
  | fetchingText artefact status =>
    refine ⟨.textAnswer s.number (.error .forbidden), ?_⟩
    rw [step_textAnswer hs ht, receivedText_fst_eq, writeCurrent_of_eq _ hn]
    exact Nat.lt_succ_self _
  | fresh => rw [ht] at hr; exact absurd rfl hr
  | sleeping wake => rw [ht] at hr; exact absurd rfl hr
  | finished => rw [ht] at hr; exact absurd rfl hr

/-- A tracker whose turn it is asks for a snapshot and gets an answer. -/
theorem Coherent.exists_news_of_isDue (hc : m.Coherent) (hs : m.session = some s)
    (hd : s.tracker.isDue m.clock) :
    ∃ hs : List Happening, m.version < (m.run (hs.map .happening)).version := by
  have hstep := step_trackerTurn hs hd
  have hc' := hc.step (.trackerTurn s.number)
  rw [hstep] at hc'
  obtain ⟨h, hnews⟩ := hc'.exists_news_of_request (s := { s with tracker := .fetchingJob }) rfl
    (Option.some_ne_none _)
  refine ⟨[.trackerTurn s.number, h], ?_⟩
  show m.version < ((m.step (.trackerTurn s.number)).1.step h).1.version
  rw [hstep]
  exact hnews

/-- **A tracker that has not stopped may still change the view.** -/
theorem Coherent.exists_news_of_tracker (hc : m.Coherent) (hs : m.session = some s)
    (hf : s.tracker ≠ .finished) :
    ∃ hs : List Happening, m.version < (m.run (hs.map .happening)).version := by
  cases ht : s.tracker with
  | fresh => exact hc.exists_news_of_isDue hs (by rw [ht]; rfl)
  | sleeping wake =>
    -- The pause is over when the time has come.
    have hc' := hc.step (.elapse wake)
    have hdue : s.tracker.isDue (m.clock + wake) := by
      rw [ht]
      exact decide_eq_true (Nat.le_add_left ..)
    obtain ⟨js, hnews⟩ := hc'.exists_news_of_isDue (s := s) hs hdue
    exact ⟨.elapse wake :: js, hnews⟩
  | fetchingJob =>
    obtain ⟨h, hnews⟩ := hc.exists_news_of_request hs (by rw [ht]; exact Option.some_ne_none _)
    exact ⟨[h], hnews⟩
  | fetchingText artefact status =>
    obtain ⟨h, hnews⟩ := hc.exists_news_of_request hs (by rw [ht]; exact Option.some_ne_none _)
    exact ⟨[h], hnews⟩
  | finished => exact absurd ht hf

/-- **A relay that has not seen the latest copies it**, and that is announced. -/
theorem Coherent.news_of_relay (hc : m.Coherent) (hs : m.session = some s) (hm : m.Mirrors s)
    (hnew : s.relayed ≠ some m.client.version) :
    m.version < (m.step (.relayTurn s.number)).1.version := by
  rw [step_relayTurn hs, hc.relay_eq hs hm hnew]
  exact Nat.lt_succ_self _

theorem run_progress (m : Machine) (es : List Progress.Happening) :
    m.run (es.map fun e => .happening (.progress e)) =
      { m with client := m.client.run (es.map .happening) } := by
  induction es generalizing m with
  | nil => rfl
  | cons e es ih => exact ih { m with client := (m.client.step e).1 }

/-- **A stream that is open or about to be may still change the view.** -/
theorem Coherent.exists_news_of_open (hc : m.Coherent) (hs : m.session = some s)
    (hm : m.Mirrors s) (ho : m.client.state.phase.isOpen) :
    ∃ hs : List Happening, m.version < (m.run (hs.map .happening)).version := by
  -- The news is the client's at first, and then a turn of the relay makes it the view's.
  obtain ⟨es, hnews⟩ := hc.client.exists_news_of_open ho
  have hrun := m.run_progress es
  have hgoes : ∀ i ∈ es.map fun e => Input.happening (.progress e), i.goesOn := by
    intro i hi
    obtain ⟨e, -, rfl⟩ := List.mem_map.1 hi
    rfl
  have hc' := hc.run fun hd => Input.ne_drop_of_goesOn (hgoes _ hd) rfl
  obtain ⟨s', hs', hm', -⟩ := hc.mirrors_run hs hm hgoes
  rw [hrun] at hc' hs' hm'
  obtain rfl : s = s' := Option.some.inj (hs.symm.trans hs')
  have hnew : s.relayed ≠ some (m.client.run (es.map .happening)).version := fun hv =>
    absurd (hm.seen_le _ hv) (Nat.not_le_of_lt hnews)
  refine ⟨es.map .progress ++ [.relayTurn s.number], ?_⟩
  rw [List.map_append, List.map_map, run_append]
  show m.version < ((m.run (es.map fun e => .happening (.progress e))).step _).1.version
  rw [hrun]
  exact hc'.news_of_relay hs' hm' hnew

/-! ### When nothing is under way -/

/-- Nothing of the open session is under way: its tracker has stopped, its reader has come to the
end of its stream, and its relay has seen the latest. -/
structure Resting (m : Machine) (s : Session) : Prop where
  session_eq : m.session = some s
  tracker_eq : s.tracker = .finished
  reader_eq : ∀ a, m.client.active = some a → a.reader = .finished
  relayed_eq : s.relayed = some m.client.version

/-- **A session at rest stays so**, and the view stays as it is. -/
theorem Coherent.resting_step (hc : m.Coherent) (hr : m.Resting s) (h : Happening) :
    (m.step h).1.Resting s ∧ (m.step h).1.version = m.version := by
  rcases happening_cases h with ⟨e, rfl⟩ | ⟨ms, rfl⟩ | ⟨n, -, heq⟩
  · obtain ⟨a, r, st, v, ha, -, -, hmoves, -⟩ | ⟨late, -, heq⟩ := hc.client.step_cases e
    · rw [hr.reader_eq a ha] at hmoves
      cases hmoves
    · have hstep : (m.step (.progress e)).1 = { m with client := { m.client with late } } :=
        congrArg (fun c => { m with client := c }) heq
      rw [hstep]
      exact ⟨⟨hr.session_eq, hr.tracker_eq, hr.reader_eq, hr.relayed_eq⟩, rfl⟩
  · exact ⟨⟨hr.session_eq, hr.tracker_eq, hr.reader_eq, hr.relayed_eq⟩, rfl⟩
  · rw [heq, Machine.stepSession]
    cases hs : m.current? n with
    | some s' =>
      obtain rfl : s = s' :=
        Option.some.inj (hr.session_eq.symm.trans (Option.filter_eq_some_iff.1 hs).1)
      show (m.stepCurrent s h).1.Resting s ∧ (m.stepCurrent s h).1.version = m.version
      -- The tracker has finished and the relay has copied what there is, so no case writes.
      rcases m.stepCurrent_cases s h with ⟨heq, -⟩ | ⟨heq, -⟩ | ⟨hdue, -⟩ | ⟨result, hwaits, -⟩ |
          ⟨artefact, status, result, hwaits, -⟩
      · rw [heq]
        exact ⟨hr, rfl⟩
      · have hidle : m.relay s = (m, []) := if_pos hr.relayed_eq
        rw [heq, hidle]
        exact ⟨hr, rfl⟩
      · rw [hr.tracker_eq] at hdue
        cases hdue
      · rw [hr.tracker_eq] at hwaits
        cases hwaits
      · rw [hr.tracker_eq] at hwaits
        cases hwaits
    | none =>
      have hforgets := (hc.stepLate n h).eq
      simp only
      rw [hforgets]
      exact ⟨⟨hr.session_eq, hr.tracker_eq, hr.reader_eq, hr.relayed_eq⟩, rfl⟩

theorem Coherent.version_run_of_resting (hc : m.Coherent) (hr : m.Resting s)
    (hs : List Happening) : (m.run (hs.map .happening)).version = m.version := by
  induction hs generalizing m with
  | nil => rfl
  | cons h hs ih =>
    obtain ⟨hr', hversion⟩ := hc.resting_step hr h
    exact (ih (hc.step h) hr').trans hversion

/-- A session is at rest when its tracker has stopped, its stream is neither open nor about to be,
and its relay has seen the latest. -/
theorem Coherent.resting (hc : m.Coherent) (hs : m.session = some s)
    (hf : s.tracker = .finished) (ho : ¬ m.client.state.phase.isOpen)
    (hv : s.relayed = some m.client.version) : m.Resting s := by
  refine ⟨hs, hf, fun a ha => ?_, hv⟩
  rw [hc.client.phase_eq a ha] at ho
  cases hr : a.reader with
  | finished => rfl
  | fresh => rw [hr] at ho; exact absurd rfl ho
  | opening => rw [hr] at ho; exact absurd rfl ho
  | reading stream => rw [hr] at ho; exact absurd rfl ho

/-- **What is under way is what may still change the view.** -/
theorem Coherent.exists_news_iff (hc : m.Coherent) (hs : m.session = some s) (hm : m.Mirrors s) :
    (∃ hs : List Happening, m.version < (m.run (hs.map .happening)).version) ↔
      s.tracker ≠ .finished ∨ m.client.state.phase.isOpen ∨ s.relayed ≠ some m.client.version := by
  constructor
  · -- A session of which nothing is under way rests.
    rintro ⟨js, hnews⟩
    by_contra hrests
    simp only [not_or, not_not] at hrests
    obtain ⟨hf, ho, hv⟩ := hrests
    rw [hc.version_run_of_resting (hc.resting hs hf ho hv)] at hnews
    exact Nat.lt_irrefl _ hnews
  · rintro (hf | ho | hv)
    · exact hc.exists_news_of_tracker hs hf
    · exact hc.exists_news_of_open hs hm ho
    · exact ⟨[.relayTurn s.number], hc.news_of_relay hs hm hv⟩

end Machine

end Viewer

end MachiningViewer
