import MachiningViewer.Proofs.Viewer.Run

/-!
# The two flows of a viewer

Two flows feed a view: the tracker with its snapshots and texts, and the progress client with the
relay. They start and end together, with the sessions, but in between neither looks at what the
other does. So of two runs that agree in the inputs of one flow, the openings and closings among
them, each shows the same in the fields of that flow at corresponding moments, however much they
differ in the inputs of the other (`flows_independent`).

For each flow there is a map that blanks out all that belongs to the other (`jobSide`,
`streamSide`). An input of the other flow leaves the rest as it was (`jobSide_after_of_not`,
`streamSide_after_of_not`), and an input of the flow itself makes the same of it with or without
the blanks (`jobSide_after`, `streamSide_after`). The run lemma (`foldl_congr_of_filter_eq`) needs
no more than that.
-/

namespace MachiningViewer.Viewer

/-! ### Runs that differ in what is invisible -/

section Filter

variable {σ ι α : Type*} {next : σ → ι → σ} {f : σ → α} {p : ι → Bool}

theorem foldl_filter_of_skip (hskip : ∀ s i, ¬ p i → f (next s i) = f s)
    (hstep : ∀ s s' i, p i → f s = f s' → f (next s i) = f (next s' i)) (is : List ι) {s s' : σ}
    (hs : f s = f s') : f (is.foldl next s) = f ((is.filter p).foldl next s') := by
  induction is generalizing s s' with
  | nil => exact hs
  | cons i is ih =>
    by_cases hi : p i
    · rw [List.filter_cons_of_pos hi]
      exact ih (hstep s s' i hi hs)
    · rw [List.filter_cons_of_neg hi]
      exact ih ((hskip s i hi).trans hs)

/-- **Runs with the same visible inputs look the same**, if what is invisible changes nothing that
is seen, and what is seen decides what is seen next. -/
theorem foldl_congr_of_filter_eq (hskip : ∀ s i, ¬ p i → f (next s i) = f s)
    (hstep : ∀ s s' i, p i → f s = f s' → f (next s i) = f (next s' i)) {is js : List ι}
    (heq : is.filter p = js.filter p) (s : σ) : f (is.foldl next s) = f (js.foldl next s) := by
  rw [foldl_filter_of_skip hskip hstep is rfl, heq, ← foldl_filter_of_skip hskip hstep js rfl]

/-- What is visible in a run comes one by one. -/
theorem exists_prefix_of_filter_eq {is js pre : List ι} (heq : is.filter p = js.filter p)
    (hpre : pre <+: is) : ∃ pre', pre' <+: js ∧ pre'.filter p = pre.filter p := by
  obtain ⟨post, rfl⟩ := hpre
  rw [List.filter_append] at heq
  obtain ⟨pre', post', rfl, hpre', -⟩ := List.filter_eq_append_iff.1 heq.symm
  exact ⟨pre', List.prefix_append .., hpre'⟩

end Filter

/-! ### Whose an input is, and whose a field is -/

/-- Does the input concern the tracker? All do but retries and what happens to the progress client
or to the relay. -/
def Input.isOfJob : Input → Bool
  | .call .retryStream | .happening (.progress _) | .happening (.relayTurn _) => false
  | .call _ | .happening _ => true

/-- Does the input concern the progress client or the relay? All calls do. -/
def Input.isOfStream : Input → Bool
  | .call _ | .happening (.progress _) | .happening (.relayTurn _) => true
  | .happening _ => false

namespace View

/-- What the view shows of the job. -/
def jobPart (v : View) : Option Job × ToolpathState × LengthUnit × JobActions × Option String :=
  (v.job, v.toolpath, v.unit, v.actions, v.error)

/-- What the view shows of the progress. -/
def streamPart (v : View) : Float × String × Progress.Phase :=
  (v.progress, v.progressMessage, v.stream)

/-- The view without what it shows of the progress. -/
def jobSide (v : View) : View :=
  { v with progress := 0.0, progressMessage := "", stream := .idle }

/-- The view without what it shows of the job. -/
def streamSide (v : View) : View :=
  { v with job := none, toolpath := .pending, unit := .unknown, actions := .none, error := none }

end View

/-- The session without what its relay has seen. -/
def Session.jobSide (s : Session) : Session :=
  { s with relayed := none }

/-- The session without what its tracker does. -/
def Session.streamSide (s : Session) : Session :=
  { s with loaded := false, tracker := .fresh }

namespace Machine

variable {m : Machine} {s : Session} {i : Input}

/-! ### What the answers of the backend do

An answer writes the view, if its session is the current one, and then the tracker goes on. -/

/-- What a snapshot or its failure makes of a view. -/
def ofSnapshot : Except FetchError Job → View → View
  | .ok job, v => v.withJob job
  | .error e, v => v.withError e.message

/-- What a text or its failure makes of a view. -/
def ofText : Except FetchError String → View → View
  | .ok text, v => v.withToolpath (Toolpath.interpret text)
  | .error e, v => v.withToolpathError e.message

/-- Where the tracker goes with the answer to its request for a snapshot. -/
def afterSnapshot (m : Machine) (s : Session) : Except FetchError Job → Tracker
  | .ok job => if m.view.session = s.number then m.trackerAfter s job else .finished
  | .error e => m.nextRound e.isNotFound

/-- The session once it has got the answer to its request for a text. -/
def takesText (m : Machine) (s : Session) : Except FetchError String → Session
  | .ok _ => { s with loaded := m.view.session == s.number }
  | .error _ => s

theorem answeredJob_fst (m : Machine) (s : Session) (result : Except FetchError Job) :
    (m.answeredJob s result).1 =
      (m.writeCurrent s.number (ofSnapshot result)).1.withTracker s (m.afterSnapshot s result) := by
  cases result with
  | ok job =>
    show (m.receivedJob s job).1 = _
    rw [receivedJob_fst, afterSnapshot]
    by_cases hn : m.view.session = s.number
    · rw [if_pos hn, if_pos hn, writeCurrent_of_eq _ hn]
      rfl
    · rw [if_neg hn, if_neg hn, writeCurrent_of_ne _ hn]
  | error e => exact m.receivedJobError_fst s e

theorem receivedText_fst_eq (m : Machine) (s : Session) (status : JobStatus)
    (result : Except FetchError String) :
    (m.receivedText s status result).1 =
      (m.writeCurrent s.number (ofText result)).1.withTracker (m.takesText s result)
        (m.nextRound status.isTerminal) := by
  rw [receivedText_fst]
  cases result <;> rfl

theorem lateJob_fst_eq (m : Machine) (l : LateFetch) (result : Except FetchError Job) :
    (m.lateJob l result).1 = (m.writeCurrent l.number (ofSnapshot result)).1 := by
  cases result with
  | ok job =>
    simp only [lateJob, writeCurrent]
    split <;> rfl
  | error e => rfl

theorem lateText_fst_eq (m : Machine) (l : LateFetch) (status : JobStatus)
    (result : Except FetchError String) :
    (m.lateText l status result).1 = (m.writeCurrent l.number (ofText result)).1 := by
  cases result <;> rfl

/-! ### The side of the job -/

/-- The viewer as its tracker sees it, without all that belongs to the progress client and the
relay. -/
def jobSide (m : Machine) : Machine :=
  { m with
    client := .initial
    view := m.view.jobSide
    version := 0
    session := m.session.map (·.jobSide)
    lateRelays := [] }

theorem current?_jobSide (m : Machine) (n : Nat) :
    m.jobSide.current? n = (m.current? n).map (·.jobSide) :=
  Option.filter_map

theorem jobSide_writeCurrent (m : Machine) (n : Nat) {f : View → View}
    (hf : ∀ v, (f v.jobSide).jobSide = (f v).jobSide) :
    (m.jobSide.writeCurrent n f).1.jobSide = (m.writeCurrent n f).1.jobSide := by
  by_cases hn : m.view.session = n
  · have hn' : m.jobSide.view.session = n := hn
    have hview := hf m.view
    rw [writeCurrent_of_eq f hn, writeCurrent_of_eq f hn']
    simp only [jobSide, write, hview, Option.map_map]
    rfl
  · have hn' : m.jobSide.view.session ≠ n := hn
    rw [writeCurrent_of_ne f hn, writeCurrent_of_ne f hn']
    simp only [jobSide, Option.map_map]
    rfl

/-- Of what the tracker's place is put into, only the side of the job counts. -/
theorem jobSide_withTracker_congr {m m' : Machine} (hm : m.jobSide = m'.jobSide) (s : Session)
    (t : Tracker) : (m.withTracker s.jobSide t).jobSide = (m'.withTracker s t).jobSide := by
  have hw (n : Machine) (s : Session) : (n.withTracker s t).jobSide =
      { n.jobSide with session := some ({ s with tracker := t } : Session).jobSide } := rfl
  rw [hw, hw, hm]
  rfl

theorem jobSide_jobSide (m : Machine) : m.jobSide.jobSide = m.jobSide := by
  simp only [jobSide, Option.map_map]
  rfl

theorem jobSide_answeredJob (m : Machine) (s : Session) (result : Except FetchError Job) :
    (m.jobSide.answeredJob s.jobSide result).1.jobSide = (m.answeredJob s result).1.jobSide := by
  have htracker : m.jobSide.afterSnapshot s.jobSide result = m.afterSnapshot s result := by
    cases result <;> rfl
  rw [answeredJob_fst, answeredJob_fst, htracker]
  refine jobSide_withTracker_congr (m.jobSide_writeCurrent s.number ?_) s _
  cases result <;> exact fun _ => rfl

theorem jobSide_receivedText (m : Machine) (s : Session) (status : JobStatus)
    (result : Except FetchError String) :
    (m.jobSide.receivedText s.jobSide status result).1.jobSide =
      (m.receivedText s status result).1.jobSide := by
  have htakes : m.jobSide.takesText s.jobSide result = (m.takesText s result).jobSide := by
    cases result <;> rfl
  rw [receivedText_fst_eq, receivedText_fst_eq, htakes]
  refine jobSide_withTracker_congr (m.jobSide_writeCurrent s.number ?_) _ _
  cases result <;> exact fun _ => rfl

/-- The tracker does the same whatever the relay has seen. -/
theorem jobSide_stepCurrent (m : Machine) (s : Session) {h : Happening}
    (hh : (Input.happening h).isOfJob) :
    (m.jobSide.stepCurrent s.jobSide h).1.jobSide = (m.stepCurrent s h).1.jobSide := by
  have htracker : s.jobSide.tracker = s.tracker := rfl
  -- The tracker reads its own place, the clock and the view's session, all of which the job side
  -- keeps.
  cases h with
  | progress e => cases hh
  | relayTurn n => cases hh
  | elapse ms => exact m.jobSide_jobSide
  | trackerTurn n =>
    simp only [stepCurrent, htracker]
    split
    · rfl
    · rename_i wake _
      by_cases hw : wake ≤ m.clock
      · have hw' : wake ≤ m.jobSide.clock := hw
        rw [if_pos hw, if_pos hw']
        rfl
      · have hw' : ¬ wake ≤ m.jobSide.clock := hw
        rw [if_neg hw, if_neg hw']
        exact m.jobSide_jobSide
    · exact m.jobSide_jobSide
  | jobAnswer n result =>
    simp only [stepCurrent, htracker]
    split
    · exact m.jobSide_answeredJob s result
    · exact m.jobSide_jobSide
  | textAnswer n result =>
    simp only [stepCurrent, htracker]
    split
    · exact m.jobSide_receivedText s _ result
    · exact m.jobSide_jobSide

theorem jobSide_lateJob (m : Machine) (l : LateFetch) (result : Except FetchError Job) :
    (m.jobSide.lateJob l result).1.jobSide = (m.lateJob l result).1.jobSide := by
  rw [lateJob_fst_eq, lateJob_fst_eq]
  refine m.jobSide_writeCurrent l.number ?_
  cases result <;> exact fun _ => rfl

theorem jobSide_lateText (m : Machine) (l : LateFetch) (status : JobStatus)
    (result : Except FetchError String) :
    (m.jobSide.lateText l status result).1.jobSide = (m.lateText l status result).1.jobSide := by
  rw [lateText_fst_eq, lateText_fst_eq]
  refine m.jobSide_writeCurrent l.number ?_
  cases result <;> exact fun _ => rfl

theorem jobSide_stepLate (m : Machine) (n : Nat) {h : Happening}
    (hh : (Input.happening h).isOfJob) :
    (m.jobSide.stepLate n h).1.jobSide = (m.stepLate n h).1.jobSide := by
  have hlate (isMeant : Fetch → Bool) : m.jobSide.late? n isMeant = m.late? n isMeant := rfl
  cases h with
  | progress e => cases hh
  | relayTurn n => cases hh
  | elapse ms => exact m.jobSide_jobSide
  | trackerTurn n => exact m.jobSide_jobSide
  | jobAnswer n' result =>
    simp only [stepLate, hlate]
    split
    · exact (m.forget _).jobSide_lateJob _ result
    · exact m.jobSide_jobSide
  | textAnswer n' result =>
    simp only [stepLate, hlate]
    split
    · split
      · exact (m.forget _).jobSide_lateText _ _ result
      · exact m.jobSide_jobSide
    · exact m.jobSide_jobSide

theorem jobSide_step (m : Machine) {h : Happening} (hh : (Input.happening h).isOfJob) :
    (m.jobSide.step h).1.jobSide = (m.step h).1.jobSide := by
  rcases happening_cases h with ⟨e, rfl⟩ | ⟨ms, rfl⟩ | ⟨n, -, heq⟩
  · cases hh
  · simp only [step, jobSide, Option.map_map]
    rfl
  · rw [heq, heq, stepSession, stepSession, current?_jobSide]
    cases m.current? n with
    | some s => exact m.jobSide_stepCurrent s hh
    | none => exact m.jobSide_stepLate n hh

theorem jobSide_call (m : Machine) {k : Call} (hk : (Input.call k).isOfJob) :
    (m.jobSide.call k).1.jobSide = (m.call k).1.jobSide := by
  by_cases hd : m.dropped
  · have hd' : m.jobSide.dropped := hd
    simp only [call, if_pos hd, if_pos hd']
    exact m.jobSide_jobSide
  · have hd' : ¬ m.jobSide.dropped := hd
    simp only [call, if_neg hd, if_neg hd']
    cases k with
    | view job =>
      cases hs : m.session <;> simp only [openJob, cancel, jobSide, withClient, write, hs] <;> rfl
    | close =>
      cases hs : m.session <;> simp only [close, cancel, jobSide, withClient, write, hs] <;> rfl
    | retryStream => cases hk
    | drop => cases hs : m.session <;> simp only [drop, cancel, jobSide, withClient, hs] <;> rfl

/-- **An input of the job flow makes the same of the tracker's side** whatever is on the other. -/
theorem jobSide_after (m : Machine) (hi : i.isOfJob) :
    (m.jobSide.after i).jobSide = (m.after i).jobSide := by
  cases i with
  | happening h => exact m.jobSide_step hi
  | call k => exact m.jobSide_call hi

theorem jobSide_copyProgress (m : Machine) (job : JobId) (n : Nat) (p : Progress.State) :
    (m.copyProgress job n p).1.jobSide = m.jobSide := by
  unfold copyProgress writeCurrent
  split
  · split <;> rfl
  · rfl

theorem jobSide_relay (hs : m.session = some s) : (m.relay s).1.jobSide = m.jobSide := by
  unfold relay
  split
  · rfl
  · rw [jobSide_copyProgress]
    simp only [jobSide, hs]
    rfl

/-- **What belongs to the other flow leaves the tracker's side alone.** -/
theorem jobSide_after_of_not (m : Machine) (hi : ¬ i.isOfJob) :
    (m.after i).jobSide = m.jobSide := by
  cases i with
  | call k =>
    cases k with
    | retryStream =>
      show (m.call .retryStream).1.jobSide = m.jobSide
      simp only [call, retryStream]
      split
      · rfl
      · split <;> rfl
    | view job => exact absurd rfl hi
    | close => exact absurd rfl hi
    | drop => exact absurd rfl hi
  | happening h =>
    cases h with
    | progress e => rfl
    | relayTurn n =>
      show (m.stepSession n (.relayTurn n)).1.jobSide = m.jobSide
      unfold stepSession
      cases hs : m.current? n with
      | some s => exact jobSide_relay (Option.filter_eq_some_iff.1 hs).1
      | none =>
        simp only [stepLate]
        split
        · exact jobSide_copyProgress ..
        · rfl
    | trackerTurn n => exact absurd rfl hi
    | jobAnswer n result => exact absurd rfl hi
    | textAnswer n result => exact absurd rfl hi
    | elapse ms => exact absurd rfl hi

/-! ### The side of the stream -/

/-- The viewer as its relay sees it, without all that belongs to the tracker and the time. -/
def streamSide (m : Machine) : Machine :=
  { m with
    view := m.view.streamSide
    version := 0
    session := m.session.map (·.streamSide)
    late := []
    clock := 0 }

theorem streamSide_streamSide (m : Machine) : m.streamSide.streamSide = m.streamSide := by
  simp only [streamSide, Option.map_map]
  rfl

theorem current?_streamSide (m : Machine) (n : Nat) :
    m.streamSide.current? n = (m.current? n).map (·.streamSide) :=
  Option.filter_map

/-- Writing what belongs to the job leaves the side of the stream alone. -/
theorem streamSide_writeCurrent (m : Machine) (n : Nat) {f : View → View}
    (hf : ∀ v, (f v).streamSide = v.streamSide) :
    (m.writeCurrent n f).1.streamSide = m.streamSide := by
  unfold writeCurrent
  split
  · simp only [streamSide, write, hf]
  · rfl

theorem streamSide_withTracker {m' : Machine} {s' : Session} (hs : m.session = some s)
    (hm : m'.streamSide = m.streamSide) (hs' : s'.streamSide = s.streamSide) (t : Tracker) :
    (m'.withTracker s' t).streamSide = m.streamSide := by
  have hsession : m.streamSide.session = some s.streamSide := by rw [streamSide, hs]; rfl
  have hw : (m'.withTracker s' t).streamSide =
      { m'.streamSide with session := some s'.streamSide } := rfl
  rw [hw, hm, hs', ← hsession]

theorem streamSide_ofSnapshot (result : Except FetchError Job) (v : View) :
    (ofSnapshot result v).streamSide = v.streamSide := by
  cases result <;> rfl

theorem streamSide_ofText (result : Except FetchError String) (v : View) :
    (ofText result v).streamSide = v.streamSide := by
  cases result <;> rfl

/-- What the tracker does leaves the side of the stream alone. -/
theorem streamSide_stepCurrent (hs : m.session = some s) {h : Happening}
    (hh : ¬ (Input.happening h).isOfStream) : (m.stepCurrent s h).1.streamSide = m.streamSide := by
  -- Each write of the tracker is to the job part of the view, which the stream side leaves out.
  cases h with
  | progress e => exact absurd rfl hh
  | relayTurn n => exact absurd rfl hh
  | elapse ms => rfl
  | trackerTurn n =>
    simp only [stepCurrent]
    split
    · exact streamSide_withTracker hs rfl rfl _
    · split
      · exact streamSide_withTracker hs rfl rfl _
      · rfl
    · rfl
  | jobAnswer n result =>
    simp only [stepCurrent]
    split
    · rw [answeredJob_fst]
      have hview := m.streamSide_writeCurrent s.number (streamSide_ofSnapshot result)
      exact streamSide_withTracker hs hview rfl _
    · rfl
  | textAnswer n result =>
    simp only [stepCurrent]
    split
    · rw [receivedText_fst_eq]
      have hview := m.streamSide_writeCurrent s.number (streamSide_ofText result)
      refine streamSide_withTracker hs hview ?_ _
      cases result <;> rfl
    · rfl

theorem streamSide_stepLate (m : Machine) (n : Nat) {h : Happening}
    (hh : ¬ (Input.happening h).isOfStream) : (m.stepLate n h).1.streamSide = m.streamSide := by
  -- A late answer is written by `writeCurrent` as well, with the same two changes.
  cases h with
  | progress e => exact absurd rfl hh
  | relayTurn n => exact absurd rfl hh
  | elapse ms => rfl
  | trackerTurn n => rfl
  | jobAnswer n' result =>
    simp only [stepLate]
    split
    · rw [lateJob_fst_eq, streamSide_writeCurrent _ _ (streamSide_ofSnapshot result)]
      rfl
    · rfl
  | textAnswer n' result =>
    simp only [stepLate]
    split
    · split
      · rw [lateText_fst_eq, streamSide_writeCurrent _ _ (streamSide_ofText result)]
        rfl
      · rfl
    · rfl

/-- **What belongs to the other flow leaves the relay's side alone.** -/
theorem streamSide_after_of_not (m : Machine) (hi : ¬ i.isOfStream) :
    (m.after i).streamSide = m.streamSide := by
  cases i with
  | call k => exact absurd rfl hi
  | happening h =>
    show (m.step h).1.streamSide = m.streamSide
    rcases happening_cases h with ⟨e, rfl⟩ | ⟨ms, rfl⟩ | ⟨n, -, heq⟩
    · exact absurd rfl hi
    · rfl
    · rw [heq, stepSession]
      cases hs : m.current? n with
      | some s => exact streamSide_stepCurrent (Option.filter_eq_some_iff.1 hs).1 hi
      | none => exact m.streamSide_stepLate n hi

theorem streamSide_copyProgress (m : Machine) (job : JobId) (n : Nat) (p : Progress.State) :
    (m.copyProgress job n p).1.streamSide =
      if p.job = some job ∧ m.streamSide.view.session = n then
        { m.streamSide with view := m.streamSide.view.withProgress p }
      else m.streamSide := by
  unfold copyProgress
  by_cases hjob : p.job = some job
  · by_cases hn : m.view.session = n
    · rw [if_pos hjob, writeCurrent_of_eq _ hn, if_pos ⟨hjob, hn⟩]
      rfl
    · rw [if_pos hjob, writeCurrent_of_ne _ hn, if_neg fun h => hn h.2]
  · rw [if_neg hjob, if_neg fun h => hjob h.1]

/-- What is copied does not depend on what the tracker does. -/
theorem streamSide_copyProgress_congr {m m' : Machine} (hm : m.streamSide = m'.streamSide)
    (job : JobId) (n : Nat) (p : Progress.State) :
    (m.copyProgress job n p).1.streamSide = (m'.copyProgress job n p).1.streamSide := by
  rw [streamSide_copyProgress, streamSide_copyProgress, hm]

theorem streamSide_relay (m : Machine) (s : Session) :
    (m.streamSide.relay s.streamSide).1.streamSide = (m.relay s).1.streamSide := by
  by_cases hseen : s.relayed = some m.client.version
  · have hseen' : s.streamSide.relayed = some m.streamSide.client.version := hseen
    simp only [relay, if_pos hseen, if_pos hseen']
    exact m.streamSide_streamSide
  · have hseen' : ¬ s.streamSide.relayed = some m.streamSide.client.version := hseen
    simp only [relay, if_neg hseen, if_neg hseen']
    refine streamSide_copyProgress_congr ?_ s.job s.number m.client.state
    rfl

theorem streamSide_step (m : Machine) {h : Happening} (hh : (Input.happening h).isOfStream) :
    (m.streamSide.step h).1.streamSide = (m.step h).1.streamSide := by
  cases h with
  | progress e =>
    -- The client steps by itself, and the stream side keeps it whole.
    exact congrArg (fun n : Machine => { n with client := (m.client.step e).1 })
      m.streamSide_streamSide
  | relayTurn n =>
    simp only [step, stepSession, current?_streamSide]
    cases m.current? n with
    | some s => exact m.streamSide_relay s
    | none =>
      have hlate : m.streamSide.lateRelays = m.lateRelays := rfl
      simp only [Option.map_none, stepLate, hlate]
      split
      · rename_i l _
        refine streamSide_copyProgress_congr ?_ l.job l.number l.taken
        exact congrArg
          (fun n : Machine => { n with lateRelays := m.lateRelays.filter (·.number != l.number) })
          m.streamSide_streamSide
      · exact m.streamSide_streamSide
  | trackerTurn n => cases hh
  | jobAnswer n result => cases hh
  | textAnswer n result => cases hh
  | elapse ms => cases hh

theorem streamSide_call (m : Machine) (k : Call) :
    (m.streamSide.call k).1.streamSide = (m.call k).1.streamSide := by
  by_cases hd : m.dropped
  · have hd' : m.streamSide.dropped := hd
    simp only [call, if_pos hd, if_pos hd']
    exact m.streamSide_streamSide
  · have hd' : ¬ m.streamSide.dropped := hd
    simp only [call, if_neg hd, if_neg hd']
    -- Which job the viewer is on decides what a call does, and both sides know it.
    cases k with
    | view job =>
      cases hs : m.session <;>
        simp only [openJob, cancel, streamSide, withClient, write, hs] <;> rfl
    | close =>
      cases hs : m.session <;> simp only [close, cancel, streamSide, withClient, write, hs] <;> rfl
    | retryStream =>
      cases hs : m.session <;> simp only [retryStream, streamSide, withClient, hs] <;> rfl
    | drop =>
      cases hs : m.session <;> simp only [drop, cancel, streamSide, withClient, hs] <;> rfl

/-- **An input of the stream makes the same of the relay's side** whatever is on the other. -/
theorem streamSide_after (m : Machine) (hi : i.isOfStream) :
    (m.streamSide.after i).streamSide = (m.after i).streamSide := by
  cases i with
  | call k => exact m.streamSide_call k
  | happening h => exact m.streamSide_step hi

/-! ### Two runs -/

/-- Two runs from a state show the same part of their views at moments that correspond, and every
moment of one corresponds to one of the other. Moments correspond if the same inputs of a flow have
come before. -/
def ShowSame {α : Type*} (m : Machine) (flow : Input → Bool) (part : View → α)
    (is js : List Input) : Prop :=
  (∀ pre, pre <+: is → ∃ pre', pre' <+: js ∧ pre'.filter flow = pre.filter flow) ∧
    ∀ pre pre', pre <+: is → pre' <+: js → pre.filter flow = pre'.filter flow →
      part (m.run pre).view = part (m.run pre').view

section Side

variable {flow : Input → Bool} (side : Machine → Machine)
  (hskip : ∀ m i, ¬ flow i → side (m.after i) = side m)
  (hstep : ∀ m i, flow i → side ((side m).after i) = side (m.after i))

include hskip hstep

/-- The inputs of a flow decide what its side of the viewer is. -/
theorem side_run_congr {is js : List Input} (heq : is.filter flow = js.filter flow) (m : Machine) :
    side (m.run is) = side (m.run js) := by
  have hcongr (m m' : Machine) (i : Input) (hi : flow i) (hm : side m = side m') :
      side (m.after i) = side (m'.after i) := by
    rw [← hstep m i hi, hm, hstep m' i hi]
  exact foldl_congr_of_filter_eq hskip hcongr heq m

theorem showSame_of_side {α : Type*} {part : View → α}
    (hpart : ∀ m, part (side m).view = part m.view) {is js : List Input}
    (heq : is.filter flow = js.filter flow) (m : Machine) : m.ShowSame flow part is js := by
  refine ⟨fun pre => exists_prefix_of_filter_eq heq, fun pre pre' _ _ hpre => ?_⟩
  rw [← hpart, side_run_congr side hskip hstep hpre, hpart]

end Side

/-- **The two flows of a viewer are independent.** Take two runs with the same calls, retries of the
stream apart. (a) If trackers get the same turns and answers at the same times in both, then the
job, its toolpath and its unit, the actions and the error are the same at corresponding moments,
whatever happens to the streams. (b) If retries, too, are the same and streams and relays fare the
same in both, then the progress, its message and the phase are the same at corresponding moments,
whatever the backend answers, and when. A drop of the viewer may be among the calls. -/
theorem flows_independent (m : Machine) (is js : List Input) :
    (is.filter Input.isOfJob = js.filter Input.isOfJob →
        m.ShowSame Input.isOfJob View.jobPart is js) ∧
      (is.filter Input.isOfStream = js.filter Input.isOfStream →
        m.ShowSame Input.isOfStream View.streamPart is js) := by
  constructor
  · intro heq
    exact showSame_of_side jobSide (fun m _ => m.jobSide_after_of_not) (fun m _ => m.jobSide_after)
      (fun _ => rfl) heq m
  · intro heq
    exact showSame_of_side streamSide (fun m _ => m.streamSide_after_of_not)
      (fun m _ => m.streamSide_after) (fun _ => rfl) heq m

/-- A stream that is refused, and tried again. -/
def refusedStream : List Input :=
  [.happening (.progress (.turn 1)),
    .happening (.progress (.answer 1 (.error (.opening "refused")))), .happening (.relayTurn 1),
    .call .retryStream]

/-- A run on a job that turns out not to be known, with whatever its stream does. -/
def unknownJob (stream : List Input) : List Input :=
  [.call (.view 3), .happening (.trackerTurn 1)] ++ stream ++
    [.happening (.jobAnswer 1 (.error (.notFound 3)))]

/-- The view tells of the unknown job although the stream is refused, and of the refusal although
the backend has not answered. -/
theorem unknownJob_parts_eq :
    ((initial 500).run (unknownJob refusedStream)).view.jobPart =
        ((initial 500).run (unknownJob [])).view.jobPart ∧
      ((initial 500).run (unknownJob refusedStream)).view.streamPart =
        ((initial 500).run (.call (.view 3) :: refusedStream)).view.streamPart := by
  have hjob : (unknownJob refusedStream).filter Input.isOfJob =
      (unknownJob []).filter Input.isOfJob := rfl
  have hstream : (unknownJob refusedStream).filter Input.isOfStream =
      (.call (.view 3) :: refusedStream : List Input).filter Input.isOfStream := rfl
  obtain ⟨-, hjobPart⟩ := (flows_independent (initial 500) _ _).1 hjob
  obtain ⟨-, hstreamPart⟩ := (flows_independent (initial 500) _ _).2 hstream
  exact ⟨hjobPart _ _ List.prefix_rfl List.prefix_rfl hjob,
    hstreamPart _ _ List.prefix_rfl List.prefix_rfl hstream⟩

end Machine

end MachiningViewer.Viewer
