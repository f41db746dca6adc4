import MachiningViewer.Proofs.Progress.Run
import MachiningViewer.Viewer.Machine

/-!
# Runs of a viewer

A run is a list of inputs, as for the progress client: calls of the viewer's owner and happenings
outside, in any order. A call that is made inside a fetch, just before the backend answers it,
stands between the tracker's turn and the answer.

`Machine.Coherent` is what makes the session number tell the current session from those that have
ended: the view carries the number of the current session, what has outlived its session carries a
smaller one, and without a session the progress client has no subscription. Every run without a drop
keeps it (`coherent_run`), and the numbers of sessions and of subscriptions only grow.
-/

namespace MachiningViewer.Viewer

/-- What a viewer is given in one step of a run. -/
inductive Input where
  | call (k : Call)
  | happening (h : Happening)

/-- The number of the session to whose tracker or relay something happens. -/
def Happening.session? : Happening → Option Nat
  | .trackerTurn n | .jobAnswer n _ | .textAnswer n _ | .relayTurn n => some n
  | .progress _ | .elapse _ => none

namespace Machine

/-- The viewer's step for an input. -/
def react (m : Machine) : Input → Machine × List Effect
  | .call k => m.call k
  | .happening h => m.step h

/-- The viewer after an input. -/
def after (m : Machine) (i : Input) : Machine :=
  (m.react i).1

/-- The viewer after a run. -/
def run (m : Machine) (is : List Input) : Machine :=
  is.foldl after m

theorem run_append (m : Machine) (is js : List Input) : m.run (is ++ js) = (m.run is).run js :=
  List.foldl_append

@[simp]
theorem run_cons (m : Machine) (i : Input) (is : List Input) :
    m.run (i :: is) = (m.after i).run is :=
  rfl

/-- **What a happening can be.** It happens to the progress client, or to the clock, or to a session
of a number. -/
theorem happening_cases (h : Happening) :
    (∃ e, h = .progress e) ∨ (∃ ms, h = .elapse ms) ∨
      ∃ n, h.session? = some n ∧ ∀ m : Machine, m.step h = m.stepSession n h := by
  cases h with
  | progress e => exact .inl ⟨e, rfl⟩
  | elapse ms => exact .inr (.inl ⟨ms, rfl⟩)
  | trackerTurn n => exact .inr (.inr ⟨n, rfl, fun _ => rfl⟩)
  | jobAnswer n result => exact .inr (.inr ⟨n, rfl, fun _ => rfl⟩)
  | textAnswer n result => exact .inr (.inr ⟨n, rfl, fun _ => rfl⟩)
  | relayTurn n => exact .inr (.inr ⟨n, rfl, fun _ => rfl⟩)

variable {m : Machine} {s : Session} {i : Input} {is : List Input}

/-! ### What the tracker and the relay do -/

theorem writeCurrent_of_ne {n : Nat} (f : View → View) (hn : m.view.session ≠ n) :
    m.writeCurrent n f = (m, []) :=
  if_neg hn

theorem writeCurrent_of_eq {n : Nat} (f : View → View) (hn : m.view.session = n) :
    m.writeCurrent n f = (m.write (f m.view), [.announce]) :=
  if_pos hn

/-- Where the tracker goes when a round is over. -/
def nextRound (m : Machine) (isLast : Bool) : Tracker :=
  if isLast then .finished else .sleeping (m.clock + m.pollInterval)

/-- Where the tracker goes with a snapshot. -/
def trackerAfter (m : Machine) (s : Session) (job : Job) : Tracker :=
  match job.resolve? .toolpathText, s.loaded with
  | some artefact, false => .fetchingText artefact job.status
  | _, _ => m.nextRound job.status.isTerminal

theorem afterRound_fst (m : Machine) (s : Session) (status : JobStatus) :
    (m.afterRound s status).1 = m.withTracker s (m.nextRound status.isTerminal) := by
  unfold afterRound nextRound
  split <;> rfl

theorem receivedJob_fst (m : Machine) (s : Session) (job : Job) :
    (m.receivedJob s job).1 =
      if m.view.session = s.number then
        (m.write (m.view.withJob job)).withTracker s (m.trackerAfter s job)
      else m.withTracker s .finished := by
  unfold receivedJob trackerAfter
  split
  · cases job.resolve? .toolpathText with
    | none => exact afterRound_fst ..
    | some artefact =>
      cases s.loaded with
      | false => rfl
      | true => exact afterRound_fst ..
  · rfl

theorem writeCurrent_nextRound (m : Machine) (n : Nat) (f : View → View) (isLast : Bool) :
    (m.writeCurrent n f).1.nextRound isLast = m.nextRound isLast := by
  unfold writeCurrent
  split <;> rfl

theorem receivedJobError_fst (m : Machine) (s : Session) (e : FetchError) :
    (m.receivedJobError s e).1 =
      (m.writeCurrent s.number fun v => v.withError e.message).1.withTracker s
        (m.nextRound e.isNotFound) := by
  rw [← writeCurrent_nextRound m s.number fun v => v.withError e.message]
  unfold nextRound
  simp only [receivedJobError]
  split <;> rfl

theorem receivedText_fst (m : Machine) (s : Session) (status : JobStatus)
    (result : Except FetchError String) :
    (m.receivedText s status result).1 = match result with
      | .ok text =>
        (m.writeCurrent s.number fun v => v.withToolpath (Toolpath.interpret text)).1.withTracker
          { s with loaded := m.view.session == s.number } (m.nextRound status.isTerminal)
      | .error e =>
        (m.writeCurrent s.number fun v => v.withToolpathError e.message).1.withTracker s
          (m.nextRound status.isTerminal) := by
  cases result with
  | ok text =>
    simp only [receivedText, afterRound_fst, writeCurrent_nextRound]
  | error e =>
    simp only [receivedText, afterRound_fst, writeCurrent_nextRound]

/-- What a step on behalf of the current session makes of a viewer: another view and another place
in the session. The number of the session stays, in both. -/
def Works (m : Machine) (s : Session) (m' : Machine) : Prop :=
  ∃ s' v version, m' = { m with session := some s', view := v, version } ∧
    s'.number = s.number ∧ v.session = m.view.session

theorem Works.refl (hs : m.session = some s) : m.Works s m :=
  ⟨s, m.view, m.version, by rw [← hs], rfl, rfl⟩

theorem writeCurrent_works (hs : m.session = some s) (n : Nat) {f : View → View}
    (hf : ∀ v, (f v).session = v.session) : m.Works s (m.writeCurrent n f).1 := by
  unfold writeCurrent
  split
  · exact ⟨s, f m.view, m.version + 1, by rw [← hs]; rfl, rfl, hf _⟩
  · exact Works.refl hs

theorem Works.withTracker {m' : Machine} {s' : Session} (hw : m.Works s m')
    (hn : s'.number = s.number) (t : Tracker) : m.Works s (m'.withTracker s' t) := by
  obtain ⟨_, v, version, rfl, -, hv⟩ := hw
  exact ⟨_, v, version, rfl, hn, hv⟩

theorem answeredJob_works (hs : m.session = some s) (result : Except FetchError Job) :
    m.Works s (m.answeredJob s result).1 := by
  cases result with
  | ok job =>
    show m.Works s (m.receivedJob s job).1
    rw [receivedJob_fst]
    split
    · -- In the current session the job is written to the view first. Otherwise only the tracker
      -- moves.
      rename_i hn
      have hw := writeCurrent_works hs s.number (f := fun v => v.withJob job) fun _ => rfl
      rw [writeCurrent_of_eq _ hn] at hw
      exact hw.withTracker rfl _
    · exact (Works.refl hs).withTracker rfl _
  | error e =>
    show m.Works s (m.receivedJobError s e).1
    rw [receivedJobError_fst]
    refine (writeCurrent_works hs _ ?_).withTracker rfl _
    exact fun _ => rfl

theorem receivedText_works (hs : m.session = some s) (status : JobStatus)
    (result : Except FetchError String) : m.Works s (m.receivedText s status result).1 := by
  rw [receivedText_fst]
  cases result with
  | ok text =>
    refine (writeCurrent_works hs _ ?_).withTracker ?_ _
    · exact fun _ => rfl
    · rfl
  | error e =>
    refine (writeCurrent_works hs _ ?_).withTracker rfl _
    exact fun _ => rfl

theorem copyProgress_works (hs : m.session = some s) (job : JobId) (n : Nat) (p : Progress.State) :
    m.Works s (m.copyProgress job n p).1 := by
  unfold copyProgress
  split
  · exact writeCurrent_works hs n fun _ => rfl
  · exact Works.refl hs

theorem relay_works (hs : m.session = some s) : m.Works s (m.relay s).1 := by
  unfold relay
  split
  · exact Works.refl hs
  · obtain ⟨s', v, version, heq, hn, hv⟩ := copyProgress_works
      (m := { m with session := some { s with relayed := some m.client.version } }) rfl
      s.job s.number m.client.state
    exact ⟨s', v, version, heq, hn, hv⟩

/-! ### Coherence -/

/-- The session number of a viewer tells what belongs to the current session. -/
structure Coherent (m : Machine) : Prop where
  client : m.client.Coherent
  number_eq : ∀ s, m.session = some s → s.number = m.view.session
  active_of_none : m.session = none → m.client.active = none
  late_lt : ∀ l ∈ m.late, l.number < m.view.session
  lateRelay_lt : ∀ l ∈ m.lateRelays, l.number < m.view.session
  not_dropped : m.dropped = false

theorem coherent_initial (pollInterval : Nat) : (initial pollInterval).Coherent where
  client := Progress.Client.coherent_initial
  number_eq _ hs := nomatch hs
  active_of_none _ := rfl
  late_lt _ hl := nomatch hl
  lateRelay_lt _ hl := nomatch hl
  not_dropped := rfl

theorem call_of_not_dropped (hn : m.dropped = false) (k : Call) :
    m.call k = match k with
      | .view job => m.openJob job
      | .close => m.close
      | .retryStream => m.retryStream
      | .drop => m.drop := by
  unfold call
  rw [hn]
  rfl

/-- Nobody hears of the calls of an owner who is gone. -/
theorem call_of_dropped (hd : m.dropped) (k : Call) : m.call k = (m, []) :=
  if_pos hd

theorem after_view (hn : m.dropped = false) (job : JobId) :
    m.after (.call (.view job)) = (m.openJob job).1 :=
  congrArg Prod.fst (call_of_not_dropped hn (.view job))

theorem after_close (hn : m.dropped = false) : m.after (.call .close) = m.close.1 :=
  congrArg Prod.fst (call_of_not_dropped hn .close)

theorem Works.coherent {m' : Machine} (hc : m.Coherent) (hs : m.session = some s)
    (hw : m.Works s m') : m'.Coherent := by
  obtain ⟨s', v, version, rfl, hn, hv⟩ := hw
  constructor
  · exact hc.client
  · rintro _ ⟨⟩
    exact hn.trans ((hc.number_eq s hs).trans hv.symm)
  · exact nofun
  · intro l hl
    exact hv ▸ hc.late_lt l hl
  · intro l hl
    exact hv ▸ hc.lateRelay_lt l hl
  · exact hc.not_dropped

/-! ### What outlives its session -/

/-- **Nothing but the current session changes the view.** An answer to a session that has ended
writes nothing. -/
theorem lateJob_fst {l : LateFetch} (hl : m.view.session ≠ l.number)
    (result : Except FetchError Job) : (m.lateJob l result).1 = m := by
  cases result with
  | ok job => simp only [lateJob, if_neg hl]
  | error e => simp only [lateJob, writeCurrent_of_ne _ hl]

theorem lateText_fst {l : LateFetch} (hl : m.view.session ≠ l.number) (status : JobStatus)
    (result : Except FetchError String) : (m.lateText l status result).1 = m := by
  cases result with
  | ok text => simp only [lateText, writeCurrent_of_ne _ hl]
  | error e => simp only [lateText, writeCurrent_of_ne _ hl]

theorem copyProgress_of_ne {n : Nat} (hn : m.view.session ≠ n) (job : JobId)
    (p : Progress.State) : m.copyProgress job n p = (m, []) := by
  unfold copyProgress
  split
  · exact writeCurrent_of_ne _ hn
  · rfl

theorem lateRelay_fst {l : LateRelay} (hl : m.view.session ≠ l.number) :
    (m.lateRelay l).1 = { m with lateRelays := m.lateRelays.filter (·.number != l.number) } := by
  set m' : Machine := { m with lateRelays := m.lateRelays.filter (·.number != l.number) }
  have hl' : m'.view.session ≠ l.number := hl
  exact congrArg Prod.fst (copyProgress_of_ne hl' l.job l.taken)

/-- A viewer that differs from another at most in having less that is late. -/
structure Forgets (m m' : Machine) : Prop where
  late : m'.late.Sublist m.late
  lateRelays : m'.lateRelays.Sublist m.lateRelays
  eq : m' = { m with late := m'.late, lateRelays := m'.lateRelays }

theorem Forgets.refl (m : Machine) : m.Forgets m :=
  ⟨List.Sublist.refl _, List.Sublist.refl _, rfl⟩

theorem Forgets.coherent {m' : Machine} (hc : m.Coherent) (hf : m.Forgets m') : m'.Coherent := by
  rw [hf.eq]
  exact { hc with
    late_lt := fun l hl => hc.late_lt l (hf.late.subset hl)
    lateRelay_lt := fun l hl => hc.lateRelay_lt l (hf.lateRelays.subset hl) }

theorem forgets_forget (m : Machine) (l : LateFetch) : m.Forgets (m.forget l) :=
  ⟨List.erase_sublist, List.Sublist.refl _, rfl⟩

theorem Coherent.number_ne_of_late? (hc : m.Coherent) {n : Nat} {isMeant : Fetch → Bool}
    {l : LateFetch} (hl : m.late? n isMeant = some l) : m.view.session ≠ l.number :=
  Nat.ne_of_gt (hc.late_lt l (List.mem_of_find?_eq_some hl))

/-- **What happens to a session that has ended is forgotten.** -/
theorem Coherent.stepLate (hc : m.Coherent) (n : Nat) (h : Happening) :
    m.Forgets (m.stepLate n h).1 := by
  cases h with
  | progress e => exact .refl m
  | trackerTurn n => exact .refl m
  | elapse ms => exact .refl m
  | jobAnswer n' result =>
    simp only [Machine.stepLate]
    cases hl : m.late? n (· == .job) with
    | none => exact .refl m
    | some l =>
      -- What is late is of an older session, so the guard of its write fails.
      have hne := hc.number_ne_of_late? hl
      show m.Forgets ((m.forget l).lateJob l result).1
      rw [lateJob_fst (m := m.forget l) hne]
      exact m.forgets_forget l
  | textAnswer n' result =>
    simp only [Machine.stepLate]
    cases hl : m.late? n (· != .job) with
    | none => exact .refl m
    | some l =>
      have hne := hc.number_ne_of_late? hl
      simp only
      split
      · rename_i status _
        rw [lateText_fst (m := m.forget l) hne]
        exact m.forgets_forget l
      · exact .refl m
  | relayTurn n' =>
    simp only [Machine.stepLate]
    cases hl : m.lateRelays.find? (·.number == n) with
    | none => exact .refl m
    | some l =>
      have hlt := hc.lateRelay_lt l (List.mem_of_find?_eq_some hl)
      show m.Forgets (m.lateRelay l).1
      rw [lateRelay_fst (Nat.ne_of_gt hlt)]
      exact ⟨List.Sublist.refl _, List.filter_sublist, rfl⟩

/-! ### Coherence is kept -/

/-- **What happens to the current session changes the session and the view.** -/
theorem stepCurrent_works (hs : m.session = some s) (h : Happening) :
    m.Works s (m.stepCurrent s h).1 := by
  -- A session works by moving its tracker and by writing to the view, and its number stays.
  cases h with
  | progress e => exact .refl hs
  | elapse ms => exact .refl hs
  | relayTurn n => exact relay_works hs
  | trackerTurn n =>
    simp only [stepCurrent]
    split
    · exact (Works.refl hs).withTracker rfl _
    · split
      · exact (Works.refl hs).withTracker rfl _
      · exact .refl hs
    · exact .refl hs
  | jobAnswer n result =>
    simp only [stepCurrent]
    split
    · exact answeredJob_works hs result
    · exact .refl hs
  | textAnswer n result =>
    simp only [stepCurrent]
    split
    · exact receivedText_works hs _ result
    · exact .refl hs

theorem Coherent.stepSession (hc : m.Coherent) (n : Nat) (h : Happening) :
    (m.stepSession n h).1.Coherent := by
  unfold Machine.stepSession
  cases hs : m.current? n with
  | some s =>
    have hs' := (Option.filter_eq_some_iff.1 hs).1
    exact (stepCurrent_works hs' h).coherent hc hs'
  | none => exact (hc.stepLate n h).coherent hc

/-- A viewer without a session takes over from its progress client that there is no subscription. -/
theorem Coherent.progress (hc : m.Coherent) (e : Progress.Happening) :
    (m.step (.progress e)).1.Coherent := by
  refine { hc with client := hc.client.step e, active_of_none := fun hs => ?_ }
  have hactive := hc.active_of_none hs
  obtain ⟨s, r, st, v, hs, -⟩ | ⟨late, -, heq⟩ := hc.client.step_cases e
  · rw [hactive] at hs
    cases hs
  · show (m.client.step e).1.active = none
    rw [heq]
    exact hactive

theorem Coherent.step (hc : m.Coherent) (h : Happening) : (m.step h).1.Coherent := by
  rcases happening_cases h with ⟨e, rfl⟩ | ⟨ms, rfl⟩ | ⟨n, -, heq⟩
  · exact hc.progress e
  · exact { hc with }
  · rw [heq]
    exact hc.stepSession n h

@[simp]
theorem cancel_client (m : Machine) : m.cancel.1.client = m.client := by
  unfold cancel; split <;> rfl

@[simp]
theorem cancel_view (m : Machine) : m.cancel.1.view = m.view := by
  unfold cancel; split <;> rfl

@[simp]
theorem cancel_session (m : Machine) : m.cancel.1.session = none := by
  unfold cancel; split
  · assumption
  · rfl

@[simp]
theorem cancel_dropped (m : Machine) : m.cancel.1.dropped = m.dropped := by
  unfold cancel; split <;> rfl

theorem number_of_pending? {l : LateFetch} (hl : s.pending? = some l) : l.number = s.number := by
  unfold Session.pending? at hl
  split at hl <;> cases hl <;> rfl

/-- What outlives its session has a number that the view has had. -/
theorem Coherent.cancel_late_le (hc : m.Coherent) :
    (∀ l ∈ m.cancel.1.late, l.number ≤ m.view.session) ∧
      ∀ l ∈ m.cancel.1.lateRelays, l.number ≤ m.view.session := by
  have hlate : ∀ l ∈ m.late, l.number ≤ m.view.session :=
    fun l hl => Nat.le_of_lt (hc.late_lt l hl)
  have hrelay : ∀ l ∈ m.lateRelays, l.number ≤ m.view.session :=
    fun l hl => Nat.le_of_lt (hc.lateRelay_lt l hl)
  unfold cancel
  cases hs : m.session with
  | none => exact ⟨hlate, hrelay⟩
  | some s =>
    have hn := Nat.le_of_eq (hc.number_eq s hs)
    -- The session that ends has the number of the view, so what is left of it has that number.
    constructor
    · intro l hl
      rcases List.mem_append.1 hl with hl | hl
      · exact hlate l hl
      · rw [number_of_pending? (Option.mem_toList.1 hl)]
        exact hn
    · intro l hl
      rcases List.mem_append.1 hl with hl | hl
      · exact hrelay l hl
      · rw [List.mem_singleton.1 hl]
        exact hn

theorem session_openJob (m : Machine) (job : JobId) :
    (m.openJob job).1.view.session = m.view.session + 1 :=
  congrArg (·.session + 1) m.cancel_view

theorem session_close (m : Machine) : m.close.1.view.session = m.view.session + 1 :=
  congrArg (·.session + 1) m.cancel_view

theorem Coherent.openJob (hc : m.Coherent) (job : JobId) : (m.openJob job).1.Coherent := by
  obtain ⟨hlate, hrelay⟩ := hc.cancel_late_le
  constructor
  · -- Cancelling leaves the client alone, which then subscribes.
    show (m.cancel.1.client.subscribe job).1.Coherent
    rw [cancel_client]
    exact hc.client.subscribe job
  · rintro _ ⟨⟩
    rfl
  · exact nofun
  · intro l hl
    rw [session_openJob]
    exact Nat.lt_succ_of_le (hlate l hl)
  · intro l hl
    rw [session_openJob]
    exact Nat.lt_succ_of_le (hrelay l hl)
  · exact m.cancel_dropped.trans hc.not_dropped

theorem Coherent.close (hc : m.Coherent) : m.close.1.Coherent := by
  obtain ⟨hlate, hrelay⟩ := hc.cancel_late_le
  have hnone : m.close.1.session = none := m.cancel_session
  constructor
  · show m.cancel.1.client.unsubscribe.1.Coherent
    rw [cancel_client]
    exact hc.client.unsubscribe
  · intro s hs
    rw [hnone] at hs
    cases hs
  · intro _
    exact Progress.Client.teardown_active m.cancel.1.client
  · -- What is cancelled now has the number of the view, and the close counts it up.
    intro l hl
    rw [session_close]
    exact Nat.lt_succ_of_le (hlate l hl)
  · intro l hl
    rw [session_close]
    exact Nat.lt_succ_of_le (hrelay l hl)
  · exact m.cancel_dropped.trans hc.not_dropped

theorem Coherent.retryStream (hc : m.Coherent) : m.retryStream.1.Coherent := by
  unfold Machine.retryStream
  cases hs : m.session with
  | none => exact hc
  | some s =>
    refine { hc with client := hc.client.resubscribe, active_of_none := fun hnone => ?_ }
    have hnone : m.session = none := hnone
    rw [hs] at hnone
    cases hnone

/-- **Coherence is kept** by every input but the drop of the viewer. -/
theorem Coherent.after (hc : m.Coherent) (hi : i ≠ .call .drop) : (m.after i).Coherent := by
  cases i with
  | happening h => exact hc.step h
  | call k =>
    show (m.call k).1.Coherent
    rw [call_of_not_dropped hc.not_dropped]
    cases k with
    | view job => exact hc.openJob job
    | close => exact hc.close
    | retryStream => exact hc.retryStream
    | drop => exact absurd rfl hi

theorem Coherent.run (hc : m.Coherent) (hd : .call .drop ∉ is) : (m.run is).Coherent :=
  List.foldlRecOn is Machine.after hc fun _ hc _ hi => hc.after fun he => hd (he ▸ hi)

theorem coherent_run (pollInterval : Nat) (hd : .call .drop ∉ is) :
    ((initial pollInterval).run is).Coherent :=
  (coherent_initial pollInterval).run hd

/-! ### Numbers only grow -/

theorem Coherent.numbers_stepSession (hc : m.Coherent) (n : Nat) (h : Happening) :
    (m.stepSession n h).1.view.session = m.view.session ∧
      (m.stepSession n h).1.client = m.client := by
  unfold Machine.stepSession
  cases hs : m.current? n with
  | some s =>
    obtain ⟨s', v, version, heq, -, hv⟩ := stepCurrent_works (Option.filter_eq_some_iff.1 hs).1 h
    simp only
    rw [heq]
    exact ⟨hv, rfl⟩
  | none =>
    have heq := (hc.stepLate n h).eq
    simp only
    rw [heq]
    exact ⟨rfl, rfl⟩

/-- What happens outside leaves the numbers alone. -/
theorem Coherent.numbers_step (hc : m.Coherent) (h : Happening) :
    (m.step h).1.view.session = m.view.session ∧
      (m.step h).1.client.state.generation = m.client.state.generation := by
  rcases happening_cases h with ⟨e, rfl⟩ | ⟨ms, rfl⟩ | ⟨n, -, heq⟩
  · exact ⟨rfl, hc.client.generation_step e⟩
  · exact ⟨rfl, rfl⟩
  · obtain ⟨hview, hclient⟩ := hc.numbers_stepSession n h
    rw [heq, hclient]
    exact ⟨hview, rfl⟩

theorem generation_openJob (m : Machine) (job : JobId) :
    (m.openJob job).1.client.state.generation =
      (m.client.subscribe job).1.state.generation := by
  show (m.cancel.1.client.subscribe job).1.state.generation = _
  rw [cancel_client]

theorem generation_close (m : Machine) :
    m.close.1.client.state.generation = m.client.state.generation + 1 := by
  show m.cancel.1.client.unsubscribe.1.state.generation = _
  rw [cancel_client, Progress.Client.generation_unsubscribe]

/-- **The numbers of sessions and of subscriptions only grow.** -/
theorem Coherent.numbers_le (hc : m.Coherent) (hi : i ≠ .call .drop) :
    m.view.session ≤ (m.after i).view.session ∧
      m.client.state.generation ≤ (m.after i).client.state.generation := by
  cases i with
  | happening h =>
    obtain ⟨hsession, hgeneration⟩ := hc.numbers_step h
    exact ⟨Nat.le_of_eq hsession.symm, Nat.le_of_eq hgeneration.symm⟩
  | call k =>
    show m.view.session ≤ (m.call k).1.view.session ∧
      m.client.state.generation ≤ (m.call k).1.client.state.generation
    rw [call_of_not_dropped hc.not_dropped]
    cases k with
    | view job =>
      simp only [session_openJob, generation_openJob]
      exact ⟨Nat.le_succ _, m.client.generation_le_subscribe job⟩
    | close =>
      simp only [session_close, generation_close]
      exact ⟨Nat.le_succ _, Nat.le_succ _⟩
    | retryStream =>
      simp only [Machine.retryStream]
      split
      · exact ⟨Nat.le_refl _, m.client.generation_le_resubscribe⟩
      · exact ⟨Nat.le_refl _, Nat.le_refl _⟩
    | drop => exact absurd rfl hi

theorem Coherent.numbers_le_run (hc : m.Coherent) (hd : .call .drop ∉ is) :
    m.view.session ≤ (m.run is).view.session ∧
      m.client.state.generation ≤ (m.run is).client.state.generation := by
  induction is generalizing m with
  | nil => exact ⟨Nat.le_refl _, Nat.le_refl _⟩
  | cons i is ih =>
    obtain ⟨hi, hd⟩ := not_or.1 (mt List.mem_cons.2 hd)
    obtain ⟨hsession, hgeneration⟩ := hc.numbers_le (Ne.symm hi)
    obtain ⟨hsession', hgeneration'⟩ := ih (hc.after (Ne.symm hi)) hd
    exact ⟨Nat.le_trans hsession hsession', Nat.le_trans hgeneration hgeneration'⟩

end Machine

end MachiningViewer.Viewer
