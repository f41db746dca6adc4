import MachiningViewer.Proofs.Progress.Isolation
import MachiningViewer.Proofs.Viewer.Run

/-!
# Ended sessions and the view

When a session ends, a fetch may still be under way for it, its relay may hold something that it has
not written yet, and its stream may still deliver. None of it reaches the view: whatever belongs to
a session that has been superseded or closed can be left out of a run, and the view is the same ever
after (`view_unaffected_by_ended_sessions`).

As for the progress client, the proof forgets what is late (`settled`), and shows that a viewer does
the same to its view without it (`Coherent.settled_after`). What belongs to an ended session is
known by its number: the numbers of sessions and of subscriptions only grow, so it is not the
current one at any later time (`Coherent.not_owns_of_superseded`).
-/

namespace MachiningViewer.Viewer

/-- Is the input a call that closes the viewer? -/
def Input.isClose : Input → Bool
  | .call .close => true
  | _ => false

namespace Machine

variable {m m' : Machine} {s : Session} {h : Happening} {i : Input} {is js : List Input}

/-! ### Viewers without late things -/

/-- The viewer without what has outlived its session, and its progress client likewise. -/
def settled (m : Machine) : Machine :=
  { m with late := [], lateRelays := [], client := m.client.settled }

theorem settled_writeCurrent (m : Machine) (n : Nat) (f : View → View) :
    (m.settled.writeCurrent n f).1 = (m.writeCurrent n f).1.settled := by
  by_cases hn : m.view.session = n
  · have hn' : m.settled.view.session = n := hn
    rw [writeCurrent_of_eq f hn, writeCurrent_of_eq f hn']
    rfl
  · have hn' : m.settled.view.session ≠ n := hn
    rw [writeCurrent_of_ne f hn, writeCurrent_of_ne f hn']

theorem settled_answeredJob (m : Machine) (s : Session) (result : Except FetchError Job) :
    (m.settled.answeredJob s result).1 = (m.answeredJob s result).1.settled := by
  cases result with
  | ok job =>
    show (m.settled.receivedJob s job).1 = (m.receivedJob s job).1.settled
    rw [receivedJob_fst, receivedJob_fst]
    -- Settling keeps the number of the view's session, so both machines pass the guard or neither
    -- does.
    by_cases hn : m.view.session = s.number
    · have hn' : m.settled.view.session = s.number := hn
      rw [if_pos hn, if_pos hn']
      rfl
    · have hn' : ¬ m.settled.view.session = s.number := hn
      rw [if_neg hn, if_neg hn']
      rfl
  | error e =>
    show (m.settled.receivedJobError s e).1 = (m.receivedJobError s e).1.settled
    rw [receivedJobError_fst, receivedJobError_fst, settled_writeCurrent]
    rfl

theorem settled_receivedText (m : Machine) (s : Session) (status : JobStatus)
    (result : Except FetchError String) :
    (m.settled.receivedText s status result).1 = (m.receivedText s status result).1.settled := by
  rw [receivedText_fst, receivedText_fst]
  cases result with
  | ok text =>
    simp only [settled_writeCurrent]
    rfl
  | error e =>
    simp only [settled_writeCurrent]
    rfl

theorem settled_relay (m : Machine) (s : Session) :
    (m.settled.relay s).1 = (m.relay s).1.settled := by
  by_cases hseen : s.relayed = some m.client.version
  · have hseen' : s.relayed = some m.settled.client.version := hseen
    simp only [relay, if_pos hseen, if_pos hseen']
  · have hseen' : ¬ s.relayed = some m.settled.client.version := hseen
    simp only [relay, if_neg hseen, if_neg hseen']
    by_cases hjob : m.client.state.job = some s.job
    · have hjob' : m.settled.client.state.job = some s.job := hjob
      simp only [copyProgress, if_pos hjob, if_pos hjob']
      exact settled_writeCurrent
        { m with session := some { s with relayed := some m.client.version } } s.number _
    · have hjob' : ¬ m.settled.client.state.job = some s.job := hjob
      simp only [copyProgress, if_neg hjob, if_neg hjob']
      rfl

/-- The current session does not look at what is late. -/
theorem settled_stepCurrent (m : Machine) (s : Session) (h : Happening) :
    (m.settled.stepCurrent s h).1 = (m.stepCurrent s h).1.settled := by
  cases h with
  | progress e => rfl
  | elapse ms => rfl
  | relayTurn n => exact m.settled_relay s
  | trackerTurn n =>
    simp only [stepCurrent]
    -- Of all the tracker's states the clock matters only to a sleeping one, and settling keeps it.
    cases s.tracker with
    | sleeping wake =>
      by_cases hw : wake ≤ m.clock
      · have hw' : wake ≤ m.settled.clock := hw
        simp only [if_pos hw, if_pos hw']
        rfl
      · have hw' : ¬ wake ≤ m.settled.clock := hw
        simp only [if_neg hw, if_neg hw']
    | fresh => rfl
    | fetchingJob => rfl
    | fetchingText artefact status => rfl
    | finished => rfl
  | jobAnswer n result =>
    simp only [stepCurrent]
    split
    · exact m.settled_answeredJob s result
    · rfl
  | textAnswer n result =>
    simp only [stepCurrent]
    split
    · exact m.settled_receivedText s _ result
    · rfl

theorem settled_stepLate (m : Machine) (n : Nat) (h : Happening) :
    m.settled.stepLate n h = (m.settled, []) := by
  cases h <;> rfl

theorem Forgets.settled_eq (hf : m.Forgets m') : m'.settled = m.settled := by
  rw [hf.eq]
  rfl

theorem Coherent.settled_stepSession (hc : m.Coherent) (n : Nat) (h : Happening) :
    (m.settled.stepSession n h).1.settled = (m.stepSession n h).1.settled := by
  unfold Machine.stepSession
  cases hs : m.current? n with
  | some s =>
    rw [show m.settled.current? n = some s from hs]
    show (m.settled.stepCurrent s h).1.settled = _
    rw [settled_stepCurrent]
    rfl
  | none =>
    rw [show m.settled.current? n = none from hs]
    show (m.settled.stepLate n h).1.settled = (m.stepLate n h).1.settled
    rw [settled_stepLate, (hc.stepLate n h).settled_eq]
    rfl

theorem settled_openJob (m : Machine) (job : JobId) :
    (m.settled.openJob job).1.settled = (m.openJob job).1.settled := by
  have hclient := m.client.settled_subscribe job
  cases hs : m.session <;> simp only [openJob, cancel, settled, withClient, write, hs, hclient]

theorem settled_close (m : Machine) : m.settled.close.1.settled = m.close.1.settled := by
  have hclient := m.client.settled_unsubscribe
  cases hs : m.session <;> simp only [close, cancel, settled, withClient, write, hs, hclient]

theorem settled_retryStream (m : Machine) :
    m.settled.retryStream.1.settled = m.retryStream.1.settled := by
  have hclient := m.client.settled_resubscribe
  cases hs : m.session with
  | none => simp only [retryStream, settled, hs]; rfl
  | some s => simp only [retryStream, settled, withClient, hs, hclient]

theorem settled_drop (m : Machine) : m.settled.drop.1.settled = m.drop.1.settled := by
  have hclient := m.client.settled_drop
  cases hs : m.session <;> simp only [drop, cancel, settled, withClient, hs, hclient]

/-- **What is late can be forgotten at any time.** -/
theorem Coherent.settled_after (hc : m.Coherent) (i : Input) :
    (m.settled.after i).settled = (m.after i).settled := by
  cases i with
  | call k =>
    show (m.settled.call k).1.settled = (m.call k).1.settled
    rw [call_of_not_dropped hc.not_dropped, call_of_not_dropped (m := m.settled) hc.not_dropped]
    cases k with
    | view job => exact m.settled_openJob job
    | close => exact m.settled_close
    | retryStream => exact m.settled_retryStream
    | drop => exact m.settled_drop
  | happening h =>
    show (m.settled.step h).1.settled = (m.step h).1.settled
    -- The client settles by its own lemma, the clock is kept, and the rest belongs to a session.
    rcases happening_cases h with ⟨e, rfl⟩ | ⟨ms, rfl⟩ | ⟨n, -, heq⟩
    · have hclient := hc.client.settled_after (.happening e)
      exact congrArg (fun c => { m.settled with client := c }) hclient
    · rfl
    · rw [heq, heq]
      exact hc.settled_stepSession n h

/-- Viewers that differ in what is late differ in nothing else after a run. -/
theorem Coherent.settled_run_congr (hc : m.Coherent) (hc' : m'.Coherent)
    (heq : m.settled = m'.settled) (hd : .call .drop ∉ is) :
    (m.run is).settled = (m'.run is).settled := by
  induction is generalizing m m' with
  | nil => exact heq
  | cons i is ih =>
    obtain ⟨hi, hd⟩ := not_or.1 (mt List.mem_cons.2 hd)
    refine ih (hc.after (Ne.symm hi)) (hc'.after (Ne.symm hi)) ?_ hd
    rw [← hc.settled_after, heq, hc'.settled_after]

/-! ### To whom a happening belongs -/

/-- Does the happening belong to the current session? What happens to the reader of a subscription
belongs to the session that has the subscription, be it opened by the session or kept for it. The
passing of time belongs to nobody. -/
def Owns (m : Machine) (h : Happening) : Prop :=
  (∃ e, h = .progress e ∧ m.session.isSome ∧ m.client.state.generation = e.generation) ∨
    ∃ s, m.session = some s ∧ h.session? = some s.number

/-- Does the next session on a job keep the subscription to whose reader this happens? -/
def HandsOver (m : Machine) (job : JobId) : Happening → Prop
  | .progress h => m.client.follows job ∧ m.client.state.generation = h.generation
  | _ => False

/-- Does the call end the session to which this belongs? -/
def Ends (m : Machine) (h : Happening) : Call → Prop
  | .view job => ¬ m.HandsOver job h
  | .close => True
  | .retryStream | .drop => False

/-- Has the session to which this belongs been superseded or closed in the course of a run? At some
time the happening belonged to the session that was the current one then, and later there was a call
that ended that session. -/
def Superseded (m : Machine) (is : List Input) (h : Happening) : Prop :=
  ∃ owning between k rest, is = owning ++ between ++ .call k :: rest ∧
    (m.run owning).Owns h ∧ (m.run (owning ++ between)).Ends h k

/-! ### What belongs to nobody changes nothing -/

/-- The subscription of a progress client stands only while there is a session. -/
theorem Coherent.isStale_of_not_owns (hc : m.Coherent) {e : Progress.Happening}
    (hn : ¬ m.Owns (.progress e)) : m.client.isStale (.happening e) := by
  show (!m.client.active.any (·.generation == e.generation)) = true
  cases hactive : m.client.active with
  | none => rfl
  | some s =>
    have hsession : m.session.isSome := by
      rw [Option.isSome_iff_ne_none]
      intro hnone
      rw [hc.active_of_none hnone] at hactive
      cases hactive
    -- The generation of the client is that of its subscription, and of nobody else.
    have hgeneration : s.generation ≠ e.generation := fun hg =>
      hn (.inl ⟨e, rfl, hsession, (hc.client.generation_eq s hactive).trans hg⟩)
    rw [Option.any_some, beq_false_of_ne hgeneration]
    rfl

/-- **What does not belong to the current session changes only what is late**, the passing of time
apart. -/
theorem Coherent.settled_step_of_not_owns (hc : m.Coherent) (hn : ¬ m.Owns h)
    (he : ∀ ms, h ≠ .elapse ms) : (m.step h).1.settled = m.settled := by
  rcases happening_cases h with ⟨e, rfl⟩ | ⟨ms, rfl⟩ | ⟨n, hsession, heq⟩
  · have hclient := hc.client.settled_after_of_isStale (hc.isStale_of_not_owns hn)
    exact congrArg (fun c => { m.settled with client := c }) hclient
  · exact absurd rfl (he ms)
  · have hnone : m.current? n = none := Option.filter_eq_none_iff.2 fun s hs hnumber =>
      hn (.inr ⟨s, hs, by rw [hsession, eq_of_beq hnumber]⟩)
    rw [heq]
    unfold Machine.stepSession
    rw [hnone]
    exact (hc.stepLate n h).settled_eq

/-! ### What belonged to an ended session belongs to nobody -/

/-- **A call that ends a session leaves its numbers behind.** -/
theorem Coherent.numbers_lt_of_ends (hc : m.Coherent) {k : Call} (hk : m.Ends h k) :
    m.view.session < (m.after (.call k)).view.session ∧
      ∀ e, h = .progress e → e.generation ≤ m.client.state.generation →
        e.generation < (m.after (.call k)).client.state.generation := by
  show m.view.session < (m.call k).1.view.session ∧
    ∀ e, h = .progress e → e.generation ≤ m.client.state.generation →
      e.generation < (m.call k).1.client.state.generation
  rw [call_of_not_dropped hc.not_dropped]
  cases k with
  | close =>
    simp only [session_close, generation_close]
    exact ⟨Nat.lt_succ_self _, fun e _ he => Nat.lt_succ_of_le he⟩
  | view job =>
    simp only [session_openJob, generation_openJob]
    refine ⟨Nat.lt_succ_self _, ?_⟩
    rintro e rfl he
    by_cases hf : m.client.follows job
    · -- The subscription is kept, but it is not the one to which this happens.
      have hne : m.client.state.generation ≠ e.generation := fun hg => hk ⟨hf, hg⟩
      exact Nat.lt_of_lt_of_le (Nat.lt_of_le_of_ne he hne.symm)
        (m.client.generation_le_subscribe job)
    · rw [Progress.Client.generation_subscribe hf]
      exact Nat.lt_succ_of_le he
  | retryStream => exact hk.elim
  | drop => exact hk.elim

/-- **What belonged to an ended session never belongs to a session again.** -/
theorem Coherent.not_owns_of_superseded (hc : m.Coherent) (hd : .call .drop ∉ is)
    (hs : m.Superseded is h) : ¬ (m.run is).Owns h := by
  obtain ⟨owning, between, k, rest, rfl, howns, hends⟩ := hs
  obtain ⟨hdo, hdb, hdk, hdr⟩ : .call .drop ∉ owning ∧ .call .drop ∉ between ∧
      Input.call k ≠ .call .drop ∧ .call .drop ∉ rest := by
    simpa [not_or, eq_comm] using hd
  have hco := hc.run hdo
  have hcb := hco.run hdb
  have hck := hcb.after hdk
  have hcr := hck.run hdr
  rw [run_append] at hends
  obtain ⟨hsession, hgeneration⟩ := hco.numbers_le_run hdb
  obtain ⟨hsession', hgeneration'⟩ := hcb.numbers_lt_of_ends hends
  obtain ⟨hsession'', hgeneration''⟩ := hck.numbers_le_run hdr
  rw [run_append, run_append, run_cons]
  intro howns'
  -- Its number was the current one when it was owned, and the call has left that number behind.
  rcases howns with ⟨e, rfl, -, he⟩ | ⟨s, hs, hn⟩
  · have hlt := hgeneration' e rfl (Nat.le_trans (Nat.le_of_eq he.symm) hgeneration)
    rcases howns' with ⟨_, ⟨⟩, -, he'⟩ | ⟨_, -, hn'⟩
    · omega
    · cases hn'
  · rcases howns' with ⟨_, rfl, -⟩ | ⟨s', hs', hn'⟩
    · cases hn
    · have hnumber := hco.number_eq s hs
      have hnumber' := hcr.number_eq s' hs'
      have hsame : s.number = s'.number := Option.some.inj (hn.symm.trans hn')
      omega

/-! ### After a close -/

theorem not_owns_of_none (hs : m.session = none) : ¬ m.Owns h := by
  rintro (⟨_, -, hsome, -⟩ | ⟨_, hs', -⟩)
  · rw [hs] at hsome
    cases hsome
  · rw [hs] at hs'
    cases hs'

/-- Without a session, nothing that happens outside changes the view. -/
theorem Coherent.step_of_none (hc : m.Coherent) (hs : m.session = none) (h : Happening) :
    (m.step h).1.view = m.view ∧ (m.step h).1.session = none := by
  by_cases he : ∃ ms, h = .elapse ms
  · obtain ⟨ms, rfl⟩ := he
    exact ⟨rfl, hs⟩
  · have heq := hc.settled_step_of_not_owns (not_owns_of_none hs) fun ms hms => he ⟨ms, hms⟩
    show (m.step h).1.settled.view = m.view ∧ (m.step h).1.settled.session = none
    rw [heq]
    exact ⟨rfl, hs⟩

/-- Without a session, only the owner changes the view, and without opening a job only by closing
once more. -/
theorem Coherent.after_of_none (hc : m.Coherent) (hs : m.session = none)
    (hd : i ≠ .call .drop) (hv : ∀ job, i ≠ .call (.view job)) :
    (m.after i).view = (if i.isClose then m.view.closed else m.view) ∧
      (m.after i).session = none := by
  cases i with
  | happening h => exact hc.step_of_none hs h
  | call k =>
    show (m.call k).1.view = (if (Input.call k).isClose then m.view.closed else m.view) ∧
      (m.call k).1.session = none
    rw [call_of_not_dropped hc.not_dropped]
    cases k with
    | view job => exact absurd rfl (hv job)
    | close => exact ⟨congrArg View.closed m.cancel_view, m.cancel_session⟩
    | retryStream =>
      simp only [Machine.retryStream, hs]
      exact ⟨rfl, trivial⟩
    | drop => exact absurd rfl hd

theorem closed_of_terminal {v : View} (ht : v.stream = .terminal) :
    v.closed = { v with session := v.session + 1 } := by
  unfold View.closed
  rw [← ht]

/-- The view of a viewer without a session only counts how often it is closed. -/
theorem Coherent.view_run_of_none (hc : m.Coherent) (hs : m.session = none)
    (ht : m.view.stream = .terminal) (hd : .call .drop ∉ is)
    (hv : ∀ job, .call (.view job) ∉ is) :
    (m.run is).view = { m.view with session := m.view.session + is.countP Input.isClose } := by
  -- The stream is shown as terminal all along, so that closing again only counts.
  induction is generalizing m with
  | nil => rfl
  | cons i is ih =>
    obtain ⟨hdi, hd⟩ := not_or.1 (mt List.mem_cons.2 hd)
    have hvi (job : JobId) : i ≠ .call (.view job) := fun he => hv job (he ▸ List.mem_cons_self)
    obtain ⟨hview, hnone⟩ := hc.after_of_none hs (Ne.symm hdi) hvi
    have hterminal : (m.after i).view.stream = .terminal := by
      rw [hview]
      split
      · rfl
      · exact ht
    rw [run_cons, ih (hc.after (Ne.symm hdi)) hnone hterminal hd
      fun job hj => hv job (List.mem_cons_of_mem _ hj), hview]
    cases hi : i.isClose with
    | true =>
      have hcount : m.view.session + (i :: is).countP Input.isClose =
          m.view.session + 1 + is.countP Input.isClose := by
        rw [List.countP_cons_of_pos hi]
        omega
      rw [if_pos rfl, closed_of_terminal ht, hcount]
    | false =>
      rw [List.countP_cons_of_neg (by simp [hi])]
      rfl

/-! ### No stale write -/

/-- **Ended sessions have no influence on the view.** In every run of a viewer that is not dropped,
(a) an answer, a turn, or anything that happens to a stream can be left out if it belongs to a
session that has been superseded or closed: the view is the same, at once and at every later time;
and (b) after a close the view is as the close left it until the next job is opened, but that each
further close counts the session number on. -/
theorem view_unaffected_by_ended_sessions (pollInterval : Nat) {is js : List Input}
    (hdi : .call .drop ∉ is) (hdj : .call .drop ∉ js) :
    let m := initial pollInterval
    (∀ h, m.Superseded is h → (m.run (is ++ .happening h :: js)).view = (m.run (is ++ js)).view) ∧
      ((∀ job, .call (.view job) ∉ js) →
        (m.run (is ++ .call .close :: js)).view =
          { (m.run is).view.closed with
            session := (m.run is).view.closed.session + js.countP Input.isClose }) := by
  intro m
  have hc : (m.run is).Coherent := coherent_run pollInterval hdi
  constructor
  · intro h hsuperseded
    have hnot := (coherent_initial pollInterval).not_owns_of_superseded hdi hsuperseded
    have helapse : ∀ ms, h ≠ .elapse ms := by
      rintro ms rfl
      obtain ⟨_, _, _, _, _, ⟨_, he, _⟩ | ⟨_, _, hn⟩, _⟩ := hsuperseded
      · cases he
      · cases hn
    -- With and without it, the run goes on from viewers that differ in what is late.
    have hstep : ((m.run is).after (.happening h)).settled = (m.run is).settled :=
      hc.settled_step_of_not_owns hnot helapse
    have hsettled := (hc.step h).settled_run_congr hc hstep hdj
    rw [run_append, run_cons, run_append]
    show (((m.run is).after (.happening h)).run js).settled.view = ((m.run is).run js).settled.view
    exact congrArg (·.view) hsettled
  · intro hview
    have hclose : (m.run is).after (.call .close) = (m.run is).close.1 := by
      show ((m.run is).call .close).1 = _
      rw [call_of_not_dropped hc.not_dropped]
    have hclosed : (m.run is).close.1.view = (m.run is).view.closed :=
      congrArg View.closed (m.run is).cancel_view
    have hterminal : (m.run is).close.1.view.stream = .terminal := rfl
    rw [run_append, run_cons, hclose,
      hc.close.view_run_of_none (m.run is).cancel_session hterminal hdj hview, hclosed]

/-- A run that turns to another job while the first one's snapshot is being fetched. -/
def switchingJobs : List Input :=
  [.call (.view 1), .happening (.trackerTurn 1), .call (.view 2)]

/-- What the backend answers for the first job then changes nothing, nor does the first relay after
a close. -/
theorem switchingJobs_view_eq :
    ((initial 500).run (switchingJobs ++ [.happening (.jobAnswer 1 (.error (.notFound 1))),
        .happening (.relayTurn 1)])).view =
        ((initial 500).run (switchingJobs ++ [.happening (.relayTurn 1)])).view ∧
      ((initial 500).run (switchingJobs ++ [.call .close, .happening (.relayTurn 1)])).view =
        ((initial 500).run switchingJobs).view.closed := by
  have hdi : .call .drop ∉ switchingJobs := by simp [switchingJobs]
  have hdj : .call .drop ∉ [Input.happening (.relayTurn 1)] := by simp
  have hview : ∀ job, .call (.view job) ∉ [Input.happening (.relayTurn 1)] := by simp
  have hsuperseded :
      (initial 500).Superseded switchingJobs (.jobAnswer 1 (.error (.notFound 1))) :=
    ⟨[.call (.view 1)], [.happening (.trackerTurn 1)], .view 2, [], rfl, .inr ⟨_, rfl, rfl⟩, id⟩
  obtain ⟨hstale, hclosed⟩ := view_unaffected_by_ended_sessions 500 hdi hdj
  exact ⟨hstale _ hsuperseded, hclosed hview⟩

end Machine

end MachiningViewer.Viewer
