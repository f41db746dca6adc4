import MachiningViewer.Proofs.Viewer.Flows
import MachiningViewer.Proofs.Viewer.Isolation
import Mathlib.Data.List.Induction

/-!
# The course of a session

A session begins when a job is opened and goes on, with its number and its job, until another call
opens, closes or drops the viewer (`Coherent.session_after`). So the open session of a viewer that a
run has reached tells how the run went: it opened the session's job at some moment, and nothing
since then has ended the session (`Coherent.exists_opening`). A viewer that has been dropped has no
session any more (`Coherent.not_drop_of_session`).
-/

namespace MachiningViewer.Viewer

/-- Does a session go on over the input? All calls but a retry of the stream end it. -/
def Input.goesOn : Input → Bool
  | .happening _ | .call .retryStream => true
  | .call _ => false

theorem Input.ne_drop_of_goesOn {i : Input} (hi : i.goesOn) : i ≠ .call .drop := by
  rintro rfl
  cases hi

namespace Machine

variable {m : Machine} {s s' : Session} {i : Input} {is : List Input}

/-! ### What is late -/

theorem writeCurrent_keeps (m : Machine) (n : Nat) {f : View → View}
    (hf : ∀ v, (f v).session = v.session) :
    ∃ v version, (m.writeCurrent n f).1 = { m with view := v, version } ∧
      v.session = m.view.session := by
  unfold writeCurrent
  split
  · exact ⟨_, _, rfl, hf _⟩
  · exact ⟨_, _, rfl, rfl⟩

/-- What happens to a session that has ended leaves the current one alone, in any state. -/
theorem stepLate_eq (m : Machine) (n : Nat) (h : Happening) :
    ∃ v version late lateRelays,
      (m.stepLate n h).1 = { m with view := v, version, late, lateRelays } ∧
        v.session = m.view.session ∧ late.Sublist m.late ∧ lateRelays.Sublist m.lateRelays := by
  have hrefl : ∃ v version late lateRelays, m = { m with view := v, version, late, lateRelays } ∧
      v.session = m.view.session ∧ late.Sublist m.late ∧ lateRelays.Sublist m.lateRelays :=
    ⟨_, _, _, _, rfl, rfl, List.Sublist.refl _, List.Sublist.refl _⟩
  -- A late fetch or relay is forgotten once it has been answered, so the lists become sublists.
  cases h with
  | progress e => exact hrefl
  | elapse ms => exact hrefl
  | trackerTurn n' => exact hrefl
  | jobAnswer n' result =>
    simp only [stepLate]
    split
    · rename_i l _
      obtain ⟨v, version, heq, hv⟩ := (m.forget l).writeCurrent_keeps l.number
        (f := ofSnapshot result) (by cases result <;> exact fun _ => rfl)
      rw [lateJob_fst_eq, heq]
      exact ⟨_, _, _, _, rfl, hv, List.erase_sublist, List.Sublist.refl _⟩
    · exact hrefl
  | textAnswer n' result =>
    simp only [stepLate]
    split
    · rename_i l _
      split
      · obtain ⟨v, version, heq, hv⟩ := (m.forget l).writeCurrent_keeps l.number
          (f := ofText result) (by cases result <;> exact fun _ => rfl)
        rw [lateText_fst_eq, heq]
        exact ⟨_, _, _, _, rfl, hv, List.erase_sublist, List.Sublist.refl _⟩
      · exact hrefl
    · exact hrefl
  | relayTurn n' =>
    simp only [stepLate]
    split
    · rename_i l _
      simp only [lateRelay, copyProgress]
      split
      · obtain ⟨v, version, heq, hv⟩ := writeCurrent_keeps
          { m with lateRelays := m.lateRelays.filter (·.number != l.number) } l.number
          (f := fun v => v.withProgress l.taken) fun _ => rfl
        rw [heq]
        exact ⟨_, _, _, _, rfl, hv, List.Sublist.refl _, List.filter_sublist⟩
      · exact ⟨_, _, _, _, rfl, rfl, List.Sublist.refl _, List.filter_sublist⟩
    · exact hrefl

/-! ### Time -/

@[simp]
theorem cancel_clock (m : Machine) : m.cancel.1.clock = m.clock := by
  unfold cancel; split <;> rfl

@[simp]
theorem cancel_pollInterval (m : Machine) : m.cancel.1.pollInterval = m.pollInterval := by
  unfold cancel; split <;> rfl

/-- Time does not run backwards, and the poll interval stays. -/
theorem time_after (m : Machine) (i : Input) :
    m.clock ≤ (m.after i).clock ∧ (m.after i).pollInterval = m.pollInterval := by
  cases i with
  | call k =>
    show m.clock ≤ (m.call k).1.clock ∧ (m.call k).1.pollInterval = m.pollInterval
    unfold call
    split
    · exact ⟨Nat.le_refl _, rfl⟩
    · cases k with
      | view job => exact ⟨Nat.le_of_eq m.cancel_clock.symm, m.cancel_pollInterval⟩
      | close => exact ⟨Nat.le_of_eq m.cancel_clock.symm, m.cancel_pollInterval⟩
      | drop => exact ⟨Nat.le_of_eq m.cancel_clock.symm, m.cancel_pollInterval⟩
      | retryStream =>
        simp only [retryStream]
        split
        · exact ⟨Nat.le_refl _, rfl⟩
        · exact ⟨Nat.le_refl _, rfl⟩
  | happening h =>
    show m.clock ≤ (m.step h).1.clock ∧ (m.step h).1.pollInterval = m.pollInterval
    -- Only `elapse` moves the clock.
    rcases happening_cases h with ⟨e, rfl⟩ | ⟨ms, rfl⟩ | ⟨n, -, heq⟩
    · exact ⟨Nat.le_refl _, rfl⟩
    · exact ⟨Nat.le_add_right m.clock ms, rfl⟩
    · rw [heq, stepSession]
      cases hs : m.current? n with
      | some s =>
        obtain ⟨s', v, version, hworks, -⟩ :=
          stepCurrent_works (Option.filter_eq_some_iff.1 hs).1 h
        simp only
        rw [hworks]
        exact ⟨Nat.le_refl _, rfl⟩
      | none =>
        obtain ⟨v, version, late, lateRelays, hlate, -⟩ := m.stepLate_eq n h
        simp only
        rw [hlate]
        exact ⟨Nat.le_refl _, rfl⟩

theorem pollInterval_run (m : Machine) (is : List Input) :
    (m.run is).pollInterval = m.pollInterval := by
  induction is generalizing m with
  | nil => rfl
  | cons i is ih => rw [run_cons, ih, (m.time_after i).2]

/-! ### After a drop -/

/-- A viewer that has been dropped: there is no session, and no call that could open one. -/
structure Gone (m : Machine) : Prop where
  dropped : m.dropped = true
  no_session : m.session = none

theorem Gone.after (hg : m.Gone) (i : Input) : (m.after i).Gone := by
  cases i with
  | call k =>
    show (m.call k).1.Gone
    rw [call_of_dropped hg.dropped]
    exact hg
  | happening h =>
    show (m.step h).1.Gone
    rcases happening_cases h with ⟨e, rfl⟩ | ⟨ms, rfl⟩ | ⟨n, -, heq⟩
    · exact ⟨hg.dropped, hg.no_session⟩
    · exact ⟨hg.dropped, hg.no_session⟩
    · have hnone : m.current? n = none := by rw [current?, hg.no_session]; rfl
      obtain ⟨v, version, late, lateRelays, hlate, -⟩ := m.stepLate_eq n h
      rw [heq, stepSession, hnone]
      show (m.stepLate n h).1.Gone
      rw [hlate]
      exact ⟨hg.dropped, hg.no_session⟩

theorem Gone.run (hg : m.Gone) (is : List Input) : (m.run is).Gone :=
  List.foldlRecOn is Machine.after hg fun _ hg i _ => hg.after i

theorem gone_drop (m : Machine) (hn : m.dropped = false) : (m.after (.call .drop)).Gone := by
  show (m.call .drop).1.Gone
  rw [call_of_not_dropped hn]
  exact ⟨rfl, m.cancel_session⟩

/-- A viewer with a session has not been dropped. -/
theorem Coherent.not_drop_of_session (hc : m.Coherent) (hs : (m.run is).session = some s) :
    .call .drop ∉ is := by
  intro hd
  obtain ⟨pre, post, rfl, hpre⟩ := List.eq_append_cons_of_mem hd
  have hgone := ((m.run pre).gone_drop (hc.run hpre).not_dropped).run post
  rw [run_append, run_cons, hgone.no_session] at hs
  cases hs

/-! ### While a session goes on -/

theorem current?_self (hs : m.session = some s) : m.current? s.number = some s :=
  Option.filter_eq_some_iff.2 ⟨hs, beq_self_eq_true s.number⟩

/-- The session as it begins. -/
theorem session_of_openJob (m : Machine) (job : JobId) :
    (m.openJob job).1.session = some ⟨job, m.view.session + 1, false, .fresh, none⟩ := by
  show some (⟨job, m.cancel.1.view.session + 1, false, .fresh, none⟩ : Session) = _
  rw [cancel_view]

theorem copyProgress_session (m : Machine) (job : JobId) (n : Nat) (p : Progress.State) :
    (m.copyProgress job n p).1.session = m.session := by
  unfold copyProgress writeCurrent
  split
  · split <;> rfl
  · rfl

theorem relay_session (hs : m.session = some s) :
    ∃ s', (m.relay s).1.session = some s' ∧ s'.number = s.number ∧ s'.job = s.job := by
  unfold relay
  split
  · exact ⟨s, hs, rfl, rfl⟩
  · rw [copyProgress_session]
    exact ⟨_, rfl, rfl, rfl⟩

/-- From one viewer to the other, nothing has moved that the relay looks at or writes. -/
structure StreamRests (m m' : Machine) : Prop where
  client_eq : m'.client = m.client
  streamPart_eq : m'.view.streamPart = m.view.streamPart
  session_eq : m'.session.map (·.streamSide) = m.session.map (·.streamSide)

theorem StreamRests.session {m' : Machine} (hr : m.StreamRests m') (hs : m.session = some s) :
    ∃ s', m'.session = some s' ∧ s'.streamSide = s.streamSide := by
  have hsession := hr.session_eq
  rw [hs] at hsession
  exact Option.map_eq_some_iff.1 hsession

/-- **What can happen while a session goes on.** Nothing moves that concerns the relay, or the
progress client moves, or the relay does. -/
theorem Coherent.goesOn_cases (hc : m.Coherent) (hs : m.session = some s) (hi : i.goesOn) :
    m.StreamRests (m.after i) ∨ (∃ e, m.after i = { m with client := (m.client.step e).1 }) ∨
      m.after i = { m with client := m.client.resubscribe.1 } ∨ m.after i = (m.relay s).1 := by
  -- An input of the job side leaves the stream side as it is. Of the others there are three.
  by_cases hstream : i.isOfStream
  · cases i with
    | call k =>
      cases k with
      | retryStream =>
        refine .inr (.inr (.inl ?_))
        show (m.call .retryStream).1 = _
        rw [call_of_not_dropped hc.not_dropped]
        simp only [Machine.retryStream, withClient, hs]
      | view job => cases hi
      | close => cases hi
      | drop => cases hi
    | happening h =>
      cases h with
      | progress e => exact .inr (.inl ⟨e, rfl⟩)
      | relayTurn n =>
        have hafter : m.after (.happening (.relayTurn n)) =
          (m.stepSession n (.relayTurn n)).1 := rfl
        rw [hafter]
        unfold Machine.stepSession
        cases hn : m.current? n with
        | some s' =>
          have hs' := (Option.filter_eq_some_iff.1 hn).1
          obtain rfl : s = s' := Option.some.inj (hs.symm.trans hs')
          exact .inr (.inr (.inr rfl))
        | none =>
          left
          simp only
          rw [(hc.stepLate n _).eq]
          exact ⟨rfl, rfl, rfl⟩
      | trackerTurn n => cases hstream
      | jobAnswer n result => cases hstream
      | textAnswer n result => cases hstream
      | elapse ms => cases hstream
  · have hside := m.streamSide_after_of_not hstream
    exact .inl ⟨congrArg (·.client) hside, congrArg (·.view.streamPart) hside,
      congrArg (·.session) hside⟩

/-- **A session goes on** over whatever does not end it. -/
theorem Coherent.session_after (hc : m.Coherent) (hs : m.session = some s) (hi : i.goesOn) :
    ∃ s', (m.after i).session = some s' ∧ s'.number = s.number ∧ s'.job = s.job := by
  rcases hc.goesOn_cases hs hi with hrests | ⟨e, heq⟩ | heq | heq
  · obtain ⟨s', hs', hside⟩ := hrests.session hs
    exact ⟨s', hs', congrArg (·.number) hside, congrArg (·.job) hside⟩
  · rw [heq]
    exact ⟨s, hs, rfl, rfl⟩
  · rw [heq]
    exact ⟨s, hs, rfl, rfl⟩
  · rw [heq]
    exact relay_session hs

theorem Coherent.session_run (hc : m.Coherent) (hs : m.session = some s)
    (his : ∀ i ∈ is, i.goesOn) :
    ∃ s', (m.run is).session = some s' ∧ s'.number = s.number ∧ s'.job = s.job := by
  induction is generalizing m s with
  | nil => exact ⟨s, hs, rfl, rfl⟩
  | cons i is ih =>
    obtain ⟨hi, his⟩ := List.forall_mem_cons.1 his
    obtain ⟨s₁, hs₁, hnumber₁, hjob₁⟩ := hc.session_after hs hi
    obtain ⟨s', hs', hnumber, hjob⟩ := ih (hc.after (Input.ne_drop_of_goesOn hi)) hs₁ his
    exact ⟨s', hs', hnumber.trans hnumber₁, hjob.trans hjob₁⟩

/-- **Where the open session comes from.** It has just been opened, or it went on. -/
theorem Coherent.session_after_cases (hc : m.Coherent) (hd : i ≠ .call .drop)
    (hs : (m.after i).session = some s') :
    (∃ job, i = .call (.view job) ∧ s' = ⟨job, m.view.session + 1, false, .fresh, none⟩) ∨
      i.goesOn ∧ ∃ s, m.session = some s ∧ s'.number = s.number ∧ s'.job = s.job := by
  -- An input that goes on keeps the session there is. Any other one begins one or leaves none.
  by_cases hi : i.goesOn
  · cases hsession : m.session with
    | none =>
      have hview (job : JobId) : i ≠ .call (.view job) := by rintro rfl; cases hi
      rw [(hc.after_of_none hsession hd hview).2] at hs
      cases hs
    | some s =>
      obtain ⟨s'', hs'', hnumber, hjob⟩ := hc.session_after hsession hi
      obtain rfl : s' = s'' := Option.some.inj (hs.symm.trans hs'')
      exact .inr ⟨hi, s, rfl, hnumber, hjob⟩
  · cases i with
    | happening h => exact absurd rfl hi
    | call k =>
      change (m.call k).1.session = some s' at hs
      rw [call_of_not_dropped hc.not_dropped] at hs
      cases k with
      | view job =>
        refine .inl ⟨job, rfl, ?_⟩
        exact Option.some.inj (hs.symm.trans (m.session_of_openJob job))
      | close =>
        have hnone : m.close.1.session = none := m.cancel_session
        rw [hnone] at hs
        cases hs
      | retryStream => exact absurd rfl hi
      | drop => exact absurd rfl hd

/-- **What holds of a session goes on to hold** if every step keeps it while the session goes on. A
session of an earlier number is never open again. -/
theorem Coherent.session_run_of_number {P : Machine → Session → Prop} {n : Nat}
    (hstep : ∀ {m : Machine} {s s' : Session} {i : Input}, m.Coherent → m.session = some s → P m s →
      i.goesOn → (m.after i).session = some s' → s'.number = s.number → P (m.after i) s')
    (hc : m.Coherent) (hn : n ≤ m.view.session)
    (hP : ∀ s, m.session = some s → s.number = n → P m s) (hd : .call .drop ∉ is) :
    ∀ s, (m.run is).session = some s → s.number = n → P (m.run is) s := by
  induction is generalizing m with
  | nil => exact hP
  | cons i is ih =>
    obtain ⟨hi, hd⟩ := not_or.1 (mt List.mem_cons.2 hd)
    have hi := Ne.symm hi
    refine ih (hc.after hi) (Nat.le_trans hn (hc.numbers_le hi).1) (fun s' hs' hnumber => ?_) hd
    rcases hc.session_after_cases hi hs' with ⟨job, -, rfl⟩ | ⟨hgoes, s, hs, hsame, -⟩
    · -- A session that has just begun has a new number.
      have hnumber : m.view.session + 1 = n := hnumber
      omega
    · exact hstep hc hs (hP s hs (hsame.symm.trans hnumber)) hgoes hs' hsame

/-- **What holds of the open session of a run.** It holds when the session has just begun, and every
input over which the session goes on keeps it. -/
theorem session_induction {pollInterval : Nat} {P : List Input → Session → Prop}
    (hbegin : ∀ is job, .call .drop ∉ is → P (is ++ [.call (.view job)])
      ⟨job, ((initial pollInterval).run is).view.session + 1, false, .fresh, none⟩)
    (hgoes : ∀ {is i s s'}, ((initial pollInterval).run is).Coherent →
      ((initial pollInterval).run is).session = some s → P is s → i.goesOn →
      (((initial pollInterval).run is).after i).session = some s' →
      s'.number = s.number → s'.job = s.job → P (is ++ [i]) s')
    (hs : ((initial pollInterval).run is).session = some s) : P is s := by
  have hd := (coherent_initial pollInterval).not_drop_of_session hs
  induction is using List.reverseRecOn generalizing s with
  | nil => cases hs
  | append_singleton is i ih =>
    obtain ⟨hd', hi⟩ : .call .drop ∉ is ∧ i ≠ .call .drop := by
      simpa [not_or, eq_comm] using hd
    have hc := coherent_run pollInterval hd'
    rw [run_append] at hs
    rcases hc.session_after_cases hi hs with ⟨job, rfl, rfl⟩ | ⟨hi, s₀, hs₀, hnumber, hjob⟩
    · exact hbegin is job hd'
    · exact hgoes hc hs₀ (ih hs₀ hd') hi hs hnumber hjob

/-- **How the open session began.** Its job was opened at some moment of the run, and nothing has
ended the session since. -/
theorem exists_opening {pollInterval : Nat}
    (hs : ((initial pollInterval).run is).session = some s) :
    ∃ opening since, is = opening ++ .call (.view s.job) :: since ∧ ∀ i ∈ since, i.goesOn := by
  refine session_induction (P := fun is s => ∃ opening since,
      is = opening ++ .call (.view s.job) :: since ∧ ∀ i ∈ since, i.goesOn)
    (fun is job _ => ?_) (fun {is i s s'} _ _ hopening hi _ _ hjob => ?_) hs
  · exact ⟨is, [], rfl, fun _ hj => absurd hj List.not_mem_nil⟩
  · obtain ⟨opening, since, rfl, hsince⟩ := hopening
    refine ⟨opening, since ++ [i], by simp [hjob], fun j hj => ?_⟩
    rcases List.mem_append.1 hj with hj | hj
    · exact hsince j hj
    · rwa [List.mem_singleton.1 hj]

end Machine

end MachiningViewer.Viewer
