import MachiningViewer.Proofs.Progress.Drop
import MachiningViewer.Proofs.Viewer.Mirror
import MachiningViewer.Proofs.Viewer.Snapshots

/-!
# What a dropped viewer still shows

A drop ends the session of a viewer, but unlike a `close` it does not count the number of the
session on. So what outlives the session is still current, and may be written: one answer, if the
backend was asked for something, and what the relay had taken from the progress client (`Leaves`).
A view that nobody owns any more is therefore final if and only if nothing was being fetched and the
relay had nothing to copy (`view_final_iff`). It is the same with the state of a progress client
(`seen_after_drop`).
-/

namespace MachiningViewer.Viewer

/-! ### What an answer leaves alone -/

/-- **An answer changes nothing but what is shown of the job.** -/
theorem streamSide_write (a : Answer) (v : View) : (a.write v).streamSide = v.streamSide := by
  cases a with
  | job result => exact Machine.streamSide_ofSnapshot result v
  | text artefact result => exact Machine.streamSide_ofText result v

/-- A view is made of what it shows of the job and of the stream, and of whose it is. -/
theorem view_eq_of_parts {v v' : View} (hjobId : v.jobId = v'.jobId)
    (hsession : v.session = v'.session) (hjob : v.jobPart = v'.jobPart)
    (hstream : v.streamPart = v'.streamPart) : v = v' := by
  cases v
  cases v'
  simp only [View.jobPart, View.streamPart, Prod.mk.injEq] at hjob hstream
  simp_all

namespace Machine

variable {m m' : Machine} {s : Session} {i : Input} {is : List Input}

/-- The fetch that the session leaves if it ends now. -/
def pendingFetch? (m : Machine) : Option LateFetch :=
  m.session.bind (·.pending?)

/-- Is it an answer to the request that the tracker of the session waits on? -/
def Awaits (m : Machine) (a : Answer) : Prop :=
  ∃ s, m.session = some s ∧ s.tracker.request? s = some (a.request s)

/-- The late fetches whose answers may still be written. -/
def currentLate (m : Machine) : List LateFetch :=
  m.late.filter (·.number == m.view.session)

/-- What the drop of a viewer leaves of it. As long as the backend has not answered, the view shows
of the job what it showed, and then there is nothing left to answer. -/
structure Leaves (m m' : Machine) : Prop where
  gone : m'.Gone
  jobId_eq : m'.view.jobId = m.view.jobId
  session_eq : m'.view.session = m.view.session
  jobPart : m'.currentLate.Sublist m.pendingFetch?.toList ∧ m'.view.jobPart = m.view.jobPart ∨
    m'.currentLate = [] ∧ ∃ a, m.Awaits a ∧ m'.view.jobPart = (a.write m.view).jobPart
  taken : ∀ l ∈ m'.lateRelays, l.number = m.view.session →
    m.session ≠ none ∧ l.taken = m.client.state
  streamPart : m'.view.streamPart = m.view.streamPart ∨
    m.session ≠ none ∧ m'.view.streamPart = m.client.state.shown

/-! ### The drop -/

/-- A viewer when it has been dropped. -/
theorem Coherent.after_drop (hc : m.Coherent) :
    m.after (.call .drop) =
      { m with
        client := m.client.drop.1
        session := none
        late := m.late ++ m.pendingFetch?.toList
        lateRelays := m.lateRelays ++
          (m.session.map fun s => ⟨s.job, s.number, m.client.state⟩).toList
        dropped := true } := by
  show (m.call .drop).1 = _
  rw [call_of_not_dropped hc.not_dropped]
  simp only [Machine.drop, cancel, withClient, pendingFetch?]
  cases hs : m.session with
  | none => simp [hs]
  | some s => rfl

/-- Nothing that was late before is of the current session. -/
theorem Coherent.currentLate_eq_nil (hc : m.Coherent) : m.currentLate = [] := by
  refine List.filter_eq_nil_iff.2 fun l hl heq => ?_
  exact Nat.ne_of_lt (hc.late_lt l hl) (eq_of_beq heq)

theorem Coherent.leaves_drop (hc : m.Coherent) : m.Leaves (m.after (.call .drop)) := by
  have hold : m.late.filter (·.number == m.view.session) = [] := hc.currentLate_eq_nil
  refine ⟨m.gone_drop hc.not_dropped, ?_, ?_, .inl ?_, ?_, .inl ?_⟩ <;> rw [hc.after_drop]
  · show ((m.late ++ m.pendingFetch?.toList).filter (·.number == m.view.session)).Sublist _ ∧ _
    rw [List.filter_append, hold]
    exact ⟨List.filter_sublist, rfl⟩
  · intro l hl hn
    rcases List.mem_append.1 hl with hl | hl
    · exact absurd hn (Nat.ne_of_lt (hc.lateRelay_lt l hl))
    · obtain ⟨s, hs, rfl⟩ := Option.map_eq_some_iff.1 (Option.mem_toList.1 hl)
      rw [hs]
      exact ⟨Option.some_ne_none s, rfl⟩

/-! ### After the drop -/

/-- **An answer that comes after the drop** is written if it is the one that the drop has left to
come, and then it was the last one. -/
theorem Leaves.writeCurrent (hl : m.Leaves m') {l : LateFetch} (hmem : l ∈ m'.late)
    {f : View → View} (hf : ∀ s, m.session = some s → s.pending? = some l →
      ∃ a : Answer, s.tracker.request? s = some (a.request s) ∧ a.write = f) :
    m.Leaves ((m'.forget l).writeCurrent l.number f).1 := by
  by_cases hn : m'.view.session = l.number
  · have hcurrent : (l.number == m'.view.session) = true := beq_iff_eq.2 hn.symm
    rcases hl.jobPart with ⟨hsub, hpart⟩ | ⟨hnil, -⟩
    · have hsub : (m'.late.filter (·.number == m'.view.session)).Sublist m.pendingFetch?.toList :=
        hsub
      obtain ⟨hpending, hnil⟩ := filter_erase_eq_nil hmem hcurrent hsub
      obtain ⟨s, hs, hp⟩ := Option.bind_eq_some_iff.1 hpending
      obtain ⟨a, ha, rfl⟩ := hf s hs hp
      have hn' : (m'.forget l).view.session = l.number := hn
      rw [writeCurrent_of_eq _ hn']
      -- Whose view it is and what it shows of the stream stay.
      have hside := streamSide_write a m'.view
      have hsession : (a.write m'.view).session = m'.view.session := congrArg (·.session) hside
      have hstream : (a.write m'.view).streamPart = m'.view.streamPart :=
        congrArg (·.streamPart) hside
      refine ⟨⟨hl.gone.dropped, hl.gone.no_session⟩, ?_, ?_, .inr ⟨?_, a, ⟨s, hs, ha⟩, ?_⟩,
        hl.taken, ?_⟩
      · exact (congrArg (·.jobId) hside).trans hl.jobId_eq
      · exact hsession.trans hl.session_eq
      · show (m'.late.erase l).filter (·.number == (a.write m'.view).session) = []
        rw [hsession]
        exact hnil
      · exact jobPart_write_congr hpart a
      · show (a.write m'.view).streamPart = _ ∨ _ ∧ (a.write m'.view).streamPart = _
        rw [hstream]
        exact hl.streamPart
    · exact absurd hcurrent (List.filter_eq_nil_iff.1 hnil l hmem)
  · have hn' : (m'.forget l).view.session ≠ l.number := hn
    have hsub : ((m'.late.erase l).filter (·.number == m'.view.session)).Sublist m'.currentLate :=
      List.erase_sublist.filter _
    rw [writeCurrent_of_ne _ hn']
    refine ⟨⟨hl.gone.dropped, hl.gone.no_session⟩, hl.jobId_eq, hl.session_eq, ?_, hl.taken,
      hl.streamPart⟩
    rcases hl.jobPart with ⟨hleft, hpart⟩ | ⟨hnil, hpart⟩
    · exact .inl ⟨hsub.trans hleft, hpart⟩
    · exact .inr ⟨List.sublist_nil.1 (hnil ▸ hsub), hpart⟩

/-- **What the relay has taken** may still be written after the drop. -/
theorem Leaves.lateRelay (hl : m.Leaves m') {l : LateRelay} (hmem : l ∈ m'.lateRelays) :
    m.Leaves (m'.lateRelay l).1 := by
  have htaken : ∀ l' ∈ m'.lateRelays.filter (·.number != l.number), l'.number = m.view.session →
      m.session ≠ none ∧ l'.taken = m.client.state :=
    fun l' hl' => hl.taken l' (List.mem_of_mem_filter hl')
  unfold Machine.lateRelay copyProgress Machine.writeCurrent
  split
  · split
    · rename_i hn
      have hn : m'.view.session = l.number := hn
      -- The relay that was late is of the session left, so what it has taken is the state of the
      -- client.
      obtain ⟨hs, htakes⟩ := hl.taken l hmem (hn.symm.trans hl.session_eq)
      refine ⟨⟨hl.gone.dropped, hl.gone.no_session⟩, hl.jobId_eq, hl.session_eq, hl.jobPart, htaken,
        .inr ⟨hs, ?_⟩⟩
      rw [← htakes]
      rfl
    · exact ⟨⟨hl.gone.dropped, hl.gone.no_session⟩, hl.jobId_eq, hl.session_eq, hl.jobPart, htaken,
        hl.streamPart⟩
  · exact ⟨⟨hl.gone.dropped, hl.gone.no_session⟩, hl.jobId_eq, hl.session_eq, hl.jobPart, htaken,
      hl.streamPart⟩

/-- A session has a fetch pending if and only if its tracker waits on a request. -/
theorem pending?_eq_none_iff : s.pending? = none ↔ s.tracker.request? s = none := by
  unfold Session.pending?
  cases s.tracker <;> simp [Tracker.request?]

theorem request?_of_pending?_job {l : LateFetch} (hp : s.pending? = some l) (hl : l.fetch = .job)
    (result : Except FetchError Job) :
    s.tracker.request? s = some (Answer.request s (.job result)) := by
  unfold Session.pending? at hp
  split at hp
  · rename_i ht
    rw [ht]
    rfl
  · cases hp
    cases hl
  · cases hp

theorem request?_of_pending?_text {l : LateFetch} (hp : s.pending? = some l) {status : JobStatus}
    (hl : l.fetch = .text status) (result : Except FetchError String) :
    ∃ artefact, s.tracker.request? s = some (Answer.request s (.text artefact result)) := by
  unfold Session.pending? at hp
  split at hp
  · cases hp
    cases hl
  · rename_i artefact status' ht
    rw [ht]
    exact ⟨artefact, rfl⟩
  · cases hp

theorem isMeant_of_late? {n : Nat} {isMeant : Fetch → Bool} {l : LateFetch}
    (hl : m.late? n isMeant = some l) : isMeant l.fetch := by
  unfold late? at hl
  have hmeant := List.find?_some hl
  exact (Bool.and_eq_true_iff.1 hmeant).2

/-- **What happens to the session that the drop has ended.** -/
theorem Leaves.stepLate (hl : m.Leaves m') (n : Nat) (h : Happening) :
    m.Leaves (m'.stepLate n h).1 := by
  cases h with
  | progress e => exact hl
  | elapse ms => exact hl
  | trackerTurn n' => exact hl
  | jobAnswer n' result =>
    simp only [Machine.stepLate]
    split
    · rename_i l hlate
      -- The late fetch is one that was under way at the drop, so its answer is one of `m` as well.
      have hjob : l.fetch = .job := eq_of_beq (isMeant_of_late? hlate)
      rw [lateJob_fst_eq]
      refine hl.writeCurrent (List.mem_of_find?_eq_some hlate) fun s hs hp => ?_
      exact ⟨.job result, request?_of_pending?_job hp hjob result, rfl⟩
    · exact hl
  | textAnswer n' result =>
    simp only [Machine.stepLate]
    split
    · rename_i l hlate
      split
      · rename_i status hstatus
        rw [lateText_fst_eq]
        refine hl.writeCurrent (List.mem_of_find?_eq_some hlate) fun s hs hp => ?_
        obtain ⟨artefact, hrequest⟩ := request?_of_pending?_text hp hstatus result
        exact ⟨.text artefact result, hrequest, rfl⟩
      · exact hl
    · exact hl
  | relayTurn n' =>
    simp only [Machine.stepLate]
    split
    · rename_i l hlate
      exact hl.lateRelay (List.mem_of_find?_eq_some hlate)
    · exact hl

theorem Leaves.after (hl : m.Leaves m') (i : Input) : m.Leaves (m'.after i) := by
  cases i with
  | call k =>
    show m.Leaves (m'.call k).1
    rw [call_of_dropped hl.gone.dropped]
    exact hl
  | happening h =>
    show m.Leaves (m'.step h).1
    rcases happening_cases h with ⟨e, rfl⟩ | ⟨ms, rfl⟩ | ⟨n, -, heq⟩
    · exact ⟨⟨hl.gone.dropped, hl.gone.no_session⟩, hl.jobId_eq, hl.session_eq, hl.jobPart,
        hl.taken, hl.streamPart⟩
    · exact ⟨⟨hl.gone.dropped, hl.gone.no_session⟩, hl.jobId_eq, hl.session_eq, hl.jobPart,
        hl.taken, hl.streamPart⟩
    · -- With no session left only what is late can happen.
      have hnone : m'.current? n = none := by rw [current?, hl.gone.no_session]; rfl
      rw [heq, stepSession, hnone]
      exact hl.stepLate n h

theorem Leaves.run (hl : m.Leaves m') (is : List Input) : m.Leaves (m'.run is) :=
  List.foldlRecOn is Machine.after hl fun _ hl i _ => hl.after i

/-- Once nothing is left to answer, a viewer that has been dropped shows of the job what it shows.
-/
theorem Gone.jobPart_after (hg : m.Gone) (hnil : m.currentLate = []) (i : Input) :
    (m.after i).view.jobPart = m.view.jobPart := by
  have hne (l : LateFetch) (hl : l ∈ m.late) : m.view.session ≠ l.number := fun heq =>
    List.filter_eq_nil_iff.1 hnil l hl (beq_iff_eq.2 heq.symm)
  -- An input of the stream side leaves the job part alone in every machine.
  by_cases hi : i.isOfJob
  · cases i with
    | call k =>
      show (m.call k).1.view.jobPart = _
      rw [call_of_dropped hg.dropped]
    | happening h =>
      show (m.step h).1.view.jobPart = _
      rcases happening_cases h with ⟨e, rfl⟩ | ⟨ms, rfl⟩ | ⟨n, -, heq⟩
      · rfl
      · rfl
      have hnone : m.current? n = none := by rw [current?, hg.no_session]; rfl
      rw [heq, stepSession, hnone]
      cases h with
      | jobAnswer n' result =>
        simp only [stepLate]
        split
        · rename_i l hl
          have hne := hne l (List.mem_of_find?_eq_some hl)
          rw [lateJob_fst (m := m.forget l) hne]
          rfl
        · rfl
      | textAnswer n' result =>
        simp only [stepLate]
        split
        · rename_i l hl
          have hne := hne l (List.mem_of_find?_eq_some hl)
          split
          · rw [lateText_fst (m := m.forget l) hne]
            rfl
          · rfl
        · rfl
      | relayTurn n' => cases hi
      | _ => rfl
  · have hside := m.jobSide_after_of_not hi
    exact congrArg (·.view.jobPart) hside

/-- What a step makes of what a dropped viewer shows of the job: the answer that was awaited when it
was dropped is written, and nothing else. -/
theorem Leaves.jobPart_after_cases (hl : m.Leaves m') (i : Input) :
    (m'.after i).view.jobPart = m'.view.jobPart ∨
      m'.view.jobPart = m.view.jobPart ∧
        ∃ a, m.Awaits a ∧ (m'.after i).view.jobPart = (a.write m'.view).jobPart := by
  rcases hl.jobPart with ⟨-, hpart⟩ | ⟨hnil, -⟩
  · rcases (hl.after i).jobPart with ⟨-, hpart'⟩ | ⟨-, a, ha, hwrite⟩
    · exact .inl (hpart'.trans hpart.symm)
    · exact .inr ⟨hpart, a, ha, hwrite.trans (jobPart_write_congr hpart.symm a)⟩
  · exact .inl (hl.gone.jobPart_after hnil i)

/-! ### When the view is final -/

/-- What a dropped viewer is given for a session is late. -/
theorem Coherent.stepSession_drop (hc : m.Coherent) (n : Nat) (h : Happening) :
    (m.after (.call .drop)).stepSession n h = (m.after (.call .drop)).stepLate n h := by
  have hnone : (m.after (.call .drop)).current? n = none := by
    rw [hc.after_drop]
    rfl
  rw [Machine.stepSession, hnone]

/-- The backend may still answer a request that was under way, and say that it failed. -/
theorem Coherent.exists_failure (hc : m.Coherent) {l : LateFetch} (hl : m.pendingFetch? = some l) :
    ∃ h : FetchError → Happening, (∀ e n, h e ≠ .relayTurn n) ∧
      ∀ e, (m.run [.call .drop, .happening (h e)]).view.error = some e.message := by
  obtain ⟨s, hs, hp⟩ := Option.bind_eq_some_iff.1 hl
  have hnumber : m.view.session = l.number := by
    rw [number_of_pending? hp, hc.number_eq s hs]
  -- The fetch that the drop makes late is the only one of its session: older ones have smaller
  -- numbers.
  have hlate (isMeant : Fetch → Bool) (hmeant : isMeant l.fetch) :
      (m.after (.call .drop)).late? l.number isMeant = some l := by
    have hold : m.late.find? (fun l' => l'.number == l.number && isMeant l'.fetch) = none := by
      refine List.find?_eq_none.2 fun l' hl' hfound => ?_
      have heq : l'.number = l.number := eq_of_beq (Bool.and_eq_true_iff.1 hfound).1
      have hlt := hc.late_lt l' hl'
      omega
    rw [hc.after_drop, hl]
    simp only [late?, Option.toList_some, List.find?_append, hold]
    simp [hmeant]
  have hview : (m.after (.call .drop)).view = m.view := by rw [hc.after_drop]
  have hcurrent : ((m.after (.call .drop)).forget l).view.session = l.number := by
    show (m.after (.call .drop)).view.session = _
    rw [hview, hnumber]
  cases hfetch : l.fetch with
  | job =>
    refine ⟨fun e => .jobAnswer l.number (.error e), by simp, fun e => ?_⟩
    show ((m.after (.call .drop)).stepSession l.number _).1.view.error = _
    simp only [hc.stepSession_drop, Machine.stepLate, hlate (· == .job) (by rw [hfetch]; rfl),
      lateJob_fst_eq, writeCurrent_of_eq _ hcurrent]
    rfl
  | text status =>
    refine ⟨fun e => .textAnswer l.number (.error e), by simp, fun e => ?_⟩
    show ((m.after (.call .drop)).stepSession l.number _).1.view.error = _
    simp only [hc.stepSession_drop, Machine.stepLate, hlate (· != .job) (by rw [hfetch]; rfl),
      hfetch, lateText_fst_eq, writeCurrent_of_eq _ hcurrent]
    rfl

/-- The relay may still write what it had taken from the progress client. -/
theorem Coherent.streamPart_relayTurn (hc : m.Coherent) (hs : m.session = some s)
    (hjob : m.client.state.job = some s.job) :
    (m.run [.call .drop, .happening (.relayTurn s.number)]).view.streamPart =
      m.client.state.shown := by
  have hnumber := hc.number_eq s hs
  -- Relays that were late before belong to older sessions.
  have hold : m.lateRelays.find? (·.number == s.number) = none := by
    refine List.find?_eq_none.2 fun l hl hfound => ?_
    have heq : l.number = s.number := eq_of_beq hfound
    have hlt := hc.lateRelay_lt l hl
    omega
  have hfind : (m.after (.call .drop)).lateRelays.find? (·.number == s.number) =
      some ⟨s.job, s.number, m.client.state⟩ := by
    rw [hc.after_drop, hs]
    simp only [Option.map_some, Option.toList_some, List.find?_append, hold]
    simp
  have hview : (m.after (.call .drop)).view = m.view := by rw [hc.after_drop]
  show ((m.after (.call .drop)).stepSession s.number _).1.view.streamPart = _
  simp only [hc.stepSession_drop, Machine.stepLate, hfind, Machine.lateRelay, copyProgress,
    if_pos hjob]
  rw [writeCurrent_of_eq]
  · rfl
  · show (m.after (.call .drop)).view.session = s.number
    rw [hview, hnumber]

/-- Whatever answer is still awaited, it may change the view: two failures cannot both be shown
already. -/
theorem Coherent.pendingFetch?_eq_none (hc : m.Coherent)
    (hfinal : ∀ h : Happening, (∀ n, h ≠ .relayTurn n) →
      (m.run [.call .drop, .happening h]).view = m.view) : m.pendingFetch? = none := by
  by_contra hpending
  obtain ⟨l, hl⟩ := Option.ne_none_iff_exists'.1 hpending
  obtain ⟨h, hne, hfailure⟩ := hc.exists_failure hl
  have herror (e : FetchError) : m.view.error = some e.message := by
    rw [← hfailure e, hfinal (h e) (hne e)]
  have hsame := (herror .forbidden).symm.trans (herror .rateLimited)
  exact absurd (Option.some.inj hsame) (by decide)

/-- If nothing was being fetched, a drop has left nothing of the job to come. -/
theorem Leaves.jobPart_eq (hl : m.Leaves m') (hpending : m.pendingFetch? = none) :
    m'.view.jobPart = m.view.jobPart := by
  rcases hl.jobPart with ⟨-, hpart⟩ | ⟨-, a, ⟨s, hs, hrequest⟩, -⟩
  · exact hpart
  · rw [pendingFetch?, hs, Option.bind_some, pending?_eq_none_iff] at hpending
    rw [hpending] at hrequest
    cases hrequest

/-- Only a turn of the relay changes what a dropped viewer shows of the stream. -/
theorem Gone.streamPart_after (hg : m.Gone) (hi : ∀ n, i ≠ .happening (.relayTurn n)) :
    (m.after i).view.streamPart = m.view.streamPart := by
  by_cases hstream : i.isOfStream
  · cases i with
    | call k =>
      show (m.call k).1.view.streamPart = _
      rw [call_of_dropped hg.dropped]
    | happening h =>
      cases h with
      | progress e => rfl
      | relayTurn n => exact absurd rfl (hi n)
      | trackerTurn | jobAnswer | textAnswer | elapse => cases hstream
  · exact congrArg (·.view.streamPart) (m.streamSide_after_of_not hstream)

theorem Gone.streamPart_run (hg : m.Gone) {js : List Input}
    (hjs : ∀ n, .happening (.relayTurn n) ∉ js) :
    (m.run js).view.streamPart = m.view.streamPart := by
  induction js generalizing m with
  | nil => rfl
  | cons i js ih =>
    have hi (n : Nat) : i ≠ .happening (.relayTurn n) :=
      fun heq => hjs n (heq ▸ List.mem_cons_self)
    rw [run_cons, ih (hg.after i) fun n hn => hjs n (List.mem_cons_of_mem _ hn)]
    exact hg.streamPart_after hi

/-- **Without late relays, the view of a dropped viewer is final** if and only if nothing was being
fetched. -/
theorem Coherent.view_final_iff_of_no_relay (hc : m.Coherent) :
    (∀ js, (∀ n, .happening (.relayTurn n) ∉ js) → (m.run (.call .drop :: js)).view = m.view) ↔
      m.pendingFetch? = none := by
  constructor
  · intro hfinal
    refine hc.pendingFetch?_eq_none fun h hh => hfinal _ fun n hn => ?_
    exact hh n (Input.happening.inj (List.mem_singleton.1 hn)).symm
  · intro hpending js hjs
    have hl := hc.leaves_drop.run js
    refine view_eq_of_parts hl.jobId_eq hl.session_eq (hl.jobPart_eq hpending) ?_
    rw [run_cons, hc.leaves_drop.gone.streamPart_run hjs, hc.after_drop]

/-- **The view of a dropped viewer is final** if and only if nothing was being fetched and the relay
had nothing to copy. -/
theorem view_final_iff {pollInterval : Nat} (hd : .call .drop ∉ is) :
    let m := (initial pollInterval).run is
    (∀ js, (m.run (.call .drop :: js)).view = m.view) ↔
      m.pendingFetch? = none ∧ (m.session = none ∨ m.view.streamPart = m.client.state.shown) := by
  intro m
  have hc : m.Coherent := coherent_run pollInterval hd
  constructor
  · intro hfinal
    constructor
    · exact hc.pendingFetch?_eq_none fun h _ => hfinal [.happening h]
    · cases hs : m.session with
      | none => exact .inl rfl
      | some s =>
        -- The relay has something to copy only for the job that the client follows.
        obtain ⟨a, ha, hajob⟩ := (mirrors_of_session hs).attached
        have hjob : m.client.state.job = some s.job := hajob ▸ hc.client.job_eq a ha
        right
        rw [← hc.streamPart_relayTurn hs hjob, hfinal]
  · rintro ⟨hpending, hshown⟩ js
    have hl := hc.leaves_drop.run js
    refine view_eq_of_parts hl.jobId_eq hl.session_eq (hl.jobPart_eq hpending) ?_
    rcases hl.streamPart with hpart | ⟨hs, hpart⟩
    · exact hpart
    · exact hpart.trans (hshown.resolve_left hs).symm

/-- **What can be seen after a drop.** Take a viewer and a progress client at any moment of any of
their runs, and drop them.
(a) The view keeps its job and its number. What it shows of the job is what it showed, or what one
answer makes of it to the request that was under way, and what it shows of the stream is what it
showed, or what the progress client showed at that moment. It is final if and only if no request was
under way and the relay had nothing to copy.
(b) The state of the client is what it was, or disconnected, if the transport was working on its
request and then refuses it. It is final if and only if the transport was asked for nothing.

A drop comes between two steps, so it finds no stream opened and not yet shown as live, and no
message taken and not yet applied. What the relay takes and what it writes could come apart on
another thread only, which is what its turns after the drop stand for. Without any, the view is
final if and only if no request was under way. -/
theorem seen_after_drop (pollInterval : Nat) {cs : List Progress.Input} (hd : .call .drop ∉ is)
    (hcs : .call .drop ∉ cs) :
    let m := (initial pollInterval).run is
    let c := Progress.Client.initial.run cs
    ((∀ js, let v := (m.run (.call .drop :: js)).view
        v.jobId = m.view.jobId ∧ v.session = m.view.session ∧
          (v.jobPart = m.view.jobPart ∨
            ∃ a, m.Awaits a ∧ v.jobPart = (a.write m.view).jobPart) ∧
          (v.streamPart = m.view.streamPart ∨
            m.session ≠ none ∧ v.streamPart = m.client.state.shown)) ∧
        ((∀ js, (m.run (.call .drop :: js)).view = m.view) ↔
          m.pendingFetch? = none ∧
            (m.session = none ∨ m.view.streamPart = m.client.state.shown)) ∧
        ((∀ js, (∀ n, .happening (.relayTurn n) ∉ js) →
            (m.run (.call .drop :: js)).view = m.view) ↔ m.pendingFetch? = none)) ∧
      (∀ ds, let st := (c.run (.call .drop :: ds)).state
        st = c.state ∨ c.request? ≠ none ∧ st = { c.state with phase := .disconnected }) ∧
      ((∀ ds, (c.run (.call .drop :: ds)).state = c.state) ↔ c.request? = none) := by
  intro m c
  have hm : m.Coherent := coherent_run pollInterval hd
  have hc : c.Coherent := Progress.Client.coherent_run hcs
  refine ⟨⟨fun js => ?_, view_final_iff hd, hm.view_final_iff_of_no_relay⟩, fun ds => ?_,
    hc.state_final_iff⟩
  · have hl := hm.leaves_drop.run js
    exact ⟨hl.jobId_eq, hl.session_eq, hl.jobPart.imp And.right And.right, hl.streamPart⟩
  · exact (hc.leaves_drop.run ds).state.imp And.right And.right

/-- A viewer that has just opened a job, and a client that has just subscribed to one, have nothing
under way yet, so what they show when they are dropped is final. -/
theorem opened_final :
    (∀ js, ((initial 500).run (.call (.view 1) :: .call .drop :: js)).view =
        ((initial 500).run [.call (.view 1)]).view) ∧
      ∀ ds, (Progress.Client.initial.run (.call (.subscribe 1) :: .call .drop :: ds)).state =
        (Progress.Client.initial.run [.call (.subscribe 1)]).state := by
  have hd : .call .drop ∉ [Input.call (.view 1)] := by simp
  have hcs : .call .drop ∉ [Progress.Input.call (.subscribe 1)] := by simp
  obtain ⟨⟨-, hview, -⟩, -, hstate⟩ := seen_after_drop 500 hd hcs
  exact ⟨hview.2 ⟨rfl, .inr rfl⟩, hstate.2 rfl⟩

/-- **A drop is not final** while the backend is asked for a snapshot, or the transport for a
stream: the answer that comes afterwards is still shown. -/
theorem asked_not_final :
    let asked : List Input := [.call (.view 1), .happening (.trackerTurn 1), .call .drop]
    let answer : Input := .happening (.jobAnswer 1 (.ok (.brief 1 .running [])))
    let connecting : List Progress.Input :=
      [.call (.subscribe 1), .happening (.turn 1), .call .drop]
    let refusal : Progress.Input := .happening (.answer 1 (.error (.opening "refused")))
    ((initial 500).run asked).view.job = none ∧
      ((initial 500).run (asked ++ [answer])).view.job = some (.brief 1 .running []) ∧
      (Progress.Client.initial.run connecting).state.phase = .connecting ∧
      (Progress.Client.initial.run (connecting ++ [refusal])).state.phase = .disconnected :=
  ⟨rfl, rfl, rfl, rfl⟩

end Machine

end MachiningViewer.Viewer
