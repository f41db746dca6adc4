import MachiningViewer.Proofs.Progress.Renewal
import MachiningViewer.Proofs.Viewer.Sessions

/-!
# Opening a job forgets the past

A viewer that opens a job which its progress client does not know goes on like one that has just
been made, whatever it has been through. It only counts on: its sessions, its subscriptions and its
time have higher numbers, and what is late from the sessions before may still come, without effect
(`openJob_forgets_past`).

The past is what `Machine.withPast` puts under a viewer. A viewer does the same with it and without
it, but for the numbers, in whatever is its own (`after_withPast`), and what belongs to the past
changes nothing but the past (`Begun.after_of_past`). When a job is opened, all that there was
before becomes the past of a viewer that was made at that moment (`Coherent.openJob_eq_withPast`).
-/

namespace MachiningViewer.Viewer

/-! ### Pasts -/

/-- What a viewer brings with it from earlier sessions: how far it has counted, and what is late. -/
structure Past where
  client : Progress.Past
  sessions : Nat
  versions : Nat
  time : Nat
  late : List LateFetch
  lateRelays : List LateRelay
  late_le : ∀ l ∈ late, l.number ≤ sessions
  lateRelay_le : ∀ l ∈ lateRelays, l.number ≤ sessions

/-- The last session and the last subscription of a past. -/
def Past.numbers (p : Past) : Nat × Nat :=
  (p.sessions, p.client.generations)

/-- A past of which a late fetch has been answered. -/
def Past.forget (p : Past) (l : LateFetch) : Past :=
  { p with late := p.late.erase l, late_le := fun l' hl => p.late_le l' (List.mem_of_mem_erase hl) }

/-- A past of which the late relay of a session has stopped. -/
def Past.forgetRelay (p : Past) (n : Nat) : Past :=
  { p with
    lateRelays := p.lateRelays.filter (·.number != n)
    lateRelay_le := fun l hl => p.lateRelay_le l (List.mem_of_mem_filter hl) }

/-- The happening with other numbers for its session and its generation. -/
def Happening.renumber (f g : Nat → Nat) : Happening → Happening
  | .progress h => .progress (h.renumber g)
  | .trackerTurn n => .trackerTurn (f n)
  | .jobAnswer n result => .jobAnswer (f n) result
  | .textAnswer n result => .textAnswer (f n) result
  | .relayTurn n => .relayTurn (f n)
  | .elapse ms => .elapse ms

def Input.renumber (f g : Nat → Nat) : Input → Input
  | .call k => .call k
  | .happening h => .happening (h.renumber f g)

/-- Does the input concern a session or a subscription that has one of the given numbers, or an
earlier one? -/
def Input.isPast (numbers : Nat × Nat) : Input → Bool
  | .call _ => false
  | .happening (.progress h) => h.generation ≤ numbers.2
  | .happening h => h.session?.any (· ≤ numbers.1)

/-- The input as it is to somebody who counts sessions and subscriptions from the given numbers on.
What concerns the past concerns session or subscription zero, which nobody has. -/
def Input.since (numbers : Nat × Nat) (i : Input) : Input :=
  i.renumber (· - numbers.1) (· - numbers.2)

/-- The view after so many earlier sessions. -/
def View.shift (n : Nat) (v : View) : View :=
  { v with session := n + v.session }

/-- The tracker at a later time. -/
def Tracker.shift (ms : Nat) : Tracker → Tracker
  | .sleeping wake => .sleeping (ms + wake)
  | .fresh => .fresh
  | .fetchingJob => .fetchingJob
  | .fetchingText artefact status => .fetchingText artefact status
  | .finished => .finished

def LateFetch.shift (n : Nat) (l : LateFetch) : LateFetch :=
  { l with number := n + l.number }

/-- The session with a past under it. -/
def Session.withPast (s : Session) (p : Past) : Session :=
  { s with
    number := p.sessions + s.number
    tracker := s.tracker.shift p.time
    relayed := s.relayed.map (p.client.versions + ·) }

def LateRelay.withPast (l : LateRelay) (p : Past) : LateRelay :=
  { l with number := p.sessions + l.number, taken := l.taken.shift p.client.generations }

/-- The viewer with a past under it. -/
def Machine.withPast (m : Machine) (p : Past) : Machine :=
  { m with
    client := m.client.withPast p.client
    view := m.view.shift p.sessions
    version := p.versions + m.version
    session := m.session.map (·.withPast p)
    late := p.late ++ m.late.map (·.shift p.sessions)
    lateRelays := p.lateRelays ++ m.lateRelays.map (·.withPast p)
    clock := p.time + m.clock }

namespace Happening

theorem session?_renumber (f g : Nat → Nat) (h : Happening) :
    (h.renumber f g).session? = h.session?.map f := by
  cases h <;> rfl

theorem renumber_renumber {f f' g g' : Nat → Nat} {h : Happening}
    (hf : ∀ n, h.session? = some n → f (f' n) = n)
    (hg : ∀ e, h = .progress e → g (g' e.generation) = e.generation) :
    (h.renumber f' g').renumber f g = h := by
  cases h with
  | progress e => exact congrArg progress (Progress.Happening.renumber_renumber (hg e rfl))
  | elapse ms => rfl
  | trackerTurn n => exact congrArg trackerTurn (hf n rfl)
  | jobAnswer n result => exact congrArg (jobAnswer · result) (hf n rfl)
  | textAnswer n result => exact congrArg (textAnswer · result) (hf n rfl)
  | relayTurn n => exact congrArg relayTurn (hf n rfl)

end Happening

theorem isPast_of_session? {n : Nat} {h : Happening} (hn : h.session? = some n)
    (numbers : Nat × Nat) : (Input.happening h).isPast numbers = decide (n ≤ numbers.1) := by
  cases h <;> cases hn <;> rfl

namespace Machine

variable {m : Machine} {s : Session} {n : Nat} {h : Happening} {i : Input} {is : List Input}
  (p : Past)

theorem step_of_session? (hn : h.session? = some n) (m : Machine) :
    m.step h = m.stepSession n h := by
  cases h <;> cases hn <;> rfl

/-! ### The current session -/

theorem ofSnapshot_shift (n : Nat) (result : Except FetchError Job) (v : View) :
    ofSnapshot result (v.shift n) = (ofSnapshot result v).shift n := by
  cases result <;> rfl

theorem ofText_shift (n : Nat) (result : Except FetchError String) (v : View) :
    ofText result (v.shift n) = (ofText result v).shift n := by
  cases result <;> rfl

theorem writeCurrent_withPast (m : Machine) (n : Nat) {f : View → View}
    (hf : ∀ k v, f (View.shift k v) = (f v).shift k) :
    ((m.withPast p).writeCurrent (p.sessions + n) f).1 = (m.writeCurrent n f).1.withPast p := by
  by_cases hn : m.view.session = n
  · have hn' : (m.withPast p).view.session = p.sessions + n := congrArg (p.sessions + ·) hn
    have hview : (m.withPast p).view = m.view.shift p.sessions := rfl
    rw [writeCurrent_of_eq f hn, writeCurrent_of_eq f hn', hview, hf]
    rfl
  · have hn' : (m.withPast p).view.session ≠ p.sessions + n := fun h => hn (Nat.add_left_cancel h)
    rw [writeCurrent_of_ne f hn, writeCurrent_of_ne f hn']

theorem withTracker_withPast (m : Machine) (s : Session) (t : Tracker) :
    (m.withPast p).withTracker (s.withPast p) (t.shift p.time) =
      (m.withTracker s t).withPast p :=
  rfl

theorem nextRound_withPast (m : Machine) (isLast : Bool) :
    (m.withPast p).nextRound isLast = (m.nextRound isLast).shift p.time := by
  cases isLast with
  | true => rfl
  | false => exact congrArg Tracker.sleeping (Nat.add_assoc p.time m.clock m.pollInterval)

theorem afterSnapshot_withPast (m : Machine) (s : Session) (result : Except FetchError Job) :
    (m.withPast p).afterSnapshot (s.withPast p) result =
      (m.afterSnapshot s result).shift p.time := by
  cases result with
  | ok job =>
    unfold afterSnapshot
    -- Both session numbers are shifted alike, so the guard answers alike.
    by_cases hn : m.view.session = s.number
    · have hn' : (m.withPast p).view.session = (s.withPast p).number :=
        congrArg (p.sessions + ·) hn
      have hloaded : (s.withPast p).loaded = s.loaded := rfl
      simp only [if_pos hn, if_pos hn', trackerAfter, hloaded]
      split
      · rfl
      · exact m.nextRound_withPast p _
    · have hn' : ¬ (m.withPast p).view.session = (s.withPast p).number :=
        fun h => hn (Nat.add_left_cancel h)
      simp only [if_neg hn, if_neg hn']
      rfl
  | error e => exact m.nextRound_withPast p _

theorem answeredJob_withPast (m : Machine) (s : Session) (result : Except FetchError Job) :
    ((m.withPast p).answeredJob (s.withPast p) result).1 =
      (m.answeredJob s result).1.withPast p := by
  have hwrite := m.writeCurrent_withPast p s.number fun k v => ofSnapshot_shift k result v
  rw [answeredJob_fst, answeredJob_fst, afterSnapshot_withPast, ← withTracker_withPast, ← hwrite]
  rfl

theorem takesText_withPast (m : Machine) (s : Session) (result : Except FetchError String) :
    (m.withPast p).takesText (s.withPast p) result = (m.takesText s result).withPast p := by
  cases result with
  | ok text =>
    exact congrArg (fun loaded => { s.withPast p with loaded }) (add_beq_add ..)
  | error e => rfl

theorem receivedText_withPast (m : Machine) (s : Session) (status : JobStatus)
    (result : Except FetchError String) :
    ((m.withPast p).receivedText (s.withPast p) status result).1 =
      (m.receivedText s status result).1.withPast p := by
  have hwrite := m.writeCurrent_withPast p s.number fun k v => ofText_shift k result v
  rw [receivedText_fst_eq, receivedText_fst_eq, takesText_withPast, nextRound_withPast,
    ← withTracker_withPast, ← hwrite]
  rfl

theorem copyProgress_withPast (m : Machine) (job : JobId) (n : Nat) (st : Progress.State) :
    ((m.withPast p).copyProgress job (p.sessions + n) (st.shift p.client.generations)).1 =
      (m.copyProgress job n st).1.withPast p := by
  unfold copyProgress
  by_cases hjob : st.job = some job
  · have hjob' : (st.shift p.client.generations).job = some job := hjob
    rw [if_pos hjob, if_pos hjob']
    exact m.writeCurrent_withPast p n (f := fun v => v.withProgress st) fun _ _ => rfl
  · have hjob' : ¬ (st.shift p.client.generations).job = some job := hjob
    rw [if_neg hjob, if_neg hjob']

theorem relay_withPast (m : Machine) (s : Session) :
    ((m.withPast p).relay (s.withPast p)).1 = (m.relay s).1.withPast p := by
  have hseen : (s.withPast p).relayed = some (m.withPast p).client.version ↔
      s.relayed = some m.client.version := by
    show s.relayed.map (p.client.versions + ·) = some (p.client.versions + m.client.version) ↔ _
    cases s.relayed <;> simp
  unfold relay
  by_cases h : s.relayed = some m.client.version
  · rw [if_pos h, if_pos (hseen.2 h)]
  · rw [if_neg h, if_neg (mt hseen.1 h)]
    exact copyProgress_withPast p
      { m with session := some { s with relayed := some m.client.version } } s.job s.number
      m.client.state

theorem stepCurrent_withPast (m : Machine) (s : Session) (f g : Nat → Nat) (h : Happening) :
    ((m.withPast p).stepCurrent (s.withPast p) (h.renumber f g)).1 =
      (m.stepCurrent s h).1.withPast p := by
  have htracker : (s.withPast p).tracker = s.tracker.shift p.time := rfl
  cases h with
  | progress e => rfl
  | elapse ms => rfl
  | relayTurn number => exact m.relay_withPast p s
  | trackerTurn number =>
    simp only [Happening.renumber, stepCurrent, htracker]
    cases s.tracker with
    | sleeping wake =>
      simp only [Tracker.shift]
      -- The clock and the time to wake at are shifted by the same span.
      by_cases hw : wake ≤ m.clock
      · have hw' : p.time + wake ≤ (m.withPast p).clock := Nat.add_le_add_left hw p.time
        rw [if_pos hw, if_pos hw']
        rfl
      · have hw' : ¬ p.time + wake ≤ (m.withPast p).clock :=
          fun h => hw (Nat.le_of_add_le_add_left h)
        rw [if_neg hw, if_neg hw']
    | fresh => rfl
    | fetchingJob => rfl
    | fetchingText artefact status => rfl
    | finished => rfl
  | jobAnswer number result =>
    simp only [Happening.renumber, stepCurrent, htracker]
    cases s.tracker with
    | fetchingJob => exact m.answeredJob_withPast p s result
    | fresh => rfl
    | sleeping wake => rfl
    | fetchingText artefact status => rfl
    | finished => rfl
  | textAnswer number result =>
    simp only [Happening.renumber, stepCurrent, htracker]
    cases s.tracker with
    | fetchingText artefact status => exact m.receivedText_withPast p s status result
    | fresh => rfl
    | sleeping wake => rfl
    | fetchingJob => rfl
    | finished => rfl

/-! ### What is late of the viewer's own sessions -/

theorem shift_injective (n : Nat) : Function.Injective (LateFetch.shift n) := by
  rintro ⟨job, number, fetch⟩ ⟨job', number', fetch'⟩ h
  simp only [LateFetch.shift, LateFetch.mk.injEq, Nat.add_right_inj] at h
  obtain ⟨rfl, rfl, rfl⟩ := h
  rfl

theorem late?_withPast (m : Machine) (hn : 0 < n) (isMeant : Fetch → Bool) :
    (m.withPast p).late? (p.sessions + n) isMeant =
      (m.late? n isMeant).map (·.shift p.sessions) := by
  have hpast : p.late.find? (fun l => l.number == p.sessions + n && isMeant l.fetch) = none := by
    refine List.find?_eq_none.2 fun l hl hmeant => ?_
    have hle := p.late_le l hl
    have heq : l.number = p.sessions + n := eq_of_beq (Bool.and_eq_true_iff.1 hmeant).1
    omega
  have hown (l : LateFetch) : ((l.shift p.sessions).number == p.sessions + n &&
      isMeant (l.shift p.sessions).fetch) = (l.number == n && isMeant l.fetch) :=
    congrArg (· && isMeant l.fetch) (add_beq_add ..)
  show (p.late ++ m.late.map (·.shift p.sessions)).find? _ = _
  rw [List.find?_append, hpast, Option.none_or, List.find?_map]
  exact congrArg (Option.map _) (congrArg m.late.find? (funext hown))

theorem forget_withPast (m : Machine) {l : LateFetch} (hl : 0 < l.number) :
    (m.withPast p).forget (l.shift p.sessions) = (m.forget l).withPast p := by
  have hnot : l.shift p.sessions ∉ p.late := fun hmem => by
    have hle : p.sessions + l.number ≤ p.sessions := p.late_le _ hmem
    omega
  have herase : (p.late ++ m.late.map (·.shift p.sessions)).erase (l.shift p.sessions) =
      p.late ++ (m.late.erase l).map (·.shift p.sessions) := by
    rw [List.erase_append_right _ hnot, List.map_erase (shift_injective _)]
  exact congrArg (fun late => { m.withPast p with late }) herase

theorem number_of_late? {isMeant : Fetch → Bool} {l : LateFetch}
    (hl : m.late? n isMeant = some l) : l.number = n := by
  have hmeant := List.find?_some (p := fun l : LateFetch => l.number == n && isMeant l.fetch) hl
  exact eq_of_beq (Bool.and_eq_true_iff.1 hmeant).1

theorem lateJob_withPast (m : Machine) (l : LateFetch) (result : Except FetchError Job) :
    ((m.withPast p).lateJob (l.shift p.sessions) result).1 = (m.lateJob l result).1.withPast p := by
  rw [lateJob_fst_eq, lateJob_fst_eq]
  exact m.writeCurrent_withPast p l.number fun k v => ofSnapshot_shift k result v

theorem lateText_withPast (m : Machine) (l : LateFetch) (status : JobStatus)
    (result : Except FetchError String) :
    ((m.withPast p).lateText (l.shift p.sessions) status result).1 =
      (m.lateText l status result).1.withPast p := by
  rw [lateText_fst_eq, lateText_fst_eq]
  exact m.writeCurrent_withPast p l.number fun k v => ofText_shift k result v

theorem find?_lateRelays_withPast (m : Machine) (hn : 0 < n) :
    (m.withPast p).lateRelays.find? (·.number == p.sessions + n) =
      (m.lateRelays.find? (·.number == n)).map (·.withPast p) := by
  have hpast : p.lateRelays.find? (·.number == p.sessions + n) = none := by
    refine List.find?_eq_none.2 fun l hl hnumber => ?_
    have hle := p.lateRelay_le l hl
    have heq := eq_of_beq hnumber
    omega
  show (p.lateRelays ++ m.lateRelays.map (·.withPast p)).find? _ = _
  rw [List.find?_append, hpast, Option.none_or, List.find?_map]
  exact congrArg (Option.map _) (congrArg m.lateRelays.find? (funext fun l => add_beq_add ..))

theorem lateRelay_withPast (m : Machine) {l : LateRelay} (hl : 0 < l.number) :
    ((m.withPast p).lateRelay (l.withPast p)).1 = (m.lateRelay l).1.withPast p := by
  -- The relays of the past are of older sessions, so it is only one of the viewer's own that is
  -- taken out.
  have hpast : p.lateRelays.filter (·.number != p.sessions + l.number) = p.lateRelays := by
    refine List.filter_eq_self.2 fun l' hl' => ?_
    have hle := p.lateRelay_le l' hl'
    rw [bne_iff_ne]
    omega
  have hfilter : (p.lateRelays ++ m.lateRelays.map (·.withPast p)).filter
      (·.number != p.sessions + l.number) =
      p.lateRelays ++ (m.lateRelays.filter (·.number != l.number)).map (·.withPast p) := by
    rw [List.filter_append, hpast, List.filter_map]
    exact congrArg (p.lateRelays ++ List.map _ ·)
      (congrArg (List.filter · _) (funext fun l' => congrArg not (add_beq_add ..)))
  have hforget : ({ m.withPast p with
        lateRelays := (m.withPast p).lateRelays.filter (·.number != (l.withPast p).number) } :
        Machine) =
      ({ m with lateRelays := m.lateRelays.filter (·.number != l.number) } : Machine).withPast p :=
    congrArg (fun lateRelays => { m.withPast p with lateRelays }) hfilter
  unfold lateRelay
  rw [hforget]
  exact copyProgress_withPast p _ l.job l.number l.taken

theorem stepLate_withPast (m : Machine) (hn : 0 < n) (f g : Nat → Nat) (h : Happening) :
    ((m.withPast p).stepLate (p.sessions + n) (h.renumber f g)).1 =
      (m.stepLate n h).1.withPast p := by
  cases h with
  | progress e => rfl
  | elapse ms => rfl
  | trackerTurn number => rfl
  | jobAnswer number result =>
    simp only [Happening.renumber, stepLate, late?_withPast p m hn]
    cases hl : m.late? n (· == .job) with
    | none => rfl
    | some l =>
      -- The number is that of a session of the viewer's own, so the fetch found is none of the
      -- past's.
      have hpos : 0 < l.number := (number_of_late? hl).symm ▸ hn
      simp only [Option.map_some, forget_withPast p m hpos]
      exact (m.forget l).lateJob_withPast p l result
  | textAnswer number result =>
    simp only [Happening.renumber, stepLate, late?_withPast p m hn]
    cases hl : m.late? n (· != .job) with
    | none => rfl
    | some l =>
      have hpos : 0 < l.number := (number_of_late? hl).symm ▸ hn
      have hfetch : (l.shift p.sessions).fetch = l.fetch := rfl
      simp only [Option.map_some, forget_withPast p m hpos, hfetch]
      split
      · exact (m.forget l).lateText_withPast p l _ result
      · rfl
  | relayTurn number =>
    simp only [Happening.renumber, stepLate, find?_lateRelays_withPast p m hn]
    cases hl : m.lateRelays.find? (·.number == n) with
    | none => rfl
    | some l =>
      have hnumber := List.find?_some (p := fun l : LateRelay => l.number == n) hl
      have hpos : 0 < l.number := (eq_of_beq hnumber).symm ▸ hn
      exact m.lateRelay_withPast p hpos

theorem stepSession_withPast (m : Machine) (hn : 0 < n) (f g : Nat → Nat) (h : Happening) :
    ((m.withPast p).stepSession (p.sessions + n) (h.renumber f g)).1 =
      (m.stepSession n h).1.withPast p := by
  have hcurrent : (m.withPast p).current? (p.sessions + n) =
      (m.current? n).map (·.withPast p) := by
    show (m.session.map (·.withPast p)).filter _ = _
    rw [Option.filter_map]
    exact congrArg (Option.map _) (congrArg m.session.filter (funext fun s => add_beq_add ..))
  unfold stepSession
  rw [hcurrent]
  cases m.current? n with
  | some s => exact m.stepCurrent_withPast p s f g h
  | none => exact m.stepLate_withPast p hn f g h

/-! ### The calls -/

theorem pending?_withPast (s : Session) :
    (s.withPast p).pending? = s.pending?.map (·.shift p.sessions) := by
  have htracker : (s.withPast p).tracker = s.tracker.shift p.time := rfl
  unfold Session.pending?
  rw [htracker]
  cases s.tracker <;> rfl

theorem cancel_withPast (m : Machine) : (m.withPast p).cancel.1 = m.cancel.1.withPast p := by
  have hsession : (m.withPast p).session = m.session.map (·.withPast p) := rfl
  unfold cancel
  rw [hsession]
  cases hs : m.session with
  | none => rfl
  | some s =>
    have hpending : (s.withPast p).pending?.toList =
        s.pending?.toList.map (·.shift p.sessions) := by
      rw [pending?_withPast]
      cases s.pending? <;> rfl
    simp only [Option.map_some, hpending, withPast, List.map_append, List.append_assoc]
    rfl

theorem client_withPast (m : Machine) : (m.withPast p).client = m.client.withPast p.client :=
  rfl

theorem openJob_withPast (m : Machine) (job : JobId) :
    ((m.withPast p).openJob job).1 = (m.openJob job).1.withPast p := by
  have hclient (v : View) : ((m.cancel.1.withPast p).write v).client =
      m.cancel.1.client.withPast p.client := rfl
  simp only [openJob, cancel_withPast, withClient, hclient,
    Progress.Client.subscribe_withPast]
  rfl

theorem close_withPast (m : Machine) : (m.withPast p).close.1 = m.close.1.withPast p := by
  simp only [close, cancel_withPast, withClient, client_withPast,
    Progress.Client.unsubscribe_withPast]
  rfl

theorem retryStream_withPast (m : Machine) :
    (m.withPast p).retryStream.1 = m.retryStream.1.withPast p := by
  have hsession : (m.withPast p).session = m.session.map (·.withPast p) := rfl
  unfold retryStream
  rw [hsession]
  cases hs : m.session with
  | none => rfl
  | some s =>
    simp only [Option.map_some, withClient, client_withPast,
      Progress.Client.resubscribe_withPast]
    simp only [withPast, hs]

theorem drop_withPast (m : Machine) : (m.withPast p).drop.1 = m.drop.1.withPast p := by
  simp only [drop, cancel_withPast, withClient, client_withPast, Progress.Client.drop_withPast]
  rfl

theorem call_withPast (m : Machine) (k : Call) :
    ((m.withPast p).call k).1 = (m.call k).1.withPast p := by
  have hdropped : (m.withPast p).dropped = m.dropped := rfl
  unfold call
  rw [hdropped]
  split
  · rfl
  · cases k with
    | view job => exact m.openJob_withPast p job
    | close => exact m.close_withPast p
    | retryStream => exact m.retryStream_withPast p
    | drop => exact m.drop_withPast p

/-- **A past changes nothing** in what a viewer does with its own. -/
theorem after_withPast (m : Machine) (hi : ¬ i.isPast (0, 0)) :
    (m.withPast p).after (i.renumber (p.sessions + ·) (p.client.generations + ·)) =
      (m.after i).withPast p := by
  cases i with
  | call k => exact m.call_withPast p k
  | happening h =>
    rcases happening_cases h with ⟨e, rfl⟩ | ⟨ms, rfl⟩ | ⟨n, hn, -⟩
    · have hpos : 0 < e.generation := Nat.pos_of_ne_zero fun hzero =>
        hi (decide_eq_true (Nat.le_of_eq hzero))
      exact congrArg (fun client => { m.withPast p with client })
        (m.client.step_withPast p.client hpos)
    · exact congrArg (fun clock => { m.withPast p with clock }) (Nat.add_assoc p.time m.clock ms)
    · -- A happening not of the past is of a session with a positive number.
      have hpos : 0 < n := by
        rw [isPast_of_session? hn, decide_eq_true_iff] at hi
        omega
      have hn' : (h.renumber (p.sessions + ·) (p.client.generations + ·)).session? =
          some (p.sessions + n) := by
        rw [Happening.session?_renumber, hn]
        rfl
      show ((m.withPast p).step (h.renumber _ _)).1 = (m.step h).1.withPast p
      rw [step_of_session? hn', step_of_session? hn]
      exact m.stepSession_withPast p hpos _ _ h

/-! ### A viewer that has begun -/

/-- The viewer has opened a job. Its sessions and subscriptions count from one. -/
structure Begun (m : Machine) : Prop where
  client : m.client.Begun
  view_pos : 0 < m.view.session
  number_pos : ∀ s, m.session = some s → 0 < s.number
  late_pos : ∀ l ∈ m.late, 0 < l.number
  lateRelay_pos : ∀ l ∈ m.lateRelays, 0 < l.number

theorem Begun.cancel (hm : m.Begun) : m.cancel.1.Begun := by
  unfold Machine.cancel
  cases hs : m.session with
  | none => exact hm
  | some s =>
    have hpos := hm.number_pos s hs
    refine ⟨hm.client, hm.view_pos, nofun, fun l hl => ?_, fun l hl => ?_⟩
    · rcases List.mem_append.1 hl with hl | hl
      · exact hm.late_pos l hl
      · -- What the cancelled session leaves behind bears its number.
        rw [number_of_pending? (Option.mem_toList.1 hl)]
        exact hpos
    · rcases List.mem_append.1 hl with hl | hl
      · exact hm.lateRelay_pos l hl
      · rw [List.mem_singleton.1 hl]
        exact hpos

theorem Begun.call (hm : m.Begun) (k : Call) : (m.call k).1.Begun := by
  have hcancel := hm.cancel
  unfold Machine.call
  split
  · exact hm
  · cases k with
    | view job =>
      refine ⟨hcancel.client.subscribe job, Nat.succ_pos _, ?_, hcancel.late_pos,
        hcancel.lateRelay_pos⟩
      rintro _ ⟨⟩
      exact Nat.succ_pos _
    | close =>
      exact ⟨hcancel.client.unsubscribe, Nat.succ_pos _, hcancel.number_pos, hcancel.late_pos,
        hcancel.lateRelay_pos⟩
    | retryStream =>
      simp only [Machine.retryStream]
      split
      · exact { hm with client := hm.client.resubscribe }
      · exact hm
    | drop => exact { hcancel with client := hcancel.client.drop }

theorem Begun.after (hm : m.Begun) (i : Input) : (m.after i).Begun := by
  cases i with
  | call k => exact hm.call k
  | happening h =>
    show (m.step h).1.Begun
    rcases happening_cases h with ⟨e, rfl⟩ | ⟨ms, rfl⟩ | ⟨n, -, heq⟩
    · exact { hm with client := hm.client.step e }
    · exact { hm with }
    · rw [heq, stepSession]
      cases hs : m.current? n with
      | some s =>
        have hs := (Option.filter_eq_some_iff.1 hs).1
        obtain ⟨s', v, version, hworks, hnumber, hv⟩ := stepCurrent_works hs h
        simp only
        rw [hworks]
        refine ⟨hm.client, hv ▸ hm.view_pos, ?_, hm.late_pos, hm.lateRelay_pos⟩
        rintro _ ⟨⟩
        exact hnumber ▸ hm.number_pos s hs
      | none =>
        obtain ⟨v, version, late, lateRelays, hlate, hv, hsub, hsubRelays⟩ := m.stepLate_eq n h
        simp only
        rw [hlate]
        exact ⟨hm.client, hv ▸ hm.view_pos, hm.number_pos,
          fun l hl => hm.late_pos l (hsub.subset hl),
          fun l hl => hm.lateRelay_pos l (hsubRelays.subset hl)⟩

/-! ### The happenings of the past -/

/-- A late fetch of a session of the past is among the past's, and its answer is not shown. -/
theorem Begun.forget_of_past (hm : m.Begun) (hn : n ≤ p.sessions) {isMeant : Fetch → Bool}
    {l : LateFetch} (hl : (m.withPast p).late? n isMeant = some l) :
    (m.withPast p).forget l = m.withPast (p.forget l) ∧
      (m.withPast (p.forget l)).view.session ≠ l.number := by
  have hview := hm.view_pos
  have hnumber := number_of_late? hl
  -- Of what is late, only the past has numbers that low.
  have hmem : l ∈ p.late := by
    rcases List.mem_append.1 (List.mem_of_find?_eq_some hl) with hl | hl
    · exact hl
    · obtain ⟨l', hmem, rfl⟩ := List.mem_map.1 hl
      have hpos := hm.late_pos l' hmem
      have hnumber : p.sessions + l'.number = n := hnumber
      omega
  constructor
  · exact congrArg (fun late => { m.withPast p with late }) (List.erase_append_left _ hmem)
  · show p.sessions + m.view.session ≠ l.number
    omega

/-- A late relay of a session of the past takes its turn there, and copies nothing. -/
theorem Begun.lateRelay_of_past (hm : m.Begun) {l : LateRelay} (hl : l.number ≤ p.sessions) :
    ((m.withPast p).lateRelay l).1 = m.withPast (p.forgetRelay l.number) := by
  have hview := hm.view_pos
  have hne : (m.withPast p).view.session ≠ l.number := by
    show p.sessions + m.view.session ≠ l.number
    omega
  have hown : (m.lateRelays.map (·.withPast p)).filter (·.number != l.number) =
      m.lateRelays.map (·.withPast p) := by
    refine List.filter_eq_self.2 fun l' hl' => ?_
    obtain ⟨l'', hmem, rfl⟩ := List.mem_map.1 hl'
    have hpos := hm.lateRelay_pos l'' hmem
    rw [bne_iff_ne]
    show p.sessions + l''.number ≠ l.number
    omega
  rw [lateRelay_fst hne]
  refine congrArg (fun lateRelays => { m.withPast p with lateRelays }) ?_
  show (p.lateRelays ++ m.lateRelays.map (·.withPast p)).filter _ = _
  rw [List.filter_append, hown]
  rfl

/-- **What happens to an ended session of the past changes nothing but the past.** -/
theorem Begun.stepLate_of_past (hm : m.Begun) (hn : n ≤ p.sessions) (h : Happening) :
    ∃ p' : Past, p'.numbers = p.numbers ∧ ((m.withPast p).stepLate n h).1 = m.withPast p' := by
  have hrefl : ∃ p' : Past, p'.numbers = p.numbers ∧ m.withPast p = m.withPast p' :=
    ⟨p, rfl, rfl⟩
  cases h with
  | progress e => exact hrefl
  | elapse ms => exact hrefl
  | trackerTurn number => exact hrefl
  | jobAnswer number result =>
    simp only [stepLate]
    cases hl : (m.withPast p).late? n (· == .job) with
    | none => exact hrefl
    | some l =>
      obtain ⟨hforget, hne⟩ := hm.forget_of_past p hn hl
      simp only [hforget, lateJob_fst hne]
      exact ⟨p.forget l, rfl, rfl⟩
  | textAnswer number result =>
    simp only [stepLate]
    cases hl : (m.withPast p).late? n (· != .job) with
    | none => exact hrefl
    | some l =>
      obtain ⟨hforget, hne⟩ := hm.forget_of_past p hn hl
      simp only [hforget]
      split
      · rw [lateText_fst hne]
        exact ⟨p.forget l, rfl, rfl⟩
      · exact hrefl
  | relayTurn number =>
    simp only [stepLate]
    cases hl : (m.withPast p).lateRelays.find? (·.number == n) with
    | none => exact hrefl
    | some l =>
      have hnumber : l.number = n :=
        eq_of_beq (List.find?_some (p := fun l : LateRelay => l.number == n) hl)
      exact ⟨p.forgetRelay l.number, rfl, hm.lateRelay_of_past p (hnumber ▸ hn)⟩

theorem Begun.after_of_past (hm : m.Begun) (hi : i.isPast p.numbers) :
    ∃ p' : Past, p'.numbers = p.numbers ∧ (m.withPast p).after i = m.withPast p' := by
  cases i with
  | call k => cases hi
  | happening h =>
    rcases happening_cases h with ⟨e, rfl⟩ | ⟨ms, rfl⟩ | ⟨n, hsession, heq⟩
    · obtain ⟨c, hgenerations, hversions, hstep⟩ :=
        hm.client.step_of_past p.client (of_decide_eq_true hi)
      refine ⟨{ p with client := c }, ?_, ?_⟩
      · rw [Past.numbers, Past.numbers, hgenerations]
      · show ({ m.withPast p with client := ((m.client.withPast p.client).step e).1 } : Machine) = _
        rw [hstep]
        simp only [withPast, Session.withPast, LateRelay.withPast, hgenerations, hversions]
    · cases hi
    · have hn : n ≤ p.sessions := by
        rwa [isPast_of_session? hsession, decide_eq_true_iff] at hi
      -- The session in force is younger than the past, so what happens can concern only what is
      -- late.
      have hnone : (m.withPast p).current? n = none := by
        refine Option.filter_eq_none_iff.2 fun s hs hnumber => ?_
        obtain ⟨s', hs', rfl⟩ := Option.map_eq_some_iff.1 hs
        have hpos := hm.number_pos s' hs'
        have hnumber : p.sessions + s'.number = n := eq_of_beq hnumber
        omega
      show ∃ p' : Past, p'.numbers = p.numbers ∧ ((m.withPast p).step h).1 = m.withPast p'
      rw [heq, stepSession, hnone]
      exact hm.stepLate_of_past p hn h

/-- Nothing happens to session zero. -/
theorem Begun.stepSession_zero (hm : m.Begun) (h : Happening) : (m.stepSession 0 h).1 = m := by
  have hcurrent : m.current? 0 = none := by
    refine Option.filter_eq_none_iff.2 fun s hs hnumber => ?_
    exact Nat.ne_of_gt (hm.number_pos s hs) (eq_of_beq hnumber)
  have hlate (isMeant : Fetch → Bool) : m.late? 0 isMeant = none := by
    refine List.find?_eq_none.2 fun l hl hmeant => ?_
    exact Nat.ne_of_gt (hm.late_pos l hl) (eq_of_beq (Bool.and_eq_true_iff.1 hmeant).1)
  have hlateRelay : m.lateRelays.find? (·.number == 0) = none := by
    refine List.find?_eq_none.2 fun l hl hnumber => ?_
    exact Nat.ne_of_gt (hm.lateRelay_pos l hl) (eq_of_beq hnumber)
  -- No session has the number 0, whether in force or late.
  rw [stepSession, hcurrent]
  cases h with
  | progress e => rfl
  | elapse ms => rfl
  | trackerTurn n => rfl
  | jobAnswer n result => simp only [stepLate, hlate]
  | textAnswer n result => simp only [stepLate, hlate]
  | relayTurn n => simp only [stepLate, hlateRelay]

/-- To a viewer without a past, what concerns a past is nothing. -/
theorem Begun.after_since_of_past (hm : m.Begun) {numbers : Nat × Nat} (hi : i.isPast numbers) :
    m.after (i.since numbers) = m := by
  cases i with
  | call k => cases hi
  | happening h =>
    rcases happening_cases h with ⟨e, rfl⟩ | ⟨ms, rfl⟩ | ⟨n, hn, -⟩
    · have hzero : (e.renumber (· - numbers.2)).generation = 0 := by
        rw [Progress.Happening.renumber_generation]
        exact Nat.sub_eq_zero_of_le (of_decide_eq_true hi)
      exact congrArg (fun client => { m with client }) (hm.client.step_of_zero hzero)
    · cases hi
    · -- Counted from the past on, its numbers all become 0, which no session has.
      have hzero : (h.renumber (· - numbers.1) (· - numbers.2)).session? = some 0 := by
        rw [isPast_of_session? hn, decide_eq_true_iff] at hi
        rw [Happening.session?_renumber, hn, Option.map_some, Nat.sub_eq_zero_of_le hi]
      show (m.step (h.renumber _ _)).1 = m
      rw [step_of_session? hzero]
      exact hm.stepSession_zero _

/-- What does not concern the past is the same by either count. -/
theorem renumber_since {numbers : Nat × Nat} (hi : ¬ i.isPast numbers) :
    (i.since numbers).renumber (numbers.1 + ·) (numbers.2 + ·) = i ∧
      ¬ (i.since numbers).isPast (0, 0) := by
  cases i with
  | call k => exact ⟨rfl, Bool.false_ne_true⟩
  | happening h =>
    -- Subtracting and adding the numbers of the past cancel, since the numbers of the input are
    -- larger.
    constructor
    · refine congrArg Input.happening (Happening.renumber_renumber (fun n hn => ?_) ?_)
      · rw [isPast_of_session? hn, decide_eq_true_iff] at hi
        omega
      · rintro e rfl
        have hlt : ¬ e.generation ≤ numbers.2 := fun hle => hi (decide_eq_true hle)
        omega
    · rcases happening_cases h with ⟨e, rfl⟩ | ⟨ms, rfl⟩ | ⟨n, hn, -⟩
      · have hlt : ¬ e.generation ≤ numbers.2 := fun hle => hi (decide_eq_true hle)
        show ¬ decide ((e.renumber (· - numbers.2)).generation ≤ 0)
        rw [decide_eq_true_iff, Progress.Happening.renumber_generation]
        omega
      · exact Bool.false_ne_true
      · have hn' : (h.renumber (· - numbers.1) (· - numbers.2)).session? =
            some (n - numbers.1) := by
          rw [Happening.session?_renumber, hn]
          rfl
        rw [isPast_of_session? hn, decide_eq_true_iff] at hi
        show ¬ (Input.happening (h.renumber _ _)).isPast (0, 0)
        rw [isPast_of_session? hn', decide_eq_true_iff]
        omega

/-! ### The run of a viewer with a past -/

/-- **One step with a past and without it.** -/
theorem Begun.after_since (hm : m.Begun) (i : Input) :
    ∃ p' : Past, p'.numbers = p.numbers ∧
      (m.withPast p).after i = (m.after (i.since p.numbers)).withPast p' := by
  by_cases hi : i.isPast p.numbers
  · rw [hm.after_since_of_past hi]
    exact hm.after_of_past p hi
  · obtain ⟨hsame, hown⟩ := renumber_since hi
    have hstep := m.after_withPast p hown
    refine ⟨p, rfl, ?_⟩
    rw [← hstep]
    exact congrArg _ hsame.symm

/-- **A run with a past and without it.** -/
theorem Begun.run_since (hm : m.Begun) (is : List Input) :
    ∃ p' : Past, p'.numbers = p.numbers ∧
      (m.withPast p).run is = (m.run (is.map (·.since p.numbers))).withPast p' := by
  induction is generalizing m p with
  | nil => exact ⟨p, rfl, rfl⟩
  | cons i is ih =>
    obtain ⟨p₁, hp₁, hstep⟩ := hm.after_since p i
    obtain ⟨p', hp', hrun⟩ := ih p₁ (hm.after _)
    refine ⟨p', hp'.trans hp₁, ?_⟩
    rw [run_cons, hstep, hrun, hp₁]
    rfl

/-! ### Opening a job -/

/-- All that there was before, when a job is opened. -/
def Coherent.past (hc : m.Coherent) : Past where
  client := hc.client.past
  sessions := m.view.session
  versions := m.version
  time := m.clock
  late := m.cancel.1.late
  lateRelays := m.cancel.1.lateRelays
  late_le := hc.cancel_late_le.1
  lateRelay_le := hc.cancel_late_le.2

/-- **A viewer that opens a job which its client does not know begins anew.** -/
theorem Coherent.openJob_eq_withPast (hc : m.Coherent) {job : JobId}
    (hj : m.client.state.job ≠ some job) :
    (m.openJob job).1 = ((initial m.pollInterval).openJob job).1.withPast hc.past := by
  have hversion : m.cancel.1.version = m.version := by unfold cancel; split <;> rfl
  have hdropped : m.cancel.1.dropped = false := m.cancel_dropped.trans hc.not_dropped
  have hanew : (m.openJob job).1 =
      { client := (m.client.subscribe job).1
        view := .opened job (m.view.session + 1)
        version := m.version + 1
        session := some ⟨job, m.view.session + 1, false, .fresh, none⟩
        late := m.cancel.1.late
        lateRelays := m.cancel.1.lateRelays
        pollInterval := m.pollInterval
        clock := m.clock
        dropped := false } := by
    simp only [Machine.openJob, withClient, write, cancel_client, cancel_view, cancel_clock,
      cancel_pollInterval, hversion, hdropped]
  -- A viewer that has just been made has nothing late.
  have hlate : m.cancel.1.late ++ ((initial m.pollInterval).openJob job).1.late.map
      (·.shift m.view.session) = m.cancel.1.late := List.append_nil _
  have hlateRelays : m.cancel.1.lateRelays ++
      ((initial m.pollInterval).openJob job).1.lateRelays.map (·.withPast hc.past) =
        m.cancel.1.lateRelays := List.append_nil _
  rw [hanew, hc.client.subscribe_eq_withPast hj]
  simp only [withPast, Coherent.past, hlate] at hlateRelays ⊢
  rw [hlateRelays]
  rfl

theorem begun_openJob_initial (pollInterval : Nat) (job : JobId) :
    ((initial pollInterval).openJob job).1.Begun where
  client := Progress.Client.begun_subscribe_initial job
  view_pos := Nat.succ_pos 0
  number_pos := by
    rintro _ ⟨⟩
    exact Nat.succ_pos 0
  late_pos _ hl := absurd hl List.not_mem_nil
  lateRelay_pos _ hl := absurd hl List.not_mem_nil

/-- What happens to a viewer without a past can happen to one with a past. -/
theorem exists_since_eq (numbers : Nat × Nat) (js : List Input) :
    ∃ js' : List Input, js'.map (·.since numbers) = js := by
  refine ⟨js.map (·.renumber (numbers.1 + ·) (numbers.2 + ·)), ?_⟩
  rw [List.map_map]
  refine (List.map_congr_left fun i _ => ?_).trans (List.map_id js)
  cases i with
  | call k => rfl
  | happening h =>
    exact congrArg Input.happening (Happening.renumber_renumber
      (fun n _ => Nat.add_sub_cancel_left numbers.1 n)
      fun e _ => Nat.add_sub_cancel_left numbers.2 e.generation)

/-- **Opening a job forgets the past.** Take a viewer that any run has brought anywhere, and let it
open a job that is not the one its progress client knows. From then on, whatever happens and
whatever its owner does, it shows at every moment what a new viewer shows that has opened the job
and been given the same since. Only the number of the session is higher, by the number of sessions
before. What concerns an earlier session or subscription is nothing to the new viewer, and whatever
else can be given to the new viewer can be given to the old one. -/
theorem openJob_forgets_past (pollInterval : Nat) {is : List Input} {job : JobId}
    (hd : .call .drop ∉ is)
    (hj : ((initial pollInterval).run is).client.state.job ≠ some job) :
    let m := (initial pollInterval).run is
    let numbers := (m.view.session, m.client.state.generation)
    (∀ js, (m.run (.call (.view job) :: js)).view =
        ((initial pollInterval).run (.call (.view job) :: js.map (·.since numbers))).view.shift
          m.view.session) ∧
      ∀ js : List Input, ∃ js' : List Input, js'.map (·.since numbers) = js := by
  intro m numbers
  have hc : m.Coherent := coherent_run pollInterval hd
  have hpoll : m.pollInterval = pollInterval := pollInterval_run _ is
  have hopen : m.after (.call (.view job)) =
      ((initial pollInterval).openJob job).1.withPast hc.past := by
    show (m.call (.view job)).1 = _
    rw [call_of_not_dropped hc.not_dropped, ← hpoll]
    exact hc.openJob_eq_withPast hj
  refine ⟨fun js => ?_, exists_since_eq numbers⟩
  obtain ⟨p', hp', hrun⟩ := (begun_openJob_initial pollInterval job).run_since hc.past js
  have hsessions : p'.sessions = m.view.session := congrArg Prod.fst hp'
  rw [run_cons, run_cons, hopen, hrun, ← hsessions]
  rfl

/-- A run that gives up a job whose snapshot is being fetched and whose stream is open. -/
def givenUp : List Input :=
  [.call (.view 1), .happening (.trackerTurn 1), .happening (.progress (.turn 1)),
    .happening (.progress (.answer 1 (.ok 0))), .happening (.relayTurn 1), .call .close]

/-- The answer to the third session, which is on another job, makes of the view what it would make
of a new one. The answer that is late for the first session makes nothing of it. -/
theorem givenUp_view_eq :
    (((initial 500).run givenUp).run
        [.call (.view 2), .happening (.trackerTurn 3),
          .happening (.jobAnswer 1 (.error (.notFound 1))),
          .happening (.jobAnswer 3 (.error .forbidden))]).view =
      ((initial 500).run
        [.call (.view 2), .happening (.trackerTurn 1),
          .happening (.jobAnswer 0 (.error (.notFound 1))),
          .happening (.jobAnswer 1 (.error .forbidden))]).view.shift 2 := by
  have hd : .call .drop ∉ givenUp := by simp [givenUp]
  have hj : ((initial 500).run givenUp).client.state.job ≠ some 2 := by
    show (some 1 : Option JobId) ≠ some 2
    decide
  exact (openJob_forgets_past 500 hd hj).1 _

end Machine

end MachiningViewer.Viewer
