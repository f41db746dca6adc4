import MachiningViewer.Proofs.Progress.Run

/-!
# Clients with a past

A client that has had subscriptions before counts its generations on from theirs, and the transport
may still work on the requests of some. In all else it does what a client without a past does. The
past of a client is put under another one by `Client.withPast`. What happens to a generation of the
client's own has the same effect with the past and without it, but for the numbers
(`step_withPast`), and what happens to a generation of the past has no effect but on the past
(`step_of_past`).
-/

namespace MachiningViewer

theorem add_beq_add (n a b : Nat) : (n + a == n + b) = (a == b) := by
  rw [Bool.eq_iff_iff, beq_iff_eq, beq_iff_eq, Nat.add_right_inj]

namespace Progress

/-- What a client brings with it from earlier subscriptions: how far it has counted, and which of
their requests are late. -/
structure Past where
  generations : Nat
  versions : Nat
  late : List Request
  late_le : ∀ r ∈ late, r.generation ≤ generations

/-- A past of which a late request has been answered. -/
def Past.forget (p : Past) (r : Request) : Past where
  generations := p.generations
  versions := p.versions
  late := p.late.erase r
  late_le r' hr := p.late_le r' (List.mem_of_mem_erase hr)

/-- The happening with another number for its generation. -/
def Happening.renumber (f : Nat → Nat) : Happening → Happening
  | .turn generation => .turn (f generation)
  | .answer generation result => .answer (f generation) result
  | .receive generation item => .receive (f generation) item

/-- The state after so many earlier generations. -/
def State.shift (n : Nat) (s : State) : State :=
  { s with generation := n + s.generation }

/-- The request after so many earlier generations. -/
def Request.shift (n : Nat) (r : Request) : Request :=
  { r with generation := n + r.generation }

/-- The subscription after so many earlier generations. -/
def Subscription.shift (n : Nat) (s : Subscription) : Subscription :=
  { s with generation := n + s.generation }

namespace Happening

@[simp]
theorem renumber_generation (f : Nat → Nat) (h : Happening) :
    (h.renumber f).generation = f h.generation := by
  cases h <;> rfl

theorem renumber_renumber {f g : Nat → Nat} {h : Happening}
    (hfg : f (g h.generation) = h.generation) : (h.renumber g).renumber f = h := by
  cases h with
  | turn generation => exact congrArg turn hfg
  | answer generation result => exact congrArg (answer · result) hfg
  | receive generation item => exact congrArg (receive · item) hfg

end Happening

/-- What is heard is applied, or the stream is over. -/
theorem Item.change?_cases {item : Item} {f : State → State} (hf : item.change? = some f) :
    (∃ e, f = fun s => s.apply e) ∨ f = fun s => { s with phase := .disconnected } := by
  cases item with
  | message payload =>
    obtain ⟨e, -, rfl⟩ := Option.map_eq_some_iff.1 hf
    exact .inl ⟨e, rfl⟩
  | failure e => exact .inr (Option.some.inj hf).symm
  | ending => exact .inr (Option.some.inj hf).symm

theorem Request.shift_injective (n : Nat) : Function.Injective (shift n) := by
  rintro ⟨job, generation⟩ ⟨job', generation'⟩ h
  simp only [shift, mk.injEq, Nat.add_right_inj] at h
  obtain ⟨rfl, rfl⟩ := h
  rfl

namespace Subscription

theorem request?_shift (n : Nat) (s : Subscription) :
    (s.shift n).request? = s.request?.map (·.shift n) := by
  obtain ⟨job, generation, reader⟩ := s
  cases reader <;> rfl

theorem awaits_shift (n : Nat) (s : Subscription) (h : Happening) :
    (s.shift n).awaits (h.renumber (n + ·)) = s.awaits h := by
  cases h with
  | turn generation => simp only [awaits, Happening.renumber, shift, add_beq_add]
  | answer generation result => simp only [awaits, Happening.renumber, shift, add_beq_add]
  | receive generation item =>
    simp only [awaits, Happening.renumber, shift, add_beq_add]
    rfl

end Subscription

namespace Client

variable {c : Client} {s : Subscription} {h : Happening}

/-- The client with a past under it. -/
def withPast (c : Client) (p : Past) : Client :=
  { c with
    state := c.state.shift p.generations
    active := c.active.map (·.shift p.generations)
    late := p.late ++ c.late.map (·.shift p.generations)
    version := p.versions + c.version }

/-! ### The numbers of a client that has begun -/

/-- The client has had a subscription. Its generations count from one. -/
structure Begun (c : Client) : Prop where
  generation_pos : 0 < c.state.generation
  active_pos : ∀ s, c.active = some s → 0 < s.generation
  late_pos : ∀ r ∈ c.late, 0 < r.generation

theorem begun_teardown (hc : c.Begun) :
    ∀ r ∈ c.teardown.1.late, 0 < r.generation := by
  intro r hr
  rcases mem_teardown_late hr with hr | ⟨s, hs, hr⟩
  · exact hc.late_pos r hr
  · rw [(request?_eq_some_iff.1 hr).2]
    exact hc.active_pos s hs

theorem Begun.subscribe (hc : c.Begun) (job : JobId) : (c.subscribe job).1.Begun := by
  unfold Client.subscribe
  split
  · exact hc
  · constructor
    · show 0 < (c.teardown.1.state.subscribe job).generation
      rw [State.subscribe_generation]
      exact Nat.succ_pos _
    · rintro _ ⟨⟩
      show 0 < (c.teardown.1.state.subscribe job).generation
      rw [State.subscribe_generation]
      exact Nat.succ_pos _
    · exact begun_teardown hc

theorem Begun.resubscribe (hc : c.Begun) : c.resubscribe.1.Begun := by
  unfold Client.resubscribe
  split
  · exact hc.subscribe _
  · exact hc

theorem Begun.unsubscribe (hc : c.Begun) : c.unsubscribe.1.Begun where
  generation_pos := Nat.succ_pos _
  active_pos s hs := by
    have hnone : c.unsubscribe.1.active = none := teardown_active c
    rw [hnone] at hs
    cases hs
  late_pos := begun_teardown hc

theorem Begun.drop (hc : c.Begun) : c.drop.1.Begun where
  generation_pos := by
    show 0 < c.teardown.1.state.generation
    rw [teardown_state]
    exact hc.generation_pos
  active_pos s hs := by
    have hnone : c.drop.1.active = none := teardown_active c
    rw [hnone] at hs
    cases hs
  late_pos := begun_teardown hc

theorem writeCurrent_keeps (c : Client) (g : Nat) {f : State → State}
    (hf : ∀ s, (f s).generation = s.generation) :
    ∃ st v, (c.writeCurrent g f).1 = { c with state := st, version := v } ∧
      st.generation = c.state.generation := by
  unfold writeCurrent
  split
  · exact ⟨_, _, rfl, hf _⟩
  · exact ⟨_, _, rfl, rfl⟩

theorem disconnect_keeps (c : Client) (g : Nat) :
    ∃ st v, (c.disconnect g).1 = { c with state := st, version := v } ∧
      st.generation = c.state.generation :=
  c.writeCurrent_keeps g (f := fun s => { s with phase := .disconnected }) fun _ => rfl

/-- What a reader hears does not touch the numbers. -/
theorem hear_keeps (c : Client) (s : Subscription) (item : Item) :
    ∃ st v, (c.hear s item).1 = { c with state := st, version := v } ∧
      st.generation = c.state.generation := by
  rw [hear_fst]
  split
  · rename_i f hf
    refine c.writeCurrent_keeps s.generation fun st => ?_
    rcases Item.change?_cases hf with ⟨e, rfl⟩ | rfl <;> rfl
  · exact ⟨_, _, rfl, rfl⟩

theorem stepCurrent_keeps (hs : c.active = some s) (h : Happening) :
    ∃ a st v, (c.stepCurrent s h).1 = { c with active := some a, state := st, version := v } ∧
      a.generation = s.generation ∧ st.generation = c.state.generation := by
  -- Whatever the reader hears, it writes the state and its own place in the stream, no more.
  cases h with
  | turn g => exact ⟨_, c.state, c.version, rfl, rfl, rfl⟩
  | answer g result =>
    cases result with
    | ok stream =>
      simp only [stepCurrent, opened]
      split
      · exact ⟨_, _, _, rfl, rfl, rfl⟩
      · exact ⟨_, c.state, c.version, rfl, rfl, rfl⟩
    | error e =>
      obtain ⟨st, v, heq, hst⟩ := (c.withReader s .finished).disconnect_keeps s.generation
      exact ⟨{ s with reader := .finished }, st, v, heq, rfl, hst⟩
  | receive g item =>
    obtain ⟨st, v, heq, hst⟩ := c.hear_keeps s item
    simp only [stepCurrent, received, heq]
    split
    · exact ⟨s, st, v, by rw [hs], rfl, hst⟩
    · exact ⟨_, st, v, rfl, rfl, hst⟩

theorem answeredLate_keeps (c : Client) (r : Request) (result : Except TransportError StreamId) :
    ∃ st v, (c.answeredLate r result).1 = { c with state := st, version := v } ∧
      st.generation = c.state.generation := by
  cases result with
  | ok stream => exact ⟨_, _, rfl, rfl⟩
  | error e => exact c.disconnect_keeps r.generation

theorem Begun.step (hc : c.Begun) (h : Happening) : (c.step h).1.Begun := by
  obtain ⟨s, hs, -, heq⟩ | ⟨r, -, result, -, -, heq⟩ | ⟨-, -, heq⟩ := step_cases c h
  · obtain ⟨a, st, v, hstep, ha, hst⟩ := stepCurrent_keeps hs h
    rw [heq, hstep]
    refine ⟨hst ▸ hc.generation_pos, ?_, hc.late_pos⟩
    rintro _ ⟨⟩
    exact ha ▸ hc.active_pos s hs
  · obtain ⟨st, v, hstep, hst⟩ := (c.forget r).answeredLate_keeps r result
    rw [heq, hstep]
    exact ⟨hst ▸ hc.generation_pos, hc.active_pos,
      fun r' hr => hc.late_pos r' (List.mem_of_mem_erase hr)⟩
  · rw [heq]
    exact hc

/-! ### The calls -/

variable (p : Past)

theorem follows_withPast (c : Client) (job : JobId) :
    (c.withPast p).follows job = c.follows job := by
  unfold follows withPast
  cases c.active <;> rfl

theorem teardown_withPast (c : Client) : (c.withPast p).teardown.1 = c.teardown.1.withPast p := by
  have hactive : (c.withPast p).active = c.active.map (·.shift p.generations) := rfl
  unfold teardown
  rw [hactive]
  cases c.active with
  | none => rfl
  | some s =>
    have hlate : (s.shift p.generations).request?.toList =
        s.request?.toList.map (·.shift p.generations) := by
      rw [Subscription.request?_shift, Option.toList_map]
    simp only [Option.map_some, hlate, withPast, List.map_append, List.append_assoc]
    rfl

theorem write_withPast (c : Client) (s : State) :
    (c.withPast p).write (s.shift p.generations) = (c.write s).withPast p :=
  rfl

theorem shift_subscribe (n : Nat) (s : State) (job : JobId) :
    (s.shift n).subscribe job = (s.subscribe job).shift n := by
  unfold State.subscribe
  by_cases hjob : s.job = some job
  · have hjob' : (s.shift n).job = some job := hjob
    rw [if_pos hjob, if_pos hjob']
    rfl
  · have hjob' : ¬ (s.shift n).job = some job := hjob
    rw [if_neg hjob, if_neg hjob']
    rfl

theorem subscribe_withPast (c : Client) (job : JobId) :
    ((c.withPast p).subscribe job).1 = (c.subscribe job).1.withPast p := by
  unfold subscribe
  rw [follows_withPast]
  split
  · rfl
  · have hstate : (c.teardown.1.withPast p).state = c.teardown.1.state.shift p.generations := rfl
    simp only [teardown_withPast, hstate, shift_subscribe, write_withPast]
    rfl

theorem resubscribe_withPast (c : Client) :
    (c.withPast p).resubscribe.1 = c.resubscribe.1.withPast p := by
  have hlast : (c.withPast p).lastJob = c.lastJob := rfl
  unfold resubscribe
  rw [hlast]
  split
  · exact c.subscribe_withPast p _
  · rfl

theorem unsubscribe_withPast (c : Client) :
    (c.withPast p).unsubscribe.1 = c.unsubscribe.1.withPast p := by
  simp only [unsubscribe, teardown_withPast]
  rfl

theorem drop_withPast (c : Client) : (c.withPast p).drop.1 = c.drop.1.withPast p := by
  simp only [drop, teardown_withPast]
  rfl

/-! ### The happenings of the client's own generations -/

theorem writeCurrent_withPast (c : Client) (g : Nat) {f : State → State}
    (hf : ∀ n s, f (State.shift n s) = (f s).shift n) :
    ((c.withPast p).writeCurrent (p.generations + g) f).1 = (c.writeCurrent g f).1.withPast p := by
  by_cases hg : c.state.generation = g
  · have hg' : (c.withPast p).state.generation = p.generations + g :=
      congrArg (p.generations + ·) hg
    have hstate : (c.withPast p).state = c.state.shift p.generations := rfl
    rw [writeCurrent_of_eq f hg, writeCurrent_of_eq f hg', hstate, hf]
    rfl
  · have hg' : (c.withPast p).state.generation ≠ p.generations + g :=
      fun h => hg (Nat.add_left_cancel h)
    rw [writeCurrent_of_ne f hg, writeCurrent_of_ne f hg']

theorem disconnect_withPast (c : Client) (g : Nat) :
    ((c.withPast p).disconnect (p.generations + g)).1 = (c.disconnect g).1.withPast p :=
  c.writeCurrent_withPast p g (f := fun s => { s with phase := .disconnected }) fun _ _ => rfl

theorem hear_withPast (c : Client) (s : Subscription) (item : Item) :
    ((c.withPast p).hear (s.shift p.generations) item).1 = (c.hear s item).1.withPast p := by
  rw [hear_fst, hear_fst]
  split
  · rename_i f hf
    refine c.writeCurrent_withPast p s.generation fun n st => ?_
    rcases Item.change?_cases hf with ⟨e, rfl⟩ | rfl <;> rfl
  · rfl

theorem readsOn_withPast (c : Client) (s : Subscription) (item : Item) :
    (c.withPast p).readsOn (s.shift p.generations) item = c.readsOn s item := by
  cases item with
  | message payload =>
    exact congrArg (· || (Event.decode? payload).isNone) (add_beq_add ..)
  | failure e => rfl
  | ending => rfl

theorem stepCurrent_withPast (c : Client) (s : Subscription) (f : Nat → Nat) (h : Happening) :
    ((c.withPast p).stepCurrent (s.shift p.generations) (h.renumber f)).1 =
      (c.stepCurrent s h).1.withPast p := by
  cases h with
  | turn g => rfl
  | answer g result =>
    cases result with
    | ok stream =>
      simp only [Happening.renumber, stepCurrent, opened]
      -- Both generations are shifted alike, so the guard of the first write answers alike.
      by_cases hg : c.state.generation = s.generation
      · have hg' : (c.withPast p).state.generation = (s.shift p.generations).generation :=
          congrArg (p.generations + ·) hg
        rw [if_pos hg, if_pos hg']
        rfl
      · have hg' : ¬ (c.withPast p).state.generation = (s.shift p.generations).generation :=
          fun h => hg (Nat.add_left_cancel h)
        rw [if_neg hg, if_neg hg']
        rfl
    | error e => exact (c.withReader s .finished).disconnect_withPast p s.generation
  | receive g item =>
    simp only [Happening.renumber, stepCurrent, received, hear_withPast, readsOn_withPast]
    split
    · rfl
    · rfl

theorem answeredLate_withPast (c : Client) (r : Request)
    (result : Except TransportError StreamId) :
    ((c.withPast p).answeredLate (r.shift p.generations) result).1 =
      (c.answeredLate r result).1.withPast p := by
  cases result with
  | ok stream => rfl
  | error e => exact c.disconnect_withPast p r.generation

/-- No request of the past has one of the client's own generations. -/
theorem find?_late_withPast (c : Client) {g : Nat} (hg : 0 < g) :
    (c.withPast p).late.find? (·.generation == p.generations + g) =
      (c.late.find? (·.generation == g)).map (·.shift p.generations) := by
  have hpast : p.late.find? (·.generation == p.generations + g) = none := by
    refine List.find?_eq_none.2 fun r hr hfound => ?_
    have hle := p.late_le r hr
    have heq : r.generation = p.generations + g := eq_of_beq hfound
    omega
  show (p.late ++ c.late.map (·.shift p.generations)).find? _ = _
  rw [List.find?_append, hpast, Option.none_or, List.find?_map]
  exact congrArg (Option.map _) (congrArg c.late.find? (funext fun r => add_beq_add ..))

theorem forget_withPast (c : Client) {r : Request} (hr : 0 < r.generation) :
    (c.withPast p).forget (r.shift p.generations) = (c.forget r).withPast p := by
  have hnot : r.shift p.generations ∉ p.late := fun hmem => by
    have hle : p.generations + r.generation ≤ p.generations := p.late_le _ hmem
    omega
  have herase : (p.late ++ c.late.map (·.shift p.generations)).erase (r.shift p.generations) =
      p.late ++ (c.late.erase r).map (·.shift p.generations) := by
    rw [List.erase_append_right _ hnot, List.map_erase (Request.shift_injective _)]
  exact congrArg (fun late => ({ c.withPast p with late } : Client)) herase

theorem stepLate_withPast (c : Client) (hh : 0 < h.generation) :
    ((c.withPast p).stepLate (h.renumber (p.generations + ·))).1 = (c.stepLate h).1.withPast p := by
  cases h with
  | turn g => rfl
  | receive g item => rfl
  | answer g result =>
    have hg : 0 < g := hh
    simp only [Happening.renumber, stepLate, find?_late_withPast p c hg]
    cases hr : c.late.find? (·.generation == g) with
    | none => rfl
    | some r =>
      -- The late requests of the past are older than any of the client's own, so the one found is
      -- shifted.
      have heq : r.generation = g := eq_of_beq (List.find?_some hr :)
      have hpos : 0 < r.generation := heq ▸ hg
      simp only [Option.map_some, forget_withPast p c hpos]
      exact answeredLate_withPast p (c.forget r) r result

/-- **A past changes nothing** in what happens to a client's own generations. -/
theorem step_withPast (c : Client) (hh : 0 < h.generation) :
    ((c.withPast p).step (h.renumber (p.generations + ·))).1 = (c.step h).1.withPast p := by
  have hactive : (c.withPast p).active.filter (·.awaits (h.renumber (p.generations + ·))) =
      (c.active.filter (·.awaits h)).map (·.shift p.generations) := by
    show (c.active.map (·.shift p.generations)).filter _ = _
    rw [Option.filter_map]
    exact congrArg (Option.map _)
      (congrArg c.active.filter (funext fun s => s.awaits_shift p.generations h))
  unfold step
  rw [hactive]
  cases c.active.filter (·.awaits h) with
  | some s => exact c.stepCurrent_withPast p s _ h
  | none => exact c.stepLate_withPast p hh

/-! ### The happenings of the past -/

/-- **What happens to the past changes nothing but the past.** -/
theorem Begun.step_of_past (hc : c.Begun) (hh : h.generation ≤ p.generations) :
    ∃ p' : Past, p'.generations = p.generations ∧ p'.versions = p.versions ∧
      ((c.withPast p).step h).1 = c.withPast p' := by
  have hown (s : Subscription) (hs : 0 < s.generation) : ¬ (s.shift p.generations).awaits h := by
    intro hawaits
    have heq : p.generations + s.generation = h.generation := generation_of_awaits hawaits
    omega
  obtain ⟨s, hs, ha, -⟩ | ⟨r, hr, result, rfl, -, heq⟩ | ⟨-, -, heq⟩ :=
    step_cases (c.withPast p) h
  · obtain ⟨a, hactive, rfl⟩ := Option.map_eq_some_iff.1 hs
    exact absurd ha (hown a (hc.active_pos a hactive))
  · have hr' : r ∈ p.late := by
      rcases List.mem_append.1 hr with hr | hr
      · exact hr
      · obtain ⟨r', hmem, rfl⟩ := List.mem_map.1 hr
        have hpos := hc.late_pos r' hmem
        have hle : p.generations + r'.generation ≤ p.generations := hh
        omega
    have hle := p.late_le r hr'
    have hpos := hc.generation_pos
    refine ⟨p.forget r, rfl, rfl, ?_⟩
    -- Its generation is a past one, for which nothing is written any more.
    have herase : (c.withPast p).forget r = c.withPast (p.forget r) := by
      show ({ c.withPast p with late := (p.late ++ _).erase r } : Client) = _
      rw [List.erase_append_left _ hr']
      rfl
    have hne : (c.withPast (p.forget r)).state.generation ≠ r.generation := by
      show p.generations + c.state.generation ≠ r.generation
      omega
    rw [heq, herase, answeredLate_fst hne]
  · exact ⟨p, rfl, rfl, by rw [heq]⟩

/-- Nothing happens to generation zero. -/
theorem Begun.step_of_zero (hc : c.Begun) (hh : h.generation = 0) : (c.step h).1 = c := by
  obtain ⟨s, hs, ha, -⟩ | ⟨r, hr, result, rfl, -⟩ | ⟨-, -, heq⟩ := step_cases c h
  · have hpos := hc.active_pos s hs
    have heq := generation_of_awaits ha
    omega
  · exact absurd hh (Nat.ne_of_gt (hc.late_pos r hr))
  · rw [heq]

/-! ### Subscribing to another job -/

/-- All that there was before, when the subscription ends. -/
def Coherent.past (hc : c.Coherent) : Past where
  generations := c.state.generation
  versions := c.version
  late := c.teardown.1.late
  late_le _ hl := hc.teardown_late_le hl

/-- **A client that subscribes to a job which it does not know begins anew.** -/
theorem Coherent.subscribe_eq_withPast (hc : c.Coherent) {job : JobId}
    (hj : c.state.job ≠ some job) :
    (c.subscribe job).1 = (initial.subscribe job).1.withPast hc.past := by
  -- The job in the state is the one subscribed to, so a new job is not followed yet.
  have hfollows : c.follows job = false := by
    unfold follows
    split
    · rename_i s hs
      have hne : s.job ≠ job := by
        rintro rfl
        exact hj (hc.job_eq s hs)
      rw [beq_false_of_ne hne]
      rfl
    · rfl
  have hstate : c.state.subscribe job = ⟨some job, .connecting, 0.0, "", c.state.generation + 1⟩ :=
    if_neg hj
  have hdropped := c.teardown_dropped.trans hc.not_dropped
  -- Everything but the generation, the version and the late requests is then written anew.
  have hanew : (c.subscribe job).1 =
      { state := ⟨some job, .connecting, 0.0, "", c.state.generation + 1⟩
        active := some ⟨job, c.state.generation + 1, .fresh⟩
        lastJob := some job
        late := c.teardown.1.late
        version := c.version + 1
        dropped := false } := by
    unfold Client.subscribe
    rw [hfollows]
    simp only [write, teardown_state, teardown_version, hstate, hdropped]
    rfl
  have hlate : c.teardown.1.late ++ (initial.subscribe job).1.late.map
      (·.shift c.state.generation) = c.teardown.1.late := List.append_nil _
  rw [hanew]
  simp only [Client.withPast, Coherent.past, hlate]
  rfl

theorem begun_subscribe_initial (job : JobId) : (initial.subscribe job).1.Begun where
  generation_pos := Nat.succ_pos 0
  active_pos := by
    rintro _ ⟨⟩
    exact Nat.succ_pos 0
  late_pos _ hl := absurd hl List.not_mem_nil

end Client

end Progress

end MachiningViewer
