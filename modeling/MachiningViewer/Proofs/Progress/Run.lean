import MachiningViewer.Progress.Client
import Mathlib.Data.List.Basic

/-!
# Runs of a progress client

A run is a list of inputs: calls of the client's owner and happenings outside, in any order. A call
that is made inside a request for a stream, just before the transport answers it, stands between the
turn of the reader that makes the request and the answer.

`Client.Coherent` is what ties the parts of a client together: the phase of the state is where the
reader of the current subscription is, the generation and the job are that subscription's, and the
late requests are of the past. Every run without a drop keeps it (`coherent_run`). It is also what
makes the late requests harmless (`answeredLate_fst`).
-/

namespace MachiningViewer

/-- What the steps of a run bring about, one after the other. -/
def gather {σ ι α : Type*} (next : σ → ι → σ) (f : σ → ι → List α) : σ → List ι → List α
  | _, [] => []
  | s, i :: is => f s i ++ gather next f (next s i) is

theorem gather_append {σ ι α : Type*} (next : σ → ι → σ) (f : σ → ι → List α) (s : σ)
    (is js : List ι) :
    gather next f s (is ++ js) = gather next f s is ++ gather next f (is.foldl next s) js := by
  induction is generalizing s with
  | nil => rfl
  | cons i is ih => simp only [List.cons_append, gather, ih, List.append_assoc, List.foldl_cons]

theorem gather_mono {σ ι α : Type*} (next : σ → ι → σ) (f : σ → ι → List α) (s : σ)
    {is js : List ι} (h : is <+: js) : gather next f s is <+: gather next f s js := by
  obtain ⟨rest, rfl⟩ := h
  rw [gather_append]
  exact List.prefix_append ..

@[simp]
theorem gather_singleton {σ ι α : Type*} (next : σ → ι → σ) (f : σ → ι → List α) (s : σ) (i : ι) :
    gather next f s [i] = f s i :=
  List.append_nil _

theorem mem_gather {σ ι α : Type*} {next : σ → ι → σ} {f : σ → ι → List α} {s : σ} {is : List ι}
    {x : α} (hx : x ∈ gather next f s is) :
    ∃ pre i post, is = pre ++ i :: post ∧ x ∈ f (pre.foldl next s) i := by
  induction is generalizing s with
  | nil => cases hx
  | cons i is ih =>
    rcases List.mem_append.1 hx with hx | hx
    · exact ⟨[], i, is, rfl, hx⟩
    · obtain ⟨pre, j, post, rfl, hj⟩ := ih hx
      exact ⟨i :: pre, j, post, rfl, hj⟩

namespace Progress

/-- What a client is given in one step of a run. -/
inductive Input where
  | call (k : Call)
  | happening (h : Happening)

/-- The generation whose reader something happens to. -/
def Happening.generation : Happening → Nat
  | .turn generation | .answer generation _ | .receive generation _ => generation

/-- What an item makes of the state of its generation, if it makes anything of it. -/
def Item.change? : Item → Option (State → State)
  | .message payload => (Event.decode? payload).map fun e s => s.apply e
  | .failure _ | .ending => some fun s => { s with phase := .disconnected }

namespace State

@[simp]
theorem subscribe_generation (s : State) (job : JobId) :
    (s.subscribe job).generation = s.generation + 1 := by
  unfold subscribe; split <;> rfl

@[simp]
theorem subscribe_job (s : State) (job : JobId) : (s.subscribe job).job = some job := by
  unfold subscribe; split
  · assumption
  · rfl

@[simp]
theorem subscribe_phase (s : State) (job : JobId) : (s.subscribe job).phase = .connecting := by
  unfold subscribe; split <;> rfl

end State

namespace Reader

/-- The phase in which a client is whose reader is there. -/
def phase : Reader → Phase
  | .fresh | .opening => .connecting
  | .reading _ => .live
  | .finished => .disconnected

/-- Where a reader can go in one step. -/
inductive Moves : Reader → Reader → Prop
  | request : Moves .fresh .opening
  | start (stream : StreamId) : Moves .opening (.reading stream)
  | giveUp : Moves .opening .finished
  | readOn (stream : StreamId) : Moves (.reading stream) (.reading stream)
  | stop (stream : StreamId) : Moves (.reading stream) .finished

end Reader

namespace Client

/-- The client's step for an input. -/
def react (c : Client) : Input → Client × List Effect
  | .call k => c.call k
  | .happening h => c.step h

/-- The client after an input. -/
def after (c : Client) (i : Input) : Client :=
  (c.react i).1

/-- The client after a run. -/
def run (c : Client) (is : List Input) : Client :=
  is.foldl after c

theorem run_append (c : Client) (is js : List Input) : c.run (is ++ js) = (c.run is).run js :=
  List.foldl_append

@[simp]
theorem run_cons (c : Client) (i : Input) (is : List Input) :
    c.run (i :: is) = (c.after i).run is :=
  rfl

/-! ### What the operations do -/

variable {c : Client} {s : Subscription} {h : Happening}

theorem generation_of_awaits (hs : s.awaits h) : s.generation = h.generation := by
  cases h <;> exact eq_of_beq (Bool.and_eq_true_iff.1 hs).1

theorem call_of_not_dropped (hn : c.dropped = false) (k : Call) :
    c.call k = match k with
      | .subscribe job => c.subscribe job
      | .unsubscribe => c.unsubscribe
      | .resubscribe => c.resubscribe
      | .drop => c.drop := by
  unfold call
  rw [hn]
  rfl

/-- Nobody hears of the calls of an owner who is gone. -/
theorem call_of_dropped (hd : c.dropped) (k : Call) : c.call k = (c, []) :=
  if_pos hd

@[simp]
theorem teardown_state (c : Client) : c.teardown.1.state = c.state := by
  unfold teardown; split <;> rfl

@[simp]
theorem teardown_active (c : Client) : c.teardown.1.active = none := by
  unfold teardown; split
  · assumption
  · rfl

@[simp]
theorem teardown_dropped (c : Client) : c.teardown.1.dropped = c.dropped := by
  unfold teardown; split <;> rfl

/-- A subscription that is made anew starts from the state that the teardown has left. -/
theorem subscribe_state {job : JobId} (hf : ¬ c.follows job) :
    (c.subscribe job).1.state = c.state.subscribe job := by
  unfold subscribe
  rw [if_neg hf]
  exact congrArg (·.subscribe job) c.teardown_state

theorem request?_eq_some_iff {r : Request} :
    s.request? = some r ↔ s.reader = .opening ∧ r = ⟨s.job, s.generation⟩ := by
  unfold Subscription.request?
  split
  · rename_i hr
    rw [hr, Option.some.injEq]
    exact ⟨fun h => ⟨rfl, h.symm⟩, fun h => h.2.symm⟩
  · rename_i hr
    exact iff_of_false (Option.some_ne_none r).symm fun h => hr h.1

/-- What is late after a teardown was late before, or is the request of the subscription that has
ended. -/
theorem mem_teardown_late {r : Request} (hr : r ∈ c.teardown.1.late) :
    r ∈ c.late ∨ ∃ s, c.active = some s ∧ s.request? = some r := by
  unfold teardown at hr
  split at hr
  · exact .inl hr
  · rename_i s hs
    rcases List.mem_append.1 hr with hr | hr
    · exact .inl hr
    · exact .inr ⟨s, hs, Option.mem_toList.1 hr⟩

theorem writeCurrent_of_ne {g : Nat} (f : State → State) (hg : c.state.generation ≠ g) :
    c.writeCurrent g f = (c, []) :=
  if_neg hg

theorem writeCurrent_of_eq {g : Nat} (f : State → State) (hg : c.state.generation = g) :
    c.writeCurrent g f = (c.write (f c.state), [.announce]) :=
  if_pos hg

/-- What a reader hears changes its client as a write of its generation does, or not at all. -/
theorem hear_fst (c : Client) (s : Subscription) (item : Item) :
    (c.hear s item).1 = match item.change? with
      | some f => (c.writeCurrent s.generation f).1
      | none => c := by
  cases item with
  | message payload =>
    simp only [hear, Item.change?]
    cases Event.decode? payload with
    | none => rfl
    | some e =>
      show _ = (c.writeCurrent s.generation fun st => st.apply e).1
      unfold writeCurrent
      simp only
      split <;> rfl
  | failure e => rfl
  | ending => rfl

/-- **Nothing but the current generation changes a client.** The answer to a late request may still
be reported, and its stream is given back, but nothing is written. -/
theorem answeredLate_fst {r : Request} (hg : c.state.generation ≠ r.generation)
    (result : Except TransportError StreamId) : (c.answeredLate r result).1 = c := by
  cases result with
  | ok stream => rfl
  | error e => simp only [answeredLate, refused, disconnect, writeCurrent_of_ne _ hg]

theorem step_of_awaits (hs : c.active = some s) (ha : s.awaits h) :
    c.step h = c.stepCurrent s h := by
  have hfilter : c.active.filter (·.awaits h) = some s := Option.filter_eq_some_iff.2 ⟨hs, ha⟩
  unfold step
  rw [hfilter]

/-- **What a happening can be.** It happens to the current subscription, or it answers a late
request, which is late no more, or it happens to nobody. -/
theorem step_cases (c : Client) (h : Happening) :
    (∃ s, c.active = some s ∧ s.awaits h ∧ c.step h = c.stepCurrent s h) ∨
    (∃ r ∈ c.late, ∃ result, h = .answer r.generation result ∧
      (∀ s, c.active = some s → ¬ s.awaits h) ∧ c.step h = (c.forget r).answeredLate r result) ∨
    ((∀ s, c.active = some s → ¬ s.awaits h) ∧
      (∀ r ∈ c.late, ∀ result, h ≠ .answer r.generation result) ∧ c.step h = (c, [])) := by
  unfold step
  -- A happening goes to the reader in force when it awaits it, and to a late request otherwise.
  cases hs : c.active.filter (·.awaits h) with
  | some s =>
    obtain ⟨hs, ha⟩ := Option.filter_eq_some_iff.1 hs
    exact .inl ⟨s, hs, ha, rfl⟩
  | none =>
    have hnot : ∀ s, c.active = some s → ¬ s.awaits h :=
      fun s hs' => Option.filter_eq_none_iff.1 hs s hs'
    cases h with
    | turn g => exact .inr (.inr ⟨hnot, nofun, rfl⟩)
    | receive g item => exact .inr (.inr ⟨hnot, nofun, rfl⟩)
    | answer g result =>
      simp only [stepLate]
      cases hr : c.late.find? (·.generation == g) with
      | some r =>
        have hg : r.generation = g := eq_of_beq (List.find?_some hr :)
        exact .inr (.inl ⟨r, List.mem_of_find?_eq_some hr, result, by rw [hg], hnot, rfl⟩)
      | none =>
        refine .inr (.inr ⟨hnot, fun r hmem result' heq => ?_, rfl⟩)
        cases heq
        exact List.find?_eq_none.1 hr r hmem (beq_self_eq_true _)

/-! ### Coherence -/

/-- The parts of a client fit together. -/
structure Coherent (c : Client) : Prop where
  generation_eq : ∀ s, c.active = some s → c.state.generation = s.generation
  job_eq : ∀ s, c.active = some s → c.state.job = some s.job
  lastJob_eq : ∀ s, c.active = some s → c.lastJob = some s.job
  phase_eq : ∀ s, c.active = some s → c.state.phase = s.reader.phase
  phase_of_none : c.active = none → c.state.phase = .idle ∨ c.state.phase = .terminal
  late_lt : ∀ r ∈ c.late, r.generation < c.state.generation
  not_dropped : c.dropped = false

theorem coherent_initial : initial.Coherent where
  generation_eq _ hs := nomatch hs
  job_eq _ hs := nomatch hs
  lastJob_eq _ hs := nomatch hs
  phase_eq _ hs := nomatch hs
  phase_of_none _ := .inl rfl
  late_lt _ hr := nomatch hr
  not_dropped := rfl

/-- After a teardown the generation of the state is still as high as any that is late. -/
theorem Coherent.teardown_late_le (hc : c.Coherent) {r : Request} (hr : r ∈ c.teardown.1.late) :
    r.generation ≤ c.state.generation := by
  rcases mem_teardown_late hr with hr | ⟨s, hs, hr⟩
  · exact Nat.le_of_lt (hc.late_lt r hr)
  · rw [(request?_eq_some_iff.1 hr).2]
    exact Nat.le_of_eq (hc.generation_eq s hs).symm

/-! ### Coherence is kept -/

/-- What a reader hears leaves its client's job, generation and subscriptions alone. The phase is
over after anything but a message. -/
theorem hear_of_eq (item : Item) (hg : c.state.generation = s.generation) :
    ∃ st v, (c.hear s item).1 = { c with state := st, version := v } ∧
      st.generation = c.state.generation ∧ st.job = c.state.job ∧
      st.phase = if c.readsOn s item then c.state.phase else .disconnected := by
  cases item with
  | message payload =>
    have hon : c.readsOn s (.message payload) = true := by simp [readsOn, hg]
    rw [hon]
    simp only [hear]
    split
    · exact ⟨c.state, c.version, rfl, rfl, rfl, rfl⟩
    · rename_i e _
      rw [if_pos hg]
      exact ⟨c.state.apply e, c.version + 1, rfl, rfl, rfl, rfl⟩
  | failure e =>
    simp only [hear, disconnect, writeCurrent_of_eq _ hg]
    exact ⟨_, c.version + 1, rfl, rfl, rfl, rfl⟩
  | ending =>
    simp only [hear, disconnect, writeCurrent_of_eq _ hg]
    exact ⟨_, c.version + 1, rfl, rfl, rfl, rfl⟩

/-- **What the reader of the current subscription does with what it waits for.** It moves, and the
phase of the state goes with it. -/
theorem Coherent.stepCurrent (hc : c.Coherent) (hs : c.active = some s) (ha : s.awaits h) :
    ∃ r st v, (c.stepCurrent s h).1 =
        { c with active := some { s with reader := r }, state := st, version := v } ∧
      s.reader.Moves r ∧ st.phase = r.phase ∧ st.generation = c.state.generation ∧
      st.job = c.state.job := by
  have hg := hc.generation_eq s hs
  have hp := hc.phase_eq s hs
  -- The reader awaits the happening, so its place in the stream is the one the happening is for,
  -- and the writes find the generation unchanged.
  cases h with
  | turn g =>
    have hr : s.reader = .fresh := eq_of_beq (Bool.and_eq_true_iff.1 ha).2
    refine ⟨.opening, c.state, c.version, rfl, ?_, ?_, rfl, rfl⟩
    · rw [hr]; exact .request
    · rw [hp, hr]; rfl
  | answer g result =>
    have hr : s.reader = .opening := eq_of_beq (Bool.and_eq_true_iff.1 ha).2
    rw [hr]
    cases result with
    | ok stream =>
      simp only [Client.stepCurrent, opened, if_pos hg]
      exact ⟨.reading stream, _, _, rfl, .start stream, rfl, rfl, rfl⟩
    | error e =>
      have hg' : (c.withReader s .finished).state.generation = s.generation := hg
      simp only [Client.stepCurrent, opened, refused, disconnect, writeCurrent_of_eq _ hg']
      exact ⟨.finished, _, _, rfl, .giveUp, rfl, rfl, rfl⟩
  | receive g item =>
    obtain ⟨stream, hr⟩ : ∃ stream, s.reader = .reading stream := by
      have := (Bool.and_eq_true_iff.1 ha).2
      unfold Subscription.stream? at this
      split at this
      · exact ⟨_, by assumption⟩
      · exact absurd this (by simp)
    -- Reading on keeps the phase, and stopping disconnects: `hear_of_eq` says which.
    obtain ⟨st, v, heq, hgen, hjob, hph⟩ := hear_of_eq item hg
    simp only [Client.stepCurrent, received, heq]
    split
    · rename_i hon
      rw [if_pos hon, hp, hr] at hph
      refine ⟨s.reader, st, v, ?_, ?_, ?_, hgen, hjob⟩
      · rw [hs]
      · rw [hr]; exact .readOn stream
      · rw [hr]; exact hph
    · rename_i hon
      rw [if_neg hon] at hph
      refine ⟨.finished, st, v, rfl, ?_, hph, hgen, hjob⟩
      rw [hr]; exact .stop stream

/-- **What a happening does to a coherent client.** It moves the reader of the current subscription,
and the phase with it, or it changes nothing but what is late. -/
theorem Coherent.step_cases (hc : c.Coherent) (h : Happening) :
    (∃ s r st v, c.active = some s ∧ s.generation = h.generation ∧ (c.step h).1 =
        { c with active := some { s with reader := r }, state := st, version := v } ∧
      s.reader.Moves r ∧ st.phase = r.phase ∧ st.generation = c.state.generation ∧
      st.job = c.state.job) ∨
    ∃ late, late.Sublist c.late ∧ (c.step h).1 = { c with late } := by
  obtain ⟨s, hs, ha, heq⟩ | ⟨r, hr, result, -, -, heq⟩ | ⟨-, -, heq⟩ := Client.step_cases c h
  · obtain ⟨r, st, v, hst, hmoves⟩ := hc.stepCurrent hs ha
    exact .inl ⟨s, r, st, v, hs, generation_of_awaits ha, by rw [heq, hst], hmoves⟩
  · -- The refusal of a late request is written only for its generation, which is a past one.
    have hlt := hc.late_lt r hr
    refine .inr ⟨c.late.erase r, List.erase_sublist, ?_⟩
    rw [heq]
    exact answeredLate_fst (c := c.forget r) (Nat.ne_of_gt hlt) result
  · exact .inr ⟨c.late, List.Sublist.refl _, by rw [heq]⟩

theorem Coherent.step (hc : c.Coherent) (h : Happening) : (c.step h).1.Coherent := by
  obtain ⟨s, r, st, v, hs, -, heq, -, hph, hgen, hjob⟩ | ⟨late, hsub, heq⟩ := hc.step_cases h
  · rw [heq]
    constructor
    · rintro _ ⟨⟩; exact hgen.trans (hc.generation_eq s hs)
    · rintro _ ⟨⟩; exact hjob.trans (hc.job_eq s hs)
    · rintro _ ⟨⟩; exact hc.lastJob_eq s hs
    · rintro _ ⟨⟩; exact hph
    · intro hn; exact nomatch hn
    · intro l hl
      have := hc.late_lt l hl
      exact hgen ▸ this
    · exact hc.not_dropped
  · -- A late answer changes the list of late requests at most, and only by taking from it.
    rw [heq]
    exact { hc with late_lt := fun l hl => hc.late_lt l (hsub.subset hl) }

/-- A client that has just subscribed: the generation is new, and the reader waits for its turn. -/
theorem Coherent.subscribe (hc : c.Coherent) (job : JobId) : (c.subscribe job).1.Coherent := by
  unfold Client.subscribe
  split
  · exact hc
  · constructor
    · rintro _ ⟨⟩; rfl
    · rintro _ ⟨⟩; exact State.subscribe_job ..
    · rintro _ ⟨⟩; rfl
    · rintro _ ⟨⟩; exact State.subscribe_phase ..
    · intro hn; exact nomatch hn
    · -- The subscription that has ended may be late now. Its generation is the one before.
      intro l hl
      show l.generation < (c.teardown.1.state.subscribe job).generation
      rw [State.subscribe_generation, teardown_state]
      exact Nat.lt_succ_of_le (hc.teardown_late_le hl)
    · exact (teardown_dropped c).trans hc.not_dropped

theorem Coherent.unsubscribe (hc : c.Coherent) : c.unsubscribe.1.Coherent := by
  have hnone : c.unsubscribe.1.active = none := teardown_active c
  constructor
  · intro s hs; rw [hnone] at hs; cases hs
  · intro s hs; rw [hnone] at hs; cases hs
  · intro s hs; rw [hnone] at hs; cases hs
  · intro s hs; rw [hnone] at hs; cases hs
  · intro _; exact .inr rfl
  · intro l hl
    show l.generation < c.teardown.1.state.generation + 1
    rw [teardown_state]
    exact Nat.lt_succ_of_le (hc.teardown_late_le hl)
  · exact (teardown_dropped c).trans hc.not_dropped

theorem Coherent.resubscribe (hc : c.Coherent) : c.resubscribe.1.Coherent := by
  unfold Client.resubscribe
  split
  · exact hc.subscribe _
  · exact hc

/-- **Coherence is kept** by every input but the drop of the client, which leaves the phase as it
was. -/
theorem Coherent.after (hc : c.Coherent) {i : Input} (hi : i ≠ .call .drop) :
    (c.after i).Coherent := by
  cases i with
  | happening h => exact hc.step h
  | call k =>
    show (c.call k).1.Coherent
    rw [call_of_not_dropped hc.not_dropped]
    cases k with
    | subscribe job => exact hc.subscribe job
    | unsubscribe => exact hc.unsubscribe
    | resubscribe => exact hc.resubscribe
    | drop => exact absurd rfl hi

theorem Coherent.run (hc : c.Coherent) {is : List Input} (hd : .call .drop ∉ is) :
    (c.run is).Coherent :=
  List.foldlRecOn is Client.after hc fun _ hc _ hi => hc.after fun he => hd (he ▸ hi)

theorem coherent_run {is : List Input} (hd : .call .drop ∉ is) : (initial.run is).Coherent :=
  coherent_initial.run hd

/-! ### Generations only grow -/

theorem generation_subscribe {job : JobId} (hf : ¬ c.follows job) :
    (c.subscribe job).1.state.generation = c.state.generation + 1 := by
  rw [subscribe_state hf, State.subscribe_generation]

theorem generation_le_subscribe (c : Client) (job : JobId) :
    c.state.generation ≤ (c.subscribe job).1.state.generation := by
  by_cases hf : c.follows job
  · have heq : c.subscribe job = (c, []) := if_pos hf
    exact Nat.le_of_eq (congrArg (·.1.state.generation) heq).symm
  · rw [generation_subscribe hf]
    exact Nat.le_succ _

theorem generation_le_resubscribe (c : Client) :
    c.state.generation ≤ c.resubscribe.1.state.generation := by
  unfold Client.resubscribe
  split
  · exact c.generation_le_subscribe _
  · exact Nat.le_refl _

theorem generation_unsubscribe (c : Client) :
    c.unsubscribe.1.state.generation = c.state.generation + 1 :=
  congrArg (·.generation + 1) c.teardown_state

theorem Coherent.generation_step (hc : c.Coherent) (h : Happening) :
    (c.step h).1.state.generation = c.state.generation := by
  obtain ⟨s, r, st, v, -, -, heq, -, -, hgen, -⟩ | ⟨late, -, heq⟩ := hc.step_cases h
  · rw [heq]
    exact hgen
  · rw [heq]

/-! ### What is written is announced -/

/-- From one client to the other, the state has been written with a new version, or it is the same.
-/
def Announced (c c' : Client) : Prop :=
  c'.state = c.state ∧ c'.version = c.version ∨ c.version < c'.version

theorem writeCurrent_announced (c : Client) (g : Nat) (f : State → State) :
    c.Announced (c.writeCurrent g f).1 := by
  unfold writeCurrent
  split
  · exact .inr (Nat.lt_succ_self _)
  · exact .inl ⟨rfl, rfl⟩

theorem disconnect_announced (c : Client) (g : Nat) : c.Announced (c.disconnect g).1 :=
  c.writeCurrent_announced g _

theorem hear_announced (c : Client) (s : Subscription) (item : Item) :
    c.Announced (c.hear s item).1 := by
  rw [hear_fst]
  split
  · exact c.writeCurrent_announced ..
  · exact .inl ⟨rfl, rfl⟩

theorem stepCurrent_announced (c : Client) (s : Subscription) (h : Happening) :
    c.Announced (c.stepCurrent s h).1 := by
  cases h with
  | turn g => exact .inl ⟨rfl, rfl⟩
  | answer g result =>
    cases result with
    | ok stream =>
      simp only [stepCurrent, opened]
      split
      · exact .inr (Nat.lt_succ_self _)
      · exact .inl ⟨rfl, rfl⟩
    | error e => exact (c.withReader s .finished).disconnect_announced s.generation
  | receive g item =>
    have hhear := c.hear_announced s item
    simp only [stepCurrent, received]
    split
    · exact hhear
    · exact hhear

theorem answeredLate_announced (c : Client) (r : Request)
    (result : Except TransportError StreamId) : c.Announced (c.answeredLate r result).1 := by
  cases result with
  | ok stream => exact .inl ⟨rfl, rfl⟩
  | error e => exact c.disconnect_announced r.generation

/-- **No happening changes the state unannounced.** -/
theorem step_announced (c : Client) (h : Happening) : c.Announced (c.step h).1 := by
  obtain ⟨s, -, -, heq⟩ | ⟨r, -, result, -, -, heq⟩ | ⟨-, -, heq⟩ := step_cases c h
  · rw [heq]
    exact c.stepCurrent_announced s h
  · rw [heq]
    exact (c.forget r).answeredLate_announced r result
  · rw [heq]
    exact .inl ⟨rfl, rfl⟩

@[simp]
theorem teardown_version (c : Client) : c.teardown.1.version = c.version := by
  unfold teardown; split <;> rfl

theorem subscribe_announced (c : Client) (job : JobId) : c.Announced (c.subscribe job).1 := by
  unfold Client.subscribe
  split
  · exact .inl ⟨rfl, rfl⟩
  · right
    show c.version < c.teardown.1.version + 1
    rw [teardown_version]
    exact Nat.lt_succ_self _

end Client

end Progress

end MachiningViewer
