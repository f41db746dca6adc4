import MachiningViewer.Proofs.Progress.Run

/-!
# Ended subscriptions and the client

Things may still happen to a subscription that has ended: its stream may be opened after all, or be
refused, and its former transport may go on sending. None of it reaches the state of the client: two
runs with the same calls and the same happenings to the current subscription go through the same
states, whatever else happens in either (`state_eq_of_ongoing_eq`).

The proof forgets the late requests. A client without them (`settled`) does the same to its state as
the client itself, for every input but a drop (`Coherent.settled_after`), and a happening to an
ended subscription is none for it (`Coherent.settled_after_of_isStale`). So these happenings can be
left out of a run one by one.
-/

namespace MachiningViewer.Progress.Client

variable {c c' : Client} {s : Subscription} {h : Happening} {i : Input} {is js : List Input}

/-! ### Clients without late requests -/

/-- The client without its late requests. -/
def settled (c : Client) : Client :=
  { c with late := [] }

theorem settled_subscribe (c : Client) (job : JobId) :
    (c.settled.subscribe job).1.settled = (c.subscribe job).1.settled := by
  by_cases hf : c.follows job
  · rw [show c.settled.subscribe job = (c.settled, []) from if_pos hf,
      show c.subscribe job = (c, []) from if_pos hf]
    rfl
  · have hf' : ¬ c.settled.follows job := hf
    unfold subscribe
    rw [if_neg hf, if_neg hf']
    obtain ⟨state, active, lastJob, late, version, dropped⟩ := c
    cases active <;> rfl

theorem settled_resubscribe (c : Client) :
    c.settled.resubscribe.1.settled = c.resubscribe.1.settled := by
  obtain ⟨state, active, lastJob, late, version, dropped⟩ := c
  cases lastJob with
  | none => rfl
  | some job => exact settled_subscribe _ job

theorem settled_unsubscribe (c : Client) :
    c.settled.unsubscribe.1.settled = c.unsubscribe.1.settled := by
  obtain ⟨state, active, lastJob, late, version, dropped⟩ := c
  cases active <;> rfl

theorem settled_drop (c : Client) : c.settled.drop.1.settled = c.drop.1.settled := by
  obtain ⟨state, active, lastJob, late, version, dropped⟩ := c
  cases active <;> rfl

theorem settled_call (c : Client) (k : Call) :
    (c.settled.call k).1.settled = (c.call k).1.settled := by
  by_cases hd : c.dropped
  · have hd' : c.settled.dropped := hd
    simp only [call, if_pos hd, if_pos hd']
    rfl
  · have hd' : ¬ c.settled.dropped := hd
    simp only [call, if_neg hd, if_neg hd']
    cases k with
    | subscribe job => exact c.settled_subscribe job
    | unsubscribe => exact c.settled_unsubscribe
    | resubscribe => exact c.settled_resubscribe
    | drop => exact c.settled_drop

theorem settled_writeCurrent (c : Client) (g : Nat) (f : State → State) :
    (c.settled.writeCurrent g f).1 = (c.writeCurrent g f).1.settled := by
  by_cases hg : c.state.generation = g
  · have hg' : c.settled.state.generation = g := hg
    rw [writeCurrent_of_eq f hg, writeCurrent_of_eq f hg']
    rfl
  · have hg' : c.settled.state.generation ≠ g := hg
    rw [writeCurrent_of_ne f hg, writeCurrent_of_ne f hg']

theorem settled_disconnect (c : Client) (g : Nat) :
    (c.settled.disconnect g).1 = (c.disconnect g).1.settled :=
  c.settled_writeCurrent g _

theorem settled_hear (c : Client) (s : Subscription) (item : Item) :
    (c.settled.hear s item).1 = (c.hear s item).1.settled := by
  rw [hear_fst, hear_fst]
  split
  · exact c.settled_writeCurrent s.generation _
  · rfl

/-- The reader of the current subscription does not look at the late ones. -/
theorem settled_stepCurrent (c : Client) (s : Subscription) (h : Happening) :
    (c.settled.stepCurrent s h).1 = (c.stepCurrent s h).1.settled := by
  cases h with
  | turn g => rfl
  | answer g result =>
    cases result with
    | ok stream =>
      -- Settling forgets the late requests only, so both clients compare the same generations.
      by_cases hg : c.state.generation = s.generation
      · have hg' : c.settled.state.generation = s.generation := hg
        simp only [stepCurrent, opened, if_pos hg, if_pos hg']
        rfl
      · have hg' : ¬ c.settled.state.generation = s.generation := hg
        simp only [stepCurrent, opened, if_neg hg, if_neg hg']
        rfl
    | error e => exact settled_disconnect (c.withReader s .finished) s.generation
  | receive g item =>
    have hhear := settled_hear c s item
    have hon : c.settled.readsOn s item = c.readsOn s item := by cases item <;> rfl
    simp only [stepCurrent, received, hon]
    split
    · exact hhear
    · show (c.settled.hear s item).1.withReader s .finished = _
      rw [hhear]
      rfl

/-- Nothing but the reader of the current subscription is left for a happening to happen to. -/
theorem settled_step (c : Client) (h : Happening) :
    c.settled.step h = match c.active.filter (·.awaits h) with
      | some s => c.settled.stepCurrent s h
      | none => (c.settled, []) := by
  unfold step
  cases hs : c.active.filter (·.awaits h) with
  | some s => rw [show c.settled.active.filter (·.awaits h) = some s from hs]
  | none =>
    rw [show c.settled.active.filter (·.awaits h) = none from hs]
    cases h <;> rfl

/-- **The late requests can be forgotten at any time.** -/
theorem Coherent.settled_after (hc : c.Coherent) (i : Input) :
    (c.settled.after i).settled = (c.after i).settled := by
  cases i with
  | call k => exact c.settled_call k
  | happening h =>
    show (c.settled.step h).1.settled = (c.step h).1.settled
    rw [settled_step]
    obtain ⟨s, hs, ha, heq⟩ | ⟨r, hr, result, -, hnot, heq⟩ | ⟨hnot, -, heq⟩ :=
      Client.step_cases c h
    · rw [Option.filter_eq_some_iff.2 ⟨hs, ha⟩, heq]
      show (c.settled.stepCurrent s h).1.settled = _
      rw [settled_stepCurrent]
      rfl
    · -- The settled client knows nothing of the request, and the answer to it changes nothing.
      have hlt := hc.late_lt r hr
      have hlate : ((c.forget r).answeredLate r result).1 = c.forget r :=
        answeredLate_fst (c := c.forget r) (Nat.ne_of_gt hlt) result
      rw [Option.filter_eq_none_iff.2 hnot, heq, hlate]
      rfl
    · rw [Option.filter_eq_none_iff.2 hnot, heq]
      rfl

/-- Clients that differ in their late requests differ in nothing else after an input. -/
theorem Coherent.settled_after_congr (hc : c.Coherent) (hc' : c'.Coherent)
    (heq : c.settled = c'.settled) (i : Input) : (c.after i).settled = (c'.after i).settled := by
  rw [← hc.settled_after, heq, hc'.settled_after]

/-! ### Inputs that are of no concern -/

/-- Does the input happen to a subscription other than the current one? -/
def isStale (c : Client) : Input → Bool
  | .call _ => false
  | .happening h => !c.active.any (·.generation == h.generation)

/-- A run without what happens to subscriptions that are not the current one at the time. -/
def ongoing (c : Client) (is : List Input) : List Input :=
  gather after (fun c i => if c.isStale i then [] else [i]) c is

theorem ongoing_cons_of_isStale (hi : c.isStale i) :
    c.ongoing (i :: is) = (c.after i).ongoing is := by
  show (if c.isStale i then [] else [i]) ++ (c.after i).ongoing is = _
  rw [if_pos hi]
  rfl

theorem ongoing_cons_of_not_isStale (hi : ¬ c.isStale i) :
    c.ongoing (i :: is) = i :: (c.after i).ongoing is := by
  show (if c.isStale i then [] else [i]) ++ (c.after i).ongoing is = _
  rw [if_neg hi]
  rfl

/-- **What happens to a subscription that is not the current one changes only what is late.** -/
theorem Coherent.settled_after_of_isStale (hc : c.Coherent) (hi : c.isStale i) :
    (c.after i).settled = c.settled := by
  cases i with
  | call k => exact nomatch hi
  | happening h =>
    obtain ⟨s, -, -, -, hs, hg, -⟩ | ⟨late, -, heq⟩ := hc.step_cases h
    · simp [isStale, hs, hg] at hi
    · show (c.step h).1.settled = c.settled
      rw [heq]
      rfl

/-- A run comes to the same client without the inputs that are of no concern. -/
theorem Coherent.settled_run_ongoing (hc : c.Coherent) (hc' : c'.Coherent)
    (heq : c.settled = c'.settled) (hd : .call .drop ∉ is) :
    (c.run is).settled = (c'.run (c.ongoing is)).settled := by
  induction is generalizing c c' with
  | nil => exact heq
  | cons i is ih =>
    obtain ⟨hi, hd⟩ := not_or.1 (mt List.mem_cons.2 hd)
    have hca := hc.after (Ne.symm hi)
    rw [run_cons]
    by_cases hs : c.isStale i
    · rw [ongoing_cons_of_isStale hs]
      exact ih hca hc' ((hc.settled_after_of_isStale hs).trans heq) hd
    · rw [ongoing_cons_of_not_isStale hs, run_cons]
      exact ih hca (hc'.after (Ne.symm hi)) (hc.settled_after_congr hc' heq i) hd

/-! ### Two runs -/

/-- All calls of a run are of concern. -/
theorem call_mem_ongoing {k : Call} (hk : .call k ∈ is) : .call k ∈ c.ongoing is := by
  induction is generalizing c with
  | nil => cases hk
  | cons i is ih =>
    by_cases hs : c.isStale i
    · rw [ongoing_cons_of_isStale hs]
      rcases List.mem_cons.1 hk with rfl | hk
      · -- A call is never stale.
        exact nomatch hs
      · exact ih hk
    · rw [ongoing_cons_of_not_isStale hs]
      rcases List.mem_cons.1 hk with rfl | hk
      · exact List.mem_cons_self
      · exact List.mem_cons_of_mem _ (ih hk)

theorem mem_of_mem_ongoing (hi : i ∈ c.ongoing is) : i ∈ is := by
  induction is generalizing c with
  | nil => cases hi
  | cons j is ih =>
    by_cases hs : c.isStale j
    · rw [ongoing_cons_of_isStale hs] at hi
      exact List.mem_cons_of_mem _ (ih hi)
    · rw [ongoing_cons_of_not_isStale hs] at hi
      rcases List.mem_cons.1 hi with rfl | hi
      · exact List.mem_cons_self
      · exact List.mem_cons_of_mem _ (ih hi)

/-- What is of concern in a run comes one by one. -/
theorem exists_prefix_of_ongoing {p : List Input} (hp : p <+: c.ongoing is) :
    ∃ pre, pre <+: is ∧ c.ongoing pre = p := by
  induction is generalizing c p with
  | nil => exact ⟨[], List.prefix_rfl, (List.prefix_nil.1 hp).symm⟩
  | cons i is ih =>
    by_cases hs : c.isStale i
    · -- A stale happening is in the run but not in what is ongoing: the prefix of the run takes it
      -- along.
      rw [ongoing_cons_of_isStale hs] at hp
      obtain ⟨pre, hpre, rfl⟩ := ih hp
      exact ⟨i :: pre, (List.prefix_cons_inj i).2 hpre, ongoing_cons_of_isStale hs⟩
    · rw [ongoing_cons_of_not_isStale hs] at hp
      rcases List.prefix_cons_iff.1 hp with rfl | ⟨t, rfl, ht⟩
      · exact ⟨[], List.nil_prefix, rfl⟩
      · obtain ⟨pre, hpre, rfl⟩ := ih ht
        exact ⟨i :: pre, (List.prefix_cons_inj i).2 hpre, ongoing_cons_of_not_isStale hs⟩

/-- **Ended subscriptions have no influence on the state.** Take two runs without a drop that have
the same calls and the same happenings to the subscription that is the current one at the time, but
differ in any way in what happens to the subscriptions that have ended. Then each moment of one run
has its counterpart in the other, and at counterparts the states are the same. -/
theorem state_eq_of_ongoing_eq (hd : .call .drop ∉ is)
    (heq : initial.ongoing is = initial.ongoing js) :
    (∀ pre, pre <+: is → ∃ pre', pre' <+: js ∧ initial.ongoing pre' = initial.ongoing pre) ∧
      ∀ pre pre', pre <+: is → pre' <+: js → initial.ongoing pre = initial.ongoing pre' →
        (initial.run pre).state = (initial.run pre').state := by
  -- A drop would be of concern, so the other run has none either.
  have hd' : .call .drop ∉ js := fun hj => hd (mem_of_mem_ongoing (heq ▸ call_mem_ongoing hj))
  constructor
  · intro pre hpre
    have hprefix := gather_mono after (fun c i => if c.isStale i then [] else [i]) initial hpre
    exact exists_prefix_of_ongoing (heq ▸ hprefix)
  · intro pre pre' hpre hpre' hong
    have hrun {p : List Input} (hp : .call .drop ∉ p) :=
      coherent_initial.settled_run_ongoing coherent_initial rfl hp
    have hsettled : (initial.run pre).settled = (initial.run pre').settled := by
      rw [hrun fun h => hd (hpre.subset h), hrun fun h => hd' (hpre'.subset h), hong]
    show (initial.run pre).settled.state = (initial.run pre').settled.state
    rw [hsettled]

/-- A run that turns to another job while the first stream is being opened, and what comes late. -/
def turningAway (late : List Input) : List Input :=
  [.call (.subscribe 1), .happening (.turn 1), .call (.subscribe 2), .happening (.turn 2)] ++
    late ++ [.happening (.answer 2 (.ok 6)), .happening (.receive 2 .ending)]

/-- It makes no difference whether the first stream is opened after all, or refused. -/
theorem turningAway_state_eq :
    (initial.run (turningAway [.happening (.answer 1 (.ok 5))])).state =
      (initial.run (turningAway [.happening (.answer 1 (.error (.opening "refused")))])).state := by
  have hd : .call .drop ∉ turningAway [.happening (.answer 1 (.ok 5))] := by simp [turningAway]
  have hong : initial.ongoing (turningAway [.happening (.answer 1 (.ok 5))]) =
      initial.ongoing (turningAway [.happening (.answer 1 (.error (.opening "refused")))]) := rfl
  exact (state_eq_of_ongoing_eq hd hong).2 _ _ List.prefix_rfl List.prefix_rfl hong

end MachiningViewer.Progress.Client
