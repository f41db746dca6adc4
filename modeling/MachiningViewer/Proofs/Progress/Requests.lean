import MachiningViewer.Proofs.Progress.Teardown

/-!
# Requests for streams

A progress client never reconnects by itself. A request for a stream is the first turn of a reader,
a reader has one first turn, and only a call makes a reader. So the requests of a run are answers to
the calls that subscribed, one each at most: what `requested` collects is what `subscribed`
collects, in the same order, less the subscriptions that have ended before their readers had a turn.

What an input can do is said once, in any state at all (`after_cases`): it subscribes, or it asks
for a stream, or it does neither. The books of a run (`Accounted`) and the rest of
`requests_answer_subscribes` follow.
-/

namespace MachiningViewer.Progress

/-- The generation on whose behalf a stream is asked for, and the job whose stream it is. -/
def Effect.request? : Effect → Option (Nat × JobId)
  | .requestStream generation job => some (generation, job)
  | _ => none

namespace Client

variable {c : Client} {s : Subscription} {h : Happening} {i : Input} {is : List Input} {k : Call}

/-- The job that a call is to subscribe to. -/
def jobOf? (c : Client) : Call → Option JobId
  | .subscribe job => some job
  | .resubscribe => c.lastJob
  | .unsubscribe | .drop => none

/-- The subscription that an input makes, as its generation and its job. A call that finds the
stream of its job open, or about to be, makes none, and neither does an owner who is gone. -/
def subscribes (c : Client) : Input → List (Nat × JobId)
  | .call k =>
    match c.jobOf? k with
    | some job => if c.dropped || c.follows job then [] else [(c.state.generation + 1, job)]
    | none => []
  | .happening _ => []

/-- The streams that are asked for with an input. -/
def requests (c : Client) (i : Input) : List (Nat × JobId) :=
  (c.react i).2.filterMap Effect.request?

/-- The subscriptions that a run makes, in order. -/
def subscribed (c : Client) (is : List Input) : List (Nat × JobId) :=
  gather after subscribes c is

/-- The streams that are asked for during a run, in order. -/
def requested (c : Client) (is : List Input) : List (Nat × JobId) :=
  gather after requests c is

/-! ### Calls that subscribe -/

theorem call_of_jobOf? {job : JobId} (hn : c.dropped = false) (hk : c.jobOf? k = some job) :
    c.call k = c.subscribe job := by
  rw [call_of_not_dropped hn]
  cases k with
  | subscribe _ => cases hk; rfl
  | resubscribe => simp only [resubscribe, show c.lastJob = some job from hk]
  | unsubscribe => cases hk
  | drop => cases hk

theorem subscribe_eq_iff {job : JobId} : c.subscribe job = (c, []) ↔ c.follows job := by
  constructor
  · intro heq
    by_contra hf
    -- A subscription that is made reports it.
    have hlen := congrArg (·.2.length) heq
    simp only [subscribe, if_neg hf, List.length_append, List.length_cons, List.length_nil] at hlen
    omega
  · exact fun hf => if_pos hf

/-- A subscription that is made has a new generation, and its reader has not had a turn. -/
theorem subscribe_active {job : JobId} (hf : ¬ c.follows job) :
    (c.subscribe job).1.active = some ⟨job, c.state.generation + 1, .fresh⟩ := by
  have hgeneration := generation_subscribe hf
  unfold subscribe at hgeneration ⊢
  rw [if_neg hf] at hgeneration ⊢
  exact congrArg (fun g => some (⟨job, g, .fresh⟩ : Subscription)) hgeneration

/-- **A call that could subscribe makes no subscription exactly if it does nothing at all.** -/
theorem subscribes_eq_nil_iff {job : JobId} (hk : c.jobOf? k = some job) :
    c.subscribes (.call k) = [] ↔ c.call k = (c, []) := by
  simp only [subscribes, hk]
  by_cases hd : c.dropped
  · exact iff_of_true (if_pos (by simp [hd])) (call_of_dropped hd k)
  · have hn : c.dropped = false := by simpa using hd
    rw [call_of_jobOf? hn hk, subscribe_eq_iff]
    simp [hn]

/-- **What a call can do.** It makes a subscription, or it does nothing, or it ends the subscription
that there is. -/
theorem call_cases (c : Client) (k : Call) :
    (∃ job, c.jobOf? k = some job ∧ c.subscribes (.call k) = [(c.state.generation + 1, job)] ∧
      ¬ c.follows job ∧ c.call k = c.subscribe job) ∨
    c.subscribes (.call k) = [] ∧
      (c.call k = (c, []) ∨ c.call k = c.unsubscribe ∨ c.call k = c.drop) := by
  cases hk : c.jobOf? k with
  | some job =>
    -- A call that names a job subscribes to it, unless the client is dropped or follows that job.
    by_cases hsub : c.subscribes (.call k) = []
    · exact .inr ⟨hsub, .inl ((subscribes_eq_nil_iff hk).1 hsub)⟩
    · simp only [subscribes, hk, ite_eq_left_iff, not_forall, Bool.or_eq_true, not_or] at hsub
      obtain ⟨⟨hd, hf⟩, -⟩ := hsub
      have hn : c.dropped = false := by simpa using hd
      exact .inl ⟨job, rfl, by simp [subscribes, hk, hn, hf], hf, call_of_jobOf? hn hk⟩
  | none =>
    refine .inr ⟨by simp only [subscribes, hk], ?_⟩
    by_cases hd : c.dropped
    · exact .inl (call_of_dropped hd k)
    · rw [call_of_not_dropped (by simpa using hd)]
      cases k with
      | subscribe _ => cases hk
      | resubscribe =>
        left
        rw [resubscribe, show c.lastJob = none from hk]
      | unsubscribe => exact .inr (.inl rfl)
      | drop => exact .inr (.inr rfl)

/-- What comes of a call: a new subscription, or the one that there was, or none. -/
theorem call_active (c : Client) (k : Call) :
    (∃ job, c.subscribes (.call k) = [(c.state.generation + 1, job)] ∧
      (c.call k).1.active = some ⟨job, c.state.generation + 1, .fresh⟩ ∧
      (c.call k).1.state.generation = c.state.generation + 1) ∨
    c.subscribes (.call k) = [] ∧ c.state.generation ≤ (c.call k).1.state.generation ∧
      ((c.call k).1.active = c.active ∨ (c.call k).1.active = none) := by
  obtain ⟨job, -, hsub, hf, heq⟩ | ⟨hsub, heq | heq | heq⟩ := c.call_cases k
  · rw [heq]
    exact .inl ⟨job, hsub, subscribe_active hf, generation_subscribe hf⟩
  · rw [heq]
    exact .inr ⟨hsub, Nat.le_refl _, .inl rfl⟩
  · refine .inr ⟨hsub, ?_, .inr ?_⟩
    · rw [heq, generation_unsubscribe]
      exact Nat.le_succ _
    · rw [heq]
      exact teardown_active c
  · refine .inr ⟨hsub, ?_, .inr ?_⟩
    · rw [heq]
      exact Nat.le_of_eq (congrArg (·.generation) c.teardown_state).symm
    · rw [heq]
      exact teardown_active c

/-! ### Happenings that ask -/

theorem requests_eq_nil (hi : ∀ g job, .requestStream g job ∉ (c.react i).2) :
    c.requests i = [] := by
  refine List.filterMap_eq_nil_iff.2 fun e he => ?_
  cases e with
  | requestStream g job => exact absurd he (hi g job)
  | _ => rfl

theorem requests_call (c : Client) (k : Call) : c.requests (.call k) = [] :=
  requests_eq_nil fun g job => c.request_not_mem_call k g job

/-- The current reader asks at its first turn and at no other time. -/
theorem turn_of_mem_stepCurrent {g : Nat} {job : JobId}
    (hr : .requestStream g job ∈ (c.stepCurrent s h).2) : ∃ g', h = .turn g' := by
  -- Only the turn of a reader asks for a stream. An answer and an item bring about other effects.
  cases h with
  | turn g' => exact ⟨g', rfl⟩
  | answer g' result =>
    exfalso
    cases result with
    | ok stream =>
      simp only [stepCurrent, opened] at hr
      split at hr <;> simp at hr
    | error e =>
      have hnot := (c.withReader s .finished).request_not_mem_disconnect g s.generation job
      simp [stepCurrent, opened, refused, hnot] at hr
  | receive g' item =>
    exfalso
    have hnot := c.request_not_mem_hear s item g job
    simp only [stepCurrent, received] at hr
    split at hr
    · exact hnot hr
    · simp [hnot] at hr

/-- No step of a reader takes it back to where it has not had a turn. -/
theorem stepCurrent_fresh {s' : Subscription} (hs : c.active = some s)
    (hs' : (c.stepCurrent s h).1.active = some s') (hr : s'.reader = .fresh) : s' = s := by
  -- Each kind of happening moves the reader on from being fresh, or leaves it as it was.
  cases h with
  | turn g => cases hs'; cases hr
  | answer g result =>
    cases result with
    | ok stream =>
      simp only [stepCurrent, opened] at hs'
      split at hs' <;> (cases hs'; cases hr)
    | error e =>
      obtain ⟨st, v, heq, -⟩ := (c.withReader s .finished).disconnect_keeps s.generation
      simp only [stepCurrent, opened, refused, heq] at hs'
      cases hs'
      cases hr
  | receive g item =>
    obtain ⟨st, v, heq, -⟩ := c.hear_keeps s item
    simp only [stepCurrent, received, heq] at hs'
    split at hs'
    · exact Option.some.inj (hs'.symm.trans hs)
    · cases hs'
      cases hr

theorem step_generation (c : Client) (h : Happening) :
    (c.step h).1.state.generation = c.state.generation := by
  obtain ⟨s, hs, -, heq⟩ | ⟨r, -, result, -, -, heq⟩ | ⟨-, -, heq⟩ := step_cases c h
  · obtain ⟨a, st, v, hstep, -, hst⟩ := stepCurrent_keeps hs h
    rw [heq, hstep]
    exact hst
  · obtain ⟨st, v, hstep, hst⟩ := (c.forget r).answeredLate_keeps r result
    rw [heq, hstep]
    exact hst
  · rw [heq]

/-- **What a happening can ask for.** It is the first turn of the current reader, who then waits for
its stream, or nothing is asked for and no reader comes to wait for its first turn. -/
theorem happening_cases (c : Client) (h : Happening) :
    (∃ s, c.active = some s ∧ s.reader = .fresh ∧
      c.requests (.happening h) = [(s.generation, s.job)] ∧
      (c.step h).1 = c.withReader s .opening) ∨
    c.requests (.happening h) = [] ∧
      ∀ s, (c.step h).1.active = some s → s.reader = .fresh → c.active = some s := by
  obtain ⟨s, hs, ha, heq⟩ | ⟨r, -, result, -, -, heq⟩ | ⟨-, -, heq⟩ := step_cases c h
  · by_cases hturn : ∃ g, h = .turn g
    · obtain ⟨g, rfl⟩ := hturn
      have hr : s.reader = .fresh := eq_of_beq (Bool.and_eq_true_iff.1 ha).2
      exact .inl ⟨s, hs, hr, by rw [requests, react, heq]; rfl, by rw [heq]; rfl⟩
    · refine .inr ⟨requests_eq_nil fun g job hr => hturn ?_, fun s' hs' hr => ?_⟩
      · rw [react, heq] at hr
        exact turn_of_mem_stepCurrent hr
      · rw [heq] at hs'
        rwa [stepCurrent_fresh hs hs' hr]
  · -- A late answer neither asks for a stream nor touches the subscription in force.
    refine .inr ⟨requests_eq_nil fun g job hr => ?_, fun s hs _ => ?_⟩
    · rw [react, heq] at hr
      exact request_not_mem_answeredLate _ _ result g job hr
    · obtain ⟨st, v, hstep, -⟩ := (c.forget r).answeredLate_keeps r result
      rwa [heq, hstep] at hs
  · refine .inr ⟨requests_eq_nil fun g job hr => ?_, fun s hs _ => ?_⟩
    · rw [react, heq] at hr
      cases hr
    · rwa [heq] at hs

/-- **What an input can do as to streams**, in any state. It makes a subscription, or it is the
first turn of the current reader, who asks for its stream, or it does neither. -/
theorem after_cases (c : Client) (i : Input) :
    (∃ job, c.subscribes i = [(c.state.generation + 1, job)] ∧ c.requests i = [] ∧
      (c.after i).active = some ⟨job, c.state.generation + 1, .fresh⟩ ∧
      (c.after i).state.generation = c.state.generation + 1) ∨
    (∃ s, c.active = some s ∧ s.reader = .fresh ∧ c.subscribes i = [] ∧
      c.requests i = [(s.generation, s.job)] ∧ c.after i = c.withReader s .opening) ∨
    c.subscribes i = [] ∧ c.requests i = [] ∧
      c.state.generation ≤ (c.after i).state.generation ∧
      ∀ s, (c.after i).active = some s → s.reader = .fresh → c.active = some s := by
  cases i with
  | call k =>
    obtain ⟨job, hsub, hactive, hgen⟩ | ⟨hsub, hgen, hactive⟩ := c.call_active k
    · exact .inl ⟨job, hsub, c.requests_call k, hactive, hgen⟩
    · refine .inr (.inr ⟨hsub, c.requests_call k, hgen, fun s hs _ => ?_⟩)
      change (c.call k).1.active = some s at hs
      rcases hactive with heq | heq
      · rwa [heq] at hs
      · rw [heq] at hs
        cases hs
  | happening h =>
    refine .inr ?_
    obtain ⟨s, hs, hr, hreq, heq⟩ | ⟨hreq, hfresh⟩ := c.happening_cases h
    · exact .inl ⟨s, hs, hr, rfl, hreq, heq⟩
    · exact .inr ⟨rfl, hreq, Nat.le_of_eq (c.step_generation h).symm, hfresh⟩

/-! ### The books of a run -/

/-- What a run has subscribed to and what it has asked for, in a state that it has come to. The last
subscription is still to be asked for if its reader has not had a turn. -/
structure Accounted (c : Client) (subscribed requested : List (Nat × JobId)) : Prop where
  sublist : requested.Sublist subscribed
  increasing : subscribed.Pairwise (·.1 < ·.1)
  generation_le : ∀ p ∈ subscribed, p.1 ≤ c.state.generation
  pending : ∀ s, c.active = some s → s.reader = .fresh →
    ∃ earlier, subscribed = earlier ++ [(s.generation, s.job)] ∧ requested.Sublist earlier

theorem accounted_initial : initial.Accounted [] [] where
  sublist := List.Sublist.refl _
  increasing := .nil
  generation_le _ hp := nomatch hp
  pending _ hs := nomatch hs

variable {subscribed requested : List (Nat × JobId)}

theorem Accounted.after (ha : c.Accounted subscribed requested) (i : Input) :
    (c.after i).Accounted (subscribed ++ c.subscribes i) (requested ++ c.requests i) := by
  obtain ⟨job, hsub, hreq, hactive, hgen⟩ | ⟨s, hs, hr, hsub, hreq, heq⟩ |
    ⟨hsub, hreq, hgen, hfresh⟩ := c.after_cases i
  · -- The new subscription comes last, and nothing has been asked for on its behalf.
    rw [hsub, hreq, List.append_nil]
    refine ⟨ha.sublist.trans (List.sublist_append_left ..), ?_, ?_, ?_⟩
    · refine List.pairwise_append.2 ⟨ha.increasing, List.pairwise_singleton .., fun p hp q hq => ?_⟩
      rw [List.mem_singleton.1 hq]
      exact Nat.lt_succ_of_le (ha.generation_le p hp)
    · intro p hp
      rw [hgen]
      rcases List.mem_append.1 hp with hp | hp
      · exact Nat.le_succ_of_le (ha.generation_le p hp)
      · exact Nat.le_of_eq (congrArg Prod.fst (List.mem_singleton.1 hp))
    · intro s hs _
      rw [hactive] at hs
      obtain rfl := Option.some.inj hs
      exact ⟨subscribed, rfl, ha.sublist⟩
  · -- The last subscription is asked for, and its reader moves on.
    obtain ⟨earlier, rfl, hsublist⟩ := ha.pending s hs hr
    rw [hsub, hreq, List.append_nil, heq]
    refine ⟨hsublist.append_right _, ha.increasing, ha.generation_le, ?_⟩
    rintro _ ⟨⟩ hr'
    cases hr'
  · rw [hsub, hreq, List.append_nil, List.append_nil]
    exact ⟨ha.sublist, ha.increasing, fun p hp => Nat.le_trans (ha.generation_le p hp) hgen,
      fun s hs hr => ha.pending s (hfresh s hs hr) hr⟩

theorem accounted_run (is : List Input) :
    (initial.run is).Accounted (initial.subscribed is) (initial.requested is) := by
  -- Both books grow at their ends, so the induction is from the end of the run.
  induction is using List.reverseRecOn with
  | nil => exact accounted_initial
  | append_singleton is i ih =>
    rw [run_append, Client.subscribed, Client.requested, gather_append, gather_append,
      gather_singleton, gather_singleton]
    exact ih.after i

/-! ### What is not asked for -/

/-- **A generation of the past whose reader does not wait for its first turn is not asked for.** -/
theorem not_mem_requested {g : Nat} {job : JobId} (hg : g ≤ c.state.generation)
    (hs : ∀ s, c.active = some s → s.reader = .fresh → s.generation ≠ g) :
    (g, job) ∉ c.requested is := by
  induction is generalizing c with
  | nil => exact List.not_mem_nil
  | cons i is ih =>
    refine List.not_mem_append ?_ ?_
    · -- What is asked for now is of the generation of a reader that waits for its first turn.
      obtain ⟨_, -, hreq, -⟩ | ⟨s, hactive, hr, -, hreq, -⟩ | ⟨-, hreq, -⟩ := c.after_cases i
      · rw [hreq]
        exact List.not_mem_nil
      · rw [hreq, List.mem_singleton]
        exact fun heq => hs s hactive hr (congrArg Prod.fst heq).symm
      · rw [hreq]
        exact List.not_mem_nil
    · -- What comes to wait for its first turn from now on is of a later generation.
      obtain ⟨_, -, -, hactive, hgen⟩ | ⟨s, -, -, -, -, heq⟩ | ⟨-, -, hgen, hfresh⟩ :=
        c.after_cases i
      · refine ih (by omega) fun s hs' _ => ?_
        rw [hactive] at hs'
        obtain rfl := Option.some.inj hs'
        exact Nat.ne_of_gt (Nat.lt_succ_of_le hg)
      · rw [heq]
        refine ih hg ?_
        rintro _ ⟨⟩ hr
        cases hr
      · exact ih (Nat.le_trans hg hgen) fun s hs' hr => hs s (hfresh s hs' hr) hr

/-- The subscription whose reader is still to ask for its stream, as its generation and its job. -/
def unasked? (c : Client) : Option (Nat × JobId) :=
  (c.active.filter (·.reader == .fresh)).map fun s => (s.generation, s.job)

theorem unasked?_eq_some_iff {p : Nat × JobId} :
    c.unasked? = some p ↔
      ∃ s, c.active = some s ∧ s.reader = .fresh ∧ (s.generation, s.job) = p := by
  simp [unasked?, and_assoc]

/-- **What is asked for from now on** was subscribed to and is still unasked for, or it is
subscribed to from now on, and each subscription leads to one request at most. -/
theorem requested_sublist (c : Client) (is : List Input) :
    (c.requested is).Sublist (c.unasked?.toList ++ c.subscribed is) := by
  induction is generalizing c with
  | nil => exact List.nil_sublist _
  | cons i is ih =>
    have hlater := ih (c.after i)
    show (c.requests i ++ (c.after i).requested is).Sublist
      (c.unasked?.toList ++ (c.subscribes i ++ (c.after i).subscribed is))
    obtain ⟨job, hsub, hreq, hactive, -⟩ | ⟨s, hs, hr, hsub, hreq, heq⟩ |
      ⟨hsub, hreq, -, hfresh⟩ := c.after_cases i
    · -- What is subscribed to now is unasked for afterwards.
      have hnew : (c.after i).unasked? = some (c.state.generation + 1, job) :=
        unasked?_eq_some_iff.2 ⟨_, hactive, rfl, rfl⟩
      rw [hnew] at hlater
      rw [hsub, hreq]
      exact hlater.trans (List.sublist_append_right ..)
    · have hasked : (c.after i).unasked? = none := by
        rw [heq]
        rfl
      rw [hasked] at hlater
      rw [unasked?_eq_some_iff.2 ⟨s, hs, hr, rfl⟩, hsub, hreq]
      exact hlater.cons_cons _
    · have hsublist : (c.after i).unasked?.toList.Sublist c.unasked?.toList := by
        cases hnext : (c.after i).unasked? with
        | none => exact List.nil_sublist _
        | some p =>
          obtain ⟨s, hs, hr, hp⟩ := unasked?_eq_some_iff.1 hnext
          rw [unasked?_eq_some_iff.2 ⟨s, hfresh s hs hr, hr, hp⟩]
      rw [hsub, hreq]
      exact hlater.trans (hsublist.append_right _)

/-- **Without a new subscription nothing more is asked for**, if no reader waits for its first turn.
-/
theorem requested_eq_nil (hs : ∀ s, c.active = some s → s.reader ≠ .fresh)
    (hsub : c.subscribed is = []) : c.requested is = [] := by
  have hnone : c.unasked? = none := by
    refine Option.eq_none_iff_forall_ne_some.2 fun p hp => ?_
    obtain ⟨s, hactive, hr, -⟩ := unasked?_eq_some_iff.1 hp
    exact hs s hactive hr
  have hsublist := c.requested_sublist is
  rw [hnone, hsub] at hsublist
  exact List.sublist_nil.1 hsublist

/-- Where the stream is lost or the subscription given up, no reader waits for its first turn. -/
theorem not_fresh_of_phase (hc : c.Coherent ∨ c.Gone)
    (hp : c.state.phase = .disconnected ∨ c.state.phase = .terminal) (hs : c.active = some s) :
    s.reader ≠ .fresh := by
  intro hr
  rcases hc with hc | hg
  · rw [hc.phase_eq s hs, hr] at hp
    simp [Reader.phase] at hp
  · rw [hg.no_subscription] at hs
    cases hs

/-- A call that ends a subscription leaves no reader of its generation. -/
theorem generation_ne_of_ended (hle : s.generation ≤ c.state.generation)
    (hs : c.active = some s) (hended : (c.call k).1.active ≠ some s) (s' : Subscription)
    (hs' : (c.call k).1.active = some s') : s'.generation ≠ s.generation := by
  obtain ⟨job, -, hactive, -⟩ | ⟨-, -, heq | heq⟩ := c.call_active k
  · rw [hactive] at hs'
    obtain rfl := Option.some.inj hs'
    exact Nat.ne_of_gt (Nat.lt_succ_of_le hle)
  · exact absurd (heq.trans hs) hended
  · rw [heq] at hs'
    cases hs'

/-- **Only a subscribe leads to a request, and to one at most.** In every run, drops of the client
included, (a) a call that is to subscribe makes no subscription exactly if it changes nothing;
(b) what is asked of the transport is, in order, some of the subscriptions made, each for its own
job, and no two subscriptions have the same generation, so each is asked for once at most;
(c) a subscription that a call ends before its reader has had a turn is never asked for; and
(d) once the stream is lost or the subscription given up, nothing is asked for until the next
subscription is made. -/
theorem requests_answer_subscribes (is : List Input) :
    (∀ k job, (initial.run is).jobOf? k = some job →
        ((initial.run is).subscribes (.call k) = [] ↔
          (initial.run is).call k = (initial.run is, []))) ∧
      ((initial.requested is).Sublist (initial.subscribed is) ∧
        (initial.subscribed is).Pairwise (·.1 < ·.1)) ∧
      (∀ s k rest job, (initial.run is).active = some s → s.reader = .fresh →
        ((initial.run is).call k).1.active ≠ some s →
        (s.generation, job) ∉ initial.requested (is ++ .call k :: rest)) ∧
      (∀ rest, (initial.run is).state.phase = .disconnected ∨
          (initial.run is).state.phase = .terminal →
        (initial.run is).subscribed rest = [] → (initial.run is).requested rest = []) := by
  have ha := accounted_run is
  refine ⟨fun k job hk => subscribes_eq_nil_iff hk, ⟨ha.sublist, ha.increasing⟩, ?_, ?_⟩
  · intro s k rest job hs hr hended
    obtain ⟨earlier, heq, hsublist⟩ := ha.pending s hs hr
    have hle : s.generation ≤ (initial.run is).state.generation :=
      ha.generation_le (s.generation, s.job) (by simp [heq])
    rw [Client.requested, gather_append]
    refine List.not_mem_append (fun hmem => ?_) (List.not_mem_append ?_ ?_)
    · -- What was asked for before has smaller generations.
      have hincreasing := ha.increasing
      rw [heq] at hincreasing
      have hlt := (List.pairwise_append.1 hincreasing).2.2 _ (hsublist.subset hmem) _
        (List.mem_singleton.2 rfl)
      exact Nat.lt_irrefl _ hlt
    · rw [show (is.foldl Client.after initial).requests (.call k) = [] from requests_call _ k]
      exact List.not_mem_nil
    · -- From the call on the generation has passed, and no reader of it waits for its first turn.
      have hgen : s.generation ≤ ((initial.run is).call k).1.state.generation := by
        obtain ⟨_, -, -, hgen⟩ | ⟨-, hgen, -⟩ := (initial.run is).call_active k
        · omega
        · exact Nat.le_trans hle hgen
      exact not_mem_requested hgen fun s' hs' _ => generation_ne_of_ended hle hs hended s' hs'
  · intro rest hp hsub
    exact requested_eq_nil (fun s => not_fresh_of_phase (coherent_or_gone_run is) hp) hsub

/-- A run that gives up its first subscription at once and loses the stream of the second. -/
def hasty : List Input :=
  [.call (.subscribe 1), .call .unsubscribe, .call (.subscribe 1), .happening (.turn 3),
    .happening (.answer 3 (.ok 7)), .happening (.receive 3 .ending)]

/-- Of its two subscriptions the first is never asked for. After the loss of the stream the turn of
a reader, or a call that subscribes to nothing, leads to no request. -/
theorem hasty_requested :
    (∀ job, (1, job) ∉ initial.requested hasty) ∧
      (initial.run hasty).requested [.happening (.turn 3), .call .unsubscribe] = [] := by
  constructor
  · intro job
    have hended : ((initial.run [.call (.subscribe 1)]).call .unsubscribe).1.active ≠
        some ⟨1, 1, .fresh⟩ := nofun
    exact (requests_answer_subscribes [.call (.subscribe 1)]).2.2.1 ⟨1, 1, .fresh⟩ .unsubscribe
      (hasty.drop 2) job rfl rfl hended
  · exact (requests_answer_subscribes hasty).2.2.2 [.happening (.turn 3), .call .unsubscribe]
      (.inl rfl) rfl

end Client

end MachiningViewer.Progress
