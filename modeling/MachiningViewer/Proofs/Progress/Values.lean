import MachiningViewer.Proofs.Progress.Messages

/-!
# The values of a progress client

The progress and the message that a client shows are the latest that it has heard, per job. An input
either starts the values afresh, which only a subscription to another job does, or it applies the
event that the current reader takes with it, if there is one, and there is no third way
(`values_after`). So the values of a run are a fold over the events heard since the last change of
the job (`values_run`), whatever comes in between: lost streams, retries, subscriptions given up and
made again.
-/

namespace MachiningViewer.Progress

/-- The event that an item carries, if it carries one. -/
def Item.event? : Item → Option Event
  | .message payload => Event.decode? payload
  | .failure _ | .ending => none

/-- What a state shows of its job's progress: a number and a text. -/
def State.values (s : State) : Float × String :=
  (s.progress, s.message)

theorem change?_of_event? {item : Item} {e : Event} (he : item.event? = some e) :
    item.change? = some fun s => s.apply e := by
  cases item with
  | message payload => exact congrArg (Option.map _) he
  | failure e => cases he
  | ending => cases he

theorem change?_of_event?_eq_none {item : Item} (hm : item.isMessage) (he : item.event? = none) :
    item.change? = none := by
  cases item with
  | message payload => exact congrArg (Option.map _) he
  | failure e => cases hm
  | ending => cases hm

namespace Client

variable {c : Client} {s : Subscription} {h : Happening} {i : Input}

/-- The events among what is taken with an input. -/
def hears (c : Client) (i : Input) : List Event :=
  (c.takes i).filterMap (·.2.event?)

/-- The job that an input subscribes to, if it is another one than before. -/
def newJobs (c : Client) (i : Input) : List JobId :=
  ((c.subscribes i).map (·.2)).filter (some · ≠ c.state.job)

/-- The events among what is taken during a run, in order. -/
def heard (c : Client) (is : List Input) : List Event :=
  (c.taken is).filterMap (·.2.event?)

/-- The jobs that a run changes to, in order. -/
def jobChanges (c : Client) (is : List Input) : List JobId :=
  gather after newJobs c is

/-! ### The latest of what was heard -/

theorem progress_foldl (es : List Event) (s : State) :
    (es.foldl State.apply s).progress = (es.filterMap (·.progress)).getLast?.getD s.progress := by
  induction es generalizing s with
  | nil => rfl
  | cons e es ih =>
    rw [List.foldl_cons, ih]
    cases hp : e.progress with
    | none =>
      rw [List.filterMap_cons_none hp, State.apply, hp]
      rfl
    | some p =>
      rw [List.filterMap_cons_some hp, List.getLast?_cons, Option.getD_some, State.apply, hp]
      rfl

theorem message_foldl (es : List Event) (s : State) :
    (es.foldl State.apply s).message = (es.filterMap (·.label?)).getLast?.getD s.message := by
  induction es generalizing s with
  | nil => rfl
  | cons e es ih =>
    rw [List.foldl_cons, ih]
    cases hm : e.label? with
    | none =>
      rw [List.filterMap_cons_none hm, State.apply, hm]
      rfl
    | some m =>
      rw [List.filterMap_cons_some hm, List.getLast?_cons, Option.getD_some, State.apply, hm]
      rfl

/-- The values that come of events depend on nothing but the values before. -/
theorem values_foldl_congr {s s' : State} (es : List Event) (hv : s.values = s'.values) :
    (es.foldl State.apply s).values = (es.foldl State.apply s').values := by
  obtain ⟨hp, hm⟩ := Prod.mk.inj hv
  unfold State.values
  rw [progress_foldl, progress_foldl, message_foldl, message_foldl, hp, hm]

/-! ### What an input does to the values -/

theorem values_change? {item : Item} (s : State) :
    (item.change?.getD id s).values = (item.event?.toList.foldl State.apply s).values := by
  cases item with
  | message payload =>
    simp only [Item.change?, Item.event?]
    cases Event.decode? payload <;> rfl
  | failure e => rfl
  | ending => rfl

theorem hears_of_mem_takes {item : Item} (ht : (s, item) ∈ c.takes i) :
    c.hears i = item.event?.toList := by
  obtain ⟨g, rfl, hs, ha⟩ := mem_takes_iff.1 ht
  rw [hears, takes_of_awaits hs ha]
  cases he : item.event? with
  | none => exact List.filterMap_cons_none he
  | some e => exact List.filterMap_cons_some he

theorem values_refused (c : Client) (r : Request) (e : TransportError) :
    (c.refused r e).1.state.values = c.state.values := by
  simp only [refused, disconnect, writeCurrent]
  split <;> rfl

/-- Without anything being taken, no happening changes the values. -/
theorem values_step_of_takes_eq_nil (ht : c.takes (.happening h) = []) :
    (c.step h).1.state.values = c.state.values := by
  obtain ⟨s, hs, ha, heq⟩ | ⟨r, -, result, -, -, heq⟩ | ⟨-, -, heq⟩ := step_cases c h
  · rw [heq]
    -- Opening and losing a stream write the phase; only what is read on it writes values.
    cases h with
    | turn g => rfl
    | answer g result =>
      cases result with
      | ok stream =>
        simp only [stepCurrent, opened]
        split <;> rfl
      | error e => exact (c.withReader s .finished).values_refused ⟨s.job, s.generation⟩ e
    | receive g item =>
      rw [takes_of_awaits hs ha] at ht
      cases ht
  · rw [heq]
    cases result with
    | ok stream => rfl
    | error e => exact (c.forget r).values_refused r e
  · rw [heq]

/-- **What a happening does to the values.** It applies the event that is taken, if one is. -/
theorem values_step (hc : c.Coherent ∨ c.Gone) (h : Happening) :
    (c.step h).1.state.values =
      ((c.hears (.happening h)).foldl State.apply c.state).values := by
  cases ht : c.takes (.happening h) with
  | nil =>
    rw [hears, ht]
    exact values_step_of_takes_eq_nil ht
  | cons t ts =>
    have hmem : (t.1, t.2) ∈ c.takes (.happening h) := ht ▸ List.mem_cons_self
    rw [hears_of_mem_takes hmem, ← values_change?, ← state_after_of_mem_takes hc hmem]
    rfl

theorem values_subscribe {job : JobId} (hf : ¬ c.follows job) :
    (c.subscribe job).1.state.values =
      if some job = c.state.job then c.state.values else State.initial.values := by
  rw [subscribe_state hf]
  unfold State.subscribe
  split
  · rename_i hjob; rw [if_pos hjob.symm]; rfl
  · rename_i hjob; rw [if_neg (Ne.symm hjob)]; rfl

theorem newJobs_of_subscribes_eq_nil (hsub : c.subscribes i = []) : c.newJobs i = [] := by
  rw [newJobs, hsub]
  rfl

theorem newJobs_eq_nil_iff {g : Nat} {job : JobId} (hsub : c.subscribes i = [(g, job)]) :
    c.newJobs i = [] ↔ some job = c.state.job := by
  simp [newJobs, hsub]

theorem values_call (c : Client) (k : Call) :
    (c.call k).1.state.values =
      if c.newJobs (.call k) = [] then c.state.values else State.initial.values := by
  obtain ⟨job, -, hsub, hf, heq⟩ | ⟨hsub, heq⟩ := c.call_cases k
  · rw [heq, values_subscribe hf]
    simp only [newJobs_eq_nil_iff hsub]
  · rw [if_pos (newJobs_of_subscribes_eq_nil hsub)]
    rcases heq with heq | heq | heq
    · rw [heq]
    · rw [heq]
      show c.teardown.1.state.unsubscribe.values = c.state.values
      rw [teardown_state]
      rfl
    · rw [heq]
      exact congrArg State.values c.teardown_state

/-- **What an input does to the values.** A subscription to another job starts them afresh, and
anything else applies the event that is taken with it, if one is. -/
theorem values_after (hc : c.Coherent ∨ c.Gone) (i : Input) :
    (c.after i).state.values =
      if c.newJobs i = [] then ((c.hears i).foldl State.apply c.state).values
      else State.initial.values := by
  cases i with
  | call k => exact c.values_call k
  | happening h =>
    rw [if_pos (newJobs_of_subscribes_eq_nil rfl)]
    exact values_step hc h

/-- Without a new job, what carries no event leaves the values alone. -/
theorem values_after_of_mute (hc : c.Coherent ∨ c.Gone)
    (hi : (∃ k, i = .call k ∧ (c.jobOf? k = none ∨ c.jobOf? k = c.state.job)) ∨
      ∃ g item, i = .happening (.receive g item) ∧ item.event? = none) :
    (c.after i).state.values = c.state.values := by
  rw [values_after hc]
  rcases hi with ⟨k, rfl, hk⟩ | ⟨g, item, rfl, hitem⟩
  · -- A call that subscribes to the job already shown is not about a new one.
    have hnew : c.newJobs (.call k) = [] := by
      obtain ⟨job, hjob, hsub, -⟩ | ⟨hsub, -⟩ := c.call_cases k
      · rcases hk with hk | hk
        · rw [hk] at hjob
          cases hjob
        · exact (newJobs_eq_nil_iff hsub).2 (hjob.symm.trans hk)
      · exact newJobs_of_subscribes_eq_nil hsub
    rw [if_pos hnew]
    rfl
  · rw [if_pos (newJobs_of_subscribes_eq_nil rfl)]
    have hnone : c.hears (.happening (.receive g item)) = [] := by
      refine List.filterMap_eq_nil_iff.2 fun t ht => ?_
      obtain ⟨s, -, rfl⟩ := List.mem_map.1 ht
      exact hitem
    rw [hnone]
    rfl

theorem heard_concat (c : Client) (is : List Input) (i : Input) :
    c.heard (is ++ [i]) = c.heard is ++ (c.run is).hears i := by
  rw [heard, taken, gather_append, gather_singleton, List.filterMap_append]
  rfl

/-- **The values of a run** are a fold over what was heard since the last change of the job. -/
theorem values_run (is : List Input) :
    ∃ before since, is = before ++ since ∧
      (before = [] ∨ ∃ earlier i, before = earlier ++ [i] ∧ (initial.run earlier).newJobs i ≠ []) ∧
      (initial.run before).jobChanges since = [] ∧
      (initial.run is).state.values =
        (((initial.run before).heard since).foldl State.apply .initial).values := by
  -- The last input either belongs to what was heard since, or it is the change of the job.
  induction is using List.reverseRecOn with
  | nil => exact ⟨[], [], rfl, .inl rfl, rfl, rfl⟩
  | append_singleton is i ih =>
    have hlast : (initial.run (is ++ [i])).state = ((initial.run is).after i).state := by
      rw [run_append]; rfl
    rw [hlast, values_after (coherent_or_gone_run is)]
    by_cases hnew : (initial.run is).newJobs i = []
    · obtain ⟨before, since, rfl, hbefore, hsince, hvalues⟩ := ih
      refine ⟨before, since ++ [i], by rw [List.append_assoc], hbefore, ?_, ?_⟩
      · rw [run_append] at hnew
        rw [jobChanges, gather_append, gather_singleton]
        exact List.append_eq_nil_iff.2 ⟨hsince, hnew⟩
      · rw [if_pos hnew, values_foldl_congr _ hvalues, heard_concat, List.foldl_append, run_append]
    · exact ⟨is ++ [i], [], (List.append_nil _).symm, .inr ⟨is, i, rfl, hnew⟩, rfl, if_neg hnew⟩

/-! ### All values of a run -/

/-- **The latest value wins, per job.** In every run, drops of the client included, (a) progress and
message are what comes of applying the events heard since the last change of the job, in order, to
zero and the empty text: the last progress and the last text that is not empty. (b) An input that
ends the subscription or subscribes to the same job, or that delivers no event, changes neither.
(c) What is heard is what the current subscription takes from its stream, one thing at a time, and
each is acted on in the step in which it is taken: an event is applied to the state, a message that
is none leaves it alone. (d) The messages taken from one stream, if the transport opens none twice,
are a prefix of those that were sent before the first failure or end. -/
theorem latest_value_wins (is : List Input) :
    (∃ before since, is = before ++ since ∧
      (before = [] ∨ ∃ earlier i, before = earlier ++ [i] ∧ (initial.run earlier).newJobs i ≠ []) ∧
      (initial.run before).jobChanges since = [] ∧
      let events := (initial.run before).heard since
      (initial.run is).state.values = (events.foldl State.apply .initial).values ∧
        (initial.run is).state.progress = (events.filterMap (·.progress)).getLast?.getD 0.0 ∧
        (initial.run is).state.message = (events.filterMap (·.label?)).getLast?.getD "") ∧
    (∀ i, (∃ k, i = .call k ∧ ((initial.run is).jobOf? k = none ∨
          (initial.run is).jobOf? k = (initial.run is).state.job)) ∨
        (∃ g item, i = .happening (.receive g item) ∧ item.event? = none) →
      ((initial.run is).after i).state.values = (initial.run is).state.values) ∧
    (∀ i s item, (s, item) ∈ (initial.run is).takes i →
      (initial.run is).active = some s ∧ (initial.run is).takes i = [(s, item)] ∧
        (∀ e, item.event? = some e →
          ((initial.run is).after i).state = (initial.run is).state.apply e) ∧
        (item.isMessage → item.event? = none →
          ((initial.run is).after i).state = (initial.run is).state)) ∧
    (∀ stream, (initial.openedStreams is).Nodup →
      let all := itemsOf stream (initial.taken is)
      ∀ sent, all <+: sent → all.filter (·.isMessage) <+: sent.takeWhile (·.isMessage)) := by
  have hc := coherent_or_gone_run is
  refine ⟨?_, fun i hi => values_after_of_mute hc hi, ?_, ?_⟩
  · -- The values are those of the events heard since the job last changed.
    obtain ⟨before, since, heq, hbefore, hsince, hvalues⟩ := values_run is
    obtain ⟨hprogress, hmessage⟩ := Prod.mk.inj hvalues
    exact ⟨before, since, heq, hbefore, hsince, hvalues, hprogress.trans (progress_foldl _ _),
      hmessage.trans (message_foldl _ _)⟩
  · intro i s item ht
    have hstate := state_after_of_mem_takes hc ht
    obtain ⟨g, rfl, hs, ha⟩ := mem_takes_iff.1 ht
    refine ⟨hs, takes_of_awaits hs ha, fun e he => ?_, fun hmessage hnone => ?_⟩
    · rw [hstate, change?_of_event? he]
      rfl
    · rw [hstate, change?_of_event?_eq_none hmessage hnone]
      rfl
  · -- The reader takes what a stream brings in order, and stops at the first thing that is no
    -- message.
    intro stream hnodup all sent hsent
    exact filter_isMessage_prefix (passage_run stream is hnodup).messages hsent

/-- A run that hears of a stage and then loses its stream. -/
def heardOnce : List Input :=
  [.call (.subscribe 1), .happening (.turn 1), .happening (.answer 1 (.ok 7)),
    .happening (.receive 1 (.message "\x7b\"stage\":\"milling\"\x7d")),
    .happening (.receive 1 .ending)]

/-- The stage stays when the job is subscribed to again, and what the stream would have brought
after its end is not read. -/
theorem heardOnce_values :
    ((initial.run heardOnce).after (.call .resubscribe)).state.values =
        (initial.run heardOnce).state.values ∧
      (itemsOf 7 (initial.taken heardOnce)).filter (·.isMessage) <+:
        [.message "\x7b\"stage\":\"milling\"\x7d"] := by
  obtain ⟨-, hmute, -, hstreams⟩ := latest_value_wins heardOnce
  refine ⟨hmute _ (.inl ⟨.resubscribe, rfl, .inr rfl⟩), ?_⟩
  have hnodup : (initial.openedStreams heardOnce).Nodup := List.nodup_singleton 7
  exact hstreams 7 hnodup [.message "\x7b\"stage\":\"milling\"\x7d", .ending, .message ""]
    (List.prefix_append [_, _] [_])

end Client

end MachiningViewer.Progress
