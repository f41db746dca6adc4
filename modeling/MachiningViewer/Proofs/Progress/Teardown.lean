import MachiningViewer.Proofs.Progress.Renewal
import MachiningViewer.Proofs.Progress.Streams

/-!
# A client without a subscription

Once its subscription has ended, a progress client is at rest until its owner makes another one. It
asks the transport for nothing (`active_of_mem_react`). All that can still come is the answer to a
request that was under way when the subscription ended (`late_of_mem_opens`), and a stream that
comes this way is not read from (`not_mem_readStreams_of_late`).
-/

namespace MachiningViewer.Progress.Client

variable {c : Client} {s : Subscription} {i : Input} {is js : List Input}

/-! ### Who asks for a stream -/

theorem request_not_mem_disconnect (c : Client) (g generation : Nat) (job : JobId) :
    .requestStream g job ∉ (c.disconnect generation).2 := by
  unfold disconnect writeCurrent
  split <;> simp

theorem request_not_mem_hear (c : Client) (s : Subscription) (item : Item) (g : Nat) (job : JobId) :
    .requestStream g job ∉ (c.hear s item).2 := by
  have hdisconnect := c.request_not_mem_disconnect g s.generation job
  cases item with
  | message payload =>
    simp only [hear]
    split
    · simp
    · split <;> simp
  | failure e => simpa [hear] using hdisconnect
  | ending => simpa [hear] using hdisconnect

/-- An answer that comes late makes nobody ask again. -/
theorem request_not_mem_answeredLate (c : Client) (r : Request)
    (result : Except TransportError StreamId) (g : Nat) (job : JobId) :
    .requestStream g job ∉ (c.answeredLate r result).2 := by
  cases result with
  | ok stream => simp [answeredLate]
  | error e => simpa [answeredLate, refused] using c.request_not_mem_disconnect g r.generation job

theorem request_not_mem_teardown (c : Client) (g : Nat) (job : JobId) :
    .requestStream g job ∉ c.teardown.2 := by
  unfold teardown
  split <;> simp

theorem request_not_mem_subscribe (c : Client) (job : JobId) (g : Nat) (job' : JobId) :
    .requestStream g job' ∉ (c.subscribe job).2 := by
  unfold subscribe
  split
  · simp
  · simpa using c.request_not_mem_teardown g job'

/-- A call leaves it to the reader to ask. -/
theorem request_not_mem_call (c : Client) (k : Call) (g : Nat) (job : JobId) :
    .requestStream g job ∉ (c.call k).2 := by
  unfold call
  split
  · simp
  · cases k with
    | subscribe job' => exact c.request_not_mem_subscribe job' g job
    | unsubscribe => simpa [unsubscribe] using c.request_not_mem_teardown g job
    | resubscribe =>
      simp only [resubscribe]
      split
      · exact c.request_not_mem_subscribe _ g job
      · simp
    | drop => exact c.request_not_mem_teardown g job

/-- **Only a client with a subscription asks for a stream.** -/
theorem active_of_mem_react {g : Nat} {job : JobId} (hi : .requestStream g job ∈ (c.react i).2) :
    c.active ≠ none := by
  cases i with
  | call k => exact absurd hi (c.request_not_mem_call k g job)
  | happening h =>
    obtain ⟨s, hs, -⟩ | ⟨r, -, result, -, -, heq⟩ | ⟨-, -, heq⟩ := step_cases c h
    · rw [hs]
      exact Option.some_ne_none s
    · rw [react, heq] at hi
      exact (request_not_mem_answeredLate _ r result g job hi).elim
    · rw [react, heq] at hi
      cases hi

/-! ### What can still come -/

/-- A client that has been dropped: there is no subscription, and no call that could make one. -/
structure Gone (c : Client) : Prop where
  dropped : c.dropped = true
  no_subscription : c.active = none

/-- Nothing outside makes a subscription. -/
theorem step_active_of_none (hn : c.active = none) (h : Happening) :
    (c.step h).1.active = none ∧ (c.step h).1.dropped = c.dropped := by
  obtain ⟨s, hs, -⟩ | ⟨r, -, result, -, -, heq⟩ | ⟨-, -, heq⟩ := step_cases c h
  · rw [hn] at hs
    cases hs
  · obtain ⟨st, v, hstep, -⟩ := (c.forget r).answeredLate_keeps r result
    rw [heq, hstep]
    exact ⟨hn, rfl⟩
  · rw [heq]
    exact ⟨hn, rfl⟩

theorem gone_drop (hn : c.dropped = false) : (c.after (.call .drop)).Gone := by
  show (c.call .drop).1.Gone
  rw [call_of_not_dropped hn]
  exact ⟨rfl, c.teardown_active⟩

theorem Gone.after (hg : c.Gone) (i : Input) : (c.after i).Gone := by
  cases i with
  | call k =>
    show (c.call k).1.Gone
    rw [call_of_dropped hg.dropped]
    exact hg
  | happening h =>
    obtain ⟨hactive, hdropped⟩ := step_active_of_none hg.no_subscription h
    exact ⟨hdropped.trans hg.dropped, hactive⟩

/-- Every run keeps it so that the client fits together or is gone. -/
theorem coherent_or_gone_after (hc : c.Coherent ∨ c.Gone) (i : Input) :
    (c.after i).Coherent ∨ (c.after i).Gone := by
  rcases hc with hc | hg
  · by_cases hi : i = .call .drop
    · rw [hi]
      exact .inr (gone_drop hc.not_dropped)
    · exact .inl (hc.after hi)
  · exact .inr (hg.after i)

theorem coherent_or_gone_run (is : List Input) :
    (initial.run is).Coherent ∨ (initial.run is).Gone :=
  List.foldlRecOn (motive := fun c => c.Coherent ∨ c.Gone) is Client.after (.inl coherent_initial)
    fun _ hc i _ => coherent_or_gone_after hc i

/-- What is late has been late before, or is the request of the subscription that has just ended. -/
theorem mem_late_after {r : Request} (hr : r ∈ (c.after i).late) :
    r ∈ c.late ∨ ∃ s, c.active = some s ∧ s.request? = some r := by
  -- A request becomes late when its subscription is torn down, which calls alone can do.
  cases i with
  | call k =>
    have hsubscribe (job : JobId) (hr : r ∈ (c.subscribe job).1.late) :
        r ∈ c.late ∨ ∃ s, c.active = some s ∧ s.request? = some r := by
      unfold subscribe at hr
      split at hr
      · exact .inl hr
      · exact mem_teardown_late hr
    change r ∈ (c.call k).1.late at hr
    unfold call at hr
    split at hr
    · exact .inl hr
    · cases k with
      | subscribe job => exact hsubscribe job hr
      | unsubscribe => exact mem_teardown_late hr
      | resubscribe =>
        simp only [resubscribe] at hr
        split at hr
        · exact hsubscribe _ hr
        · exact .inl hr
      | drop => exact mem_teardown_late hr
  | happening h =>
    change r ∈ (c.step h).1.late at hr
    obtain ⟨s, hs, -, heq⟩ | ⟨r', -, result, -, -, heq⟩ | ⟨-, -, heq⟩ := step_cases c h
    · obtain ⟨a, st, v, hstep, -⟩ := stepCurrent_keeps hs h
      rw [heq, hstep] at hr
      exact .inl hr
    · obtain ⟨st, v, hstep, -⟩ := (c.forget r').answeredLate_keeps r' result
      rw [heq, hstep] at hr
      exact .inl (List.mem_of_mem_erase hr)
    · rw [heq] at hr
      exact .inl hr

/-- **What is opened without a subscription was asked for before**, with a request that is late now.
-/
theorem late_of_mem_opens (hn : c.active = none) {g : Nat} {stream : StreamId}
    (hopen : stream ∈ c.opens (.happening (.answer g (.ok stream)))) :
    ∃ r ∈ c.late, r.generation = g := by
  obtain ⟨s, hs, -⟩ | ⟨r, hr, result, heq, -⟩ | ⟨hactive, hlate, -⟩ :=
    step_cases c (.answer g (.ok stream))
  · rw [hn] at hs
    cases hs
  · cases heq
    exact ⟨r, hr, rfl⟩
  · rw [opens_of_not_expected hactive hlate] at hopen
    cases hopen

/-- **A stream that comes too late is never read from**, if the transport opens no stream twice. -/
theorem not_mem_readStreams_of_late {g : Nat} {stream : StreamId}
    (hopen : stream ∈ (initial.run is).opens (.happening (.answer g (.ok stream))))
    (hn : (initial.run is).active = none)
    (hnodup : (initial.openedStreams (is ++ .happening (.answer g (.ok stream)) :: js)).Nodup) :
    stream ∉ initial.readStreams (is ++ .happening (.answer g (.ok stream)) :: js) := by
  intro hread
  have hne (s : Subscription) (hs : (initial.run is).active = some s) : s.generation ≠ g := by
    rw [hn] at hs
    cases hs
  obtain ⟨pre, i, post, heq, hi⟩ := mem_gather hread
  have hpre : pre <+: is ++ .happening (.answer g (.ok stream)) :: js := ⟨i :: post, heq.symm⟩
  exact held_ne_of_late hopen hne hnodup hpre (held_of_mem_reads hi)

end MachiningViewer.Progress.Client
