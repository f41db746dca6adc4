import MachiningViewer.Proofs.Progress.Run
import Mathlib.Data.List.Induction
import Mathlib.Data.List.Nodup

/-!
# The streams of a progress client

A stream comes into being when the transport answers a request with it, and is gone when it is given
back. In between somebody has to hold it, and only the reader of the current subscription can. So
the books of a client balance: what the transport has opened is what was given back and what the
current reader holds, each stream as often on one side as on the other (`openedStreams_perm`).

The law holds for one input after the other, in any state at all (`opens_append_held_perm`): an
input either leaves a stream where it is, or moves it on. All that is said about leaks, about
streams given back twice and about late answers follows from it (`streams_accounted_for`).
-/

namespace MachiningViewer.Progress

open scoped List

/-- The stream that an effect gives back. -/
def Effect.givenBack? : Effect → Option StreamId
  | .giveBack stream => some stream
  | _ => none

namespace Client

variable {c : Client} {s : Subscription} {h : Happening}

/-- The request of the current subscription, as long as the transport works on it. -/
def request? (c : Client) : Option Request :=
  c.active.bind (·.request?)

/-- The requests that the transport works on: that of the current subscription, and the late ones.
-/
def outstanding (c : Client) : List Request :=
  c.request?.toList ++ c.late

/-- The stream that the transport opens with an input. What answers no request is no answer of the
transport. -/
def opens (c : Client) : Input → List StreamId
  | .happening (.answer g (.ok stream)) =>
    if c.outstanding.any (·.generation == g) then [stream] else []
  | _ => []

/-- The streams that are given back with an input. -/
def givesBack (c : Client) (i : Input) : List StreamId :=
  (c.react i).2.filterMap Effect.givenBack?

/-- The stream from which something is read with an input. -/
def reads (c : Client) : Input → List StreamId
  | .happening (.receive g item) =>
    ((c.active.filter (·.awaits (.receive g item))).bind (·.stream?)).toList
  | _ => []

/-- The stream that the current reader holds. -/
def held (c : Client) : Option StreamId :=
  c.active.bind (·.stream?)

/-- The streams that the transport opens during a run, in order. -/
def openedStreams (c : Client) (is : List Input) : List StreamId :=
  gather after opens c is

/-- The streams that are given back during a run, in order. -/
def givenBackStreams (c : Client) (is : List Input) : List StreamId :=
  gather after givesBack c is

/-- The streams from which something is read during a run, in order. -/
def readStreams (c : Client) (is : List Input) : List StreamId :=
  gather after reads c is

/-! ### The books balance at each input -/

theorem filterMap_report (r : Log.Record) (es : List Effect) :
    (.report r :: es).filterMap Effect.givenBack? = es.filterMap Effect.givenBack? :=
  rfl

theorem filterMap_giveBack (streams : List StreamId) :
    (streams.map Effect.giveBack).filterMap Effect.givenBack? = streams := by
  induction streams with
  | nil => rfl
  | cons stream streams ih => exact congrArg (stream :: ·) ih

/-- A teardown gives back what the current reader holds. -/
theorem teardown_givesBack (c : Client) :
    c.teardown.2.filterMap Effect.givenBack? = c.held.toList := by
  unfold teardown held
  split
  · rename_i hs; rw [hs]; rfl
  · rename_i s hs
    rw [hs, filterMap_report, filterMap_giveBack]
    rfl

theorem held_of_none (hs : c.active = none) : c.held = none := by
  rw [held, hs]; rfl

theorem subscribe_balance (c : Client) (job : JobId) :
    c.held.toList =
      (c.subscribe job).2.filterMap Effect.givenBack? ++ (c.subscribe job).1.held.toList := by
  unfold subscribe
  split
  · rfl
  · show _ = (c.teardown.2 ++ _).filterMap Effect.givenBack? ++ []
    rw [List.filterMap_append, teardown_givesBack]
    simp [Effect.givenBack?]

/-- Calls open nothing, and what they do not give back is still held. -/
theorem call_balance (c : Client) (k : Call) :
    c.held.toList = (c.call k).2.filterMap Effect.givenBack? ++ (c.call k).1.held.toList := by
  unfold call
  split
  · rfl
  · -- Every call that ends a subscription does so by `teardown`, which gives the stream back.
    cases k with
    | subscribe job => exact c.subscribe_balance job
    | unsubscribe =>
      have hnone : c.unsubscribe.1.active = none := teardown_active c
      show _ = (c.teardown.2 ++ _).filterMap Effect.givenBack? ++ c.unsubscribe.1.held.toList
      rw [List.filterMap_append, teardown_givesBack, held_of_none hnone]
      simp [Effect.givenBack?]
    | resubscribe =>
      show _ = c.resubscribe.2.filterMap Effect.givenBack? ++ c.resubscribe.1.held.toList
      unfold resubscribe
      split
      · exact c.subscribe_balance _
      · rfl
    | drop =>
      have hnone : c.drop.1.active = none := teardown_active c
      show _ = c.teardown.2.filterMap Effect.givenBack? ++ c.drop.1.held.toList
      rw [teardown_givesBack, held_of_none hnone]
      simp

/-- A step that leaves the streams alone: none is given back, and the reader stays where it is. -/
structure LeavesStreams (c : Client) (r : Client × List Effect) : Prop where
  givesBack_eq : r.2.filterMap Effect.givenBack? = []
  active_eq : r.1.active = c.active

theorem writeCurrent_leavesStreams (c : Client) (g : Nat) (f : State → State) :
    c.LeavesStreams (c.writeCurrent g f) := by
  unfold writeCurrent
  split <;> exact ⟨rfl, rfl⟩

theorem refused_leavesStreams (c : Client) (r : Request) (e : TransportError) :
    c.LeavesStreams (c.refused r e) := by
  obtain ⟨hgives, hactive⟩ := c.writeCurrent_leavesStreams r.generation
    fun s => { s with phase := .disconnected }
  exact ⟨hgives, hactive⟩

theorem hear_leavesStreams (c : Client) (s : Subscription) (item : Item) :
    c.LeavesStreams (c.hear s item) := by
  obtain ⟨hgives, hactive⟩ := c.writeCurrent_leavesStreams s.generation
    fun s => { s with phase := .disconnected }
  cases item with
  | message payload =>
    simp only [hear]
    split
    · exact ⟨rfl, rfl⟩
    · split <;> exact ⟨rfl, rfl⟩
  | failure e => exact ⟨hgives, hactive⟩
  | ending => exact ⟨hgives, hactive⟩

theorem opens_of_mem_outstanding {r : Request} (hr : r ∈ c.outstanding) (stream : StreamId) :
    c.opens (.happening (.answer r.generation (.ok stream))) = [stream] :=
  if_pos (List.any_eq_true.2 ⟨r, hr, beq_self_eq_true r.generation⟩)

theorem opens_of_opening (hs : c.active = some s) (hr : s.reader = .opening) (stream : StreamId) :
    c.opens (.happening (.answer s.generation (.ok stream))) = [stream] := by
  refine opens_of_mem_outstanding (r := ⟨s.job, s.generation⟩) (List.mem_append_left _ ?_) stream
  rw [Option.mem_toList, request?, hs]
  exact request?_eq_some_iff.2 ⟨hr, rfl⟩

/-- What comes to the current reader: a stream that is opened is held or given back at once, and
what the reader does not hold any more is given back. -/
theorem stepCurrent_balance (hs : c.active = some s) (ha : s.awaits h) :
    (c.opens (.happening h) ++ c.held.toList).Perm
      ((c.stepCurrent s h).2.filterMap Effect.givenBack? ++
        (c.stepCurrent s h).1.held.toList) := by
  have hheld : c.held = s.stream? := by rw [held, hs]; rfl
  rw [hheld]
  cases h with
  | turn g =>
    have hr : s.reader = .fresh := eq_of_beq (Bool.and_eq_true_iff.1 ha).2
    rw [show s.stream? = none by rw [Subscription.stream?, hr]]
    exact List.Perm.refl _
  | answer g result =>
    have hr : s.reader = .opening := eq_of_beq (Bool.and_eq_true_iff.1 ha).2
    have hg : s.generation = g := generation_of_awaits ha
    rw [show s.stream? = none by rw [Subscription.stream?, hr]]
    cases result with
    | ok stream =>
      rw [← hg, opens_of_opening hs hr]
      simp only [stepCurrent, opened]
      split <;> exact List.Perm.refl _
    | error e =>
      obtain ⟨hgives, hactive⟩ :=
        (c.withReader s .finished).refused_leavesStreams ⟨s.job, s.generation⟩ e
      simp only [stepCurrent, opened]
      rw [hgives, held, hactive]
      exact List.Perm.refl _
  | receive g item =>
    obtain ⟨hgives, hactive⟩ := c.hear_leavesStreams s item
    show ([] ++ s.stream?.toList).Perm _
    simp only [stepCurrent, received]
    split
    · rw [hgives, held, hactive, hs]
      exact List.Perm.refl _
    · -- The reader stops, and what it held is given back.
      rw [List.filterMap_append, hgives, filterMap_giveBack, List.nil_append]
      show s.stream?.toList.Perm (s.stream?.toList ++ [])
      rw [List.append_nil]

/-- What answers a late request: a stream that is opened for it is given back at once. -/
theorem answeredLate_balance {r : Request} (hr : r ∈ c.late)
    (result : Except TransportError StreamId) :
    (c.opens (.happening (.answer r.generation result)) ++ c.held.toList).Perm
      (((c.forget r).answeredLate r result).2.filterMap Effect.givenBack? ++
        ((c.forget r).answeredLate r result).1.held.toList) := by
  cases result with
  | ok stream =>
    rw [opens_of_mem_outstanding (List.mem_append_right _ hr)]
    exact List.Perm.refl _
  | error e =>
    obtain ⟨hgives, hactive⟩ := (c.forget r).refused_leavesStreams r e
    simp only [answeredLate]
    rw [hgives, held, held, hactive]
    exact List.Perm.refl _

/-- Nothing is opened for a happening that nobody waits for. -/
theorem opens_of_not_expected (hactive : ∀ s, c.active = some s → ¬ s.awaits h)
    (hlate : ∀ r ∈ c.late, ∀ result, h ≠ .answer r.generation result) :
    c.opens (.happening h) = [] := by
  unfold opens
  split
  · rename_i g stream heq
    cases heq
    -- A stream is opened by an answer to a request, and neither the reader in force nor a late one
    -- has asked for this.
    refine if_neg fun hany => ?_
    obtain ⟨r, hr, hg⟩ := List.any_eq_true.1 hany
    obtain rfl : r.generation = g := eq_of_beq hg
    rcases List.mem_append.1 hr with hr | hr
    · obtain ⟨s, hs, hrequest⟩ := Option.bind_eq_some_iff.1 (Option.mem_toList.1 hr)
      obtain ⟨hreader, rfl⟩ := request?_eq_some_iff.1 hrequest
      exact hactive s hs (by simp [Subscription.awaits, hreader])
    · exact hlate r hr _ rfl
  · rfl

/-- **The books balance at each input**, in any state: what the transport opens and what was held is
what is given back and what is held now. -/
theorem opens_append_held_perm (c : Client) (i : Input) :
    (c.opens i ++ c.held.toList).Perm (c.givesBack i ++ (c.after i).held.toList) := by
  cases i with
  | call k => exact List.Perm.of_eq (c.call_balance k)
  | happening h =>
    obtain ⟨s, hs, ha, heq⟩ | ⟨r, hr, result, rfl, -, heq⟩ | ⟨hactive, hlate, heq⟩ :=
      step_cases c h
    · rw [givesBack, after, react, heq]
      exact stepCurrent_balance hs ha
    · rw [givesBack, after, react, heq]
      exact answeredLate_balance hr result
    · rw [givesBack, after, react, heq, opens_of_not_expected hactive hlate]
      exact List.Perm.refl _

/-- **The books balance over a run.** -/
theorem held_append_openedStreams_perm (c : Client) (is : List Input) :
    (c.held.toList ++ c.openedStreams is).Perm
      (c.givenBackStreams is ++ (c.run is).held.toList) := by
  induction is generalizing c with
  | nil => rw [openedStreams, gather, List.append_nil]; exact List.Perm.refl _
  | cons i is ih =>
    -- What is held in between stands on both sides.
    calc c.held.toList ++ (c.opens i ++ (c.after i).openedStreams is)
        = (c.held.toList ++ c.opens i) ++ (c.after i).openedStreams is :=
          (List.append_assoc ..).symm
      _ ~ (c.opens i ++ c.held.toList) ++ (c.after i).openedStreams is :=
          List.perm_append_comm.append_right _
      _ ~ (c.givesBack i ++ (c.after i).held.toList) ++ (c.after i).openedStreams is :=
          (c.opens_append_held_perm i).append_right _
      _ = c.givesBack i ++ ((c.after i).held.toList ++ (c.after i).openedStreams is) :=
          List.append_assoc ..
      _ ~ c.givesBack i ++ ((c.after i).givenBackStreams is ++ (c.run (i :: is)).held.toList) :=
          (ih _).append_left _
      _ = (c.givesBack i ++ (c.after i).givenBackStreams is) ++ (c.run (i :: is)).held.toList :=
          (List.append_assoc ..).symm

theorem openedStreams_perm (is : List Input) :
    (initial.openedStreams is).Perm
      (initial.givenBackStreams is ++ (initial.run is).held.toList) :=
  initial.held_append_openedStreams_perm is

/-! ### Calls -/

/-- A subscription that is made anew holds no stream yet. -/
theorem held_subscribe_of_not_follows {job : JobId} (hf : ¬ c.follows job) :
    (c.subscribe job).1.held = none := by
  unfold subscribe
  rw [if_neg hf]
  rfl

theorem held_subscribe {job : JobId} (hne : c.subscribe job ≠ (c, [])) :
    (c.subscribe job).1.held = none :=
  held_subscribe_of_not_follows fun hf => hne (if_pos hf)

/-- **No stream outlives a call that ends its subscription.** -/
theorem held_call (hn : c.dropped = false) {k : Call}
    (hk : k = .unsubscribe ∨ k = .drop ∨ c.call k ≠ (c, [])) : (c.call k).1.held = none := by
  rw [call_of_not_dropped hn] at hk ⊢
  cases k with
  | unsubscribe => exact held_of_none (teardown_active c)
  | drop => exact held_of_none (teardown_active c)
  | subscribe job =>
    have hne : c.subscribe job ≠ (c, []) := by simpa using hk
    exact held_subscribe hne
  | resubscribe =>
    have hne : c.resubscribe ≠ (c, []) := by simpa using hk
    show c.resubscribe.1.held = none
    unfold resubscribe at hne ⊢
    cases hjob : c.lastJob with
    | none => rw [hjob] at hne; exact absurd rfl hne
    | some job => rw [hjob] at hne; exact held_subscribe hne

/-! ### Late streams -/

/-- What is read from is held. -/
theorem held_of_mem_reads {i : Input} {stream : StreamId} (hi : stream ∈ c.reads i) :
    c.held = some stream := by
  unfold reads at hi
  split at hi
  · obtain ⟨s, hs, hstream⟩ := Option.bind_eq_some_iff.1 (Option.mem_toList.1 hi)
    exact Option.bind_eq_some_iff.2 ⟨s, (Option.filter_eq_some_iff.1 hs).1, hstream⟩
  · cases hi

/-- A stream that is opened for a subscription other than the current one is given back at once. -/
theorem givesBack_of_late {g : Nat} {stream : StreamId}
    (hopen : stream ∈ c.opens (.happening (.answer g (.ok stream))))
    (hne : ∀ s, c.active = some s → s.generation ≠ g) :
    stream ∈ c.givesBack (.happening (.answer g (.ok stream))) := by
  obtain ⟨s, hs, ha, -⟩ | ⟨r, -, result, hresult, -, heq⟩ | ⟨hactive, hlate, -⟩ :=
    step_cases c (.answer g (.ok stream))
  · exact absurd (generation_of_awaits ha) (hne s hs)
  · cases hresult
    rw [givesBack, react, heq]
    exact List.mem_singleton.2 rfl
  · rw [opens_of_not_expected hactive hlate] at hopen
    cases hopen

/-- A stream that is opened for a subscription other than the current one is held at no time, if the
transport opens no stream twice. -/
theorem held_ne_of_late {is js pre : List Input} {g : Nat} {stream : StreamId}
    (hopen : stream ∈ (initial.run is).opens (.happening (.answer g (.ok stream))))
    (hne : ∀ s, (initial.run is).active = some s → s.generation ≠ g)
    (hnodup : (initial.openedStreams (is ++ .happening (.answer g (.ok stream)) :: js)).Nodup)
    (hpre : pre <+: is ++ .happening (.answer g (.ok stream)) :: js) :
    (initial.run pre).held ≠ some stream := by
  intro hheld
  set i : Input := .happening (.answer g (.ok stream)) with hi
  have hopened : (initial.openedStreams (is ++ [i])).count stream =
      (initial.openedStreams is).count stream + ((initial.run is).opens i).count stream := by
    rw [openedStreams, gather_append, gather_singleton, List.count_append]
    rfl
  have hgiven : 0 < (initial.givenBackStreams (is ++ [i])).count stream := by
    rw [givenBackStreams, gather_append, gather_singleton, List.count_pos_iff]
    exact List.mem_append_right _ (givesBack_of_late hopen hne)
  have hpos := List.count_pos_iff.2 hopen
  -- What is held has been opened once more than it was given back.
  have hcount := (openedStreams_perm pre).count_eq stream
  rw [hheld, List.count_append, Option.toList_some, List.count_singleton_self] at hcount
  have hle {p : List Input} (hp : p <+: is ++ i :: js) :
      (initial.openedStreams p).count stream ≤ 1 :=
    Nat.le_trans ((gather_mono after opens initial hp).sublist.count_le stream)
      (List.nodup_iff_count_le_one.1 hnodup stream)
  have hnow : is ++ [i] <+: is ++ i :: js := ⟨js, by simp⟩
  have hnow_le := hle hnow
  have hpre_le := hle hpre
  by_cases hlater : is ++ [i] <+: pre
  · -- At `pre` the stream has been given back already.
    have : (initial.givenBackStreams (is ++ [i])).count stream ≤
        (initial.givenBackStreams pre).count stream :=
      (gather_mono after givesBack initial hlater).sublist.count_le stream
    omega
  · -- At `pre` the stream has been opened already, and it is opened again.
    have hearlier : pre <+: is := by
      rcases List.prefix_or_prefix_of_prefix hpre hnow with h | h
      · rcases List.prefix_concat_iff.1 h with rfl | h
        · exact absurd List.prefix_rfl hlater
        · exact h
      · exact absurd h hlater
    have : (initial.openedStreams pre).count stream ≤ (initial.openedStreams is).count stream :=
      (gather_mono after opens initial hearlier).sublist.count_le stream
    omega

/-! ### All streams of a run -/

/-- **Streams are neither leaked nor shared.** In every run, drops of the client and calls inside
the transport's answers included, (a) what the transport has opened is what was given back and the
one stream, if any, that the current reader holds; (b) a transport that opens no stream twice gets
none back twice; (c) when a call returns that ends a subscription, everything opened so far has been
given back; and (d) a stream that is opened for a subscription other than the current one is given
back in that very step, and nothing is ever read from it. -/
theorem streams_accounted_for (is : List Input) :
    (initial.openedStreams is).Perm
        (initial.givenBackStreams is ++ (initial.run is).held.toList) ∧
      ((initial.openedStreams is).Nodup → (initial.givenBackStreams is).Nodup) ∧
      (∀ k, (initial.run is).dropped = false →
        (k = .unsubscribe ∨ k = .drop ∨ (initial.run is).call k ≠ (initial.run is, [])) →
        (initial.openedStreams (is ++ [.call k])).Perm
          (initial.givenBackStreams (is ++ [.call k]))) ∧
      (∀ g stream js, let answer : Input := .happening (.answer g (.ok stream))
        stream ∈ (initial.run is).opens answer →
        (∀ s, (initial.run is).active = some s → s.generation ≠ g) →
        stream ∈ (initial.run is).givesBack answer ∧
          ((initial.openedStreams (is ++ answer :: js)).Nodup →
            stream ∉ initial.readStreams (is ++ answer :: js))) := by
  refine ⟨openedStreams_perm is, ?_, ?_, ?_⟩
  · intro hnodup
    exact ((openedStreams_perm is).nodup hnodup).of_append_left
  · -- A call that changes anything leaves no stream held, so the balance has no remainder.
    intro k hn hk
    have hheld : (initial.run (is ++ [.call k])).held = none := by
      rw [run_append]
      exact held_call hn hk
    have := openedStreams_perm (is ++ [.call k])
    rwa [hheld, Option.toList_none, List.append_nil] at this
  · -- A stream read later would be one held at that moment, which a stream given back when it was
    -- opened is not.
    intro g stream js answer hopen hne
    refine ⟨givesBack_of_late hopen hne, fun hnodup hread => ?_⟩
    obtain ⟨pre, i, post, heq, hi⟩ := mem_gather hread
    have hpre : pre <+: is ++ answer :: js := ⟨i :: post, heq.symm⟩
    exact held_ne_of_late hopen hne hnodup hpre (held_of_mem_reads hi)

/-- A run whose first subscription ends while the transport opens its stream. -/
def leftEarly : List Input :=
  [.call (.subscribe 1), .happening (.turn 1), .call (.subscribe 2)]

/-- The stream that comes for it then is given back unread. -/
theorem leftEarly_givesBack :
    5 ∈ (initial.run leftEarly).givesBack (.happening (.answer 1 (.ok 5))) ∧
      5 ∉ initial.readStreams (leftEarly ++ [.happening (.answer 1 (.ok 5))]) := by
  have hopen : 5 ∈ (initial.run leftEarly).opens (.happening (.answer 1 (.ok 5))) :=
    List.mem_singleton.2 rfl
  have hne : ∀ s, (initial.run leftEarly).active = some s → s.generation ≠ 1 := by
    rintro _ ⟨⟩
    decide
  have hnodup : (initial.openedStreams (leftEarly ++ [.happening (.answer 1 (.ok 5))])).Nodup :=
    List.nodup_singleton 5
  obtain ⟨hback, hread⟩ := (streams_accounted_for leftEarly).2.2.2 1 5 [] hopen hne
  exact ⟨hback, hread hnodup⟩

end Client

end MachiningViewer.Progress
