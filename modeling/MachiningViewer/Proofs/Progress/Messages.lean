import MachiningViewer.Proofs.Progress.Requests

/-!
# The messages of one stream

Only the reader of the current subscription takes anything from a stream, and it acts on it in the
same step, before any call can end its subscription (`state_after_of_mem_takes`).

A stream that is opened once at most is held for a while by one subscription, and not before or
after. A reader stops after the first thing that is no message. So the passage of a stream through a
client has three parts (`Passage`), and what is read from it is what was sent up to the first
failure or end, or less (`filter_isMessage_prefix`).
-/

namespace MachiningViewer.Progress

def Item.isMessage : Item → Bool
  | .message _ => true
  | .failure _ | .ending => false

/-- What was taken from one stream. -/
def itemsOf (stream : StreamId) (taken : List (Subscription × Item)) : List Item :=
  (taken.filter (·.1.stream? == some stream)).map (·.2)

namespace Client

variable {c : Client} {s : Subscription} {i : Input} {item : Item} {stream : StreamId}

/-- What is taken from a stream with an input, and who takes it. -/
def takes (c : Client) : Input → List (Subscription × Item)
  | .happening (.receive g item) =>
    (c.active.filter (·.awaits (.receive g item))).toList.map (·, item)
  | _ => []

/-- What is taken from streams during a run, in order. -/
def taken (c : Client) (is : List Input) : List (Subscription × Item) :=
  gather after takes c is

/-! ### Who reads -/

theorem mem_takes_iff : (s, item) ∈ c.takes i ↔
    ∃ g, i = .happening (.receive g item) ∧ c.active = some s ∧ s.awaits (.receive g item) := by
  unfold takes
  split
  · rename_i g item'
    constructor
    · intro ht
      obtain ⟨s', hs, heq⟩ := List.mem_map.1 ht
      cases heq
      exact ⟨g, rfl, Option.filter_eq_some_iff.1 (Option.mem_toList.1 hs)⟩
    · rintro ⟨_, ⟨⟩, hs⟩
      exact List.mem_map.2 ⟨s, Option.mem_toList.2 (Option.filter_eq_some_iff.2 hs), rfl⟩
  · rename_i hne
    exact iff_of_false List.not_mem_nil fun ⟨g, hi, _⟩ => hne g item hi

theorem takes_of_awaits {g : Nat} (hs : c.active = some s) (ha : s.awaits (.receive g item)) :
    c.takes (.happening (.receive g item)) = [(s, item)] := by
  rw [takes, Option.filter_eq_some_iff.2 ⟨hs, ha⟩]
  rfl

/-- **What is taken is taken for the current generation.** -/
theorem generation_eq_of_mem_takes (hc : c.Coherent ∨ c.Gone) (ht : (s, item) ∈ c.takes i) :
    c.state.generation = s.generation := by
  obtain ⟨g, -, hs, -⟩ := mem_takes_iff.1 ht
  rcases hc with hc | hg
  · exact hc.generation_eq s hs
  · rw [hg.no_subscription] at hs
    cases hs

/-- **What is taken is acted on at once.** An event is applied, and a failure or an end disconnects;
only a message that is no event makes nothing of the state. -/
theorem state_after_of_mem_takes (hc : c.Coherent ∨ c.Gone) (ht : (s, item) ∈ c.takes i) :
    (c.after i).state = item.change?.getD id c.state := by
  have hg := generation_eq_of_mem_takes hc ht
  obtain ⟨g, rfl, hs, ha⟩ := mem_takes_iff.1 ht
  have hhear : (c.hear s item).1.state = item.change?.getD id c.state := by
    rw [hear_fst]
    cases item.change? with
    | none => rfl
    | some f => exact congrArg (·.1.state) (writeCurrent_of_eq f hg)
  show (c.step (.receive g item)).1.state = _
  rw [step_of_awaits hs ha]
  simp only [stepCurrent, received]
  split <;> exact hhear

/-! ### The passage of a stream -/

/-- How far the passage of a stream is: whether it was opened, whether it is held, and what was
taken from it. -/
inductive Passage (c : Client) (stream : StreamId) (opened : List StreamId) (all : List Item) :
    Prop
  | before (hopened : stream ∉ opened) (hheld : c.held ≠ some stream) (hall : all = [])
  | during (hopened : stream ∈ opened) (hheld : c.held = some stream)
      (hall : ∀ item ∈ all, item.isMessage)
  /-- Nobody holds the stream any more. At most the last of what was taken was no message. -/
  | past (hopened : stream ∈ opened) (hheld : c.held ≠ some stream)
      (hall : ∃ messages last, all = messages ++ last ∧ last.length ≤ 1 ∧
        ∀ item ∈ messages, item.isMessage)

/-- What is held after an input was held before, or is opened with it. -/
theorem held_of_held_after (ho : stream ∉ c.opens i) (hh : (c.after i).held = some stream) :
    c.held = some stream := by
  have hmem : stream ∈ c.givesBack i ++ (c.after i).held.toList := by
    rw [hh]
    exact List.mem_append_right _ List.mem_cons_self
  have hbefore := (c.opens_append_held_perm i).mem_iff.2 hmem
  exact Option.mem_toList.1 ((List.mem_append.1 hbefore).resolve_left ho)

/-- A reader that still holds its stream has taken a message. -/
theorem isMessage_of_held_after {g : Nat} (hs : c.active = some s)
    (ha : s.awaits (.receive g item))
    (hh : (c.after (.happening (.receive g item))).held = some stream) : item.isMessage := by
  cases item with
  | message payload => rfl
  | failure e =>
    change (c.step (.receive g (.failure e))).1.held = some stream at hh
    rw [step_of_awaits hs ha] at hh
    cases hh
  | ending =>
    change (c.step (.receive g .ending)).1.held = some stream at hh
    rw [step_of_awaits hs ha] at hh
    cases hh

theorem itemsOf_append (stream : StreamId) (ts ts' : List (Subscription × Item)) :
    itemsOf stream (ts ++ ts') = itemsOf stream ts ++ itemsOf stream ts' := by
  rw [itemsOf, List.filter_append, List.map_append]
  rfl

/-- **What an input can do as to one stream**, in any state. It opens the stream, or it takes one
thing from it for the reader that holds it, or it does neither. -/
theorem handles (c : Client) (stream : StreamId) (i : Input) :
    (stream ∈ c.opens i ∧ itemsOf stream (c.takes i) = []) ∨
    (∃ item, c.opens i = [] ∧ itemsOf stream (c.takes i) = [item] ∧ c.held = some stream ∧
      ((c.after i).held = some stream → item.isMessage)) ∨
    (stream ∉ c.opens i ∧ itemsOf stream (c.takes i) = []) := by
  cases htakes : c.takes i with
  | nil => exact (em _).imp (⟨·, rfl⟩) fun ho => .inr ⟨ho, rfl⟩
  | cons t ts =>
    obtain ⟨s, item⟩ := t
    have ht : (s, item) ∈ c.takes i := htakes ▸ List.mem_cons_self
    obtain ⟨g, rfl, hs, ha⟩ := mem_takes_iff.1 ht
    rw [takes_of_awaits hs ha] at htakes
    obtain ⟨-, rfl⟩ := List.cons_eq_cons.1 htakes
    by_cases hstream : s.stream? = some stream
    · refine .inr (.inl ⟨item, rfl, by simp [itemsOf, hstream], ?_, isMessage_of_held_after hs ha⟩)
      rw [held, hs]
      exact hstream
    · exact .inr (.inr ⟨List.not_mem_nil, by simp [itemsOf, hstream]⟩)

variable {opened : List StreamId} {all : List Item}

/-- **A step of the passage of a stream** that is opened once at most. -/
theorem Passage.after (hp : c.Passage stream opened all) (hnodup : (opened ++ c.opens i).Nodup) :
    (c.after i).Passage stream (opened ++ c.opens i) (all ++ itemsOf stream (c.takes i)) := by
  -- What has been opened is not opened again: only a stream that is yet to come can be opened.
  have honce (ho : stream ∈ opened) (ho' : stream ∈ c.opens i) : False :=
    (List.nodup_append.1 hnodup).2.2 _ ho _ ho' rfl
  rcases c.handles stream i with ⟨ho, htakes⟩ | ⟨item, hopens, htakes, hheld, hmessage⟩ |
      ⟨ho, htakes⟩
  · rw [htakes, List.append_nil]
    cases hp with
    | before _ _ hall =>
      subst hall
      by_cases hh : (c.after i).held = some stream
      · exact .during (List.mem_append_right _ ho) hh nofun
      · exact .past (List.mem_append_right _ ho) hh ⟨[], [], rfl, Nat.zero_le _, nofun⟩
    | during hopened => exact (honce hopened ho).elim
    | past hopened => exact (honce hopened ho).elim
  · rw [htakes, hopens, List.append_nil]
    cases hp with
    | before _ hne => exact absurd hheld hne
    | during hopened _ hall =>
      by_cases hh : (c.after i).held = some stream
      · refine .during hopened hh fun item' hmem => ?_
        rcases List.mem_append.1 hmem with hmem | hmem
        · exact hall item' hmem
        · exact List.mem_singleton.1 hmem ▸ hmessage hh
      · exact .past hopened hh ⟨all, [item], rfl, Nat.le_refl _, hall⟩
    | past _ hne => exact absurd hheld hne
  · -- The stream may be given back now, but it is not held by anybody new.
    rw [htakes, List.append_nil]
    have hback := mt (held_of_held_after ho)
    cases hp with
    | before hopened hne hall => exact .before (List.not_mem_append hopened ho) (hback hne) hall
    | during hopened _ hall =>
      by_cases hh : (c.after i).held = some stream
      · exact .during (List.mem_append_left _ hopened) hh hall
      · exact .past (List.mem_append_left _ hopened) hh
          ⟨all, [], (List.append_nil _).symm, Nat.zero_le _, hall⟩
    | past hopened hne hall => exact .past (List.mem_append_left _ hopened) (hback hne) hall

theorem passage_run (stream : StreamId) (is : List Input)
    (hnodup : (initial.openedStreams is).Nodup) :
    (initial.run is).Passage stream (initial.openedStreams is)
      (itemsOf stream (initial.taken is)) := by
  -- The streams of a shorter run are opened once at most, too.
  induction is using List.reverseRecOn with
  | nil => exact .before List.not_mem_nil nofun rfl
  | append_singleton is i ih =>
    rw [openedStreams, gather_append, gather_singleton] at hnodup
    rw [run_append, openedStreams, taken, gather_append, gather_append, gather_singleton,
      gather_singleton, itemsOf_append]
    exact (ih hnodup.of_append_left).after hnodup

/-- What was taken from a stream that is opened once at most, wherever its passage is: messages, and
at most one thing more. -/
theorem Passage.messages (hp : c.Passage stream opened all) :
    ∃ messages last, all = messages ++ last ∧ last.length ≤ 1 ∧
      ∀ item ∈ messages, item.isMessage := by
  cases hp with
  | before _ _ hall => exact ⟨[], [], hall, Nat.zero_le _, nofun⟩
  | during _ _ hall => exact ⟨all, [], (List.append_nil _).symm, Nat.zero_le _, hall⟩
  | past _ _ hall => exact hall

/-- What is taken until the first thing that is no message is, of what was sent, no more than that.
-/
theorem filter_isMessage_prefix {sent : List Item}
    (hall : ∃ messages last, all = messages ++ last ∧ last.length ≤ 1 ∧
      ∀ item ∈ messages, item.isMessage) (hsent : all <+: sent) :
    all.filter (·.isMessage) <+: sent.takeWhile (·.isMessage) := by
  obtain ⟨messages, last, rfl, hlength, hmessages⟩ := hall
  obtain ⟨rest, rfl⟩ := hsent
  rw [List.append_assoc, List.takeWhile_append_of_pos hmessages, List.filter_append,
    List.filter_eq_self.2 hmessages, List.prefix_append_right_inj]
  match last, hlength with
  | [], _ => exact List.nil_prefix
  | [item], _ =>
    by_cases hm : item.isMessage <;> simp [hm]

end Client

end MachiningViewer.Progress
