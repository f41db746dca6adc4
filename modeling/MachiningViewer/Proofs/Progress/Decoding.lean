import MachiningViewer.Proofs.Json.Doubles
import MachiningViewer.Proofs.Progress.Run

/-!
# Which payloads are progress events

A payload is a progress event if it is a well-formed JSON text whose tree denotes one
(`Event.Denotes`), and what it denotes is what is decoded (`Event.decode?_exact`). An object denotes
an event if each of the three members that are known stands there at most once and holds what it
should, or null. The other members may be anything, as long as their names are text.

The fields may also be written as a list in their order, which stands for the object that names
them. Nothing else is an event, and what is not one leaves every client in its state.

An object is read member by member, and each member fills the slot of its field. The slots are
independent, so a whole object fills each slot with the values under its own name (`Event.Fills`,
`Event.foldlM_takeMember_iff`).
-/

namespace MachiningViewer.Progress.Event

open Json

/-- A member of an object: its name, if it is text, and its value. -/
abbrev Member : Type :=
  Except Fault String × Tree

/-- The values of all the members with a name. -/
def valuesOf (name : String) (members : List Member) : List Tree :=
  members.filterMap fun m => if m.1.toOption = some name then some m.2 else none

/-- The tree is a text. -/
def IsText (t : Tree) (s : String) : Prop :=
  t = .string (.ok s)

/-- What is held by an optional member, given all the values under its name: there is one at most,
and it may be null. -/
inductive Holds {α : Type} (Is : Tree → α → Prop) : List Tree → Option α → Prop
  | absent : Holds Is [] none
  | null : Holds Is [.null] none
  | value {t : Tree} {a : α} (h : Is t a) : Holds Is [t] (some a)

/-- The members of the object that names the items of a list, in the order of the fields. -/
def named (items : List Tree) : List Member :=
  [.ok "progress", .ok "message", .ok "stage"].zip items

/-- The event that a tree denotes. -/
inductive Denotes : Tree → Event → Prop
  | object {members : List Member} {e : Event} (names : ∀ m ∈ members, ∃ name, m.1 = .ok name)
    (progress : Holds Tree.IsDouble (valuesOf "progress" members) e.progress)
    (message : Holds IsText (valuesOf "message" members) e.message)
    (stage : Holds IsText (valuesOf "stage" members) e.stage) :
    Denotes (.object members true) e
  /-- A list of three items at most is as the object that names them. -/
  | list {items : List Tree} {e : Event} (length : items.length ≤ 3)
    (h : Denotes (.object (named items) true) e) :
    Denotes (.array items true) e

/-! ### Slots -/

/-- What a slot is before and after it is filled with values. There is room for one. -/
inductive Fills {α : Type} (Is : Tree → α → Prop) :
    Option (Option α) → List Tree → Option (Option α) → Prop
  | nothing (slot : Option (Option α)) : Fills Is slot [] slot
  | value {t : Tree} {a : Option α} (h : Holds Is [t] a) : Fills Is none [t] (some a)

section

variable {α : Type} {Is : Tree → α → Prop} {slot slot' : Option (Option α)}

theorem fills_append {ts us : List Tree} :
    Fills Is slot (ts ++ us) slot' ↔ ∃ next, Fills Is slot ts next ∧ Fills Is next us slot' := by
  constructor
  · intro h
    cases ts with
    | nil => exact ⟨slot, .nothing slot, h⟩
    | cons t ts =>
      generalize hvalues : t :: ts ++ us = values at h
      cases h with
      | nothing => cases hvalues
      | value h =>
        -- There is room for one value, so it is in front, and nothing is behind it.
        obtain ⟨rfl, hrest⟩ := List.cons.inj hvalues
        obtain ⟨rfl, rfl⟩ := List.append_eq_nil_iff.1 hrest
        exact ⟨_, .value h, .nothing _⟩
  · rintro ⟨next, hnext, h⟩
    cases hnext with
    | nothing => exact h
    | value hvalue =>
      cases h with
      | nothing => exact .value hvalue

/-- What an empty slot holds, once it is filled. -/
theorem holds_iff {ts : List Tree} {a : Option α} :
    Holds Is ts a ↔ ∃ slot, Fills Is none ts slot ∧ slot.getD none = a := by
  constructor
  · intro h
    cases h with
    | absent => exact ⟨none, .nothing none, rfl⟩
    | null => exact ⟨some none, .value .null, rfl⟩
    | value h => exact ⟨_, .value (.value h), rfl⟩
  · rintro ⟨slot, h, rfl⟩
    cases h with
    | nothing => exact .absent
    | value h => exact h

/-- One value is held as it is read, null for nothing. -/
theorem holds_singleton_iff {read : Tree → Except Fault α} {t : Tree}
    (hread : ∀ a, read t = .ok a ↔ Is t a) (hnull : ∀ a, ¬ Is .null a) {a : Option α} :
    Holds Is [t] a ↔ t.optional read = .ok a := by
  unfold Tree.optional
  split
  · constructor
    · intro h
      cases h with
      | null => rfl
      | value h => exact absurd h (hnull _)
    · intro h
      obtain rfl := Except.ok.inj h
      exact .null
  · -- A value that is not null is held as it is read.
    rename_i hne
    constructor
    · intro h
      cases h with
      | null => exact absurd rfl hne
      | value h =>
        rw [(hread _).2 h]
        rfl
    · intro h
      cases hok : read t with
      | ok a =>
        rw [hok] at h
        obtain rfl := Except.ok.inj h
        exact .value ((hread a).1 hok)
      | error fault =>
        rw [hok] at h
        cases h

theorem fills_singleton_iff {read : Tree → Except Fault α} {t : Tree}
    (hread : ∀ a, read t = .ok a ↔ Is t a) (hnull : ∀ a, ¬ Is .null a) :
    Fills Is slot [t] slot' ↔
      slot = none ∧ ∃ a, t.optional read = .ok a ∧ slot' = some a := by
  constructor
  · intro h
    cases h with
    | value h => exact ⟨rfl, _, (holds_singleton_iff hread hnull).1 h, rfl⟩
  · rintro ⟨rfl, a, ha, rfl⟩
    exact .value ((holds_singleton_iff hread hnull).2 ha)

theorem fills_nil_iff : Fills Is slot [] slot' ↔ slot' = slot := by
  constructor
  · intro h
    cases h with
    | nothing => rfl
  · rintro rfl
    exact .nothing _

end

theorem text_eq_ok_iff {t : Tree} {s : String} : t.text = .ok s ↔ IsText t s := by
  constructor
  · intro h
    unfold Tree.text at h
    split at h
    · rw [h]
      rfl
    · exact absurd h mismatch_ne_ok
  · rintro rfl
    rfl

/-! ### Members -/

theorem field?_label (f : Field) : schema.field? f.label = some f := by
  cases f <;> decide

theorem eq_label_of_field? {name : String} {f : Field} (h : schema.field? name = some f) :
    name = f.label :=
  (eq_of_beq (List.find?_some (p := fun g : Field => g.label == name) h)).symm

theorem valuesOf_label (f g : Field) (t : Tree) :
    valuesOf f.label [(.ok g.label, t)] = if f = g then [t] else [] := by
  cases f <;> cases g <;> rfl

theorem valuesOf_unknown {name : String} (h : schema.field? name = none) (f : Field) (t : Tree) :
    valuesOf f.label [(.ok name, t)] = [] := by
  have hne : name ≠ f.label := by
    rintro rfl
    rw [field?_label] at h
    cases h
  simp [valuesOf, Except.toOption, hne]

theorem valuesOf_append (name : String) (ms ns : List Member) :
    valuesOf name (ms ++ ns) = valuesOf name ms ++ valuesOf name ns :=
  List.filterMap_append ..

/-- Each slot is filled with the values under its name. -/
structure Slots.Takes (slots : Slots) (ms : List Member) (slots' : Slots) : Prop where
  names : ∀ m ∈ ms, ∃ name, m.1 = .ok name
  progress : Fills Tree.IsDouble slots.progress (valuesOf "progress" ms) slots'.progress
  message : Fills IsText slots.message (valuesOf "message" ms) slots'.message
  stage : Fills IsText slots.stage (valuesOf "stage" ms) slots'.stage

theorem Slots.takes_append {slots slots' : Slots} {ms ns : List Member} :
    slots.Takes (ms ++ ns) slots' ↔ ∃ next, slots.Takes ms next ∧ next.Takes ns slots' := by
  constructor
  · rintro ⟨names, progress, message, stage⟩
    -- Each of the slots is in between what its own values make it.
    rw [valuesOf_append, fills_append] at progress message stage
    obtain ⟨p, hp, hp'⟩ := progress
    obtain ⟨m, hm, hm'⟩ := message
    obtain ⟨s, hs, hs'⟩ := stage
    rw [List.forall_mem_append] at names
    exact ⟨⟨p, m, s⟩, ⟨names.1, hp, hm, hs⟩, ⟨names.2, hp', hm', hs'⟩⟩
  · rintro ⟨next, h, h'⟩
    refine ⟨List.forall_mem_append.2 ⟨h.names, h'.names⟩, ?_, ?_, ?_⟩
    all_goals rw [valuesOf_append, fills_append]
    · exact ⟨_, h.progress, h'.progress⟩
    · exact ⟨_, h.message, h'.message⟩
    · exact ⟨_, h.stage, h'.stage⟩

/-- Members whose names are all unknown fill nothing. -/
theorem Slots.takes_unknown_iff {slots slots' : Slots} {ms : List Member}
    (names : ∀ m ∈ ms, ∃ name, m.1 = .ok name) (hvalues : ∀ f : Field, valuesOf f.label ms = []) :
    slots.Takes ms slots' ↔ slots' = slots := by
  have hprogress : valuesOf "progress" ms = [] := hvalues .progress
  have hmessage : valuesOf "message" ms = [] := hvalues .message
  have hstage : valuesOf "stage" ms = [] := hvalues .stage
  constructor
  · rintro ⟨-, progress, message, stage⟩
    rw [hprogress, fills_nil_iff] at progress
    rw [hmessage, fills_nil_iff] at message
    rw [hstage, fills_nil_iff] at stage
    cases slots
    cases slots'
    simp_all
  · rintro rfl
    exact ⟨names, hprogress ▸ .nothing _, hmessage ▸ .nothing _, hstage ▸ .nothing _⟩

/-- A known member fills the slot of its field and no other. -/
theorem Slots.takes_label_iff {slots slots' : Slots} {f : Field} {t : Tree} :
    slots.Takes [(.ok f.label, t)] slots' ↔
      Fills Tree.IsDouble slots.progress (if .progress = f then [t] else []) slots'.progress ∧
        Fills IsText slots.message (if .message = f then [t] else []) slots'.message ∧
        Fills IsText slots.stage (if .stage = f then [t] else []) slots'.stage := by
  rw [← valuesOf_label, ← valuesOf_label, ← valuesOf_label]
  constructor
  · rintro ⟨-, progress, message, stage⟩
    exact ⟨progress, message, stage⟩
  · rintro ⟨progress, message, stage⟩
    exact ⟨by simp, progress, message, stage⟩

theorem takeMember_label_iff {slots slots' : Slots} {f : Field} {t : Tree} :
    takeMember schema slots (.ok f.label, t) = .ok slots' ↔
      slots.Takes [(.ok f.label, t)] slots' := by
  have htake : takeMember schema slots (.ok f.label, t) = .ok slots' ↔
      slots.has f = false ∧ slots.put f t = .ok slots' := by
    rw [takeMember_eq_ok]
    simp only [Except.ok.injEq, exists_eq_left', field?_label, reduceCtorEq, false_and, false_or,
      Option.some.injEq]
    exact Iff.rfl
  have hdouble (slot slot' : Option (Option Float)) : Fills Tree.IsDouble slot [t] slot' ↔
      slot = none ∧ ∃ a, t.optional Tree.double = .ok a ∧ slot' = some a :=
    fills_singleton_iff (fun _ => Tree.double_eq_ok_iff) fun _ h => nomatch h
  have htext (slot slot' : Option (Option String)) : Fills IsText slot [t] slot' ↔
      slot = none ∧ ∃ a, t.optional Tree.text = .ok a ∧ slot' = some a :=
    fills_singleton_iff (fun _ => text_eq_ok_iff) fun _ h => nomatch h
  rw [htake, Slots.takes_label_iff]
  obtain ⟨p, m, s⟩ := slots
  obtain ⟨p', m', s'⟩ := slots'
  -- The three fields are alike but for the slot that is filled.
  cases f
  all_goals
    simp [Slots.has, Slots.put, bind_eq_ok, fills_nil_iff, hdouble, htext, pure, Except.pure]
    grind

/-- **One member** fills the slot of its field, if it has one, and no other. -/
theorem takeMember_iff {slots slots' : Slots} {m : Member} (hm : m.2.Spelled) :
    takeMember schema slots m = .ok slots' ↔ slots.Takes [m] slots' := by
  obtain ⟨name, t⟩ := m
  cases name with
  | error fault =>
    constructor
    · intro h
      cases h
    · rintro ⟨names, -⟩
      obtain ⟨_, ⟨⟩⟩ := names _ (List.mem_singleton_self _)
  | ok name =>
    cases hname : schema.field? name with
    | none =>
      -- An unknown member only has to keep to the grammar, which a well-formed text does.
      have htake : takeMember schema slots (.ok name, t) = .ok slots := by
        simp [takeMember, hname, hm.isWhole]
      rw [htake, Slots.takes_unknown_iff (by simp) fun f => valuesOf_unknown hname f t,
        Except.ok.injEq, eq_comm]
    | some f =>
      obtain rfl := eq_label_of_field? hname
      exact takeMember_label_iff

/-- **A whole object** fills each slot with the values under its name. -/
theorem foldlM_takeMember_iff {ms : List Member} (hms : ∀ m ∈ ms, m.2.Spelled)
    {slots slots' : Slots} :
    ms.foldlM (takeMember schema) slots = .ok slots' ↔ slots.Takes ms slots' := by
  induction ms generalizing slots with
  | nil =>
    rw [Slots.takes_unknown_iff (by simp) fun _ => rfl, List.foldlM_nil, eq_comm]
    exact (Except.ok.injEq slots' slots).to_iff
  | cons m ms ih =>
    rw [List.forall_mem_cons] at hms
    rw [List.foldlM_cons, bind_eq_ok, ← List.singleton_append, Slots.takes_append]
    exact exists_congr fun next => and_congr (takeMember_iff hms.1) (ih hms.2)

/-! ### Events -/

/-- What is known of an event when it is read is what it holds. -/
def Slots.event (s : Slots) : Event :=
  ⟨s.progress.getD none, s.message.getD none, s.stage.getD none⟩

theorem ofTree_eq_ok_iff {t : Tree} {e : Event} :
    ofTree t = .ok e ↔ ∃ slots, t.record schema = .ok slots ∧ slots.event = e := by
  rw [ofTree, bind_eq_ok]
  simp only [pure, Except.pure, Except.ok.injEq]
  exact Iff.rfl

theorem denotes_object_iff {members : List Member} {e : Event} :
    Denotes (.object members true) e ↔
      ∃ slots, schema.empty.Takes members slots ∧ slots.event = e := by
  constructor
  · intro h
    cases h with
    | object names progress message stage =>
      obtain ⟨p, hp, hp'⟩ := holds_iff.1 progress
      obtain ⟨m, hm, hm'⟩ := holds_iff.1 message
      obtain ⟨s, hs, hs'⟩ := holds_iff.1 stage
      refine ⟨⟨p, m, s⟩, ⟨names, hp, hm, hs⟩, ?_⟩
      rw [Slots.event, hp', hm', hs']
  · rintro ⟨slots, ⟨names, progress, message, stage⟩, rfl⟩
    exact .object names (holds_iff.2 ⟨_, progress, rfl⟩) (holds_iff.2 ⟨_, message, rfl⟩)
      (holds_iff.2 ⟨_, stage, rfl⟩)

theorem denotes_list_iff {items : List Tree} {e : Event} :
    Denotes (.array items true) e ↔ items.length ≤ 3 ∧
      Denotes (.object (named items) true) e := by
  constructor
  · intro h
    cases h with
    | list length h => exact ⟨length, h⟩
  · rintro ⟨length, h⟩
    exact .list length h

theorem has_put_of_ne {slots : Slots} {f : Field} {t : Tree} {slots' : Slots}
    (h : slots.put f t = .ok slots') (g : Field) (hg : g ≠ f) : slots'.has g = slots.has g := by
  cases f
  all_goals
    obtain ⟨a, -, hok⟩ := bind_eq_ok.1 h
    obtain rfl := Except.ok.inj hok
    cases g <;> first | rfl | exact absurd rfl hg

/-- **What an event is read from.** -/
theorem ofTree_iff_denotes {t : Tree} (ht : t.Spelled) {e : Event} :
    ofTree t = .ok e ↔ Denotes t e := by
  have hmembers {ms : List Member} (hms : ∀ m ∈ ms, m.2.Spelled) {slots : Slots} :
      ms.foldlM (takeMember schema) schema.empty = .ok slots ↔ schema.empty.Takes ms slots :=
    foldlM_takeMember_iff hms
  rw [ofTree_eq_ok_iff]
  cases ht with
  | object _ hms =>
    rw [denotes_object_iff]
    refine exists_congr fun slots => and_congr_left fun _ => ?_
    rw [← hmembers hms, ← fillFromMembers_eq_foldlM, Tree.record, bind_eq_ok]
    simp [pure, Except.pure]
  | array hts =>
    rename_i items
    have hnamed : ∀ m ∈ named items, m.2.Spelled := fun m hm => hts m.2 (List.of_mem_zip hm).2
    -- A list of fields is read as the object that names them.
    have hitems (slots : Slots) :
        (Tree.array items true).record schema = .ok slots ↔ items.length ≤ 3 ∧
          schema.empty.Takes (named items) slots := by
      rw [← hmembers hnamed]
      have hnodup : Field.all.Nodup := by decide
      exact fillFromItems_eq_ok_iff (fun _ => rfl) field?_label has_put_of_ne hnodup
        fun f _ => by cases f <;> rfl
    rw [denotes_list_iff, denotes_object_iff, ← exists_and_left]
    exact exists_congr fun slots => by rw [hitems, and_assoc]
  | null | boolean | string | number =>
    -- Nothing else is read as a record, and nothing else denotes an event.
    constructor
    · rintro ⟨slots, h, -⟩
      unfold Tree.record at h
      exact absurd h mismatch_ne_ok
    · intro h
      cases h

theorem readsWhole_double : ReadsWhole Tree.double := by
  intro t x h
  unfold Tree.double at h
  split at h
  · rw [Tree.isWhole] <;> simp
  · rw [Tree.isWhole] <;> simp
  · exact absurd h mismatch_ne_ok

theorem readsWhole_ofTree : ReadsWhole ofTree := by
  have hput (slots : Slots) (f : Field) (t : Tree) (slots' : Slots)
      (h : slots.put f t = .ok slots') : t.isWhole = true := by
    cases f with
    | progress => exact readsWhole_double.optional.of_bind h
    | message | stage => exact readsWhole_text.optional.of_bind h
  intro t e h
  exact (readsWhole_record hput).of_bind h

theorem decode?_eq_some_iff {payload : String} {e : Event} :
    decode? payload = some e ↔
      ∃ s : Source, s.text = payload.toList ∧ Denotes s.tree e := by
  have hdecode : decode? payload = some e ↔ Json.decode ofTree payload = .ok e := by
    unfold decode?
    cases Json.decode ofTree payload <;> simp [Except.toOption]
  rw [hdecode]
  constructor
  · intro h
    obtain ⟨s, hs, htree⟩ := exists_source_of_decode readsWhole_ofTree h
    exact ⟨s, hs, (ofTree_iff_denotes s.spelled).1 htree⟩
  · rintro ⟨s, hs, h⟩
    obtain rfl : String.ofList s.text = payload := by rw [hs, String.ofList_toList]
    rw [decode_source]
    exact (ofTree_iff_denotes s.spelled).2 h

/-- What is no event leaves a client in its state. -/
theorem state_after_of_decode?_eq_none {payload : String} (h : decode? payload = none)
    (c : Client) (g : Nat) :
    (c.after (.happening (.receive g (.message payload)))).state = c.state := by
  -- Hearing the message changes nothing, so neither does the step of the reader that takes it.
  have hhear (c : Client) (s : Subscription) : (c.hear s (.message payload)).1.state = c.state := by
    rw [Client.hear_fst, Item.change?, h]
    rfl
  have hstep (c : Client) (s : Subscription) :
      (c.stepCurrent s (.receive g (.message payload))).1.state = c.state := by
    simp only [Client.stepCurrent, Client.received]
    split
    all_goals exact hhear c s
  show (c.step _).1.state = c.state
  obtain ⟨s, -, -, hs⟩ | ⟨r, -, result, heq, -⟩ | ⟨-, -, hs⟩ :=
    c.step_cases (.receive g (.message payload))
  · rw [hs, hstep]
  · cases heq
  · rw [hs]

/-- **Only what denotes an event is one**, and what does not leaves every client in its state. The
text must keep to the grammar to its end, and be an object with the known members once at most, or
the list of their values. -/
theorem decode?_exact (payload : String) :
    (∀ e, decode? payload = some e ↔
      ∃ s : Source, s.text = payload.toList ∧ Denotes s.tree e) ∧
    (decode? payload = none → ∀ (c : Client) (g : Nat),
      (c.after (.happening (.receive g (.message payload)))).state = c.state) :=
  ⟨fun _ => decode?_eq_some_iff, state_after_of_decode?_eq_none⟩

/-- A number that stands alone is no event, so a client that gets it shows what it has shown. -/
theorem decode?_number :
    Event.decode? "42" = none ∧ ∀ (c : Client) (g : Nat),
      (c.after (.happening (.receive g (.message "42")))).state = c.state := by
  have hnone : decode? "42" = none := by decide +kernel
  exact ⟨hnone, (decode?_exact "42").2 hnone⟩

/-- A list of one number is an event, and no well-formed object. -/
theorem decode?_list :
    (∃ e, decode? "[10]" = some e) ∧ ¬ ∃ (s : Source) (members : List Member) (closed : Bool),
      s.text = "[10]".toList ∧ s.tree = .object members closed := by
  constructor
  · have hsome : (decode? "[10]").isSome = true := by decide +kernel
    exact Option.isSome_iff_exists.1 hsome
  · rintro ⟨s, members, closed, htext, htree⟩
    have hread : Tree.read "[10]" = (s.tree, true) := by
      rw [← String.ofList_toList (s := "[10]"), ← htext, read_source]
    have hlist : (Tree.read "[10]").1 = .array [.number (.integer 10)] true := by rfl
    rw [hread, htree] at hlist
    cases hlist

end MachiningViewer.Progress.Event
