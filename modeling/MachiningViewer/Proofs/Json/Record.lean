import MachiningViewer.Proofs.Json.Source

/-!
# Reading records

What a reader accepts keeps to the grammar to its end (`ReadsWhole`), so a text that decodes is well
formed (`exists_source_of_decode`). What holds of an empty record, and is preserved when a field is
put into it, holds of every record that is read, written either way (`record_induct`).

An object is read member by member (`fillFromMembers_eq_foldlM`).
-/

namespace MachiningViewer.Json

variable {α Field Slots : Type}

/-! ### What is accepted keeps to the grammar -/

/-- What the reader accepts keeps to the grammar. -/
def ReadsWhole (read : Tree → Except Fault α) : Prop :=
  ∀ t a, read t = .ok a → t.isWhole = true

theorem mismatch_ne_ok {t : Tree} {wanted : Wanted} {a : α} : t.mismatch wanted ≠ .ok a := by
  unfold Tree.mismatch
  split <;> simp

/-- What the reader accepts on the way to something else keeps to the grammar, too. -/
theorem ReadsWhole.of_bind {read : Tree → Except Fault α} (hread : ReadsWhole read) {β : Type}
    {t : Tree} {f : α → Except Fault β} {b : β} (h : read t >>= f = .ok b) : t.isWhole = true := by
  obtain ⟨a, ha, -⟩ := bind_eq_ok.1 h
  exact hread t a ha

theorem readsWhole_natural : ReadsWhole Tree.natural := by
  intro t n h
  unfold Tree.natural at h
  split at h
  · rw [Tree.isWhole] <;> simp
  · exact absurd h mismatch_ne_ok

theorem readsWhole_text : ReadsWhole Tree.text := by
  intro t s h
  unfold Tree.text at h
  split at h
  · rw [Tree.isWhole] <;> simp
  · exact absurd h mismatch_ne_ok

theorem ReadsWhole.optional {read : Tree → Except Fault α} (hread : ReadsWhole read) :
    ReadsWhole (Tree.optional read) := by
  intro t a h
  unfold Tree.optional at h
  split at h
  · rw [Tree.isWhole] <;> simp
  · cases hok : read t with
    | ok a => exact hread t a hok
    | error fault =>
      rw [hok] at h
      cases h

theorem readsWhole_choice (table : List (String × α)) : ReadsWhole (Tree.choice table) := by
  intro t a h
  unfold Tree.choice at h
  split at h
  · rw [Tree.isWhole] <;> simp
  · obtain ⟨name, -, h⟩ := bind_eq_ok.1 h
    obtain ⟨b, -, h⟩ := bind_eq_ok.1 h
    -- An object must have one member, with the value null, and close behind it.
    split at h
    · split at h
      · cases h
      · split at h
        · simp_all [Tree.isWhole, haveWhole]
        · cases h
    · exact absurd h mismatch_ne_ok
  · cases h
  · exact absurd h mismatch_ne_ok
  all_goals cases h

mutual

/-- A tree that denotes a value keeps to the grammar. -/
theorem isWhole_of_value : (t : Tree) → {depth : Nat} → {v : Value} →
    t.value depth = .ok v → t.isWhole = true
  | .null, _, _, _ | .boolean _, _, _, _ | .number _, _, _, _ | .string _, _, _, _ => by
    rw [Tree.isWhole] <;> simp
  | .array items closed, depth, v, h => by
    rw [Tree.value] at h
    split at h
    · obtain ⟨vs, hvs, h⟩ := bind_eq_ok.1 h
      -- An array that does not close is faulted behind its items.
      rw [Tree.isWhole, areWhole_of_values items hvs, Bool.true_and]
      split at h
      · assumption
      · cases h
    · cases h
  | .object members closed, depth, v, h => by
    rw [Tree.value] at h
    split at h
    · obtain ⟨vs, hvs, h⟩ := bind_eq_ok.1 h
      rw [Tree.isWhole, haveWhole_of_memberValues members hvs, Bool.true_and]
      split at h
      · assumption
      · cases h
    · cases h
  | .misnamed _, _, _, h => by
    rw [Tree.value] at h
    split at h <;> cases h
  | .broken, _, _, h => by
    rw [Tree.value] at h
    cases h

theorem areWhole_of_values : (ts : List Tree) → {depth : Nat} → {vs : List Value} →
    values depth ts = .ok vs → areWhole ts = true
  | [], _, _, _ => by rw [areWhole]
  | t :: ts, depth, vs, h => by
    rw [values] at h
    obtain ⟨v, hv, h⟩ := bind_eq_ok.1 h
    obtain ⟨vs', hvs, -⟩ := bind_eq_ok.1 h
    rw [areWhole, isWhole_of_value t hv, areWhole_of_values ts hvs, Bool.and_true]

theorem haveWhole_of_memberValues : (ms : List (Except Fault String × Tree)) → {depth : Nat} →
    {vs : List (String × Value)} → memberValues depth ms = .ok vs → haveWhole ms = true
  | [], _, _, _ => by rw [haveWhole]
  | (name, t) :: ms, depth, vs, h => by
    rw [memberValues] at h
    obtain ⟨n, -, h⟩ := bind_eq_ok.1 h
    obtain ⟨v, hv, h⟩ := bind_eq_ok.1 h
    obtain ⟨vs', hvs, -⟩ := bind_eq_ok.1 h
    rw [haveWhole, isWhole_of_value t hv, haveWhole_of_memberValues ms hvs, Bool.and_true]

end

theorem readsWhole_table (depth : Nat) : ReadsWhole (Tree.table depth) := by
  intro t ms h
  unfold Tree.table at h
  split at h
  · obtain ⟨vs, hvs, h⟩ := bind_eq_ok.1 h
    split at h
    · rename_i hclosed
      rw [Tree.isWhole, haveWhole_of_memberValues _ hvs, hclosed, Bool.and_true]
    · cases h
  · cases h
  · exact absurd h mismatch_ne_ok

theorem areWhole_of_readAll {read : Tree → Except Fault α} (hread : ReadsWhole read)
    {ts : List Tree} {as : List α} (h : readAll read ts = .ok as) : areWhole ts = true := by
  induction ts generalizing as with
  | nil => rw [areWhole]
  | cons t ts ih =>
    rw [readAll] at h
    obtain ⟨a, ha, h⟩ := bind_eq_ok.1 h
    obtain ⟨as', has, -⟩ := bind_eq_ok.1 h
    rw [areWhole, hread t a ha, ih has, Bool.and_true]

theorem ReadsWhole.list {read : Tree → Except Fault α} (hread : ReadsWhole read) :
    ReadsWhole (Tree.list read) := by
  intro t as h
  unfold Tree.list at h
  split at h
  · obtain ⟨bs, hbs, h⟩ := bind_eq_ok.1 h
    split at h
    · rename_i hclosed
      rw [Tree.isWhole, areWhole_of_readAll hread hbs, hclosed, Bool.and_true]
    · cases h
  · exact absurd h mismatch_ne_ok

/-! ### Records -/

section

variable (s : Schema Tree Field Slots)

/-- Reads one member of an object. -/
def takeMember (slots : Slots) : Except Fault String × Tree → Except Fault Slots
  | (.error fault, _) => .error fault
  | (.ok name, t) =>
    match s.field? name with
    | none => if t.isWhole then .ok slots else .error .malformed
    | some f => if s.has slots f then .error (.duplicateField (s.label f)) else s.put slots f t

/-- **An object is read member by member.** -/
theorem fillFromMembers_eq_foldlM (slots : Slots) (ms : List (Except Fault String × Tree)) :
    fillFromMembers s slots ms = ms.foldlM (takeMember s) slots := by
  induction ms generalizing slots with
  | nil => rfl
  | cons m ms ih =>
    obtain ⟨name, t⟩ := m
    rw [List.foldlM_cons]
    cases name with
    | error fault => rfl
    | ok name =>
      rw [fillFromMembers, takeMember]
      cases s.field? name with
      | none =>
        simp only
        split
        · exact ih slots
        · rfl
      | some f =>
        simp only
        split
        · rfl
        · exact congrArg (s.put slots f t >>= ·) (funext ih)

/-- A member is accepted if its name is unknown and its value keeps to the grammar, or if its field
is new and can be read. -/
theorem takeMember_eq_ok {slots slots' : Slots} {m : Except Fault String × Tree} :
    takeMember s slots m = .ok slots' ↔ ∃ name, m.1 = .ok name ∧
      ((s.field? name = none ∧ m.2.isWhole = true ∧ slots' = slots) ∨
        ∃ f, s.field? name = some f ∧ s.has slots f = false ∧ s.put slots f m.2 = .ok slots') := by
  obtain ⟨name, t⟩ := m
  cases name with
  | error fault => simp [takeMember]
  | ok name =>
    rw [takeMember]
    cases hname : s.field? name with
    | none =>
      by_cases ht : t.isWhole = true
      · simpa [ht, hname] using eq_comm
      · simp [ht, hname]
    | some f =>
      cases hf : s.has slots f with
      | true => simp [hf, hname]
      | false => simp [hf, hname]

variable {s}

/-- A field that is new and can be read is taken. -/
theorem fillFromMembers_cons {slots slots' : Slots} {name : String} {f : Field} {t : Tree}
    (hname : s.field? name = some f) (hnew : s.has slots f = false)
    (hput : s.put slots f t = .ok slots') (ms : List (Except Fault String × Tree)) :
    fillFromMembers s slots ((.ok name, t) :: ms) = fillFromMembers s slots' ms := by
  rw [fillFromMembers]
  simp only [hname, hnew, Bool.false_eq_true, if_false, hput]
  rfl

theorem record_object {ms : List (Except Fault String × Tree)} {slots : Slots}
    (h : fillFromMembers s s.empty ms = .ok slots) :
    (Tree.object ms true).record s = .ok slots := by
  rw [Tree.record, h]
  rfl

/-- **A list of optional fields** is read as the object is that gives its items the names of the
fields, in the order of the schema. -/
theorem fillFromItems_eq_ok_iff (hoptional : ∀ f, s.isOptional f = true)
    (hname : ∀ f, s.field? (s.label f) = some f)
    (hput : ∀ {slots f t slots'}, s.put slots f t = .ok slots' →
      ∀ g, g ≠ f → s.has slots' g = s.has slots g)
    {fs : List Field} (hfs : fs.Nodup) {ts : List Tree} {index : Nat} {slots slots' : Slots}
    (hnew : ∀ f ∈ fs, s.has slots f = false) :
    fillFromItems s true index slots fs ts = .ok slots' ↔ ts.length ≤ fs.length ∧
      ((fs.map fun f => .ok (s.label f)).zip ts).foldlM (takeMember s) slots = .ok slots' := by
  induction fs generalizing ts index slots with
  | nil =>
    cases ts with
    | nil => simp [fillFromItems, pure, Except.pure]
    | cons t ts => simp [fillFromItems]
  | cons f fs ih =>
    obtain ⟨hf, hfs⟩ := List.nodup_cons.1 hfs
    have ⟨hfnew, hnew⟩ := List.forall_mem_cons.1 hnew
    cases ts with
    | nil =>
      -- The list has come to its end, and all the fields that are left are optional.
      rw [fillFromItems, if_neg (by decide), if_pos (hoptional f), ih hfs hnew]
      simp
    | cons t ts =>
      have htake : takeMember s slots (.ok (s.label f), t) = s.put slots f t := by
        simp [takeMember, hname, hfnew]
      -- Reading a field leaves the fields behind it unknown, so the induction goes on.
      have hkeep {next : Slots} (hnext : s.put slots f t = .ok next) :
          ∀ g ∈ fs, s.has next g = false := fun g hg =>
        (hput hnext g (ne_of_mem_of_not_mem hg hf)).trans (hnew g hg)
      rw [fillFromItems, List.map_cons, List.zip_cons_cons, List.foldlM_cons, htake, bind_eq_ok,
        bind_eq_ok]
      constructor
      · rintro ⟨next, hnext, hrest⟩
        obtain ⟨hlength, hrest⟩ := (ih hfs (hkeep hnext)).1 hrest
        exact ⟨Nat.succ_le_succ hlength, next, hnext, hrest⟩
      · rintro ⟨hlength, next, hnext, hrest⟩
        exact ⟨next, hnext, (ih hfs (hkeep hnext)).2 ⟨Nat.le_of_succ_le_succ hlength, hrest⟩⟩

/-- The value of a field may be replaced by one that is read in the same way. -/
theorem foldlM_replace {before after : List (Except Fault String × Tree)} {name : String}
    {f : Field} {t u : Tree} (hname : s.field? name = some f)
    (hread : ∀ slots slots', s.put slots f t = .ok slots' → s.put slots f u = .ok slots')
    {slots slots' : Slots}
    (h : (before ++ (.ok name, t) :: after).foldlM (takeMember s) slots = .ok slots') :
    (before ++ (.ok name, u) :: after).foldlM (takeMember s) slots = .ok slots' := by
  rw [List.foldlM_append] at h ⊢
  obtain ⟨next, hnext, h⟩ := bind_eq_ok.1 h
  refine bind_eq_ok.2 ⟨next, hnext, ?_⟩
  rw [List.foldlM_cons] at h ⊢
  obtain ⟨last, hlast, hrest⟩ := bind_eq_ok.1 h
  refine bind_eq_ok.2 ⟨last, ?_, hrest⟩
  obtain ⟨_, ⟨⟩, ⟨hunknown, -⟩ | ⟨g, hg, hnew, hput⟩⟩ := (takeMember_eq_ok s).1 hlast
  · rw [hname] at hunknown
    cases hunknown
  · obtain rfl : f = g := Option.some.inj (hname.symm.trans hg)
    exact (takeMember_eq_ok s).2 ⟨name, rfl, .inr ⟨f, hname, hnew, hread next last hput⟩⟩

section

variable {P : Slots → Prop} {Q : Tree → Prop}
  (hput : ∀ {slots f t slots'}, Q t → P slots → s.put slots f t = .ok slots' → P slots')

include hput

theorem members_induct {ms : List (Except Fault String × Tree)} (hms : ∀ m ∈ ms, Q m.2)
    {slots slots' : Slots} (h : ms.foldlM (takeMember s) slots = .ok slots') (hslots : P slots) :
    P slots' := by
  induction ms generalizing slots with
  | nil =>
    obtain rfl := Except.ok.inj h
    exact hslots
  | cons m ms ih =>
    rw [List.forall_mem_cons] at hms
    rw [List.foldlM_cons] at h
    obtain ⟨next, hnext, hrest⟩ := bind_eq_ok.1 h
    refine ih hms.2 hrest ?_
    obtain ⟨name, -, ⟨-, -, rfl⟩ | ⟨f, -, -, hok⟩⟩ := (takeMember_eq_ok s).1 hnext
    · exact hslots
    · exact hput hms.1 hslots hok

theorem items_induct {ts : List Tree} (hts : ∀ t ∈ ts, Q t) {closed : Bool} {index : Nat}
    {fs : List Field} {slots slots' : Slots}
    (h : fillFromItems s closed index slots fs ts = .ok slots') (hslots : P slots) : P slots' := by
  fun_induction fillFromItems s closed index slots fs ts with
  | case1 =>
    obtain rfl := Except.ok.inj h
    exact hslots
  | case2 => cases h
  | case3 => cases h
  | case4 => cases h
  | case5 index slots f fs hclosed hf ih => exact ih hts h hslots
  | case6 => cases h
  | case7 index slots f fs t ts ih =>
    rw [List.forall_mem_cons] at hts
    obtain ⟨next, hnext, hrest⟩ := bind_eq_ok.1 h
    exact ih next hts.2 hrest (hput hts.1 hslots hnext)

end

/-- What holds of an empty record, and is preserved when a field is put into it, holds of every
record that is read. -/
theorem record_induct {P : Slots → Prop} {t : Tree} {slots : Slots} (ht : t.Spelled)
    (h : t.record s = .ok slots) (hempty : P s.empty)
    (hput : ∀ {slots f t slots'}, t.Spelled → P slots → s.put slots f t = .ok slots' → P slots') :
    P slots := by
  cases ht with
  | array hts => exact items_induct hput hts h hempty
  | object _ hms =>
    obtain ⟨filled, hfill, hok⟩ := bind_eq_ok.1 h
    obtain rfl := Except.ok.inj hok
    rw [fillFromMembers_eq_foldlM] at hfill
    exact members_induct hput hms hfill hempty
  | null | boolean | string =>
    unfold Tree.record at h
    exact absurd h mismatch_ne_ok
  | number n =>
    unfold Tree.record at h
    exact absurd h mismatch_ne_ok

/-- A record is accepted only if it keeps to the grammar, if its fields are. -/
theorem readsWhole_record
    (hput : ∀ slots f t slots', s.put slots f t = .ok slots' → t.isWhole = true) :
    ReadsWhole (Tree.record s) := by
  -- What is skipped is asked to keep to the grammar, and what is read does so.
  have hmembers {ms : List (Except Fault String × Tree)} {slots slots' : Slots}
      (h : ms.foldlM (takeMember s) slots = .ok slots') : haveWhole ms = true := by
    induction ms generalizing slots with
    | nil => rw [haveWhole]
    | cons m ms ih =>
      rw [List.foldlM_cons] at h
      obtain ⟨next, hnext, hrest⟩ := bind_eq_ok.1 h
      rw [haveWhole, ih hrest, Bool.and_true]
      obtain ⟨name, -, ⟨-, hwhole, -⟩ | ⟨f, -, -, hok⟩⟩ := (takeMember_eq_ok s).1 hnext
      · exact hwhole
      · exact hput _ f _ _ hok
  have hitems {ts : List Tree} {closed : Bool} {index : Nat} {fs : List Field}
      {slots slots' : Slots} (h : fillFromItems s closed index slots fs ts = .ok slots') :
      (areWhole ts && closed) = true := by
    fun_induction fillFromItems s closed index slots fs ts with
    | case1 => rw [areWhole, ‹closed = true›, Bool.and_true]
    | case2 => cases h
    | case3 => cases h
    | case4 => cases h
    | case5 index slots f fs hclosed hf ih => exact ih h
    | case6 => cases h
    | case7 index slots f fs t ts ih =>
      obtain ⟨next, hnext, hrest⟩ := bind_eq_ok.1 h
      rw [areWhole, hput slots f t next hnext, Bool.true_and]
      exact ih next hrest
  intro t slots h
  -- The end of the record itself is asked for last.
  unfold Tree.record at h
  split at h
  · obtain ⟨filled, hfill, hok⟩ := bind_eq_ok.1 h
    rw [fillFromMembers_eq_foldlM] at hfill
    rw [Tree.isWhole, hmembers hfill, Bool.true_and]
    split at hok
    · assumption
    · cases hok
  · cases h
  · rw [Tree.isWhole]
    exact hitems h
  · exact absurd h mismatch_ne_ok

end

/-- **A text that decodes is well formed.** -/
theorem exists_source_of_decode {read : Tree → Except Fault α} (hread : ReadsWhole read)
    {text : String} {a : α} (h : decode read text = .ok a) :
    ∃ s : Source, s.text = text.toList ∧ read s.tree = .ok a := by
  unfold decode at h
  generalize hresult : Tree.read text = result at h
  obtain ⟨t, ends⟩ := result
  obtain ⟨b, hb, hends⟩ := bind_eq_ok.1 h
  split at hends
  · rename_i hend
    obtain rfl := Except.ok.inj hends
    obtain ⟨s, hs, rfl⟩ := exists_source (hresult.trans (by rw [hend])) (hread t b hb)
    exact ⟨s, hs, hb⟩
  · cases hends

end MachiningViewer.Json
