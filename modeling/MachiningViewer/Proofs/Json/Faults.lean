import MachiningViewer.Proofs.Json.Record

/-!
# Faults of well-formed texts

All breaches of the grammar are one fault, `Fault.malformed`. A text that keeps to the grammar is
never refused for it (`decode_ne_malformed`), whatever else may be wrong in the text. So if two
well-formed texts are refused with the same fault, their messages are the same too.

Every reader here takes a tree apart and asks other readers about its parts, so the law is one of
readers (`Judicious`), and each way to build a reader preserves it.
-/

namespace MachiningViewer.Json

variable {α Field Slots : Type}

/-- The reader calls no tree malformed that comes from a well-formed text. -/
def Judicious (read : Tree → Except Fault α) : Prop :=
  ∀ t : Tree, t.Spelled → read t ≠ .error .malformed

theorem bind_ne_error {β : Type} {x : Except Fault α} {f : α → Except Fault β} {fault : Fault}
    (hx : x ≠ .error fault) (hf : ∀ a, x = .ok a → f a ≠ .error fault) :
    x >>= f ≠ .error fault := by
  cases x with
  | error other => exact fun h => hx (congrArg Except.error (Except.error.inj h))
  | ok a => exact hf a rfl

theorem mismatch_ne_malformed {t : Tree} (ht : t.Spelled) (wanted : Wanted) :
    (t.mismatch wanted : Except Fault α) ≠ .error .malformed := by
  have hfound : t.found ≠ .error .malformed := by
    cases ht with
    | null | boolean | array | object => nofun
    | number n => cases n.value <;> nofun
    | string l => exact map_ne_error l.value_ne_malformed
  unfold Tree.mismatch
  split
  · nofun
  · rename_i fault hfault
    exact fun h => hfound (hfault.trans (congrArg Except.error (Except.error.inj h)))

/-! ### Single values -/

theorem judicious_natural : Judicious Tree.natural := by
  intro t ht
  unfold Tree.natural
  split
  · split <;> nofun
  · exact mismatch_ne_malformed ht _

theorem judicious_text : Judicious Tree.text := by
  intro t ht
  unfold Tree.text
  split
  · cases ht with
    | string l => exact l.value_ne_malformed
  · exact mismatch_ne_malformed ht _

theorem choose_ne_malformed (table : List (String × α)) (name : String) :
    choose table name ≠ .error .malformed := by
  unfold choose
  split <;> nofun

theorem judicious_choice (table : List (String × α)) : Judicious (Tree.choice table) := by
  intro t ht
  cases ht with
  | string l =>
    exact bind_ne_error l.value_ne_malformed fun name _ => choose_ne_malformed table name
  | null | boolean | number | array => nofun
  | @object members names h =>
    match members with
    | [] => nofun
    | (name, value) :: rest =>
      have hname : name ≠ .error .malformed := by
        obtain ⟨l, rfl⟩ := names _ List.mem_cons_self
        exact l.value_ne_malformed
      -- Name and value are faulted in the order of the text, before the number of members is.
      refine bind_ne_error hname fun s _ =>
        bind_ne_error (choose_ne_malformed table s) fun a _ => ?_
      split
      · split <;> nofun
      · exact mismatch_ne_malformed (h _ List.mem_cons_self) _

theorem Judicious.optional {read : Tree → Except Fault α} (hread : Judicious read) :
    Judicious (Tree.optional read) := by
  intro t ht
  unfold Tree.optional
  split
  · nofun
  · exact map_ne_error (hread t ht)

/-! ### Lists and tables -/

theorem Judicious.readAll {read : Tree → Except Fault α} (hread : Judicious read) {ts : List Tree}
    (hts : ∀ t ∈ ts, t.Spelled) : readAll read ts ≠ .error .malformed := by
  induction ts with
  | nil => nofun
  | cons t ts ih =>
    rw [List.forall_mem_cons] at hts
    exact bind_ne_error (hread t hts.1) fun _ _ => bind_ne_error (ih hts.2) nofun

theorem Judicious.list {read : Tree → Except Fault α} (hread : Judicious read) :
    Judicious (Tree.list read) := by
  intro t ht
  unfold Tree.list
  split
  · cases ht with
    | array h => exact bind_ne_error (hread.readAll h) nofun
  · exact mismatch_ne_malformed ht _

theorem values_ne_malformed {depth : Nat} {ts : List Tree}
    (h : ∀ t ∈ ts, t.value depth ≠ .error .malformed) : values depth ts ≠ .error .malformed := by
  induction ts with
  | nil =>
    rw [values]
    nofun
  | cons t ts ih =>
    rw [List.forall_mem_cons] at h
    rw [values]
    exact bind_ne_error h.1 fun _ _ => bind_ne_error (ih h.2) nofun

theorem memberValues_ne_malformed {depth : Nat} {ms : List (Except Fault String × Tree)}
    (names : ∀ m ∈ ms, ∃ l : Literal, m.1 = l.value)
    (h : ∀ m ∈ ms, m.2.value depth ≠ .error .malformed) :
    memberValues depth ms ≠ .error .malformed := by
  induction ms with
  | nil =>
    rw [memberValues]
    nofun
  | cons m ms ih =>
    obtain ⟨name, t⟩ := m
    rw [List.forall_mem_cons] at names h
    obtain ⟨⟨l, rfl⟩, names⟩ := names
    rw [memberValues]
    exact bind_ne_error l.value_ne_malformed fun _ _ => bind_ne_error h.1 fun _ _ =>
      bind_ne_error (ih names h.2) nofun

/-- What a well-formed text holds is a value, or is refused for what it says. -/
theorem value_ne_malformed {t : Tree} (ht : t.Spelled) (depth : Nat) :
    t.value depth ≠ .error .malformed := by
  -- The depth grows on the way into the tree, so the induction is over all depths.
  induction ht generalizing depth with
  | null | boolean =>
    rw [Tree.value]
    nofun
  | number n =>
    cases n.value <;> rw [Tree.value] <;> nofun
  | string l =>
    rw [Tree.value]
    exact map_ne_error l.value_ne_malformed
  | array _ ih =>
    rw [Tree.value]
    split
    · exact bind_ne_error (values_ne_malformed fun t ht => ih t ht _) nofun
    · nofun
  | object names _ ih =>
    rw [Tree.value]
    split
    · exact bind_ne_error (memberValues_ne_malformed names fun m hm => ih m hm _) nofun
    · nofun

theorem judicious_table (depth : Nat) : Judicious (Tree.table depth) := by
  intro t ht
  unfold Tree.table
  split
  · cases ht with
    | object names h =>
      exact bind_ne_error
        (memberValues_ne_malformed names fun m hm => value_ne_malformed (h m hm) _) nofun
  · cases ht
  · exact mismatch_ne_malformed ht _

/-! ### Records -/

section

variable {s : Schema Tree Field Slots}
  (hput : ∀ slots f, Judicious (s.put slots f))

include hput

theorem foldlM_takeMember_ne_malformed {ms : List (Except Fault String × Tree)}
    (names : ∀ m ∈ ms, ∃ l : Literal, m.1 = l.value) (hms : ∀ m ∈ ms, m.2.Spelled)
    (slots : Slots) : ms.foldlM (takeMember s) slots ≠ .error .malformed := by
  induction ms generalizing slots with
  | nil => simp [pure, Except.pure]
  | cons m ms ih =>
    obtain ⟨name, t⟩ := m
    rw [List.forall_mem_cons] at names hms
    rw [List.foldlM_cons]
    refine bind_ne_error ?_ fun next _ => ih names.2 hms.2 next
    cases name with
    | error fault =>
      obtain ⟨l, hl⟩ := names.1
      exact fun h => l.value_ne_malformed (hl.symm.trans (congrArg _ (Except.error.inj h)))
    | ok name =>
      rw [takeMember]
      split
      · -- A member that nobody asks for is skipped, for its value keeps to the grammar.
        simp [hms.1.isWhole]
      · split
        · simp
        · exact hput slots _ t hms.1

theorem fillFromItems_ne_malformed {ts : List Tree} (hts : ∀ t ∈ ts, t.Spelled) (index : Nat)
    (fs : List Field) (slots : Slots) :
    fillFromItems s true index slots fs ts ≠ .error .malformed := by
  generalize hclosed : true = closed
  fun_induction fillFromItems s closed index slots fs ts with
  | case1 | case3 | case6 => simp
  | case2 _ _ hopen => exact absurd hclosed.symm hopen
  | case4 _ _ _ _ hopen => simp [← hclosed] at hopen
  | case5 index slots f fs _ _ ih => exact ih hts
  | case7 index slots f fs t ts ih =>
    rw [List.forall_mem_cons] at hts
    exact bind_ne_error (hput slots f t hts.1) fun next _ => ih next hts.2

/-- A record is never called malformed if none of its fields is. -/
theorem judicious_record : Judicious (Tree.record s) := by
  intro t ht
  unfold Tree.record
  split
  · rw [fillFromMembers_eq_foldlM]
    cases ht with
    | object names h =>
      exact bind_ne_error (foldlM_takeMember_ne_malformed hput names h s.empty) nofun
  · cases ht
  · cases ht with
    | array h => exact fillFromItems_ne_malformed hput h 0 s.fields s.empty
  · exact mismatch_ne_malformed ht _

end

theorem required_ne_malformed (name : String) (o : Option α) :
    required name o ≠ .error .malformed := by
  unfold required
  split <;> nofun

/-- **A well-formed text is never called malformed.** -/
theorem decode_ne_malformed {read : Tree → Except Fault α} (hread : Judicious read) (s : Source) :
    decode read (String.ofList s.text) ≠ .error .malformed := by
  rw [decode_source]
  exact hread s.tree s.spelled

end MachiningViewer.Json
