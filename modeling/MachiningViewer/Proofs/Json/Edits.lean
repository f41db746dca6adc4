import MachiningViewer.Proofs.Json.Record

/-!
# Edits that a record does not show

A record that is written as an object does not depend on the order of its members, on members
nobody knows, or on whether an optional field is null or left out: one such edit after the other
leaves the record as it is (`record_of_edit`). This holds of every record that keeps to the few laws
in `LawfulRecord`: fields are read each for itself, and null stands for nothing.
-/

namespace MachiningViewer.Json

variable {α Field Slots : Type} [DecidableEq Field]

/-- The fields of the record are read each for itself, and an optional field that is null makes no
difference to what the record is at last. -/
structure LawfulRecord (s : Schema Tree Field Slots) (finish : Slots → Except Fault α) : Prop where
  has_empty : ∀ f, s.has s.empty f = false
  has_put : ∀ {slots f t slots'}, s.put slots f t = .ok slots' →
    ∀ g, s.has slots' g = (decide (g = f) || s.has slots g)
  put_comm : ∀ {slots f t next g u slots'}, f ≠ g → s.put slots f t = .ok next →
    s.put next g u = .ok slots' →
      ∃ other, s.put slots g u = .ok other ∧ s.put other f t = .ok slots'
  put_null : ∀ {f}, s.isOptional f = true → ∀ slots, s.has slots f = false →
    ∃ slots', s.put slots f .null = .ok slots' ∧ finish slots' = finish slots

/-- The members of an object, edited in one place. An unknown name is a text that names no field; a
spelling with half of a surrogate pair is no name at all. -/
inductive MemberEdit (s : Schema Tree Field Slots) :
    List (Except Fault String × Tree) → List (Except Fault String × Tree) → Prop where
  /-- The members are put in another order. -/
  | reorder {ms ms' : List (Except Fault String × Tree)} (h : ms.Perm ms') : MemberEdit s ms ms'
  /-- A member with an unknown name and any well-formed value is inserted. -/
  | insertUnknown {before after : List (Except Fault String × Tree)} {name : String} {t : Tree}
    (hname : s.field? name = none) (ht : t.isWhole = true) :
    MemberEdit s (before ++ after) (before ++ (.ok name, t) :: after)
  /-- An optional field that is missing is inserted as null. -/
  | insertNull {before after : List (Except Fault String × Tree)} {name : String} {f : Field}
    (hname : s.field? name = some f) (hf : s.isOptional f = true)
    (hnew : ∀ m ∈ before ++ after, m.1.toOption.bind s.field? ≠ some f) :
    MemberEdit s (before ++ after) (before ++ (.ok name, .null) :: after)
  /-- An optional field that is null is removed. -/
  | removeNull {before after : List (Except Fault String × Tree)} {name : String} {f : Field}
    (hname : s.field? name = some f) (hf : s.isOptional f = true) :
    MemberEdit s (before ++ (.ok name, .null) :: after) (before ++ after)

section

variable {s : Schema Tree Field Slots} {finish : Slots → Except Fault α}

/-! ### Order -/

/-- Of two fields that are set one by one, either may be set first. -/
theorem set_comm {β : Type} {x : Except Fault α} {y : Except Fault β}
    {setX : α → Slots → Slots} {setY : β → Slots → Slots} (slots next : Slots) {slots' : Slots}
    (hx : (do let a ← x; return setX a slots) = .ok next)
    (hy : (do let b ← y; return setY b next) = .ok slots')
    (hcomm : ∀ a b slots, setY b (setX a slots) = setX a (setY b slots)) :
    ∃ other, (do let b ← y; return setY b slots) = .ok other ∧
      (do let a ← x; return setX a other) = .ok slots' := by
  obtain ⟨a, ha, hok⟩ := bind_eq_ok.1 hx
  obtain rfl := Except.ok.inj hok
  obtain ⟨b, hb, hok⟩ := bind_eq_ok.1 hy
  obtain rfl := Except.ok.inj hok
  rw [hcomm]
  exact ⟨setY b slots, bind_eq_ok.2 ⟨b, hb, rfl⟩, bind_eq_ok.2 ⟨a, ha, rfl⟩⟩

/-- Two members that are taken one after the other may be taken the other way round. -/
theorem takeMember_comm (hs : LawfulRecord s finish) {slots next slots' : Slots}
    {m n : Except Fault String × Tree} (hm : takeMember s slots m = .ok next)
    (hn : takeMember s next n = .ok slots') :
    ∃ other, takeMember s slots n = .ok other ∧ takeMember s other m = .ok slots' := by
  obtain ⟨name, hname, hm'⟩ := (takeMember_eq_ok s).1 hm
  obtain ⟨name', hname', hn'⟩ := (takeMember_eq_ok s).1 hn
  rcases hm' with ⟨hunknown, hwhole, rfl⟩ | ⟨f, hf, hnew, hput⟩
  · exact ⟨slots', hn, (takeMember_eq_ok s).2 ⟨name, hname, .inl ⟨hunknown, hwhole, rfl⟩⟩⟩
  · rcases hn' with ⟨hunknown, hwhole, rfl⟩ | ⟨g, hg, hnew', hput'⟩
    · exact ⟨slots, (takeMember_eq_ok s).2 ⟨name', hname', .inl ⟨hunknown, hwhole, rfl⟩⟩, hm⟩
    · -- The second field is not known yet, so it is another one than the first.
      have hne : g ≠ f ∧ s.has slots g = false := by
        simpa [hs.has_put hput] using hnew'
      obtain ⟨other, hother, hput''⟩ := hs.put_comm hne.1.symm hput hput'
      refine ⟨other, (takeMember_eq_ok s).2 ⟨name', hname', .inr ⟨g, hg, hne.2, hother⟩⟩,
        (takeMember_eq_ok s).2 ⟨name, hname, .inr ⟨f, hf, ?_, hput''⟩⟩⟩
      simp [hs.has_put hother, hnew, hne.1.symm]

/-- **The order of the members does not matter.** -/
theorem foldlM_perm (hs : LawfulRecord s finish) {ms ms' : List (Except Fault String × Tree)}
    (hperm : ms.Perm ms') {slots slots' : Slots}
    (h : ms.foldlM (takeMember s) slots = .ok slots') :
    ms'.foldlM (takeMember s) slots = .ok slots' := by
  induction hperm generalizing slots with
  | nil => exact h
  | cons m _ ih =>
    rw [List.foldlM_cons] at h ⊢
    obtain ⟨next, hnext, hrest⟩ := bind_eq_ok.1 h
    exact bind_eq_ok.2 ⟨next, hnext, ih hrest⟩
  | swap m n ms =>
    rw [List.foldlM_cons] at h
    obtain ⟨next, hnext, h⟩ := bind_eq_ok.1 h
    rw [List.foldlM_cons] at h
    obtain ⟨next', hnext', hrest⟩ := bind_eq_ok.1 h
    -- Two neighbours change places, which is all that a permutation needs.
    obtain ⟨other, hother, hother'⟩ := takeMember_comm hs hnext hnext'
    rw [List.foldlM_cons]
    refine bind_eq_ok.2 ⟨other, hother, ?_⟩
    rw [List.foldlM_cons]
    exact bind_eq_ok.2 ⟨next', hother', hrest⟩
  | trans _ _ ih ih' => exact ih' (ih h)

/-! ### Members that make no difference -/

/-- A field is known at last only if it was before or one of the members gives it. -/
theorem has_foldlM (hs : LawfulRecord s finish) {ms : List (Except Fault String × Tree)}
    {slots slots' : Slots} (h : ms.foldlM (takeMember s) slots = .ok slots') {f : Field}
    (hf : s.has slots f = false) (hms : ∀ m ∈ ms, m.1.toOption.bind s.field? ≠ some f) :
    s.has slots' f = false := by
  induction ms generalizing slots with
  | nil =>
    obtain rfl := Except.ok.inj h
    exact hf
  | cons m ms ih =>
    rw [List.forall_mem_cons] at hms
    rw [List.foldlM_cons] at h
    obtain ⟨next, hnext, hrest⟩ := bind_eq_ok.1 h
    refine ih hrest ?_ hms.2
    obtain ⟨name, hname, ⟨-, -, rfl⟩ | ⟨g, hg, -, hput⟩⟩ := (takeMember_eq_ok s).1 hnext
    · exact hf
    · -- The member gives another field than the one that no member gives.
      have hne : f ≠ g := by
        rintro rfl
        exact hms.1 (by rw [hname]; exact hg)
      simp [hs.has_put hput, hne, hf]

/-- What is known of a record after an edit makes the same of it. -/
theorem foldlM_of_edit (hs : LawfulRecord s finish) {ms ms' : List (Except Fault String × Tree)}
    (hedit : MemberEdit s ms ms') {slots : Slots}
    (h : ms.foldlM (takeMember s) s.empty = .ok slots) :
    ∃ slots', ms'.foldlM (takeMember s) s.empty = .ok slots' ∧ finish slots' = finish slots := by
  -- A member is inserted or removed at the end, where it meets what all the others have left.
  have hend (before after : List (Except Fault String × Tree)) (m : Except Fault String × Tree) :
      (before ++ m :: after).Perm (before ++ after ++ [m]) :=
    List.perm_middle.trans (List.perm_append_singleton m _).symm
  have hinsert {before after : List (Except Fault String × Tree)} {m : Except Fault String × Tree}
      {slots slots' : Slots} (h : (before ++ after).foldlM (takeMember s) s.empty = .ok slots)
      (hm : takeMember s slots m = .ok slots') :
      (before ++ m :: after).foldlM (takeMember s) s.empty = .ok slots' := by
    refine foldlM_perm hs (hend before after m).symm ?_
    rw [List.foldlM_append]
    exact bind_eq_ok.2 ⟨slots, h, bind_eq_ok.2 ⟨slots', hm, rfl⟩⟩
  cases hedit with
  | reorder hperm => exact ⟨slots, foldlM_perm hs hperm h, rfl⟩
  | insertUnknown hname ht =>
    exact ⟨slots, hinsert h ((takeMember_eq_ok s).2 ⟨_, rfl, .inl ⟨hname, ht, rfl⟩⟩), rfl⟩
  | insertNull hname hf hnew =>
    have hmissing := has_foldlM hs h (hs.has_empty _) hnew
    obtain ⟨slots', hput, hfinish⟩ := hs.put_null hf slots hmissing
    exact ⟨slots', hinsert h ((takeMember_eq_ok s).2 ⟨_, rfl, .inr ⟨_, hname, hmissing, hput⟩⟩),
      hfinish⟩
  | @removeNull before after name f hname hf =>
    have hlast := foldlM_perm hs (hend before after _) h
    rw [List.foldlM_append] at hlast
    obtain ⟨others, hothers, hlast⟩ := bind_eq_ok.1 hlast
    obtain ⟨last, htake, hlast⟩ := bind_eq_ok.1 hlast
    obtain rfl := Except.ok.inj hlast
    obtain ⟨_, ⟨⟩, ⟨hunknown, -⟩ | ⟨g, hg, hmissing, hput⟩⟩ := (takeMember_eq_ok s).1 htake
    · rw [hname] at hunknown
      cases hunknown
    · obtain rfl : f = g := Option.some.inj (hname.symm.trans hg)
      obtain ⟨slots', hput', hfinish⟩ := hs.put_null hf others hmissing
      obtain rfl : last = slots' := Except.ok.inj (hput.symm.trans hput')
      exact ⟨others, hothers, hfinish.symm⟩

/-- **An edit leaves the record as it is.** -/
theorem record_of_edit (hs : LawfulRecord s finish) {ms ms' : List (Except Fault String × Tree)}
    (hedit : MemberEdit s ms ms') {a : α}
    (h : (Tree.object ms true).record s >>= finish = .ok a) :
    (Tree.object ms' true).record s >>= finish = .ok a := by
  obtain ⟨slots, hrecord, hfinish⟩ := bind_eq_ok.1 h
  obtain ⟨filled, hfill, hok⟩ := bind_eq_ok.1 hrecord
  obtain rfl := Except.ok.inj hok
  rw [fillFromMembers_eq_foldlM] at hfill
  obtain ⟨slots', hfill', hfinish'⟩ := foldlM_of_edit hs hedit hfill
  rw [← fillFromMembers_eq_foldlM] at hfill'
  exact bind_eq_ok.2 ⟨slots', record_object hfill', hfinish'.trans hfinish⟩

end

/-! ### Lists -/

/-- An item of a list may be replaced by one that is read in the same way. -/
theorem readAll_replace {read : Tree → Except Fault α} {t u : Tree}
    (hread : ∀ a, read t = .ok a → read u = .ok a) {before after : List Tree} {as : List α}
    (h : readAll read (before ++ t :: after) = .ok as) :
    readAll read (before ++ u :: after) = .ok as := by
  induction before generalizing as with
  | nil =>
    obtain ⟨a, ha, hrest⟩ := bind_eq_ok.1 h
    exact bind_eq_ok.2 ⟨a, hread a ha, hrest⟩
  | cons v before ih =>
    obtain ⟨a, ha, hrest⟩ := bind_eq_ok.1 h
    obtain ⟨as', has, hok⟩ := bind_eq_ok.1 hrest
    exact bind_eq_ok.2 ⟨a, ha, bind_eq_ok.2 ⟨as', ih has, hok⟩⟩

theorem optional_list_replace {read : Tree → Except Fault α} {t u : Tree}
    (hread : ∀ a, read t = .ok a → read u = .ok a) {before after : List Tree}
    {o : Option (List α)}
    (h : (Tree.array (before ++ t :: after) true).optional (Tree.list read) = .ok o) :
    (Tree.array (before ++ u :: after) true).optional (Tree.list read) = .ok o := by
  rw [Tree.optional, Tree.list] at h ⊢
  · cases hall : readAll read (before ++ t :: after) with
    | error fault =>
      rw [hall] at h
      cases h
    | ok as =>
      rw [hall] at h
      rw [readAll_replace hread hall]
      exact h
  all_goals simp

end MachiningViewer.Json
