import MachiningViewer.Proofs.Json.Source
import Mathlib.Logic.Relation

/-!
# Canonical texts

A value fits (`Value.Fits`) if it is made of integers of 64 bits, of objects with distinct names and
without doubles, and is not nested too deeply. The canonical text of such a value is well formed
(`exists_writes`), and what it is read as denotes the value (`value_tree`).

What a well-formed text denotes fits, unless it holds a double (`fits_of_value?`). The order of the
members of an object does not matter for that (`fits_of_reorders`).
-/

namespace MachiningViewer.Json

/-! ### Values that fit -/

/-- Can a text denote the value inside `depth` open arrays and objects, doubles apart? -/
inductive Value.Fits : Nat → Value → Prop where
  | null {depth : Nat} : Fits depth .null
  | boolean {depth : Nat} (b : Bool) : Fits depth (.boolean b)
  | integer {depth : Nat} {i : Int} (h : IsInteger64 i) : Fits depth (.integer i)
  | string {depth : Nat} (s : String) : Fits depth (.string s)
  | array {depth : Nat} {items : List Value} (hdepth : depth + 1 < depthLimit)
    (hitems : ∀ v ∈ items, Fits (depth + 1) v) : Fits depth (.array items)
  | object {depth : Nat} {members : List (String × Value)} (hdepth : depth + 1 < depthLimit)
    (hnames : (members.map (·.1)).Nodup) (hmembers : ∀ m ∈ members, Fits (depth + 1) m.2) :
    Fits depth (.object members)

mutual

/-- Is there a double anywhere in the value? -/
def Value.holdsDouble : Value → Bool
  | .double _ => true
  | .array items => itemsHoldDouble items
  | .object members => membersHoldDouble members
  | _ => false

/-- Is there a double anywhere in the items of an array? -/
def itemsHoldDouble : List Value → Bool
  | [] => false
  | v :: vs => v.holdsDouble || itemsHoldDouble vs

/-- Is there a double anywhere in the members of an object? -/
def membersHoldDouble : List (String × Value) → Bool
  | [] => false
  | (_, v) :: ms => v.holdsDouble || membersHoldDouble ms

end

theorem itemsHoldDouble_eq_false {vs : List Value} :
    itemsHoldDouble vs = false ↔ ∀ v ∈ vs, v.holdsDouble = false := by
  induction vs with
  | nil => simp [itemsHoldDouble]
  | cons v vs ih => rw [itemsHoldDouble, Bool.or_eq_false_iff, ih, List.forall_mem_cons]

theorem membersHoldDouble_eq_false {ms : List (String × Value)} :
    membersHoldDouble ms = false ↔ ∀ m ∈ ms, m.2.holdsDouble = false := by
  induction ms with
  | nil => simp [membersHoldDouble]
  | cons m ms ih => rw [membersHoldDouble, Bool.or_eq_false_iff, ih, List.forall_mem_cons]

/-- Are two values the same but for the order of the members of one object? -/
inductive Value.Reorders : Value → Value → Prop where
  | members {ms ms' : List (String × Value)} (h : ms.Perm ms') : Reorders (.object ms) (.object ms')
  | item {before after : List Value} {v v' : Value} (h : Reorders v v') :
    Reorders (.array (before ++ v :: after)) (.array (before ++ v' :: after))
  | member {before after : List (String × Value)} {name : String} {v v' : Value}
    (h : Reorders v v') :
    Reorders (.object (before ++ (name, v) :: after)) (.object (before ++ (name, v') :: after))

theorem fits_of_reorders {v v' : Value} (h : v.Reorders v') {depth : Nat} (hv : v.Fits depth) :
    v'.Fits depth := by
  -- The order of the members matters to none of the conditions, however deep the object is.
  induction h generalizing depth with
  | members hperm =>
    cases hv with
    | object hdepth hnames hmembers =>
      exact .object hdepth ((hperm.map _).nodup_iff.1 hnames)
        fun m hm => hmembers m (hperm.mem_iff.2 hm)
  | @item before after v v' _ ih =>
    cases hv with
    | array hdepth hitems =>
      refine .array hdepth fun w hw => ?_
      rcases List.mem_append.1 hw with hbefore | hafter
      · exact hitems w (by simp [hbefore])
      · rcases List.mem_cons.1 hafter with rfl | hafter
        · exact ih (hitems v (by simp))
        · exact hitems w (by simp [hafter])
  | @member before after name v v' _ ih =>
    cases hv with
    | object hdepth hnames hmembers =>
      refine .object hdepth (by simpa using hnames) fun m hm => ?_
      rcases List.mem_append.1 hm with hbefore | hafter
      · exact hmembers m (by simp [hbefore])
      · rcases List.mem_cons.1 hafter with rfl | hafter
        · exact ih (hmembers (name, v) (by simp))
        · exact hmembers m (by simp [hafter])

/-! ### Distinct names -/

namespace Members

variable {α : Type} {name : String} {value : α} {ms : List (String × α)}

theorem mem_of_mem_insert {m : String × α} (h : m ∈ insert name value ms) :
    m = (name, value) ∨ m ∈ ms := by
  fun_induction insert name value ms with
  | case1 => exact .inl (List.mem_singleton.1 h)
  | case2 v ms =>
    rcases List.mem_cons.1 h with rfl | hm
    · exact .inl rfl
    · exact .inr (List.mem_cons_of_mem _ hm)
  | case3 n v ms hn ih =>
    rcases List.mem_cons.1 h with rfl | hm
    · exact .inr List.mem_cons_self
    · exact (ih hm).imp_right (List.mem_cons_of_mem _)

theorem nodup_insert (h : (ms.map (·.1)).Nodup) :
    ((insert name value ms).map (·.1)).Nodup := by
  fun_induction insert name value ms with
  | case1 => simp
  | case2 v ms => exact h
  | case3 n v ms hn ih =>
    rw [List.map_cons, List.nodup_cons] at h ⊢
    refine ⟨fun hmem => ?_, ih h.2⟩
    obtain ⟨m, hm, hname⟩ := List.mem_map.1 hmem
    rcases mem_of_mem_insert hm with rfl | hm
    · exact hn hname.symm
    · exact h.1 (List.mem_map.2 ⟨m, hm, hname⟩)

theorem insert_eq_append (h : name ∉ ms.map (·.1)) :
    insert name value ms = ms ++ [(name, value)] := by
  fun_induction insert name value ms with
  | case1 => rfl
  | case2 => simp at h
  | case3 n v ms hn ih => rw [ih (fun hmem => h (List.mem_cons_of_mem _ hmem)), List.cons_append]

/-- The members that are kept are among those that are given, under distinct names. -/
theorem ofList_spec (ms : List (String × α)) :
    ((ofList ms).map (·.1)).Nodup ∧ ∀ m ∈ ofList ms, m ∈ ms := by
  induction ms using List.reverseRecOn with
  | nil => exact ⟨List.nodup_nil, fun _ hm => hm⟩
  | append_singleton ms m ih =>
    obtain ⟨hnodup, hmem⟩ := ih
    have hstep : ofList (ms ++ [m]) = insert m.1 m.2 (ofList ms) := by
      rw [ofList, List.foldl_append]
      rfl
    rw [hstep]
    refine ⟨nodup_insert hnodup, fun m' hm' => ?_⟩
    rcases mem_of_mem_insert hm' with rfl | hm'
    · simp
    · exact List.mem_append_left _ (hmem m' hm')

/-- Members with distinct names are kept as they are. -/
theorem ofList_eq_self (h : (ms.map (·.1)).Nodup) : ofList ms = ms := by
  induction ms using List.reverseRecOn with
  | nil => rfl
  | append_singleton ms m ih =>
    rw [List.map_append, List.nodup_append] at h
    have hself := ih h.1
    have hnew : m.1 ∉ ms.map (·.1) := fun hmem => h.2.2 _ hmem _ (by simp) rfl
    rw [ofList, List.foldl_append]
    show insert m.1 m.2 (ofList ms) = _
    rw [hself, insert_eq_append hnew]

end Members

/-! ### Trees of values -/

mutual

/-- The tree that the canonical text of a value is read as. -/
def Value.tree : Value → Tree
  | .null => .null
  | .boolean b => .boolean b
  | .integer i => .number (.integer i)
  | .double x => .number (.double x)
  | .string s => .string (.ok s)
  | .array items => .array (valueTrees items) true
  | .object members => .object (memberValueTrees members) true

/-- The trees of the items of an array. -/
def valueTrees : List Value → List Tree
  | [] => []
  | v :: vs => v.tree :: valueTrees vs

/-- The names and trees of the members of an object. -/
def memberValueTrees : List (String × Value) → List (Except Fault String × Tree)
  | [] => []
  | (n, v) :: ms => (.ok n, v.tree) :: memberValueTrees ms

end

theorem tree_object (ms : List (String × Value)) :
    (Value.object ms).tree = .object (memberValueTrees ms) true := by
  rw [Value.tree]

@[simp]
theorem memberValueTrees_nil : memberValueTrees [] = [] := by
  rw [memberValueTrees]

@[simp]
theorem memberValueTrees_cons (n : String) (v : Value) (ms : List (String × Value)) :
    memberValueTrees ((n, v) :: ms) = (.ok n, v.tree) :: memberValueTrees ms := by
  rw [memberValueTrees]

theorem values_eq_ok {depth : Nat} {vs : List Value}
    (h : ∀ v ∈ vs, v.tree.value depth = .ok v) : values depth (valueTrees vs) = .ok vs := by
  induction vs with
  | nil => rw [valueTrees, values]
  | cons v vs ih =>
    rw [valueTrees, values, h v List.mem_cons_self, ih fun w hw => h w (List.mem_cons_of_mem _ hw)]
    rfl

theorem memberValues_eq_ok {depth : Nat} {ms : List (String × Value)}
    (h : ∀ m ∈ ms, m.2.tree.value depth = .ok m.2) :
    memberValues depth (memberValueTrees ms) = .ok ms := by
  induction ms with
  | nil => rw [memberValueTrees, memberValues]
  | cons m ms ih =>
    obtain ⟨n, v⟩ := m
    have hv : v.tree.value depth = .ok v := h (n, v) List.mem_cons_self
    have hms := ih fun m hm => h m (List.mem_cons_of_mem _ hm)
    rw [memberValueTrees, memberValues, hv, hms]
    rfl

/-- **A value that fits is what its tree denotes.** -/
theorem value_tree {depth : Nat} {v : Value} (h : v.Fits depth) :
    v.tree.value depth = .ok v := by
  induction h with
  | null => rw [Value.tree, Tree.value]
  | boolean b => rw [Value.tree, Tree.value]
  | integer h => rw [Value.tree, Tree.value]
  | string s => rw [Value.tree, Tree.value, Except.map]
  | array hdepth _ ih =>
    rw [Value.tree, Tree.value, values_eq_ok ih, if_pos hdepth]
    rfl
  | object hdepth hnames _ ih =>
    rw [Value.tree, Tree.value, memberValues_eq_ok ih, if_pos hdepth]
    exact congrArg (fun ms => Except.ok (Value.object ms)) (Members.ofList_eq_self hnames)

/-! ### Canonical texts are well formed -/

theorem writeItems_cons_cons (v v' : Value) (vs : List Value) :
    writeItems (v :: v' :: vs) = v.write ++ ',' :: writeItems (v' :: vs) := by
  rw [writeItems]
  simp

theorem writeMembers_cons_cons (n : String) (v : Value) (m : String × Value)
    (ms : List (String × Value)) :
    writeMembers ((n, v) :: m :: ms) =
      writeString n ++ ':' :: v.write ++ ',' :: writeMembers (m :: ms) := by
  rw [writeMembers]
  simp

/-- The source `s` is the canonical text of the value. -/
def Source.Writes (s : Source) (v : Value) : Prop :=
  s.text = v.write ∧ s.tree = v.tree

theorem exists_writes_items {vs : List Value} (h : ∀ v ∈ vs, ∃ s : Source, s.Writes v) :
    ∃ ss, itemsText ss = writeItems vs ∧ itemTrees ss = valueTrees vs := by
  induction vs with
  | nil => exact ⟨[], by rw [itemsText, writeItems], by rw [itemTrees, valueTrees]⟩
  | cons v vs ih =>
    obtain ⟨s, htext, htree⟩ := h v List.mem_cons_self
    obtain ⟨ss, htexts, htrees⟩ := ih fun w hw => h w (List.mem_cons_of_mem _ hw)
    refine ⟨s :: ss, ?_, by rw [itemTrees, valueTrees, htree, htrees]⟩
    -- A comma is written where another value follows, and there is another source just there.
    cases vs with
    | nil =>
      cases ss with
      | nil => rw [itemsText_singleton, writeItems, htext]
      | cons s' ss =>
        rw [itemTrees, valueTrees] at htrees
        cases htrees
    | cons v' vs =>
      cases ss with
      | nil =>
        rw [itemTrees, valueTrees] at htrees
        cases htrees
      | cons s' ss =>
        rw [itemsText_cons_cons, htext, htexts, writeItems_cons_cons]

theorem exists_writes_members {ms : List (String × Value)}
    (h : ∀ m ∈ ms, ∃ s : Source, s.Writes m.2) :
    ∃ ks, membersText ks = writeMembers ms ∧ memberTrees ks = memberValueTrees ms := by
  induction ms with
  | nil => exact ⟨[], by rw [membersText, writeMembers], by rw [memberTrees, memberValueTrees]⟩
  | cons m ms ih =>
    obtain ⟨n, v⟩ := m
    obtain ⟨s, htext, htree⟩ := h (n, v) List.mem_cons_self
    obtain ⟨ks, htexts, htrees⟩ := ih fun w hw => h w (List.mem_cons_of_mem _ hw)
    have hkey : (Key.ofString n).text = writeString n ++ [':'] := by
      simp [Key.text, Key.ofString, Literal.text_ofString]
    refine ⟨(.ofString n, s) :: ks, ?_, ?_⟩
    · -- Here too the commas stand between sources as they do between values.
      cases ms with
      | nil =>
        cases ks with
        | nil =>
          rw [membersText_singleton, writeMembers, hkey, htext]
          simp
        | cons k ks =>
          rw [memberTrees, memberValueTrees] at htrees
          cases htrees
      | cons m' ms =>
        cases ks with
        | nil =>
          rw [memberTrees, memberValueTrees] at htrees
          cases htrees
        | cons k ks =>
          rw [membersText_cons_cons, hkey, htext, htexts, writeMembers_cons_cons]
          simp
    · rw [memberTrees, memberValueTrees, Key.ofString, Literal.value_ofString, htree, htrees]

/-- **The canonical text of a value that fits is well formed.** -/
theorem exists_writes {depth : Nat} {v : Value} (h : v.Fits depth) : ∃ s : Source, s.Writes v := by
  -- The source of a value has its own shape, without any blanks.
  induction h with
  | null => exact ⟨.null, by rw [Source.text, Value.write], by rw [Source.tree, Value.tree]⟩
  | boolean b =>
    exact ⟨.boolean b, by rw [Source.text, Value.write], by rw [Source.tree, Value.tree]⟩
  | @integer _ i h =>
    refine ⟨.number (.ofInt i), ?_, ?_⟩
    · rw [Source.text, Value.write, Numeral.text_ofInt]
    · rw [Source.tree, Value.tree, Numeral.value_ofInt h]
  | string s =>
    refine ⟨.string (.ofString s), ?_, ?_⟩
    · rw [Source.text, Value.write, Literal.text_ofString, List.cons_append]
    · rw [Source.tree, Value.tree, Literal.value_ofString]
  | array _ _ ih =>
    obtain ⟨ss, htexts, htrees⟩ := exists_writes_items ih
    refine ⟨.array .none ss, ?_, by rw [Source.tree, Value.tree, htrees]⟩
    rw [Source.text, Value.write, htexts, Blanks.chars_none, List.nil_append, List.cons_append]
  | object _ _ _ ih =>
    obtain ⟨ks, htexts, htrees⟩ := exists_writes_members ih
    refine ⟨.object .none ks, ?_, by rw [Source.tree, Value.tree, htrees]⟩
    rw [Source.text, Value.write, htexts, Blanks.chars_none, List.nil_append, List.cons_append]

/-- What is decoded from the canonical text of a value that fits is read from its tree. -/
theorem decode_write {α : Type} (read : Tree → Except Fault α) {depth : Nat} {v : Value}
    (h : v.Fits depth) : decode read (String.ofList v.write) = read v.tree := by
  obtain ⟨s, htext, htree⟩ := exists_writes h
  rw [← htext, decode_source, htree]

/-! ### Reading values back -/

theorem natural_tree (n : Nat) : (Value.integer n).tree.natural = .ok n := by
  rw [Value.tree, Tree.natural]
  simp

theorem text_tree (s : String) : (Value.string s).tree.text = .ok s := by
  rw [Value.tree, Tree.text]

theorem choice_tree {α : Type} {table : List (String × α)} {name : String} {a : α}
    (h : choose table name = .ok a) : (Value.string name).tree.choice table = .ok a := by
  rw [Value.tree, Tree.choice]
  exact h

theorem table_tree {depth : Nat} {ms : List (String × Value)} (h : (Value.object ms).Fits depth) :
    (Value.object ms).tree.table depth = .ok ms := by
  cases h with
  | object _ hnames hmembers =>
    have hms := memberValues_eq_ok fun m hm => value_tree (hmembers m hm)
    rw [Value.tree, Tree.table, hms]
    exact congrArg Except.ok (Members.ofList_eq_self hnames)

theorem readAll_trees {α : Type} {read : Tree → Except Fault α} {write : α → Value}
    {as : List α} (h : ∀ a ∈ as, read (write a).tree = .ok a) :
    readAll read (valueTrees (as.map write)) = .ok as := by
  induction as with
  | nil => rw [List.map_nil, valueTrees, readAll]
  | cons a as ih =>
    rw [List.forall_mem_cons] at h
    rw [List.map_cons, valueTrees, readAll, h.1, ih h.2]
    rfl

theorem list_tree {α : Type} {read : Tree → Except Fault α} {write : α → Value}
    {as : List α} (h : ∀ a ∈ as, read (write a).tree = .ok a) :
    (Value.array (as.map write)).tree.list read = .ok as := by
  rw [Value.tree, Tree.list, readAll_trees h]
  rfl

/-! ### What texts denote fits -/

theorem forall_mem_of_values {depth : Nat} {ts : List Tree} {vs : List Value}
    (h : values depth ts = .ok vs) : ∀ v ∈ vs, ∃ t ∈ ts, t.value depth = .ok v := by
  induction ts generalizing vs with
  | nil =>
    rw [values] at h
    obtain rfl := Except.ok.inj h
    simp
  | cons t ts ih =>
    rw [values] at h
    obtain ⟨v, hv, h⟩ := bind_eq_ok.1 h
    obtain ⟨ws, hws, h⟩ := bind_eq_ok.1 h
    obtain rfl := Except.ok.inj h
    rw [List.forall_mem_cons]
    refine ⟨⟨t, List.mem_cons_self, hv⟩, fun w hw => ?_⟩
    obtain ⟨t', ht', hvalue⟩ := ih hws w hw
    exact ⟨t', List.mem_cons_of_mem _ ht', hvalue⟩

theorem forall_mem_of_memberValues {depth : Nat} {ms : List (Except Fault String × Tree)}
    {vs : List (String × Value)} (h : memberValues depth ms = .ok vs) :
    ∀ v ∈ vs, ∃ m ∈ ms, m.1 = .ok v.1 ∧ m.2.value depth = .ok v.2 := by
  induction ms generalizing vs with
  | nil =>
    rw [memberValues] at h
    obtain rfl := Except.ok.inj h
    simp
  | cons m ms ih =>
    obtain ⟨name, t⟩ := m
    rw [memberValues] at h
    -- The name, the value and the rest are read one after the other.
    obtain ⟨n, hn, h⟩ := bind_eq_ok.1 h
    obtain ⟨v, hv, h⟩ := bind_eq_ok.1 h
    obtain ⟨ws, hws, h⟩ := bind_eq_ok.1 h
    obtain rfl := Except.ok.inj h
    rw [List.forall_mem_cons]
    refine ⟨⟨_, List.mem_cons_self, hn, hv⟩, fun w hw => ?_⟩
    obtain ⟨m', hm', hvalue⟩ := ih hws w hw
    exact ⟨m', List.mem_cons_of_mem _ hm', hvalue⟩

/-- **What a well-formed text denotes fits**, unless it holds a double. -/
theorem fits_of_value {t : Tree} (ht : t.Spelled) {depth : Nat} {v : Value}
    (h : t.value depth = .ok v) (hv : v.holdsDouble = false) : v.Fits depth := by
  induction ht generalizing depth v with
  | null =>
    rw [Tree.value] at h
    obtain rfl := Except.ok.inj h
    exact .null
  | boolean b =>
    rw [Tree.value] at h
    obtain rfl := Except.ok.inj h
    exact .boolean b
  | number n =>
    cases hn : n.value with
    | integer i =>
      rw [hn, Tree.value] at h
      obtain rfl := Except.ok.inj h
      -- Only an integer of 64 bits is read as one; others become doubles.
      exact .integer (n.isInteger64 hn)
    | double x =>
      rw [hn, Tree.value] at h
      obtain rfl := Except.ok.inj h
      rw [Value.holdsDouble] at hv
      cases hv
    | outOfRange =>
      rw [hn, Tree.value] at h
      cases h
  | string l =>
    rw [Tree.value] at h
    cases hl : l.value with
    | error fault =>
      rw [hl] at h
      cases h
    | ok s =>
      rw [hl] at h
      obtain rfl := Except.ok.inj h
      exact .string s
  | array _ ih =>
    rw [Tree.value] at h
    split at h
    · rename_i hdepth
      obtain ⟨vs, hvs, h⟩ := bind_eq_ok.1 h
      obtain rfl := Except.ok.inj h
      refine .array hdepth fun w hw => ?_
      obtain ⟨t, ht, hvalue⟩ := forall_mem_of_values hvs w hw
      rw [Value.holdsDouble, itemsHoldDouble_eq_false] at hv
      exact ih t ht hvalue (hv w hw)
    · cases h
  | object _ _ ih =>
    rw [Tree.value] at h
    split at h
    · rename_i hdepth
      obtain ⟨vs, hvs, h⟩ := bind_eq_ok.1 h
      obtain rfl := Except.ok.inj h
      -- Of members with one name one is kept, so what is kept is among what was read.
      obtain ⟨hnodup, hmem⟩ := Members.ofList_spec vs
      refine .object hdepth hnodup fun w hw => ?_
      obtain ⟨m, hm, -, hvalue⟩ := forall_mem_of_memberValues hvs w (hmem w hw)
      rw [Value.holdsDouble, membersHoldDouble_eq_false] at hv
      exact ih m hm hvalue (hv w hw)
    · cases h

end MachiningViewer.Json
