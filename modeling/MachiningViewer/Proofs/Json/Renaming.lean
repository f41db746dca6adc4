import MachiningViewer.Proofs.Json.Record

/-!
# Other names for members and choices

What a well-formed text is decoded to does not change when names in it are replaced by others that
stand for the same: the name of a choice (`choice_renamedChoice`), and the names of the members of a
record together with their values (`record_renamedRecord`). All else of the text stays as it is
spelled.
-/

namespace MachiningViewer.Json

/-! ### Renaming -/

/-- The spelling of the new name of what the literal names, if that is another one. -/
def Literal.renamed (f : String → String) (l : Literal) : Literal :=
  match l.value with
  | .ok name => if f name = name then l else .ofString (f name)
  | .error _ => l

/-- The key with its new name. -/
def Key.renamed (f : String → String) (k : Key) : Key :=
  { k with literal := k.literal.renamed f }

/-- Edits what stands between the blanks. -/
def Source.inside (g : Source → Source) : Source → Source
  | .spaced before inner after => .spaced before (inner.inside g) after
  | s => g s

/-- Renames a choice: a string, or the single key of an object. -/
def Source.renamedChoice (f : String → String) : Source → Source :=
  inside fun
    | .string l => .string (l.renamed f)
    | .object blanks [(k, s)] => .object blanks [(k.renamed f, s)]
    | s => s

/-- Renames the keys of members, and edits their values as their old names say. -/
def renamedMembers (f : String → String) (edit : String → Source → Source) :
    List (Key × Source) → List (Key × Source) :=
  List.map fun (k, s) => (k.renamed f, k.literal.value.toOption.elim s (edit · s))

/-- Renames the members of a record that is written as an object. -/
def Source.renamedRecord (f : String → String) (edit : String → Source → Source) :
    Source → Source :=
  inside fun
    | .object blanks members => .object blanks (renamedMembers f edit members)
    | s => s

/-- Edits the items of an array. -/
def Source.mapItems (g : Source → Source) : Source → Source :=
  inside fun
    | .array blanks items => .array blanks (items.map g)
    | s => s

/-! ### What does not change -/

variable {α Field Slots : Type} {f : String → String} {edit : String → Source → Source}

@[simp]
theorem Literal.value_renamed (f : String → String) (l : Literal) :
    (l.renamed f).value = l.value.map f := by
  unfold Literal.renamed
  split
  · rename_i name hname
    split
    · rename_i hsame
      rw [hname]
      exact congrArg Except.ok hsame.symm
    · rw [value_ofString, hname]
      rfl
  · rename_i fault hfault
    rw [hfault]
    rfl

/-- What is made of a tree does not change if it does not for what stands between the blanks. -/
theorem Source.inside_congr {g : Source → Source} (F : Tree → α)
    (hg : ∀ s : Source, F (g s).tree = F s.tree) : (s : Source) → F (s.inside g).tree = F s.tree
  | .spaced before inner after => by
    rw [Source.inside, Source.tree, Source.tree, inner.inside_congr F hg]
  | .null | .boolean _ | .number _ | .string _ | .array _ _ | .object _ _ => by
    rw [Source.inside] <;> simp [hg]

/-- **A choice may go by another name.** -/
theorem choice_renamedChoice {table : List (String × α)}
    (hf : ∀ name, choose table (f name) = choose table name) (s : Source) :
    (s.renamedChoice f).tree.choice table = s.tree.choice table := by
  refine Source.inside_congr (Tree.choice table) (fun s => ?_) s
  split
  · rename_i l
    rw [Source.tree, Source.tree, Literal.value_renamed, Tree.choice, Tree.choice]
    cases l.value with
    | error fault => rfl
    | ok name => exact hf name
  · rename_i blanks k s
    rw [Source.tree, Source.tree, memberTrees_cons, memberTrees_cons, memberTrees, Key.renamed,
      Literal.value_renamed]
    -- The name is looked up before the value is read, so the fault is the same one too.
    unfold Tree.choice
    cases k.literal.value with
    | error fault => rfl
    | ok name =>
      have hname : choose table (f name) = choose table name := hf name
      simp only [Except.map, bind, Except.bind, hname]
  · rfl

theorem takeMember_renamed {sch : Schema Tree Field Slots}
    (hf : ∀ name, sch.field? (f name) = sch.field? name)
    (hedit : ∀ name field, sch.field? name = some field → ∀ slots (s : Source),
      sch.put slots field (edit name s).tree = sch.put slots field s.tree)
    (slots : Slots) (k : Key) (s : Source) :
    takeMember sch slots
        ((k.renamed f).literal.value, (k.literal.value.toOption.elim s (edit · s)).tree) =
      takeMember sch slots (k.literal.value, s.tree) := by
  rw [Key.renamed, Literal.value_renamed]
  cases k.literal.value with
  | error fault => rfl
  | ok name =>
    have hedited :
        (Except.ok name : Except Fault String).toOption.elim s (edit · s) = edit name s :=
      rfl
    rw [hedited, Except.map, takeMember, takeMember, hf]
    cases hname : sch.field? name with
    | none => simp [(edit name s).spelled.isWhole, s.spelled.isWhole]
    | some field => simp only [hedit name field hname]

/-- **The members of a record may go by other names.** -/
theorem record_renamedRecord {sch : Schema Tree Field Slots}
    (hf : ∀ name, sch.field? (f name) = sch.field? name)
    (hedit : ∀ name field, sch.field? name = some field → ∀ slots (s : Source),
      sch.put slots field (edit name s).tree = sch.put slots field s.tree) (s : Source) :
    (s.renamedRecord f edit).tree.record sch = s.tree.record sch := by
  refine Source.inside_congr (Tree.record sch) (fun s => ?_) s
  split
  · rename_i blanks members
    have hfill : fillFromMembers sch sch.empty (memberTrees (renamedMembers f edit members)) =
        fillFromMembers sch sch.empty (memberTrees members) := by
      rw [fillFromMembers_eq_foldlM, fillFromMembers_eq_foldlM, memberTrees_eq_map,
        memberTrees_eq_map, renamedMembers, List.map_map, List.foldlM_map, List.foldlM_map]
      congr 1
      funext slots m
      exact takeMember_renamed hf hedit slots m.1 m.2
    rw [Source.tree, Source.tree, Tree.record, Tree.record, hfill]
  · rfl

/-- The items of a list may be edited if what is read of them stays the same. -/
theorem optional_mapItems {read : Tree → Except Fault α} {g : Source → Source}
    (hg : ∀ s : Source, read (g s).tree = read s.tree) (s : Source) :
    (s.mapItems g).tree.optional (Tree.list read) = s.tree.optional (Tree.list read) := by
  have hall (items : List Source) :
      readAll read (itemTrees (items.map g)) = readAll read (itemTrees items) := by
    induction items with
    | nil => rfl
    | cons s ss ih => rw [List.map_cons, itemTrees_cons, itemTrees_cons, readAll, readAll, hg, ih]
  refine Source.inside_congr (Tree.optional (Tree.list read)) (fun s => ?_) s
  split
  · rename_i blanks items
    rw [Source.tree, Source.tree, Tree.optional, Tree.optional, Tree.list, Tree.list, hall]
    all_goals simp
  · rfl

end MachiningViewer.Json
