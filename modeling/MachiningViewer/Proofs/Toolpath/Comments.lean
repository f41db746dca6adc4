import MachiningViewer.Proofs.Toolpath.Grammar
import Mathlib.Data.List.DropRight
import Mathlib.Data.List.TakeWhile

/-!
# What a comment hides

A line is skipped or has a body, and which of the two it is shows in its first character that is not
blank (`Block.body?_eq_none_iff`). The blanks around a line take no part in its body, so the body is
found by taking the comments out of the line as it stands and trimming once
(`Block.body?_of_not_isSkipped`).

A semicolon hides the rest of its line wherever it stands, and only then are the parentheses looked
for. A closed comment in parentheses therefore stands for a blank as long as there is no semicolon
in it; with one, nothing behind the opening parenthesis is read (`closedComment_interpret`).
-/

namespace MachiningViewer

open Text

/-! ### Blanks around a text -/

namespace Text

/-- The text is made of blanks only. -/
def AllBlank (cs : List Char) : Prop :=
  ∀ c ∈ cs, isBlank c = true

instance (cs : List Char) : Decidable (AllBlank cs) :=
  decidable_of_iff (cs.all isBlank = true) List.all_eq_true

theorem AllBlank.notMem {cs : List Char} (h : AllBlank cs) {c : Char} (hc : isBlank c = false) :
    c ∉ cs := by
  intro hmem
  rw [h c hmem] at hc
  exact Bool.noConfusion hc

theorem trimStart_eq_nil_iff {cs : List Char} : trimStart cs = [] ↔ AllBlank cs :=
  List.dropWhile_eq_nil_iff

theorem trimStart_append {bs : List Char} (hbs : AllBlank bs) (cs : List Char) :
    trimStart (bs ++ cs) = trimStart cs :=
  List.dropWhile_append_of_pos hbs

theorem trimEnd_append (cs : List Char) {bs : List Char} (hbs : AllBlank bs) :
    trimEnd (cs ++ bs) = trimEnd cs := by
  have hreverse : AllBlank bs.reverse := fun c hc => hbs c (List.mem_reverse.1 hc)
  have hdrop := trimStart_append hreverse cs.reverse
  unfold trimEnd dropEndWhile
  rw [List.reverse_append]
  exact congrArg List.reverse hdrop

/-- Blanks at the front are trimmed away. -/
theorem trim_blank_append {bs : List Char} (hbs : AllBlank bs) (cs : List Char) :
    trim (bs ++ cs) = trim cs := by
  rw [trim, trimStart_append hbs, trim]

/-- Blanks at the end are trimmed away. -/
theorem trim_append_blank (cs : List Char) {bs : List Char} (hbs : AllBlank bs) :
    trim (cs ++ bs) = trim cs := by
  by_cases hcs : trimStart cs = []
  · have hall : AllBlank (cs ++ bs) := by
      intro c hc
      rcases List.mem_append.1 hc with hc | hc
      · exact trimStart_eq_nil_iff.1 hcs c hc
      · exact hbs c hc
    rw [trim, trim, trimStart_eq_nil_iff.2 hall, hcs]
  · have hfront : trimStart (cs ++ bs) = trimStart cs ++ bs := by
      unfold trimStart at hcs ⊢
      rw [List.dropWhile_append, if_neg (by simpa using hcs)]
    rw [trim, hfront, trimEnd_append _ hbs, trim]

theorem exists_trimEnd (cs : List Char) : ∃ bs, AllBlank bs ∧ cs = trimEnd cs ++ bs := by
  have hsplit : cs = trimEnd cs ++ cs.rtakeWhile isBlank :=
    List.rdropWhile_append_rtakeWhile.symm
  exact ⟨cs.rtakeWhile isBlank, fun c hc => List.mem_rtakeWhile_imp hc, hsplit⟩

/-- A text is its trimmed form with blanks around. -/
theorem exists_trim (cs : List Char) :
    ∃ front back, AllBlank front ∧ AllBlank back ∧ cs = front ++ trim cs ++ back := by
  obtain ⟨back, hback, hcs⟩ := exists_trimEnd (trimStart cs)
  refine ⟨cs.takeWhile isBlank, back, fun c hc => List.mem_takeWhile_imp hc, hback, ?_⟩
  have hsplit : cs.takeWhile isBlank ++ trimStart cs = cs := List.takeWhile_append_dropWhile
  rw [List.append_assoc, trim, ← hcs, hsplit]

/-- Trimming the end as well leaves the first character that is not blank. -/
theorem head?_trim (cs : List Char) : (trim cs).head? = (trimStart cs).head? := by
  obtain ⟨back, hback, hcs⟩ := exists_trimEnd (trimStart cs)
  have htrim : trimStart cs = trim cs ++ back := hcs
  cases hempty : trim cs with
  | nil =>
    -- Only blanks would be left, but what is trimmed at the front does not start with one.
    rw [hempty, List.nil_append] at htrim
    have hnil : trimStart (trimStart cs) = [] := by
      rw [htrim]
      exact trimStart_eq_nil_iff.2 hback
    rw [trimStart, trimStart, List.dropWhile_idempotent] at hnil
    rw [trimStart, hnil]
  | cons c cs' => rw [htrim, hempty, List.cons_append, List.head?_cons, List.head?_cons]

/-! ### Replacing a line -/

/-- The second text is the first with the line `l'` in the place of a line `l`. -/
def ReplacesLine (l l' s t : List Char) : Prop :=
  ∃ before after, lines s = before ++ l :: after ∧ lines t = before ++ l' :: after

end Text

/-! ### The body of a line -/

namespace Block

/-- The line is blank, or its first character that is not blank opens a comment. -/
def IsSkipped (line : List Char) : Prop :=
  ∀ c ∈ (trimStart line).head?, c = ';' ∨ c = '('

instance (line : List Char) : Decidable (IsSkipped line) :=
  decidable_of_iff ((trimStart line).head?.all (fun c => c = ';' ∨ c = '(') = true) <| by
    simp [IsSkipped, Option.all_eq_true]

theorem blankParens_of_notMem {cs : List Char} (hcs : '(' ∉ cs) : blankParens false cs = cs :=
  blankParens_of_uncommented (.plain hcs)

theorem blankParens_blank {bs : List Char} (hbs : AllBlank bs) (inside : Bool) :
    ∃ bs', AllBlank bs' ∧ blankParens inside bs = bs' := by
  cases inside with
  | false => exact ⟨bs, hbs, blankParens_of_notMem (hbs.notMem (by decide))⟩
  | true => exact ⟨[], List.forall_mem_nil _, blankParens_unclosed (hbs.notMem (by decide))⟩

/-- Blanks at the end stay blanks or are a part of a comment. -/
theorem blankParens_append_blank (cs : List Char) {bs : List Char} (hbs : AllBlank bs)
    (inside : Bool) :
    ∃ bs', AllBlank bs' ∧ blankParens inside (cs ++ bs) = blankParens inside cs ++ bs' := by
  induction cs generalizing inside with
  | nil => exact blankParens_blank hbs inside
  | cons c cs ih =>
    rw [List.cons_append, blankParens, blankParens]
    split
    · exact ih _
    split
    · obtain ⟨bs', hbs', heq⟩ := ih true
      exact ⟨bs', hbs', by rw [heq, List.cons_append]⟩
    · obtain ⟨bs', hbs', heq⟩ := ih false
      exact ⟨bs', hbs', by rw [heq, List.cons_append]⟩

theorem takeWhile_append_of_notMem {cs : List Char} (hcs : ';' ∉ cs) (rest : List Char) :
    (cs ++ rest).takeWhile (· != ';') = cs ++ rest.takeWhile (· != ';') := by
  refine List.takeWhile_append_of_pos fun c hc => ?_
  rw [bne_iff_ne]
  rintro rfl
  exact hcs hc

theorem stripComments_of_notMem {cs : List Char} (hcs : ';' ∉ cs) :
    stripComments cs = blankParens false cs := by
  have happend := takeWhile_append_of_notMem hcs []
  rw [List.append_nil, List.takeWhile_nil, List.append_nil] at happend
  rw [stripComments, happend]

/-- **A semicolon hides the rest of the line.** -/
theorem stripComments_semicolon {cs : List Char} (hcs : ';' ∉ cs) (hidden : List Char) :
    stripComments (cs ++ ';' :: hidden) = stripComments cs := by
  have hstop : (';' :: hidden).takeWhile (· != ';') = [] :=
    List.takeWhile_cons_of_neg (by decide)
  rw [stripComments_of_notMem hcs, stripComments, takeWhile_append_of_notMem hcs, hstop,
    List.append_nil]

theorem stripComments_blank_append {bs : List Char} (hbs : AllBlank bs) (cs : List Char) :
    stripComments (bs ++ cs) = bs ++ stripComments cs := by
  have hsemicolon : ';' ∉ bs := hbs.notMem (by decide)
  have hparen : '(' ∉ bs := hbs.notMem (by decide)
  rw [stripComments, takeWhile_append_of_notMem hsemicolon, blankParens_append hparen,
    stripComments]

theorem stripComments_append_blank (cs : List Char) {bs : List Char} (hbs : AllBlank bs) :
    ∃ bs', AllBlank bs' ∧ stripComments (cs ++ bs) = stripComments cs ++ bs' := by
  by_cases hcs : ';' ∈ cs
  · obtain ⟨shown, hidden, rfl, hshown⟩ := List.eq_append_cons_of_mem hcs
    refine ⟨[], List.forall_mem_nil _, ?_⟩
    rw [List.append_assoc, List.cons_append, stripComments_semicolon hshown,
      stripComments_semicolon hshown, List.append_nil]
  · have hbs' : ';' ∉ bs := hbs.notMem (by decide)
    have happend : ';' ∉ cs ++ bs := fun h => (List.mem_append.1 h).elim hcs hbs'
    rw [stripComments_of_notMem happend, stripComments_of_notMem hcs]
    exact blankParens_append_blank cs hbs false

/-- Taking the comments out of a line and out of the trimmed line is the same, up to blanks. -/
theorem trim_stripComments_trim (line : List Char) :
    trim (stripComments (trim line)) = trim (stripComments line) := by
  obtain ⟨front, back, hfront, hback, hline⟩ := exists_trim line
  obtain ⟨bs, hbs, hstrip⟩ := stripComments_append_blank (trim line) hback
  conv_rhs => rw [hline, List.append_assoc, stripComments_blank_append hfront, hstrip]
  rw [trim_blank_append hfront, trim_append_blank _ hbs]

/-- Which lines are skipped. -/
theorem body?_eq_none_iff {line : List Char} : body? line = none ↔ IsSkipped line := by
  unfold body? IsSkipped
  rw [← head?_trim]
  split
  · rename_i h
    simp [h]
  · rename_i h
    simp [h]
  · rename_i h
    simp [h]
  · -- What is left starts with neither of the characters that skip the line.
    rename_i hnil hsemicolon hparen
    cases hline : trim line with
    | nil => exact absurd hline hnil
    | cons c cs =>
      have hc : c ≠ ';' := fun h => hsemicolon cs (by rw [hline, h])
      have hc' : c ≠ '(' := fun h => hparen cs (by rw [hline, h])
      simp [hc, hc']

/-- The body of any other line. -/
theorem body?_of_not_isSkipped {line : List Char} (h : ¬ IsSkipped line) :
    body? line = some (trim (stripComments line)) := by
  obtain ⟨body, hbody⟩ := Option.ne_none_iff_exists'.1 (mt body?_eq_none_iff.1 h)
  obtain ⟨-, -, -, code, hcode, rfl⟩ := body?_eq_some_iff.1 hbody
  rw [hbody, ← trim_stripComments_trim, stripComments, uncommented_iff.1 hcode]

/-- **The body of a line depends on its first character that is not blank and on what is left when
the comments are taken out.** -/
theorem body?_congr {l l' : List Char} (hhead : (trimStart l).head? = (trimStart l').head?)
    (hstrip : trim (stripComments l) = trim (stripComments l')) : body? l = body? l' := by
  have hiff : IsSkipped l ↔ IsSkipped l' := by rw [IsSkipped, IsSkipped, hhead]
  by_cases hl : IsSkipped l
  · rw [body?_eq_none_iff.2 hl, body?_eq_none_iff.2 (hiff.1 hl)]
  · rw [body?_of_not_isSkipped hl, body?_of_not_isSkipped (mt hiff.2 hl), hstrip]

/-! ### A closed comment -/

/-- What follows a text that is not blank does not change how the line opens. -/
theorem head?_trimStart_append {front : List Char} (hfront : ¬ AllBlank front) (cs : List Char) :
    (trimStart (front ++ cs)).head? = (trimStart front).head? := by
  have hne : trimStart front ≠ [] := mt trimStart_eq_nil_iff.1 hfront
  unfold trimStart at hne ⊢
  rw [List.dropWhile_append, if_neg (by simpa using hne), List.head?_append_of_ne_nil _ hne]

/-- A closed comment without a semicolon stands for a blank. -/
theorem body?_closedComment {front comment : List Char} (hblank : ¬ AllBlank front)
    (hsemicolon : ';' ∉ front) (hparen : '(' ∉ front) (hclosed : ')' ∉ comment)
    (hcomment : ';' ∉ comment) (rest : List Char) :
    body? (front ++ '(' :: comment ++ ')' :: rest) = body? (front ++ ' ' :: rest) := by
  have hline : front ++ '(' :: comment ++ ')' :: rest =
      front ++ (('(' :: comment ++ [')']) ++ rest) := by simp
  have hinside : ';' ∉ '(' :: comment ++ [')'] := by simpa using hcomment
  have hspace : (' ' :: rest).takeWhile (· != ';') = ' ' :: rest.takeWhile (· != ';') :=
    List.takeWhile_cons_of_pos (by decide)
  -- Both lines start alike, and after blanking they are the same up to the blank itself.
  refine body?_congr ?_ (congrArg trim ?_)
  · rw [List.append_assoc, head?_trimStart_append hblank, head?_trimStart_append hblank]
  · rw [hline, stripComments, stripComments, takeWhile_append_of_notMem hsemicolon,
      takeWhile_append_of_notMem hinside, takeWhile_append_of_notMem hsemicolon, hspace,
      blankParens_append hparen, blankParens_append hparen, List.append_assoc, List.cons_append,
      List.singleton_append]
    have hopen : blankParens false ('(' :: (comment ++ ')' :: rest.takeWhile (· != ';'))) =
        ' ' :: blankParens false (rest.takeWhile (· != ';')) := by
      rw [blankParens, if_neg Bool.false_ne_true, if_pos rfl, blankParens_closed hclosed]
    rw [hopen]
    rfl

/-- A semicolon in a comment hides what is behind the comment too. -/
theorem body?_semicolonComment {front comment : List Char} (hblank : ¬ AllBlank front)
    (hsemicolon : ';' ∉ front) (hparen : '(' ∉ front) (hclosed : ')' ∉ comment)
    (hcomment : ';' ∈ comment) (rest : List Char) :
    body? (front ++ '(' :: comment ++ ')' :: rest) = body? front := by
  obtain ⟨shown, hidden, rfl, hshown⟩ := List.eq_append_cons_of_mem hcomment
  have hline : front ++ '(' :: (shown ++ ';' :: hidden) ++ ')' :: rest =
      (front ++ '(' :: shown) ++ ';' :: (hidden ++ ')' :: rest) := by simp
  have hnot : ';' ∉ front ++ '(' :: shown := by simp [hsemicolon, hshown]
  have hopen : ')' ∉ shown := fun h => hclosed (List.mem_append_left _ h)
  refine body?_congr ?_ ?_
  · rw [List.append_assoc, head?_trimStart_append hblank]
  · -- The comment is left open, and the blank that stands for it is at the end.
    rw [hline, stripComments_semicolon hnot, stripComments_of_notMem hnot,
      stripComments_of_notMem hsemicolon, blankParens_append hparen, blankParens_of_notMem hparen,
      blankParens, if_neg Bool.false_ne_true, if_pos rfl, blankParens_unclosed hopen]
    exact trim_append_blank front (by decide)

end Block

/-! ### The whole text -/

namespace Toolpath

/-- A toolpath depends on the bodies of the lines alone. -/
theorem interpret_congr {s t : String} (h : bodies s.toList = bodies t.toList) :
    interpret s = interpret t := by
  rw [interpret, interpret, h]

/-- A line may be replaced by one with the same body. -/
theorem bodies_of_replacesLine {l l' s t : List Char} (h : ReplacesLine l l' s t)
    (hbody : Block.body? l = Block.body? l') : bodies s = bodies t := by
  obtain ⟨before, after, hs, ht⟩ := h
  rw [bodies, bodies, hs, ht, List.filterMap_append, List.filterMap_append, List.filterMap_cons,
    List.filterMap_cons, hbody]

/-- **A closed comment stands for a blank, unless there is a semicolon in it.** Let a line hold a
comment in parentheses behind a text that is not blank and opens no comment. If there is no
semicolon in the comment, a blank may take its place, whatever else the comment says; if there is
one, all of the line from the comment on may be left out. -/
theorem closedComment_interpret {front comment rest : List Char} (hblank : ¬ AllBlank front)
    (hsemicolon : ';' ∉ front) (hparen : '(' ∉ front) (hclosed : ')' ∉ comment) (s t : String) :
    (';' ∉ comment →
        ReplacesLine (front ++ '(' :: comment ++ ')' :: rest) (front ++ ' ' :: rest) s.toList
          t.toList →
        interpret s = interpret t) ∧
      (';' ∈ comment →
        ReplacesLine (front ++ '(' :: comment ++ ')' :: rest) front s.toList t.toList →
        interpret s = interpret t) := by
  constructor
  · intro hcomment hline
    have hbody := Block.body?_closedComment hblank hsemicolon hparen hclosed hcomment rest
    exact interpret_congr (bodies_of_replacesLine hline hbody)
  · intro hcomment hline
    have hbody := Block.body?_semicolonComment hblank hsemicolon hparen hclosed hcomment rest
    exact interpret_congr (bodies_of_replacesLine hline hbody)

/-- A text with a comment that holds words, another unit and an opening parenthesis. -/
def remarked : String := "G21\nG1 X1 (G20 (X9) Y2\nG1 X2"

/-- The same text with a blank for the comment. -/
def unremarked : String := "G21\nG1 X1   Y2\nG1 X2"

/-- A text with a semicolon in a comment. -/
def cutShort : String := "G1 X1 (a;b) Y2"

/-- The comment of the first text is hidden, and of the other text there is nothing left from the
comment on. -/
theorem remarked_interpret :
    interpret remarked = interpret unremarked ∧ interpret cutShort = interpret "G1 X1 " := by
  have hremarked :
      ReplacesLine ("G1 X1 ".toList ++ '(' :: "G20 (X9".toList ++ ')' :: " Y2".toList)
        ("G1 X1 ".toList ++ ' ' :: " Y2".toList) remarked.toList unremarked.toList :=
    ⟨["G21".toList], ["G1 X2".toList], by decide, by decide⟩
  have hcutShort :
      ReplacesLine ("G1 X1 ".toList ++ '(' :: "a;b".toList ++ ')' :: " Y2".toList)
        "G1 X1 ".toList cutShort.toList "G1 X1 ".toList :=
    ⟨[], [], by decide, by decide⟩
  exact ⟨(closedComment_interpret (by decide) (by decide) (by decide) (by decide) remarked
      unremarked).1 (by decide) hremarked,
    (closedComment_interpret (by decide) (by decide) (by decide) (by decide) cutShort
      "G1 X1 ").2 (by decide) hcutShort⟩

/-- **A comment with a semicolon in it takes more with it than itself**: a blank in its place would
let the words behind it count. -/
theorem cutShort_interpret_ne :
    ¬ AllBlank "G1 X1 ".toList ∧ ';' ∉ "G1 X1 ".toList ∧ '(' ∉ "G1 X1 ".toList ∧
      ')' ∉ "a;b".toList ∧ '\n' ∉ "a;b".toList ∧
      ReplacesLine ("G1 X1 ".toList ++ '(' :: "a;b".toList ++ ')' :: " Y2".toList)
        ("G1 X1 ".toList ++ ' ' :: " Y2".toList) cutShort.toList "G1 X1   Y2".toList ∧
      interpret cutShort ≠ interpret "G1 X1   Y2" := by
  refine ⟨by decide, by decide, by decide, by decide, by decide,
    ⟨[], [], by decide, by decide⟩, fun heq => ?_⟩
  have hmoves :
      (interpret cutShort).moves.map (·.y) = (interpret "G1 X1   Y2").moves.map (·.y) := by
    rw [heq]
  revert hmoves
  decide +kernel

end Toolpath

end MachiningViewer
