import MachiningViewer.Proofs.Toolpath.LetterCase
import Mathlib.Logic.Relation

/-!
# Layout

How a toolpath text is laid out has no effect on what it says. An edit of the layout
(`Text.LayoutEdit`) changes letter case, ends a line with a carriage return as well, puts blanks
around a line or a remark behind it, or puts in a line that is skipped. One edit leaves the unit
directives and the motion commands of the text as they are (`Toolpath.commands_of_edit`), so any
number of them does, made or undone (`Toolpath.commands_of_edits`), and with the commands all the
rest of the toolpath stays.

But for letter case, which runs through the whole reading, an edit does not even change the bodies
of the lines.
-/

namespace MachiningViewer

open Text

/-! ### Edits -/

namespace Text

/-- One edit of the layout of a text. -/
inductive LayoutEdit : List Char → List Char → Prop
  /-- ASCII letters change their case. -/
  | letters {s t : List Char} (h : upper s = upper t) : LayoutEdit s t
  /-- A line feed becomes a carriage return and a line feed. -/
  | carriageReturn (before after : List Char) :
      LayoutEdit (before ++ '\n' :: after) (before ++ '\r' :: '\n' :: after)
  /-- Blanks are put in front of a line. -/
  | indented {blanks line s t : List Char} (hblanks : AllBlank blanks)
      (h : ReplacesLine line (blanks ++ line) s t) : LayoutEdit s t
  /-- Blanks are put behind a line. -/
  | padded {blanks line s t : List Char} (hblanks : AllBlank blanks)
      (h : ReplacesLine line (line ++ blanks) s t) : LayoutEdit s t
  /-- A semicolon and any text are put behind a line without a semicolon. -/
  | remark {line remark s t : List Char} (hline : ';' ∉ line)
      (h : ReplacesLine line (line ++ ';' :: remark) s t) : LayoutEdit s t
  /-- A line is put in, anywhere, that is blank or opens with a comment. -/
  | skipped {line s t : List Char} {before after : List (List Char)} (hline : Block.IsSkipped line)
      (hs : lines s = before ++ after) (ht : lines t = before ++ line :: after) : LayoutEdit s t

theorem lines_of_notMem {cs : List Char} (hcs : '\n' ∉ cs) : lines cs = [cs] := by
  induction cs with
  | nil => rfl
  | cons c cs ih =>
    obtain ⟨hc, hcs⟩ := not_or.1 (mt List.mem_cons.2 hcs)
    rw [lines_cons, ih hcs, consLine, if_neg (Ne.symm hc)]

/-- What is put behind a text goes to its last line. -/
theorem lines_append {tail : List Char} (htail : '\n' ∉ tail) (cs : List Char) :
    ∃ before last, lines cs = before ++ [last] ∧ lines (cs ++ tail) = before ++ [last ++ tail] := by
  induction cs with
  | nil => exact ⟨[], [], rfl, lines_of_notMem htail⟩
  | cons c cs ih =>
    obtain ⟨before, last, hcs, happend⟩ := ih
    rw [List.cons_append, lines_cons, lines_cons, hcs, happend]
    -- A character in front joins the first line, which is the last one too when there is only one.
    cases before with
    | nil =>
      by_cases hc : c = '\n'
      · exact ⟨[[]], last, by simp [consLine, hc], by simp [consLine, hc]⟩
      · exact ⟨[], c :: last, by simp [consLine, hc], by simp [consLine, hc]⟩
    | cons line before =>
      have hne : line :: before ≠ [] := List.cons_ne_nil _ _
      exact ⟨consLine c (line :: before), last, consLine_append c hne _, consLine_append c hne _⟩

/-- A carriage return before a line feed is a blank behind a line. -/
theorem replacesLine_carriageReturn (before after : List Char) :
    ∃ line, ReplacesLine line (line ++ ['\r']) (before ++ '\n' :: after)
      (before ++ '\r' :: '\n' :: after) := by
  have hreturn : '\n' ∉ ['\r'] := by decide
  obtain ⟨earlier, last, hlines, happend⟩ := lines_append hreturn before
  refine ⟨last, earlier, lines after, ?_, ?_⟩
  · rw [lines_append_newline, hlines, List.append_assoc]
    rfl
  · have htext : before ++ '\r' :: '\n' :: after = (before ++ ['\r']) ++ '\n' :: after := by simp
    rw [htext, lines_append_newline, happend, List.append_assoc]
    rfl

end Text

/-! ### The edited line -/

namespace Block

/-- The blanks around a line take no part in its body. -/
theorem body?_eq_of_trim_eq {l l' : List Char} (h : trim l = trim l') : body? l = body? l' := by
  unfold body?
  rw [h]

/-- Nor does what is behind its first semicolon. -/
theorem body?_remark {line : List Char} (hline : ';' ∉ line) (remark : List Char) :
    body? (line ++ ';' :: remark) = body? line := by
  by_cases hblank : AllBlank line
  · -- Without the remark the line is blank, and with it the semicolon is its first character.
    have hline : IsSkipped line := by
      rw [IsSkipped, trimStart_eq_nil_iff.2 hblank]
      simp
    have hremark : IsSkipped (line ++ ';' :: remark) := by
      have hstop : trimStart (';' :: remark) = ';' :: remark :=
        List.dropWhile_cons_of_neg (by decide)
      rw [IsSkipped, trimStart_append hblank, hstop]
      simp
    rw [body?_eq_none_iff.2 hline, body?_eq_none_iff.2 hremark]
  · refine body?_congr (head?_trimStart_append hblank _) ?_
    rw [stripComments_semicolon hline]

end Block

/-! ### The edited text -/

namespace Toolpath

theorem commands_of_replacesLine {l l' s t : List Char} (h : ReplacesLine l l' s t)
    (hbody : Block.body? l = Block.body? l') : commands s = commands t := by
  rw [commands, commands, bodies_of_replacesLine h hbody]

/-- **An edit of the layout changes no command.** -/
theorem commands_of_edit {s t : List Char} (h : LayoutEdit s t) : commands s = commands t := by
  cases h with
  | letters h => rw [← commands_upper s, h, commands_upper]
  | carriageReturn before after =>
    obtain ⟨line, hline⟩ := replacesLine_carriageReturn before after
    have htrim : trim (line ++ ['\r']) = trim line := trim_append_blank line (by decide)
    exact commands_of_replacesLine hline (Block.body?_eq_of_trim_eq htrim.symm)
  | @indented blanks line s t hblanks h =>
    have htrim : trim (blanks ++ line) = trim line := trim_blank_append hblanks line
    exact commands_of_replacesLine h (Block.body?_eq_of_trim_eq htrim.symm)
  | @padded blanks line s t hblanks h =>
    have htrim : trim (line ++ blanks) = trim line := trim_append_blank line hblanks
    exact commands_of_replacesLine h (Block.body?_eq_of_trim_eq htrim.symm)
  | remark hline h => exact commands_of_replacesLine h (Block.body?_remark hline _).symm
  | skipped hline hs ht =>
    -- The skipped line has no body, so the bodies are those of the lines around it.
    have hbodies : bodies s = bodies t := by
      rw [bodies, bodies, hs, ht, List.filterMap_append, List.filterMap_append,
        List.filterMap_cons_none (Block.body?_eq_none_iff.2 hline)]
    rw [commands, commands, hbodies]

/-- Nor does any number of edits that are made or undone. -/
theorem commands_of_edits {s t : List Char} (h : Relation.EqvGen LayoutEdit s t) :
    commands s = commands t := by
  induction h with
  | rel s t hedit => exact commands_of_edit hedit
  | refl s => rfl
  | symm s t _ ih => exact ih.symm
  | trans r s t _ _ ih ih' => exact ih.trans ih'

/-- **Layout is irrelevant.** A toolpath stays as it is, in all its parts, under any sequence of
edits of the layout of its text, each of which is made or undone. -/
theorem layout_irrelevant {s t : String} (h : Relation.EqvGen LayoutEdit s.toList t.toList) :
    interpret s = interpret t := by
  rw [interpret_eq, interpret_eq, commands_of_edits h]

/-- A text in its plainest layout. -/
def plain : String := "G21\nG1 X1 Y2\nG1 X3"

/-- The same text with a title, small letters, an indented line and a remark. -/
def dressed : String := "(slot\r\ng21\n  g1 x1 y2; cut (here\nG1 X3"

/-- Five edits lead from one text to the other. -/
theorem plain_interpret : interpret plain = interpret dressed := by
  -- One edit of every kind, in turn.
  have hletters : LayoutEdit plain.toList "g21\ng1 x1 y2\nG1 X3".toList :=
    .letters (by decide)
  have hindented : LayoutEdit "g21\ng1 x1 y2\nG1 X3".toList "g21\n  g1 x1 y2\nG1 X3".toList := by
    have hline : ReplacesLine "g1 x1 y2".toList ("  ".toList ++ "g1 x1 y2".toList)
        "g21\ng1 x1 y2\nG1 X3".toList "g21\n  g1 x1 y2\nG1 X3".toList :=
      ⟨["g21".toList], ["G1 X3".toList], by decide, by decide⟩
    exact .indented (by decide) hline
  have hremark : LayoutEdit "g21\n  g1 x1 y2\nG1 X3".toList
      "g21\n  g1 x1 y2; cut (here\nG1 X3".toList := by
    have hline : ReplacesLine "  g1 x1 y2".toList
        ("  g1 x1 y2".toList ++ ';' :: " cut (here".toList)
        "g21\n  g1 x1 y2\nG1 X3".toList "g21\n  g1 x1 y2; cut (here\nG1 X3".toList :=
      ⟨["g21".toList], ["G1 X3".toList], by decide, by decide⟩
    exact .remark (by decide) hline
  have hskipped : LayoutEdit "g21\n  g1 x1 y2; cut (here\nG1 X3".toList
      "(slot\ng21\n  g1 x1 y2; cut (here\nG1 X3".toList := by
    have hline : Block.IsSkipped "(slot".toList := by decide
    exact .skipped hline (List.nil_append _).symm (by decide)
  have hreturn : LayoutEdit "(slot\ng21\n  g1 x1 y2; cut (here\nG1 X3".toList dressed.toList :=
    .carriageReturn "(slot".toList "g21\n  g1 x1 y2; cut (here\nG1 X3".toList
  exact layout_irrelevant <| .trans _ _ _ (.rel _ _ hletters) <|
    .trans _ _ _ (.rel _ _ hindented) <| .trans _ _ _ (.rel _ _ hremark) <|
    .trans _ _ _ (.rel _ _ hskipped) (.rel _ _ hreturn)

end Toolpath

end MachiningViewer
