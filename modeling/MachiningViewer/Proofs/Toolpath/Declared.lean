import MachiningViewer.Proofs.Toolpath.ModalFeeds
import MachiningViewer.Proofs.Toolpath.Words

/-!
# Whether a text declares a feed rate

The flag of a toolpath that tells whether a feed rate is given is false if there are feed moves and
no line with a motion command gives one (`feedDeclared_eq_false_iff`). It makes no difference to the
flag what the lines without a motion command say, and so a text that sets its feed rate on a line of
its own counts as one that sets none (`ownLine_feedDeclared`).
-/

namespace MachiningViewer

open Text

namespace Block

/-- The feed rates that the words of a text give, in order. A negative one does not count. -/
def feedsOf (cs : List Char) : List Float :=
  (valuesOf 'F' (Word.scan cs)).filter (· ≥ 0.0)

/-- A line that opens with a motion word commands a move, and its feed rates are the line's. -/
theorem exists_commands {line body rest : List Char} {kind : MoveKind} (hbody : HasBody line body)
    (hopens : Opens kind rest body) :
    ∃ m, Commands line m ∧ m.feed = (feedsOf body).head? := by
  refine ⟨⟨kind, (valuesOf 'X' (Word.scan rest)).head?, (valuesOf 'Y' (Word.scan rest)).head?,
    (valuesOf 'Z' (Word.scan rest)).head?, (feedsOf rest).head?⟩, ?_, ?_⟩
  · exact ⟨body, rest, hbody, hopens, rfl, rfl, rfl, rfl⟩
  · rw [feedsOf, feedsOf, hopens.valuesOf_feed]

/-- What a line commands has the first feed rate of the line. -/
theorem Commands.feed_eq {line : List Char} {m : Move} (h : Commands line m) :
    ∃ body rest, HasBody line body ∧ Opens m.kind rest body ∧ m.feed = (feedsOf body).head? := by
  obtain ⟨body, rest, hbody, hopens, -, -, -, hfeed⟩ := h
  refine ⟨body, rest, hbody, hopens, ?_⟩
  rw [hfeed, feedsOf, hopens.valuesOf_feed]

end Block

namespace Toolpath

theorem feedDeclared_interpret (text : String) :
    (interpret text).feedDeclared =
      (!(motions text).any (·.kind == .feed) || (motions text).any (·.feed.isSome)) :=
  rfl

theorem exists_feed_iff (text : String) :
    (∃ m ∈ (interpret text).moves, m.kind = .feed) ↔ (motions text).any (·.kind == .feed) := by
  have hkinds : (interpret text).moves.map (·.kind) = (motions text).map (·.kind) := by
    rw [moves_interpret, map_kind_inheritFeeds]
  rw [← List.mem_map, hkinds, List.mem_map, List.any_eq_true]
  simp only [beq_iff_eq]

/-- No command of the text has a feed rate of its own exactly if no line with a motion command gives
one. -/
theorem any_feed_eq_false_iff (text : String) :
    (motions text).any (·.feed.isSome) = false ↔
      ∀ line ∈ lines text.toList, ∀ body kind rest, Block.HasBody line body →
        Block.Opens kind rest body → Block.feedsOf body = [] := by
  rw [motions_eq_filterMap]
  constructor
  · -- A feed word on a motion line would be the feed of the motion parsed from that line.
    intro hnone line hline body kind rest hbody hopens
    obtain ⟨m, hcommands, hfeed⟩ := Block.exists_commands hbody hopens
    have hm : m ∈ (lines text.toList).filterMap Block.command? :=
      List.mem_filterMap.2 ⟨line, hline, Block.command?_eq_some_iff.2 hcommands⟩
    have hnot := List.any_eq_false.1 hnone m hm
    rw [Option.not_isSome_iff_eq_none, hfeed] at hnot
    exact List.head?_eq_none_iff.1 hnot
  · intro hlines
    refine List.any_eq_false.2 fun m hm => ?_
    obtain ⟨line, hline, hcommand⟩ := List.mem_filterMap.1 hm
    obtain ⟨body, rest, hbody, hopens, hfeed⟩ :=
      (Block.command?_eq_some_iff.1 hcommand).feed_eq
    rw [hfeed, hlines line hline body m.kind rest hbody hopens]
    exact Bool.false_ne_true

/-- **When a feed rate counts as declared.** The flag is false exactly if the text has a feed move
and no feed rate is given, outside comments, on any line that commands a motion. -/
theorem feedDeclared_eq_false_iff (text : String) :
    (interpret text).feedDeclared = false ↔
      (∃ m ∈ (interpret text).moves, m.kind = .feed) ∧
        ∀ line ∈ lines text.toList, ∀ body kind rest, Block.HasBody line body →
          Block.Opens kind rest body → Block.feedsOf body = [] := by
  rw [exists_feed_iff, ← any_feed_eq_false_iff, feedDeclared_interpret, Bool.or_eq_false_iff,
    Bool.not_eq_false']

/-- A text that sets the feed rate on a line of its own. -/
def ownLine : String := "F100\nG1 X10\nG1 X20"

/-- **A feed rate on a line of its own counts for nothing.** -/
theorem ownLine_feedDeclared :
    (interpret ownLine).feedDeclared = false ∧
      ∃ line ∈ lines ownLine.toList, ∃ body, Block.HasBody line body ∧
        Block.feedsOf body = [100] := by
  have hbody : Block.HasBody "F100".toList "F100".toList :=
    Block.body?_eq_some_iff.1 (by decide)
  exact ⟨by decide +kernel, "F100".toList, by decide, _, hbody, by decide +kernel⟩

end Toolpath

end MachiningViewer
