import MachiningViewer.Proofs.Toolpath.Appending
import MachiningViewer.Proofs.Toolpath.Grammar

/-!
# Which feed rates a text leads to

The feed words of a line are its own affair; what they lead to depends on the kinds of motion. A
rapid move keeps to its own word and hands nothing on (`Move.modalFeed`). The feed moves share one
rate, so their rates are decided by their own words, line by line, present or absent
(`ownFeeds_inheritFeeds`). Nothing else in a text has any say in them (`modal_feeds`).
-/

namespace MachiningViewer

open Text

/-- The rate at which a move is made that comes after the given ones: its own or, for a feed move
without one, that of the nearest feed move before it with one. -/
def Move.modalFeed (before : List Move) (m : Move) : Option Float :=
  match m.kind with
  | .rapid => m.feed
  | .feed => m.feed.or ((before.filter (·.kind == .feed)).filterMap (·.feed)).getLast?

/-- The own rates of the feed moves, in order. -/
def ownFeeds (ms : List Move) : List (Option Float) :=
  (ms.filter (·.kind == .feed)).map (·.feed)

/-- Fills in each rate that is absent with the nearest one before it, or with `modal`. -/
def carryOn (modal : Option Float) : List (Option Float) → List (Option Float)
  | [] => []
  | own :: owns => own.or modal :: carryOn (own.or modal) owns

theorem Move.feed_orFeed (m : Move) (before : List Move) :
    (m.orFeed (feedAfter none before)).feed = m.modalFeed before := by
  unfold modalFeed
  cases hk : m.kind with
  | rapid => rw [orFeed_of_rapid hk]
  | feed => rw [orFeed_of_feed hk, feedAfter, filterMap_cuttingFeed?, Option.or_none]

theorem ownFeeds_cons_of_rapid {m : Move} (hk : m.kind = .rapid) (ms : List Move) :
    ownFeeds (m :: ms) = ownFeeds ms := by
  simp only [ownFeeds, List.filter_cons, hk]
  rfl

theorem ownFeeds_cons_of_feed {m : Move} (hk : m.kind = .feed) (ms : List Move) :
    ownFeeds (m :: ms) = m.feed :: ownFeeds ms := by
  simp only [ownFeeds, List.filter_cons, hk]
  rfl

/-- **The rates of feed moves depend on their own rates alone.** -/
theorem ownFeeds_inheritFeeds (modal : Option Float) (ms : List Move) :
    ownFeeds (inheritFeeds modal ms) = carryOn modal (ownFeeds ms) := by
  induction ms generalizing modal with
  | nil => rfl
  | cons m ms ih =>
    have hkind := m.kind_orFeed modal
    rw [inheritFeeds_cons]
    -- A rapid neither declares a feed of its own nor takes the modal one.
    cases hk : m.kind with
    | rapid =>
      rw [ownFeeds_cons_of_rapid (hkind.trans hk), ownFeeds_cons_of_rapid hk, ih,
        Move.cuttingFeed?_of_rapid hk, Option.none_or]
    | feed =>
      have hfeed : (m.orFeed modal).feed = m.feed.or modal := by rw [Move.orFeed_of_feed hk]
      rw [ownFeeds_cons_of_feed (hkind.trans hk), ownFeeds_cons_of_feed hk, ih,
        Move.cuttingFeed?_of_feed hk, hfeed]
      rfl

namespace Toolpath

theorem motions_eq_filterMap (text : String) :
    motions text = (lines text.toList).filterMap Block.command? := by
  rw [motions, bodies, List.filterMap_filterMap]
  rfl

/-- The feed moves of a text have the rates of their own lines, carried on. -/
theorem ownFeeds_moves (text : String) :
    ownFeeds (interpret text).moves = carryOn none (ownFeeds (motions text)) := by
  rw [moves_interpret, ownFeeds_inheritFeeds]

theorem feedValues_eq_ownFeeds (text : String) :
    (interpret text).feedValues = (ownFeeds (interpret text).moves).filterMap id := by
  rw [feedValues_interpret, filterMap_cuttingFeed?, ownFeeds, List.filterMap_map]
  rfl

/-- **Feed rates are modal.** (a) The motions of a text are what its lines command, in order, and
each becomes a move of the same kind at its modal rate. (b) The feed values are the rates of the
feed moves that have one, in order. (c) So texts whose feed lines have the same feed words of their
own, present or absent, have the same feed values and the same rates of their feed moves, whatever
stands on all other lines. -/
theorem modal_feeds :
    (∀ line m, Block.command? line = some m ↔ Block.Commands line m) ∧
      (∀ text, motions text = (lines text.toList).filterMap Block.command? ∧
        (interpret text).moves.map (fun m => (m.kind, m.feed)) =
          (motions text).mapIdx fun i m => (m.kind, m.modalFeed ((motions text).take i))) ∧
      (∀ text, (interpret text).feedValues =
        ((interpret text).moves.filter (·.kind == .feed)).filterMap (·.feed)) ∧
      ∀ text text', ownFeeds (motions text) = ownFeeds (motions text') →
        (interpret text).feedValues = (interpret text').feedValues ∧
          ((interpret text).moves.filter (·.kind == .feed)).map (·.feed) =
            ((interpret text').moves.filter (·.kind == .feed)).map (·.feed) := by
  refine ⟨?_, ?_, ?_, ?_⟩
  · intro line m
    exact Block.command?_eq_some_iff
  · intro text
    refine ⟨motions_eq_filterMap text, List.ext_getElem? fun i => ?_⟩
    rw [moves_interpret, inheritFeeds_eq_mapIdx, List.getElem?_map, List.getElem?_mapIdx,
      List.getElem?_mapIdx, Option.map_map]
    refine congrArg (Option.map · _) (funext fun m => ?_)
    exact Prod.ext (m.kind_orFeed _) (m.feed_orFeed _)
  · intro text
    rw [feedValues_interpret, filterMap_cuttingFeed?]
  · -- Both the values and the feeds of the moves are functions of the feeds the cuts have of their
    -- own.
    intro text text' hown
    have hfeeds : ownFeeds (interpret text).moves = ownFeeds (interpret text').moves := by
      rw [ownFeeds_moves, ownFeeds_moves, hown]
    refine ⟨?_, hfeeds⟩
    rw [feedValues_eq_ownFeeds, feedValues_eq_ownFeeds, hfeeds]

/-- A text with a rapid move at a rate of its own. -/
def hasty : String := "G0 X1 F900\nG1 X2 F300\nF80\nG1 X3"

/-- A text whose feed lines have the same feed words. -/
def careful : String := "(slowly)\nfeed y1 F-2 F300\nRAPID Z9 F5\nG01 y2"

/-- The rapid moves of the two texts, and what stands on the other lines, make no difference. -/
theorem hasty_feedValues :
    ownFeeds (motions hasty) = ownFeeds (motions careful) ∧
      (interpret hasty).feedValues = (interpret careful).feedValues := by
  have hown : ownFeeds (motions hasty) = ownFeeds (motions careful) := by decide +kernel
  exact ⟨hown, (modal_feeds.2.2.2 hasty careful hown).1⟩

end Toolpath

end MachiningViewer
