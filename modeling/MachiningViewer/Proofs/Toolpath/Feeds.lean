import MachiningViewer.Toolpath.Interpret
import Mathlib.Data.List.Basic

/-!
# Feed rates carry on

A feed move without a feed rate of its own runs at the rate in effect, which is that of the nearest
feed move before it with a rate of its own (`feedAfter`). What a move inherits is thus said without
following the moves (`inheritFeeds_eq_mapIdx`).

Inheriting can be done piece by piece. The moves of a second piece that still have no rate, after
they have inherited from each other, get the one in effect at the end of the first piece
(`inheritFeeds_append`), and that is the last of the first piece's rates (`feedAfter_inheritFeeds`).
-/

namespace MachiningViewer

/-- Gives the rate in effect to a feed move that has none. -/
def Move.orFeed (modal : Option Float) (m : Move) : Move :=
  if m.kind = .feed ∧ m.feed = none then { m with feed := modal } else m

/-- The rate in effect after some moves, if it is `modal` before them. -/
def feedAfter (modal : Option Float) (ms : List Move) : Option Float :=
  (ms.filterMap Move.cuttingFeed?).getLast?.or modal

/-! ### One move -/

namespace Move

@[simp]
theorem kind_orFeed (m : Move) (modal : Option Float) : (m.orFeed modal).kind = m.kind := by
  unfold orFeed
  split <;> rfl

theorem orFeed_of_rapid {m : Move} (hk : m.kind = .rapid) (modal : Option Float) :
    m.orFeed modal = m :=
  if_neg fun h => MoveKind.noConfusion (hk.symm.trans h.1)

theorem orFeed_of_feed {m : Move} (hk : m.kind = .feed) (modal : Option Float) :
    m.orFeed modal = { m with feed := m.feed.or modal } := by
  cases hf : m.feed with
  | none => rw [orFeed, if_pos ⟨hk, hf⟩]; rfl
  | some f =>
    have hne : ¬ (m.kind = .feed ∧ m.feed = none) := fun h => by simp [h.2] at hf
    rw [orFeed, if_neg hne, Option.some_or, ← hf]

theorem cuttingFeed?_of_rapid {m : Move} (hk : m.kind = .rapid) : m.cuttingFeed? = none := by
  rw [cuttingFeed?, hk]

theorem cuttingFeed?_of_feed {m : Move} (hk : m.kind = .feed) : m.cuttingFeed? = m.feed := by
  rw [cuttingFeed?, hk]

/-- The rate in effect stays what it is until a feed move has one of its own. -/
theorem cuttingFeed?_orFeed_or (m : Move) (modal : Option Float) :
    (m.orFeed modal).cuttingFeed?.or modal = m.cuttingFeed?.or modal := by
  cases hk : m.kind with
  | rapid => rw [orFeed_of_rapid hk]
  | feed =>
    have hcut : ({ m with feed := m.feed.or modal } : Move).cuttingFeed? = m.feed.or modal :=
      cuttingFeed?_of_feed hk
    rw [orFeed_of_feed hk, hcut, cuttingFeed?_of_feed hk, Option.or_assoc, Option.or_self]

/-- What one rate leaves open the next one fills. -/
theorem orFeed_orFeed (m : Move) (modal modal' : Option Float) :
    (m.orFeed modal).orFeed modal' = m.orFeed (modal.or modal') := by
  cases hk : m.kind with
  | rapid => rw [orFeed_of_rapid hk, orFeed_of_rapid hk, orFeed_of_rapid hk]
  | feed =>
    have htwice := orFeed_of_feed (m := { m with feed := m.feed.or modal }) hk modal'
    rw [orFeed_of_feed hk, htwice, orFeed_of_feed hk, Option.or_assoc]

end Move

/-! ### Many moves -/

/-- Only feed moves count for the rate in effect. -/
theorem filterMap_cuttingFeed? (ms : List Move) :
    ms.filterMap Move.cuttingFeed? = (ms.filter (·.kind == .feed)).filterMap (·.feed) := by
  rw [List.filterMap_filter]
  refine List.filterMap_congr fun m _ => ?_
  cases hk : m.kind with
  | rapid => rw [Move.cuttingFeed?_of_rapid hk]; rfl
  | feed => rw [Move.cuttingFeed?_of_feed hk]; rfl

theorem feedAfter_cons (modal : Option Float) (m : Move) (ms : List Move) :
    feedAfter modal (m :: ms) = feedAfter (m.cuttingFeed?.or modal) ms := by
  unfold feedAfter
  cases h : m.cuttingFeed? with
  | none => rw [List.filterMap_cons_none h, Option.none_or]
  | some f =>
    rw [List.filterMap_cons_some h, List.getLast?_cons, Option.some_or, Option.some_or]
    cases (ms.filterMap Move.cuttingFeed?).getLast? <;> rfl

theorem inheritFeeds_cons (modal : Option Float) (m : Move) (ms : List Move) :
    inheritFeeds modal (m :: ms) =
      m.orFeed modal :: inheritFeeds (m.cuttingFeed?.or modal) ms := by
  cases hk : m.kind with
  | rapid =>
    rw [inheritFeeds, Move.orFeed_of_rapid hk, Move.cuttingFeed?_of_rapid hk]
    simp only [hk]
    rfl
  | feed =>
    rw [inheritFeeds, Move.orFeed_of_feed hk, Move.cuttingFeed?_of_feed hk]
    simp only [hk]

/-- Inheriting changes no kind of motion. -/
theorem map_kind_inheritFeeds (modal : Option Float) (ms : List Move) :
    (inheritFeeds modal ms).map (·.kind) = ms.map (·.kind) := by
  induction ms generalizing modal with
  | nil => rfl
  | cons m ms ih => rw [inheritFeeds_cons, List.map_cons, List.map_cons, ih, Move.kind_orFeed]

/-- **Feed rates are modal.** Each feed move without a rate has that of the nearest feed move before
it with one, or what was in effect at the start. -/
theorem inheritFeeds_eq_mapIdx (modal : Option Float) (ms : List Move) :
    inheritFeeds modal ms = ms.mapIdx fun i m => m.orFeed (feedAfter modal (ms.take i)) := by
  induction ms generalizing modal with
  | nil => rfl
  | cons m ms ih =>
    rw [inheritFeeds_cons, ih, List.mapIdx_cons]
    simp only [List.take_succ_cons, feedAfter_cons]
    rfl

/-- The rate in effect at the end is the same before and after inheriting. -/
theorem feedAfter_inheritFeeds (modal : Option Float) (ms : List Move) :
    feedAfter modal (inheritFeeds modal ms) = feedAfter modal ms := by
  induction ms generalizing modal with
  | nil => rfl
  | cons m ms ih =>
    rw [inheritFeeds_cons, feedAfter_cons, Move.cuttingFeed?_orFeed_or, ih, feedAfter_cons]

/-- What is in effect at the start goes to the moves that are left without a rate. -/
theorem inheritFeeds_or (modal modal' : Option Float) (ms : List Move) :
    inheritFeeds (modal.or modal') ms = (inheritFeeds modal ms).map (Move.orFeed modal') := by
  induction ms generalizing modal with
  | nil => rfl
  | cons m ms ih =>
    rw [inheritFeeds_cons, inheritFeeds_cons, List.map_cons, Move.orFeed_orFeed, ← Option.or_assoc,
      ih]

/-- **Inheriting goes on from one piece to the next.** -/
theorem inheritFeeds_append (modal : Option Float) (ms ns : List Move) :
    inheritFeeds modal (ms ++ ns) =
      inheritFeeds modal ms ++ inheritFeeds (feedAfter modal ms) ns := by
  induction ms generalizing modal with
  | nil => rfl
  | cons m ms ih =>
    rw [List.cons_append, inheritFeeds_cons, inheritFeeds_cons, ih, feedAfter_cons]
    rfl

end MachiningViewer
