import MachiningViewer.Proofs.Toolpath.Feeds
import MachiningViewer.Proofs.Toolpath.Runs

/-!
# A text that goes on

A text can be interpreted piece by piece, as it comes in. A line feed is a clean cut between two
texts, so the commands of the whole are those of the pieces, one after the other
(`motions_append`). What crosses the cut is the machine's state: the feed rate in effect, which
the first feed moves of the second piece inherit, and the stretch that the first piece has left
open, which the second may lengthen (`follow_append`).
-/

namespace MachiningViewer

open Text

/-! ### The polyline that is left open -/

namespace Polyline

/-- A stretch that is long enough is drawn whatever comes, as the beginning of a polyline. -/
theorem exists_cons_follow {kind : MoveKind} {reached : List Point} (p : Point) (ms : List Move)
    (hd : (mk kind reached.reverse).isDrawable) :
    ∃ next later, follow kind reached p ms = next :: later ∧ next.kind = kind ∧
      reached.reverse <+: next.points := by
  induction ms generalizing reached p with
  | nil =>
    rw [follow, List.filter_cons_of_pos hd]
    exact ⟨_, _, rfl, rfl, List.prefix_rfl⟩
  | cons m ms ih =>
    rw [follow]
    -- A move of the same kind lengthens the run that is being followed, any other ends it.
    by_cases hk : m.kind = kind
    · have hlonger : (mk kind (m.target p :: reached).reverse).isDrawable := by
        simp only [isDrawable, List.length_reverse, List.length_cons, decide_eq_true_eq] at hd ⊢
        omega
      obtain ⟨next, later, heq, hkind, hpoints⟩ := ih (m.target p) hlonger
      rw [List.reverse_cons] at hpoints
      exact ⟨next, later, (if_pos hk).trans heq, hkind, (List.prefix_append _ _).trans hpoints⟩
    · rw [if_neg hk, List.filter_cons_of_pos hd]
      exact ⟨_, _, rfl, rfl, List.prefix_rfl⟩

/-- More moves change no polyline but the last, and that one at most by more points at its end. -/
theorem follow_append {kind : MoveKind} {reached : List Point} {p : Point} {ms : List Move}
    {earlier : List Polyline} {last : Polyline}
    (h : follow kind reached p ms = earlier ++ [last]) (ns : List Move) :
    ∃ next later, follow kind reached p (ms ++ ns) = earlier ++ next :: later ∧
      next.kind = last.kind ∧ last.points <+: next.points := by
  induction ms generalizing kind reached p earlier with
  | nil =>
    -- Only the open stretch is left: it is the last polyline, or there is none.
    by_cases hd : (mk kind reached.reverse).isDrawable
    · rw [follow, List.filter_cons_of_pos hd] at h
      have happend : [] ++ [mk kind reached.reverse] = earlier ++ [last] := h
      obtain ⟨rfl, hlast⟩ := List.append_inj' happend rfl
      obtain rfl := List.singleton_inj.1 hlast
      exact exists_cons_follow p ns hd
    · rw [follow, List.filter_cons_of_neg hd] at h
      cases earlier <;> cases h
  | cons m ms ih =>
    rw [List.cons_append, follow]
    rw [follow] at h
    by_cases hk : m.kind = kind
    · rw [if_pos hk]
      exact ih ((if_pos hk).symm.trans h)
    · simp only [if_neg hk] at h ⊢
      obtain hnil | ⟨earlier', last', hrest⟩ :=
        List.eq_nil_or_concat (follow m.kind [m.target p] (m.target p) ms)
      · -- Nothing is drawn behind the stretch so far, so that is the last polyline.
        rw [hnil, List.append_nil] at h
        rw [h, List.append_assoc]
        exact ⟨last, _, rfl, rfl, List.prefix_rfl⟩
      · rw [List.concat_eq_append] at hrest
        rw [hrest, ← List.append_assoc] at h
        obtain ⟨rfl, hlast⟩ := List.append_inj' h rfl
        obtain rfl := List.singleton_inj.1 hlast
        obtain ⟨next, later, heq, hnext⟩ := ih hrest
        rw [heq, ← List.append_assoc]
        exact ⟨next, later, rfl, hnext⟩

/-- The polylines of a list of moves stand when moves are appended, up to points at the end of the
last one. -/
theorem ofMoves_append {ms : List Move} {earlier : List Polyline} {last : Polyline}
    (h : ofMoves ms = earlier ++ [last]) (ns : List Move) :
    ∃ next later, ofMoves (ms ++ ns) = earlier ++ next :: later ∧ next.kind = last.kind ∧
      last.points <+: next.points := by
  cases ms with
  | nil => cases earlier <;> cases h
  | cons m ms => exact follow_append h ns

end Polyline

/-! ### The whole text -/

namespace Toolpath

/-- Carries the last feed rate of a toolpath, if it has one, on to the feed moves without a rate. -/
def carryFeed (t : Toolpath) (ms : List Move) : List Move :=
  ms.map (Move.orFeed t.feedValues.getLast?)

/-- The motion commands of a text, each by itself. -/
def motions (text : String) : List Move :=
  (bodies text.toList).filterMap Block.motion?

theorem moves_interpret (text : String) :
    (interpret text).moves = inheritFeeds none (motions text) :=
  rfl

theorem polylines_interpret (text : String) :
    (interpret text).polylines = Polyline.ofMoves (interpret text).moves :=
  rfl

theorem feedValues_interpret (text : String) :
    (interpret text).feedValues = (interpret text).moves.filterMap Move.cuttingFeed? :=
  rfl

/-- A line feed is a clean cut between the lines of two texts. -/
theorem lines_toList_append (a b : String) :
    lines (a ++ "\n" ++ b).toList = lines a.toList ++ lines b.toList := by
  have htext : (a ++ "\n" ++ b).toList = a.toList ++ '\n' :: b.toList := by simp
  rw [htext, lines_append_newline]

/-- So it is between their commands. -/
theorem motions_append (a b : String) : motions (a ++ "\n" ++ b) = motions a ++ motions b := by
  unfold motions bodies
  rw [lines_toList_append, List.filterMap_append, List.filterMap_append]

/-- The rate in effect at the end of a text is the last of its feed rates. -/
theorem feedAfter_motions (text : String) :
    feedAfter none (motions text) = (interpret text).feedValues.getLast? := by
  rw [← feedAfter_inheritFeeds]
  exact Option.or_none

theorem moves_append (a b : String) :
    (interpret (a ++ "\n" ++ b)).moves =
      (interpret a).moves ++ (interpret a).carryFeed (interpret b).moves := by
  simp only [carryFeed, moves_interpret, motions_append, inheritFeeds_append, ← feedAfter_motions,
    ← inheritFeeds_or, Option.none_or]

/-- **Interpreting a text is incremental.** When a text goes on after a line feed, its moves are
followed by those of the rest, where each feed move without a rate gets the last rate of the text
before; so are its feed values by the rates of those moves; and its polylines stand, except that the
last one may grow at its end. -/
theorem interpret_append (a b : String) :
    (interpret (a ++ "\n" ++ b)).moves =
        (interpret a).moves ++ (interpret a).carryFeed (interpret b).moves ∧
      (interpret (a ++ "\n" ++ b)).feedValues =
        (interpret a).feedValues ++
          (((interpret a).carryFeed (interpret b).moves).filter (·.kind == .feed)).filterMap
            (·.feed) ∧
      ∀ earlier last, (interpret a).polylines = earlier ++ [last] →
        ∃ next later, (interpret (a ++ "\n" ++ b)).polylines = earlier ++ next :: later ∧
          next.kind = last.kind ∧ last.points <+: next.points := by
  refine ⟨moves_append a b, ?_, fun earlier last h => ?_⟩
  · rw [feedValues_interpret, feedValues_interpret, moves_append, List.filterMap_append,
      filterMap_cuttingFeed? (carryFeed _ _)]
  · rw [polylines_interpret, moves_append]
    exact Polyline.ofMoves_append h _

/-- The first half of a text that is cut within a stretch of feed moves. -/
def firstHalf : String := "FEED X1 F300\ng01x2"

/-- The second half of that text. -/
def secondHalf : String := "G1 X3\r\nRAPID Z9"

/-- The second half goes on at the feed rate of the first one and lengthens its polyline. -/
theorem halves_interpret :
    (interpret (firstHalf ++ "\n" ++ secondHalf)).feedValues = [300, 300, 300] ∧
      ∃ next later, (interpret (firstHalf ++ "\n" ++ secondHalf)).polylines = next :: later ∧
        next.kind = .feed ∧ [⟨1, 0, 0⟩, ⟨2, 0, 0⟩] <+: next.points := by
  obtain ⟨-, hfeeds, hpolylines⟩ := interpret_append firstHalf secondHalf
  refine ⟨?_, hpolylines [] ⟨.feed, [⟨1, 0, 0⟩, ⟨2, 0, 0⟩]⟩ (by decide +kernel)⟩
  rw [hfeeds]
  decide +kernel

end Toolpath

end MachiningViewer
