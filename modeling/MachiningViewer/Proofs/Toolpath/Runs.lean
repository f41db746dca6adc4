import MachiningViewer.Toolpath.Interpret
import Mathlib.Data.List.Chain
import Mathlib.Data.List.SplitBy

/-!
# Polylines are runs of moves

Every move of a toolpath leads to a station, a point that is reached by one kind of motion. The
points are said without following the machine: on each axis a move has led to the last value that
was given for the axis, or to the start if there was none (`Point.after`). The stations fall into
maximal runs of one kind (`Station.runs`), and the polylines of the moves are those runs that have
at least two stations, in order (`stations_ofMoves`).

So a polyline says all there is to say about its run, and of the other runs, each a single station
between two of the other kind, nothing is drawn.
-/

namespace MachiningViewer

deriving instance DecidableEq for Point
deriving instance DecidableEq for Polyline

/-- A point that a move leads to, and the kind of motion that leads there. -/
structure Station where
  kind : MoveKind
  point : Point
  deriving DecidableEq, Repr

/-- Where moves lead that start at `p`: on each axis to the last value given for it, if any. -/
def Point.after (p : Point) (ms : List Move) : Point where
  x := (ms.filterMap (·.x)).getLast?.getD p.x
  y := (ms.filterMap (·.y)).getLast?.getD p.y
  z := (ms.filterMap (·.z)).getLast?.getD p.z

/-- The stations of moves that start at `p`. -/
def Move.stations (p : Point) (ms : List Move) : List Station :=
  ms.mapIdx fun i m => ⟨m.kind, p.after (ms.take (i + 1))⟩

/-- The maximal runs of stations of one kind. -/
def Station.runs (ss : List Station) : List (List Station) :=
  ss.splitBy (·.kind == ·.kind)

/-- The stations of a toolpath's moves, in order. -/
def Toolpath.stations (t : Toolpath) : List Station :=
  Move.stations .origin t.moves

/-- The maximal runs of a toolpath's moves of one kind, each move by its station. -/
def Toolpath.runs (t : Toolpath) : List (List Station) :=
  Station.runs t.stations

/-- The stations that a polyline joins. -/
def Polyline.stations (l : Polyline) : List Station :=
  l.points.map (⟨l.kind, ·⟩)

/-! ### Following the moves -/

theorem Point.after_cons (p : Point) (m : Move) (ms : List Move) :
    p.after (m :: ms) = (m.target p).after ms := by
  have haxis (axis : Move → Option Float) (start : Float) :
      ((m :: ms).filterMap axis).getLast?.getD start =
        (ms.filterMap axis).getLast?.getD ((axis m).getD start) := by
    cases h : axis m with
    | none => rw [List.filterMap_cons_none h, Option.getD_none]
    | some v =>
      rw [List.filterMap_cons_some h, List.getLast?_cons, Option.getD_some, Option.getD_some]
  simp only [after, haxis, Move.target]

namespace Move

theorem stations_nil (p : Point) : stations p [] = [] :=
  rfl

/-- The first station is the target of the first move, and the others are seen from there. -/
theorem stations_cons (p : Point) (m : Move) (ms : List Move) :
    stations p (m :: ms) = ⟨m.kind, m.target p⟩ :: stations (m.target p) ms := by
  simp only [stations, List.mapIdx_cons, List.take_succ_cons, Point.after_cons, List.take_zero]
  rfl

theorem length_stations (p : Point) (ms : List Move) : (stations p ms).length = ms.length :=
  List.length_mapIdx

end Move

namespace Station

theorem nil_notMem_runs (ss : List Station) : [] ∉ runs ss :=
  List.nil_notMem_splitBy _ ss

theorem flatten_runs (ss : List Station) : (runs ss).flatten = ss :=
  List.flatten_splitBy _ ss

/-- Stations of one kind are one run. -/
theorem runs_stations {l : Polyline} (hl : l.points ≠ []) : runs l.stations = [l.stations] := by
  refine List.splitBy_of_isChain (by simpa [Polyline.stations] using hl) ?_
  rw [Polyline.stations, List.isChain_map]
  exact (List.pairwise_of_forall fun _ _ => beq_self_eq_true l.kind).isChain

/-- A run ends where the kind changes. -/
theorem runs_stations_append {l : Polyline} (hl : l.points ≠ []) {s : Station}
    (hs : s.kind ≠ l.kind) (ss : List Station) :
    runs (l.stations ++ s :: ss) = [l.stations] ++ runs (s :: ss) := by
  rw [runs, List.splitBy_append_cons]
  · exact congrArg (· ++ _) (runs_stations hl)
  · intro t ht
    obtain ⟨p, -, rfl⟩ := List.mem_map.1 (List.mem_of_getLast? ht)
    simpa using Ne.symm hs

/-- The stations of a run are of one kind. -/
theorem kind_eq_of_mem_runs {ss run : List Station} (hrun : run ∈ runs ss) {s t : Station}
    (hs : s ∈ run) (ht : t ∈ run) : s.kind = t.kind := by
  have hchain : (run.map (·.kind)).IsChain (· = ·) :=
    (List.isChain_map _).2 ((List.isChain_of_mem_splitBy hrun).imp fun _ _ => eq_of_beq)
  have hall : (run.map (·.kind)).Pairwise (· = ·) := hchain.pairwise
  exact hall.forall_of_forall (fun _ _ => rfl) (List.mem_map_of_mem hs) (List.mem_map_of_mem ht)

/-- **Neighbours of one kind are never separated**: they follow one another in a run. -/
theorem isChain_runs (ss : List Station) :
    ss.IsChain fun s t => s.kind = t.kind → ∃ run ∈ runs ss, [s, t] <:+: run := by
  have hchain : (runs ss).flatten.IsChain fun s t =>
      s.kind = t.kind → ∃ run ∈ runs ss, [s, t] <:+: run := by
    refine (List.isChain_flatten (nil_notMem_runs ss)).2 ⟨fun run hrun => ?_, ?_⟩
    · refine List.isChain_iff_forall_rel_of_append_cons_cons.2 fun s t before later heq _ => ?_
      exact ⟨run, hrun, before, later, by simpa using heq.symm⟩
    · -- Between two runs the kind changes, so there is nothing to show.
      refine (List.isChain_getLast_head_splitBy _ ss).imp fun run run' => ?_
      rintro ⟨_, _, hk⟩ s hs t ht heq
      rw [List.getLast_of_mem_getLast? hs, List.head_of_mem_head? ht] at hk
      exact absurd heq (beq_eq_false_iff_ne.1 hk)
  rwa [flatten_runs] at hchain

end Station

/-! ### The polylines of a list of moves -/

namespace Polyline

/-- A run is drawn if it has at least two stations. -/
theorem isDrawable_iff (l : Polyline) : l.isDrawable = decide (2 ≤ l.stations.length) := by
  rw [stations, List.length_map]
  rfl

theorem map_stations_drawable (ls : List Polyline) :
    (ls.filter isDrawable).map stations = (ls.map stations).filter (2 ≤ ·.length) := by
  rw [List.filter_map, List.filter_congr fun l _ => isDrawable_iff l]
  rfl

/-- Following the moves from a stretch in the making yields the runs of its stations and of those to
come, as far as they are drawn. -/
theorem stations_follow {kind : MoveKind} {reached : List Point} (hr : reached ≠ []) (p : Point)
    (ms : List Move) :
    (follow kind reached p ms).map stations =
      (Station.runs ((mk kind reached.reverse).stations ++ Move.stations p ms)).filter
        (2 ≤ ·.length) := by
  induction ms generalizing kind reached p with
  | nil =>
    rw [follow, map_stations_drawable, Move.stations_nil, List.append_nil,
      Station.runs_stations (List.reverse_ne_nil_iff.2 hr)]
    rfl
  | cons m ms ih =>
    rw [follow, Move.stations_cons]
    by_cases hk : m.kind = kind
    · -- The stretch grows by one station.
      rw [if_pos hk, ih (List.cons_ne_nil _ _), hk, stations, stations, List.reverse_cons,
        List.map_append, List.append_assoc]
      rfl
    · -- The stretch is a run of its own, and the next one starts.
      have hcut := Station.runs_stations_append (l := mk kind reached.reverse)
        (List.reverse_ne_nil_iff.2 hr) (s := ⟨m.kind, m.target p⟩) hk
      rw [if_neg hk, List.map_append, map_stations_drawable, ih (List.cons_ne_nil _ _), hcut,
        List.filter_append]
      rfl

/-- **Polylines are the drawn runs.** -/
theorem stations_ofMoves (ms : List Move) :
    (ofMoves ms).map stations =
      (Station.runs (Move.stations .origin ms)).filter (2 ≤ ·.length) := by
  cases ms with
  | nil => rfl
  | cons m ms =>
    rw [ofMoves, stations_follow (List.cons_ne_nil _ _), Move.stations_cons]
    rfl

/-- No polyline is shorter than two points. -/
theorem two_le_length_of_mem_ofMoves {ms : List Move} {l : Polyline} (hl : l ∈ ofMoves ms) :
    2 ≤ l.points.length := by
  have hrun : l.stations ∈ (ofMoves ms).map stations := List.mem_map_of_mem hl
  rw [stations_ofMoves] at hrun
  simpa [stations] using (List.mem_filter.1 hrun).2

/-- The drawn points are those of the drawn runs. -/
theorem points_ofMoves (ms : List Move) :
    (ofMoves ms).flatMap (·.points) =
      ((Station.runs (Move.stations .origin ms)).filter (2 ≤ ·.length)).flatten.map (·.point) := by
  rw [← stations_ofMoves]
  simp [stations, List.map_flatten, List.flatMap_def, Function.comp_def]

/-- What a drawn polyline joins is a run. -/
theorem exists_mem_ofMoves {ms : List Move} {run : List Station}
    (hrun : run ∈ Station.runs (Move.stations .origin ms)) (hlen : 2 ≤ run.length) :
    ∃ l ∈ ofMoves ms, l.stations = run := by
  have hmem : run ∈ (ofMoves ms).map stations := by
    rw [stations_ofMoves]
    exact List.mem_filter.2 ⟨hrun, decide_eq_true hlen⟩
  exact List.mem_map.1 hmem

/-- Neighbours of one kind follow one another in a polyline. -/
theorem isChain_ofMoves (ms : List Move) :
    (Move.stations .origin ms).IsChain fun s t =>
      s.kind = t.kind → ∃ l ∈ ofMoves ms, [s, t] <:+: l.stations := by
  refine (Station.isChain_runs _).imp fun s t hst hk => ?_
  obtain ⟨run, hrun, hinfix⟩ := hst hk
  obtain ⟨l, hl, rfl⟩ := exists_mem_ofMoves hrun hinfix.length_le
  exact ⟨l, hl, hinfix⟩

/-- The members of nonempty lists are those of the lists with two or more, and one for each of the
others. -/
theorem length_flatten_eq {α : Type} {runs : List (List α)} (hn : [] ∉ runs) :
    runs.flatten.length =
      (runs.filter (2 ≤ ·.length)).flatten.length + runs.countP (·.length = 1) := by
  induction runs with
  | nil => rfl
  | cons run runs ih =>
    have hrun : run.length ≠ 0 := fun h => hn (by rw [List.eq_nil_of_length_eq_zero h]; simp)
    have hruns := ih fun h => hn (List.mem_cons_of_mem _ h)
    rw [List.flatten_cons, List.length_append, hruns, List.filter_cons, List.countP_cons]
    by_cases h : 2 ≤ run.length
    · simp [h, show run.length ≠ 1 by omega]
      omega
    · simp [show run.length = 1 by omega]
      omega

/-- Every move is a point of a polyline or alone in its run. -/
theorem length_eq_points (ms : List Move) :
    ms.length = ((ofMoves ms).flatMap (·.points)).length +
      (Station.runs (Move.stations .origin ms)).countP (·.length = 1) := by
  rw [points_ofMoves, List.length_map, ← length_flatten_eq (Station.nil_notMem_runs _),
    Station.flatten_runs, Move.length_stations]

end Polyline

namespace Toolpath

/-- **Polylines are exactly the runs worth drawing.** In every text, the polylines join, in order,
the stations of those maximal runs of moves of one kind that have at least two moves. The runs make
up all the moves, none of them mixes the kinds, neighbouring moves of one kind follow one another in
a polyline, and every move is either a point of a polyline or alone in its run. -/
theorem polylines_are_runs (text : String) :
    (interpret text).polylines.map Polyline.stations =
        (interpret text).runs.filter (2 ≤ ·.length) ∧
      (interpret text).runs.flatten = (interpret text).stations ∧
      (∀ run ∈ (interpret text).runs, ∀ s ∈ run, ∀ s' ∈ run, s.kind = s'.kind) ∧
      ((interpret text).stations.IsChain fun s s' =>
        s.kind = s'.kind → ∃ l ∈ (interpret text).polylines, [s, s'] <:+: l.stations) ∧
      (interpret text).moves.length =
        (interpret text).points.length + (interpret text).runs.countP (·.length = 1) := by
  refine ⟨Polyline.stations_ofMoves (interpret text).moves, Station.flatten_runs _, ?_,
    Polyline.isChain_ofMoves (interpret text).moves,
    Polyline.length_eq_points (interpret text).moves⟩
  intro run hrun s hs s' hs'
  exact Station.kind_eq_of_mem_runs hrun hs hs'

/-- Two rapid moves that stand alone around a cut. -/
def loneRapids : String := "g0z5\nFEED X1\nG01 X 2 F9\nG000\nG00 X0"

/-- The cut is drawn, at the height that the rapid move before it has left. -/
theorem loneRapids_polylines :
    (interpret loneRapids).polylines.map Polyline.stations =
        [[⟨.feed, ⟨1, 0, 5⟩⟩, ⟨.feed, ⟨2, 0, 5⟩⟩]] ∧
      (interpret loneRapids).moves.length = (interpret loneRapids).points.length + 2 := by
  obtain ⟨hpolylines, -, -, -, hlength⟩ := polylines_are_runs loneRapids
  rw [hpolylines, hlength]
  exact ⟨by decide +kernel, by decide +kernel⟩

end Toolpath

end MachiningViewer
