import MachiningViewer.Proofs.Number.Doubles
import MachiningViewer.Proofs.Toolpath.Feeds
import MachiningViewer.Proofs.Toolpath.Runs
import MachiningViewer.Toolpath.Extent

/-!
# What a machine reaches

A machine reaches the box around some points if and only if it reaches every one of the points
(`contains_foldl_grow_iff`). This is said of any doubles: a NaN gives way to the numbers on its
axis, and where there are only NaNs the machine does not reach the box.

The coordinates of a toolpath are numbers, so there the check is one of every drawn point, which are
the targets of the moves in the drawn runs (`mem_points_iff`). A move that stands alone between
moves of the other kind is not drawn and has no part in the box, so it may lead anywhere.

`Toolpath.box_check_pointwise` puts the two together, for any points and for those of a text.
-/

namespace MachiningViewer

/-! ### The least and the greatest of some doubles -/

/-- Of two doubles one is picked. A NaN gives way to the other one, and of two numbers the picked
one has the property if and only if both have. Only numbers have it. -/
structure Picks (pick : Float → Float → Float) (P : Float → Prop) : Prop where
  isNaN_of : ∀ a, P a → a.isNaN = false
  eq_or_eq : ∀ a b, pick a b = a ∨ pick a b = b
  eq_right : ∀ a b, a.isNaN = true → pick a b = b
  eq_left : ∀ a b, a.isNaN = false → b.isNaN = true → pick a b = a
  iff_and : ∀ a b, a.isNaN = false → b.isNaN = false → (P (pick a b) ↔ P a ∧ P b)

namespace Picks

variable {pick : Float → Float → Float} {P : Float → Prop}

theorem isNaN_eq (h : Picks pick P) (a b : Float) : (pick a b).isNaN = (a.isNaN && b.isNaN) := by
  cases ha : a.isNaN with
  | true => rw [h.eq_right a b ha, Bool.true_and]
  | false =>
    rw [Bool.false_and]
    cases hb : b.isNaN with
    | true => rw [h.eq_left a b ha hb, ha]
    | false =>
      obtain heq | heq := h.eq_or_eq a b
      · rw [heq, ha]
      · rw [heq, hb]

/-- What is picked has the property, if it is a number, as far as the two are numbers. -/
theorem number_iff (h : Picks pick P) (a b : Float) :
    ((pick a b).isNaN = false → P (pick a b)) ↔
      (a.isNaN = false → P a) ∧ (b.isNaN = false → P b) := by
  -- A side that is no number is passed over, so the pick is then the other side itself.
  cases ha : a.isNaN with
  | true =>
    rw [h.eq_right a b ha]
    exact ⟨fun hb => ⟨fun hfalse => Bool.noConfusion hfalse, hb⟩, And.right⟩
  | false =>
    cases hb : b.isNaN with
    | true =>
      rw [h.eq_left a b ha hb, ha]
      exact ⟨fun ha => ⟨ha, fun hfalse => Bool.noConfusion hfalse⟩, And.left⟩
    | false =>
      rw [h.isNaN_eq, ha, hb, h.iff_and a b ha hb]
      exact ⟨fun hab => ⟨fun _ => (hab rfl).1, fun _ => (hab rfl).2⟩,
        fun hab _ => ⟨hab.1 rfl, hab.2 rfl⟩⟩

/-- What is picked from many doubles has the property if and only if there is a number among them
and all the numbers have it. -/
theorem foldl_iff (h : Picks pick P) (c : Float) (cs : List Float) :
    P (cs.foldl pick c) ↔
      (∃ x ∈ c :: cs, x.isNaN = false) ∧ ∀ x ∈ c :: cs, x.isNaN = false → P x := by
  induction cs generalizing c with
  | nil =>
    simp only [List.foldl_nil, List.mem_singleton, exists_eq_left, forall_eq]
    exact ⟨fun hc => ⟨h.isNaN_of c hc, fun _ => hc⟩, fun hc => hc.2 hc.1⟩
  | cons d cs ih =>
    -- The first two doubles make way for the one that is picked, which says as much as both.
    rw [List.foldl_cons, ih]
    simp only [List.exists_mem_cons_iff, List.forall_mem_cons, h.number_iff, and_assoc]
    simp only [h.isNaN_eq, Bool.and_eq_false_iff, or_assoc]

/-- It is enough to look at two numbers, where one is picked for standing before the other. -/
theorem of_ite {before : Float → Float → Prop} [∀ a b, Decidable (before a b)]
    (hpick : ∀ a b, pick a b =
      if a.isNaN then b else if b.isNaN then a else if before b a then b else a)
    (hnumber : ∀ a, P a → a.isNaN = false)
    (hbefore : ∀ a b, before b a → P b → P a)
    (hnot : ∀ a b, a.isNaN = false → b.isNaN = false → ¬ before b a → P a → P b) :
    Picks pick P where
  isNaN_of := hnumber
  eq_or_eq a b := by
    rw [hpick]
    split
    · exact .inr rfl
    split
    · exact .inl rfl
    split
    · exact .inr rfl
    · exact .inl rfl
  eq_right a b ha := (hpick a b).trans (if_pos ha)
  eq_left a b ha hb := by rw [hpick, ha, hb, if_neg Bool.false_ne_true, if_pos rfl]
  iff_and a b ha hb := by
    rw [hpick, ha, hb, if_neg Bool.false_ne_true, if_neg Bool.false_ne_true]
    -- The number picked is the one for which the property says more: it then holds of the other.
    by_cases h : before b a
    · rw [if_pos h]
      exact ⟨fun hP => ⟨hbefore a b h hP, hP⟩, And.right⟩
    · rw [if_neg h]
      exact ⟨fun hP => ⟨hP, hnot a b ha hb h hP⟩, And.left⟩

end Picks

theorem picks_smaller (t : Float) : Picks smaller (t ≤ ·) := by
  refine .of_ite (fun _ _ => rfl) ?_ ?_ ?_
  · intro a ht
    exact (Double.le_iff.1 ht).2.1
  · intro a b hlt ht
    exact Double.le_trans ht (Double.le_of_lt hlt)
  · intro a b ha hb hnot ht
    exact Double.le_trans ht ((Double.not_lt_iff hb ha).1 hnot)

theorem picks_larger (t : Float) : Picks larger (· ≤ t) := by
  refine .of_ite (fun _ _ => rfl) ?_ ?_ ?_
  · intro a ht
    exact (Double.le_iff.1 ht).1
  · intro a b hlt ht
    exact Double.le_trans (Double.le_of_lt hlt) ht
  · intro a b ha hb hnot ht
    exact Double.le_trans ((Double.not_lt_iff ha hb).1 hnot) ht

/-! ### Boxes -/

/-- The coordinate is in the range of travel. -/
def Travel.Reaches (t : Travel) (c : Float) : Prop :=
  t.lower ≤ c ∧ c ≤ t.upper

/-- There is a number among the coordinates, and the numbers are in the range of travel. -/
def Travel.ReachesNumbers (t : Travel) (cs : List Float) : Prop :=
  (∃ c ∈ cs, c.isNaN = false) ∧ ∀ c ∈ cs, c.isNaN = false → t.Reaches c

/-- The machine reaches the point on all of its axes. -/
def MachineBounds.Reaches (b : MachineBounds) (p : Point) : Prop :=
  b.x.Reaches p.x ∧ b.y.Reaches p.y ∧ b.z.Reaches p.z

instance (t : Travel) (c : Float) : Decidable (t.Reaches c) :=
  inferInstanceAs (Decidable (_ ∧ _))

instance (t : Travel) (cs : List Float) : Decidable (t.ReachesNumbers cs) :=
  inferInstanceAs (Decidable (_ ∧ _))

instance (b : MachineBounds) (p : Point) : Decidable (b.Reaches p) :=
  inferInstanceAs (Decidable (_ ∧ _))

/-- Covering the least and the greatest of some coordinates is reaching the numbers among them. -/
theorem Travel.covers_foldl_iff (t : Travel) (c : Float) (cs : List Float) :
    t.covers (cs.foldl smaller c) (cs.foldl larger c) = true ↔ t.ReachesNumbers (c :: cs) := by
  have hlow := (picks_smaller t.lower).foldl_iff c cs
  have hhigh := (picks_larger t.upper).foldl_iff c cs
  rw [covers, Bool.and_eq_true, decide_eq_true_iff, decide_eq_true_iff, ge_iff_le, hlow, hhigh]
  constructor
  · rintro ⟨⟨hnumber, hlower⟩, -, hupper⟩
    exact ⟨hnumber, fun x hx hn => ⟨hlower x hx hn, hupper x hx hn⟩⟩
  · rintro ⟨hnumber, hreaches⟩
    exact ⟨⟨hnumber, fun x hx hn => (hreaches x hx hn).1⟩, hnumber,
      fun x hx hn => (hreaches x hx hn).2⟩

/-- A box grows on each axis by itself. -/
theorem Extent.foldl_grow (e : Extent) (ps : List Point) :
    ps.foldl grow e =
      { min := ⟨(ps.map (·.x)).foldl smaller e.min.x, (ps.map (·.y)).foldl smaller e.min.y,
          (ps.map (·.z)).foldl smaller e.min.z⟩
        max := ⟨(ps.map (·.x)).foldl larger e.max.x, (ps.map (·.y)).foldl larger e.max.y,
          (ps.map (·.z)).foldl larger e.max.z⟩ } := by
  induction ps generalizing e with
  | nil => rfl
  | cons p ps ih => exact ih (e.grow p)

/-- **The check of a box is one of the points in it**, as far as their coordinates are numbers. -/
theorem MachineBounds.contains_foldl_grow_iff (b : MachineBounds) (p : Point) (ps : List Point) :
    b.contains (ps.foldl Extent.grow (.ofPoint p)) = true ↔
      b.x.ReachesNumbers ((p :: ps).map (·.x)) ∧ b.y.ReachesNumbers ((p :: ps).map (·.y)) ∧
        b.z.ReachesNumbers ((p :: ps).map (·.z)) := by
  rw [Extent.foldl_grow, contains, Bool.and_eq_true, Bool.and_eq_true, and_assoc]
  simp only [List.map_cons, ← Travel.covers_foldl_iff]
  rfl

/-! ### Coordinates that are numbers -/

/-- The coordinates of the point are numbers. -/
structure Point.IsNumeric (p : Point) : Prop where
  x : p.x.isNaN = false
  y : p.y.isNaN = false
  z : p.z.isNaN = false

theorem Travel.reachesNumbers_map_iff (t : Travel) {axis : Point → Float} {p : Point}
    {ps : List Point} (hnumbers : ∀ q ∈ p :: ps, (axis q).isNaN = false) :
    t.ReachesNumbers ((p :: ps).map axis) ↔ ∀ q ∈ p :: ps, t.Reaches (axis q) := by
  constructor
  · rintro ⟨-, hreaches⟩ q hq
    exact hreaches (axis q) (List.mem_map_of_mem hq) (hnumbers q hq)
  · intro hreaches
    have hp : p ∈ p :: ps := List.mem_cons_self
    refine ⟨⟨axis p, List.mem_map_of_mem hp, hnumbers p hp⟩, fun c hc _ => ?_⟩
    obtain ⟨q, hq, rfl⟩ := List.mem_map.1 hc
    exact hreaches q hq

/-- **Where all coordinates are numbers, the check of the box is one of every point.** -/
theorem MachineBounds.contains_iff (b : MachineBounds) {ps : List Point}
    (hps : ∀ p ∈ ps, p.IsNumeric) {box : Extent} (hbox : Extent.ofPoints? ps = some box) :
    b.contains box = true ↔ ∀ p ∈ ps, b.Reaches p := by
  cases ps with
  | nil => cases hbox
  | cons p ps =>
    obtain rfl := Option.some.inj hbox
    rw [contains_foldl_grow_iff, Travel.reachesNumbers_map_iff b.x fun q hq => (hps q hq).x,
      Travel.reachesNumbers_map_iff b.y fun q hq => (hps q hq).y,
      Travel.reachesNumbers_map_iff b.z fun q hq => (hps q hq).z]
    exact ⟨fun h q hq => ⟨h.1 q hq, h.2.1 q hq, h.2.2 q hq⟩,
      fun h => ⟨fun q hq => (h q hq).1, fun q hq => (h q hq).2.1, fun q hq => (h q hq).2.2⟩⟩

/-- The coordinates that the move gives are numbers. -/
structure Move.IsNumeric (m : Move) : Prop where
  x : ∀ v ∈ m.x, v.isNaN = false
  y : ∀ v ∈ m.y, v.isNaN = false
  z : ∀ v ∈ m.z, v.isNaN = false

theorem Point.isNumeric_origin : origin.IsNumeric := by
  constructor <;> decide

/-- Moves that give numbers lead from numbers to numbers. -/
theorem Point.IsNumeric.after {p : Point} (hp : p.IsNumeric) {ms : List Move}
    (hms : ∀ m ∈ ms, m.IsNumeric) : (p.after ms).IsNumeric := by
  have haxis (axis : Move → Option Float) {start : Float} (hstart : start.isNaN = false)
      (hnumber : ∀ m ∈ ms, ∀ v ∈ axis m, v.isNaN = false) :
      ((ms.filterMap axis).getLast?.getD start).isNaN = false := by
    -- The coordinate is the one at the start, or the last that a move has given.
    cases hlast : (ms.filterMap axis).getLast? with
    | none => exact hstart
    | some v =>
      obtain ⟨m, hm, hv⟩ := List.mem_filterMap.1 (List.mem_of_getLast? hlast)
      exact hnumber m hm v hv
  exact ⟨haxis _ hp.x fun m hm => (hms m hm).x, haxis _ hp.y fun m hm => (hms m hm).y,
    haxis _ hp.z fun m hm => (hms m hm).z⟩

theorem Move.IsNumeric.orFeed {m : Move} (h : m.IsNumeric) (modal : Option Float) :
    (m.orFeed modal).IsNumeric := by
  unfold Move.orFeed
  split
  · exact ⟨h.x, h.y, h.z⟩
  · exact h

/-- The value of a word is a number. -/
theorem Word.isNaN_of_mem_scan {cs : List Char} {w : Word} (hw : w ∈ scan cs) :
    w.value.isNaN = false := by
  fun_induction scan cs with
  | case1 => cases hw
  | case2 c cs hc n rest hnumeral hlt ih =>
    -- A word is found here, or later behind its numeral.
    obtain hw | hw := List.mem_append.1 hw
    · obtain ⟨v, hv, rfl⟩ := Option.map_eq_some_iff.1 (Option.mem_toList.1 hw)
      exact Double.isNaN_of_value? hv
    · exact ih hw
  | case3 c cs hc hnumeral ih => exact ih hw
  | case4 c cs hc ih => exact ih hw

theorem Block.isNumeric_of_motion? {body : List Char} {m : Move} (h : motion? body = some m) :
    m.IsNumeric := by
  obtain ⟨⟨kind, rest⟩, -, rfl⟩ := Option.map_eq_some_iff.1 h
  have hfirst (address : Char) :
      ∀ v ∈ firstValue? address (Word.scan rest), v.isNaN = false := by
    intro v hv
    obtain ⟨w, hw, rfl⟩ := Option.map_eq_some_iff.1 hv
    exact Word.isNaN_of_mem_scan (List.mem_of_find?_eq_some hw)
  exact ⟨hfirst 'X', hfirst 'Y', hfirst 'Z'⟩

namespace Toolpath

/-- **A toolpath leads to numbers.** -/
theorem isNumeric_of_mem_stations {text : String} {s : Station}
    (hs : s ∈ (interpret text).stations) : s.point.IsNumeric := by
  -- Inheriting a feed rate leaves the coordinates of a move as they are.
  have hmoves : ∀ m ∈ (interpret text).moves, m.IsNumeric := by
    intro m hm
    change m ∈ inheritFeeds none ((bodies text.toList).filterMap Block.motion?) at hm
    rw [inheritFeeds_eq_mapIdx] at hm
    obtain ⟨i, hi, rfl⟩ := List.mem_mapIdx.1 hm
    obtain ⟨body, -, hbody⟩ := List.mem_filterMap.1 (List.getElem_mem hi)
    exact (Block.isNumeric_of_motion? hbody).orFeed _
  obtain ⟨i, hi, rfl⟩ := List.mem_mapIdx.1 hs
  exact Point.isNumeric_origin.after fun m hm => hmoves m (List.mem_of_mem_take hm)

/-! ### The check of a toolpath -/

/-- What is drawn are the runs of at least two moves. -/
theorem mem_points_iff {text : String} {p : Point} :
    p ∈ (interpret text).points ↔
      ∃ run ∈ (interpret text).runs, 2 ≤ run.length ∧ ∃ s ∈ run, s.point = p := by
  have hpoints : (interpret text).points = _ := Polyline.points_ofMoves (interpret text).moves
  rw [hpoints, List.mem_map]
  constructor
  · rintro ⟨s, hs, rfl⟩
    obtain ⟨run, hrun, hmem⟩ := List.mem_flatten.1 hs
    obtain ⟨hrun, hlen⟩ := List.mem_filter.1 hrun
    exact ⟨run, hrun, of_decide_eq_true hlen, s, hmem, rfl⟩
  · rintro ⟨run, hrun, hlen, s, hs, rfl⟩
    exact ⟨s, List.mem_flatten.2 ⟨run, List.mem_filter.2 ⟨hrun, decide_eq_true hlen⟩, hs⟩, rfl⟩

/-- The points that are drawn have numbers for coordinates. -/
theorem isNumeric_of_mem_points {text : String} {p : Point} (hp : p ∈ (interpret text).points) :
    p.IsNumeric := by
  obtain ⟨run, hrun, -, s, hs, rfl⟩ := mem_points_iff.1 hp
  have hstation : s ∈ (Station.runs (interpret text).stations).flatten :=
    List.mem_flatten_of_mem hrun hs
  rw [Station.flatten_runs] at hstation
  exact isNumeric_of_mem_stations hstation

/-- Where there is a polyline there is a box. -/
theorem exists_extent {text : String} (h : (interpret text).polylines ≠ []) :
    ∃ box, (interpret text).extent? = some box := by
  obtain ⟨l, hl⟩ := List.exists_mem_of_ne_nil _ h
  have hlen : 2 ≤ l.points.length := Polyline.two_le_length_of_mem_ofMoves hl
  obtain ⟨p, hp⟩ := List.exists_mem_of_length_pos (Nat.zero_lt_of_lt hlen)
  have hmem : p ∈ (interpret text).points := List.mem_flatMap.2 ⟨l, hl, hp⟩
  unfold extent?
  cases hpoints : (interpret text).points with
  | nil => rw [hpoints] at hmem; cases hmem
  | cons q qs => exact ⟨_, rfl⟩

/-- The check of the box, if there is one, is one of every drawn point. -/
theorem contains_extent?_iff {text : String} {b : MachineBounds} :
    (∀ box ∈ (interpret text).extent?, b.contains box = true) ↔
      ∀ p ∈ (interpret text).points, b.Reaches p := by
  unfold extent?
  cases hbox : Extent.ofPoints? (interpret text).points with
  | none =>
    have hnone : (interpret text).points = [] := by
      cases hpoints : (interpret text).points with
      | nil => rfl
      | cons p ps => rw [hpoints] at hbox; cases hbox
    rw [hnone]
    simp
  | some box =>
    rw [← b.contains_iff (fun p hp => isNumeric_of_mem_points hp) hbox]
    simp

/-- **The check covers the runs that are drawn.** In every text with a polyline, the machine reaches
the box if and only if it reaches the target of every move that belongs to a run of at least two
moves of one kind. -/
theorem contains_extent_iff (text : String) (b : MachineBounds)
    (h : (interpret text).polylines ≠ []) :
    ∃ box ∈ (interpret text).extent?, (b.contains box = true ↔
      ∀ run ∈ (interpret text).runs, 2 ≤ run.length → ∀ s ∈ run, b.Reaches s.point) := by
  obtain ⟨box, hbox⟩ := exists_extent h
  refine ⟨box, hbox, ?_⟩
  rw [b.contains_iff (fun p hp => isNumeric_of_mem_points hp) hbox]
  constructor
  · intro hreaches run hrun hlen s hs
    exact hreaches s.point (mem_points_iff.2 ⟨run, hrun, hlen, s, hs, rfl⟩)
  · intro hreaches p hp
    obtain ⟨run, hrun, hlen, s, hs, rfl⟩ := mem_points_iff.1 hp
    exact hreaches run hrun hlen s hs

/-- A rapid move by itself, far away, and a cut. -/
def detour : String := "G0 X1000\nG1 X0\nG1 X1"

/-- The box is within the standard bounds, so the cut is. -/
theorem detour_runs_reached :
    (interpret detour).polylines ≠ [] ∧
      ∀ run ∈ (interpret detour).runs, 2 ≤ run.length → ∀ s ∈ run,
        MachineBounds.standard.Reaches s.point := by
  have hdrawn : (interpret detour).polylines ≠ [] := by decide +kernel
  have hcontained : ∀ box ∈ (interpret detour).extent?,
      MachineBounds.standard.contains box = true := by decide +kernel
  obtain ⟨box, hbox, hiff⟩ := contains_extent_iff detour .standard hdrawn
  exact ⟨hdrawn, hiff.1 (hcontained box hbox)⟩

/-- Yet the machine does not reach the target of the rapid move. -/
theorem detour_outside :
    (interpret detour).polylines ≠ [] ∧
      (∃ box ∈ (interpret detour).extent?, MachineBounds.standard.contains box = true) ∧
      ∃ s ∈ (interpret detour).stations, ¬ MachineBounds.standard.Reaches s.point :=
  ⟨by decide +kernel, by decide +kernel, by decide +kernel⟩

/-- The characters of a text with a coordinate that is too large for a finite double. -/
def farAwayChars : List Char :=
  ['G', '1', 'X', '9'] ++ List.replicate 309 '0' ++ ['\n', 'G', '1', 'X', '1']

/-- The text itself. -/
def farAway : String := .ofList farAwayChars

theorem exists_isInf_farAway :
    ∃ l ∈ (interpret farAway).polylines, ∃ p ∈ l.points,
      p.x.isInf = true ∧ ¬ MachineBounds.standard.Reaches p := by
  have hchars : farAway.toList = farAwayChars := String.toList_ofList
  rw [interpret, hchars]
  decide +kernel

/-- **The check of the box is one of every point.** Around any points there is a box, and the
machine reaches it if and only if, on each axis, some coordinate is a number and the numbers are in
the range of travel. The points of a text's polylines are numbers on every axis, which may be
infinite, so there the machine reaches the box if and only if it reaches every point. -/
theorem box_check_pointwise :
    (∀ (b : MachineBounds) (ps : List Point), ps ≠ [] →
        ∃ box ∈ Extent.ofPoints? ps, (b.contains box = true ↔
          b.x.ReachesNumbers (ps.map (·.x)) ∧ b.y.ReachesNumbers (ps.map (·.y)) ∧
            b.z.ReachesNumbers (ps.map (·.z)))) ∧
      (∀ text, ∀ l ∈ (interpret text).polylines, ∀ p ∈ l.points, p.IsNumeric) ∧
      (∃ text, ∃ l ∈ (interpret text).polylines, ∃ p ∈ l.points, p.x.isInf = true) ∧
      ∀ text, ((interpret text).polylines ≠ [] → ∃ box, (interpret text).extent? = some box) ∧
        ∀ b : MachineBounds, (∀ box ∈ (interpret text).extent?, b.contains box = true) ↔
          ∀ l ∈ (interpret text).polylines, ∀ p ∈ l.points, b.Reaches p := by
  refine ⟨?_, ?_, ?_, fun text => ⟨exists_extent, fun b => ?_⟩⟩
  · intro b ps hps
    obtain ⟨p, ps, rfl⟩ := List.exists_cons_of_ne_nil hps
    exact ⟨_, rfl, b.contains_foldl_grow_iff p ps⟩
  · intro text l hl p hp
    exact isNumeric_of_mem_points (List.mem_flatMap.2 ⟨l, hl, hp⟩)
  · obtain ⟨l, hl, p, hp, hinf, -⟩ := exists_isInf_farAway
    exact ⟨farAway, l, hl, p, hp, hinf⟩
  · rw [contains_extent?_iff]
    simp only [points, List.mem_flatMap]
    exact ⟨fun h l hl p hp => h p ⟨l, hl, hp⟩, fun h p ⟨l, hl, hp⟩ => h l hl p hp⟩

/-- Points that are each without a number on some axis. -/
def patchy : List Point := [⟨0.0 / 0.0, 1.0, 2.0⟩, ⟨3.0, 0.0 / 0.0, 4.0⟩, ⟨5.0, 6.0, 0.0 / 0.0⟩]

/-- The numbers of these points are in the standard range, and the number that is too large is not.
-/
theorem patchy_contained :
    (∃ box ∈ Extent.ofPoints? patchy, MachineBounds.standard.contains box = true) ∧
      ¬ ∀ box ∈ (interpret farAway).extent?, MachineBounds.standard.contains box = true := by
  obtain ⟨hpoints, -, -, htext⟩ := box_check_pointwise
  obtain ⟨box, hbox, hiff⟩ := hpoints .standard patchy (by decide)
  obtain ⟨l, hl, p, hp, -, hnot⟩ := exists_isInf_farAway
  exact ⟨⟨box, hbox, hiff.2 (by decide)⟩,
    fun h => hnot (((htext farAway).2 .standard).1 h l hl p hp)⟩

end Toolpath

end MachiningViewer
