import MachiningViewer.Progress.EventStream
import MachiningViewer.Proofs.Text.Utf8

/-!
# Event streams in pieces

The bytes of an event stream come in pieces, and a piece may end anywhere: within a character, a
line or an event. What is given out does not depend on that (`delivered_eq_items`): in the end it is
what the whole body gives.

An event is given out at its blank line, and everything that comes before that line is settled then,
whatever comes behind it (`messagesOf_append`). So a receiver need only keep the text from the last
blank line on, and the bytes of a character that has not come to its end.
-/

namespace MachiningViewer.Progress.EventStream

/-! ### Lines -/

/-- The lines of a text that are ended, as they are read. -/
def linesOf (cs : List Char) : List Line :=
  (endedLines [] cs).map Line.ofChars

theorem cutLine?_length {cs line rest : List Char} (h : cutLine? cs = some (line, rest)) :
    rest.length < cs.length := by
  fun_induction cutLine? cs generalizing line with
  | case1 => cases h
  | case2 => cases h
  | case3 rest' =>
    cases h
    exact Nat.lt_succ_of_lt (Nat.lt_succ_self _)
  | case4 c rest' =>
    cases h
    exact Nat.lt_succ_self _
  | case5 c rest' _ _ _ ih =>
    obtain ⟨⟨line', rest''⟩, hcut, heq⟩ := Option.map_eq_some_iff.1 h
    cases heq
    exact Nat.lt_succ_of_lt (ih hcut)

/-- The lines are cut off one by one. -/
theorem endedLines_eq (acc cs : List Char) :
    endedLines acc cs = match cutLine? cs with
      | none => []
      | some (line, rest) => (acc.reverse ++ line) :: endedLines [] rest := by
  -- The cases are those of `cutLine?`: two ends of the input, a carriage return with its line feed,
  -- a line end of one character, and a character of the line, where the accumulator takes it over.
  fun_induction cutLine? cs generalizing acc with
  | case1 => rw [endedLines]
  | case2 => rw [endedLines]
  | case3 rest =>
    rw [endedLines]
    simp
  | case4 c rest h1 h2 hend =>
    rw [endedLines.eq_4 _ _ _ h1 h2, if_pos hend]
    simp
  | case5 c rest h1 h2 hend ih =>
    rw [endedLines.eq_4 _ _ _ h1 h2, if_neg hend, ih]
    cases cutLine? rest with
    | none => rfl
    | some cut => simp

/-- A line that is ended stays so, whatever comes behind it. -/
theorem cutLine?_append {cs line rest : List Char} (h : cutLine? cs = some (line, rest))
    (more : List Char) : cutLine? (cs ++ more) = some (line, rest ++ more) := by
  fun_induction cutLine? cs generalizing line with
  | case1 => cases h
  | case2 => cases h
  | case3 rest' =>
    cases h
    rfl
  | case4 c rest' h1 h2 hend =>
    cases h
    -- A carriage return has something behind it, and that stays where it is.
    have h1' (hc : c = '\r') (hnil : rest ++ more = []) : False :=
      h1 hc (List.append_eq_nil_iff.1 hnil).1
    have h2' (r : List Char) (hc : c = '\r') (hr : rest ++ more = '\n' :: r) : False := by
      cases rest with
      | nil => exact h1 hc rfl
      | cons d ds =>
        obtain ⟨rfl, -⟩ := List.cons.inj hr
        exact h2 ds hc rfl
    rw [List.cons_append, cutLine?.eq_4 _ _ h1' h2', if_pos hend]
  | case5 c rest' h1 h2 hend ih =>
    have hc : c ≠ '\r' := fun hc => hend (.inr hc)
    obtain ⟨⟨line', rest''⟩, hcut, heq⟩ := Option.map_eq_some_iff.1 h
    cases heq
    rw [List.cons_append, cutLine?.eq_4 _ _ (fun h => absurd h hc) (fun _ h => absurd h hc),
      if_neg hend, ih hcut]
    rfl

theorem linesOf_of_none {cs : List Char} (h : cutLine? cs = none) : linesOf cs = [] := by
  rw [linesOf, endedLines_eq, h]
  rfl

theorem linesOf_of_some {cs line rest : List Char} (h : cutLine? cs = some (line, rest)) :
    linesOf cs = Line.ofChars line :: linesOf rest := by
  rw [linesOf, endedLines_eq, h]
  rfl

/-! ### Blocks -/

/-- What is read of an event is forgotten at its blank line. -/
theorem events_append_blank (d : Draft) (ls ls' : List Line) :
    events d (ls ++ .blank :: ls') = events d (ls ++ [.blank]) ++ events .empty ls' := by
  induction ls generalizing d with
  | nil => simp [events]
  | cons l ls ih =>
    cases l with
    | blank => simp only [List.cons_append, events, ih, List.append_assoc]
    | comment => simp only [List.cons_append, events, ih]
    | field name value => simp only [List.cons_append, events, ih]

/-- A block ends with the first blank line. -/
theorem cutBlock?_spec {n : Nat} {cs rest : List Char} {lines : List Line}
    (h : cutBlock? n cs = some (lines, rest)) :
    (∃ front, lines = front ++ [.blank] ∧ linesOf cs = front ++ .blank :: linesOf rest) ∧
      rest.length < cs.length ∧
      ∀ more m, n ≤ m → cutBlock? m (cs ++ more) = some (lines, rest ++ more) := by
  induction n generalizing cs lines with
  | zero => cases h
  | succ n ih =>
    rw [cutBlock?] at h
    split at h
    · cases h
    · rename_i line rest' hcut
      have hlines := linesOf_of_some hcut
      have hlength := cutLine?_length hcut
      split at h
      · rename_i hblank
        cases h
        -- The blank line ends the block. With more fuel and more text behind it the same line is
        -- cut.
        refine ⟨⟨[], rfl, by rw [hlines, hblank]; rfl⟩, hlength, fun more m hm => ?_⟩
        obtain ⟨m, rfl⟩ := Nat.exists_eq_succ_of_ne_zero (Nat.ne_zero_of_lt hm)
        rw [cutBlock?, cutLine?_append hcut more]
        simp only [hblank]
      · rename_i hnot
        obtain ⟨⟨lines', rest''⟩, hblock, heq⟩ := Option.map_eq_some_iff.1 h
        cases heq
        obtain ⟨⟨front, rfl, hfront⟩, hlength', happend⟩ := ih hblock
        -- Any other line joins the block that the rest begins with.
        refine ⟨⟨Line.ofChars line :: front, rfl, by rw [hlines, hfront]; rfl⟩,
          Nat.lt_trans hlength' hlength, fun more m hm => ?_⟩
        obtain ⟨m, rfl⟩ := Nat.exists_eq_succ_of_ne_zero (Nat.ne_zero_of_lt hm)
        rw [cutBlock?, cutLine?_append hcut more]
        simp only
        rw [happend more m (Nat.le_of_succ_le_succ hm)]
        rfl

/-- Without a blank line there is no event yet. -/
theorem events_of_cutBlock?_eq_none {n : Nat} {cs : List Char} (hn : cs.length < n)
    (h : cutBlock? n cs = none) (d : Draft) : events d (linesOf cs) = [] := by
  induction n generalizing cs d with
  | zero => omega
  | succ n ih =>
    rw [cutBlock?] at h
    split at h
    · rename_i hcut
      rw [linesOf_of_none hcut, events]
    · rename_i line rest hcut
      have hlength := cutLine?_length hcut
      rw [linesOf_of_some hcut]
      split at h
      · cases h
      · rename_i hnot
        -- A line that is not blank gives no event by itself, and the rest has no blank line either.
        have hrest := ih (by omega) (Option.map_eq_none_iff.1 h)
        cases hline : Line.ofChars line with
        | blank => exact absurd hline hnot
        | comment => rw [events, hrest]
        | field name value => rw [events, hrest]

/-! ### Messages -/

/-- The messages of a text without a byte order mark. -/
def messagesOf (cs : List Char) : List String :=
  ((eventsOf cs).filter (·.isMessage)).map (·.data)

theorem withoutMark_eq_self {cs : List Char} (h : cs.head? ≠ some '\uFEFF') :
    withoutMark cs = cs := by
  unfold withoutMark
  split
  · exact absurd rfl h
  · rfl

theorem eventsOf_eq (cs : List Char) : eventsOf cs = events .empty (linesOf cs) :=
  rfl

/-- **What has been given out is settled.** The messages of a text are those of its blocks, and
those of what is left together with all that comes behind it. -/
theorem messagesOf_append {n : Nat} {cs : List Char} (hn : cs.length < n) (more : List Char) :
    messagesOf (cs ++ more) =
      (takeMessages n cs).1 ++ messagesOf ((takeMessages n cs).2 ++ more) := by
  induction n generalizing cs with
  | zero => omega
  | succ n ih =>
    rw [takeMessages]
    split
    · rfl
    · rename_i lines rest hblock
      obtain ⟨-, hlength, happend⟩ := cutBlock?_spec hblock
      -- The same block is at the front with more behind the text, and its messages are split off.
      have hmore := happend more ((cs ++ more).length + 1) (by simp)
      obtain ⟨⟨front, rfl, hlines⟩, -⟩ := cutBlock?_spec hmore
      have hevents : eventsOf (cs ++ more) =
          events .empty (front ++ [.blank]) ++ eventsOf (rest ++ more) := by
        rw [eventsOf_eq, hlines, events_append_blank]
        rfl
      simp only
      rw [List.append_assoc, ← ih (by omega), messagesOf, hevents, List.filter_append,
        List.map_append]
      rfl

theorem cutBlock?_takeMessages {n : Nat} {cs : List Char} (hn : cs.length < n) :
    cutBlock? ((takeMessages n cs).2.length + 1) (takeMessages n cs).2 = none := by
  induction n generalizing cs with
  | zero => omega
  | succ n ih =>
    rw [takeMessages]
    split
    · assumption
    · rename_i lines rest hblock
      obtain ⟨-, hlength, -⟩ := cutBlock?_spec hblock
      exact ih (by omega)

/-- What is left has no message in it. -/
theorem messagesOf_takeMessages {n : Nat} {cs : List Char} (hn : cs.length < n) :
    messagesOf (takeMessages n cs).2 = [] := by
  have hnone := events_of_cutBlock?_eq_none (Nat.lt_succ_self _) (cutBlock?_takeMessages hn) .empty
  rw [messagesOf, eventsOf_eq, hnone]
  rfl

/-! ### Receiving -/

namespace Receiving

open Text

/-- Receives one piece after the other, and gives out the messages that they complete. -/
def receiveAll (r : Receiving) : List (List UInt8) → Receiving × List String
  | [] => (r, [])
  | bytes :: pieces =>
    let (r, messages) := r.receive bytes
    let (r, more) := r.receiveAll pieces
    (r, messages ++ more)

/-- What a stream delivers whose body comes in pieces, with its end. -/
def delivered (pieces : List (List UInt8)) (isWhole : Bool) : List Item :=
  let (r, messages) := initial.receiveAll pieces
  messages.map .message ++ r.finish isWhole

/-- What has been received holds nothing that could be given out. -/
structure Waits (r : Receiving) : Prop where
  bytes : Utf8.decodePart r.bytes = ([], r.bytes)
  text : messagesOf r.text = []

theorem waits_initial : initial.Waits where
  bytes := by rw [initial, Utf8.decodePart]
  text := rfl

/-- **One piece** is decoded behind what was left of those before, and completes the messages that
are complete in the text. -/
theorem receive_spec (r : Receiving) (bytes : List UInt8)
    (hmark : r.isFresh = true → (Utf8.decodePart (r.bytes ++ bytes)).1.head? ≠ some '\uFEFF') :
    (r.receive bytes).1.Waits ∧
      (r.receive bytes).1.bytes = (Utf8.decodePart (r.bytes ++ bytes)).2 ∧
      (r.receive bytes).1.isFresh =
        (r.isFresh && (Utf8.decodePart (r.bytes ++ bytes)).1.isEmpty) ∧
      ∀ more, messagesOf (r.text ++ (Utf8.decodePart (r.bytes ++ bytes)).1 ++ more) =
        (r.receive bytes).2 ++ messagesOf ((r.receive bytes).1.text ++ more) := by
  have hstuck := Utf8.decodePart_remainder (r.bytes ++ bytes)
  unfold receive
  generalize Utf8.decodePart (r.bytes ++ bytes) = decoded at hmark hstuck
  obtain ⟨cs, remainder⟩ := decoded
  -- The byte order mark is cut off a fresh stream only, and the hypothesis excludes it.
  have hcs : (if r.isFresh then withoutMark cs else cs) = cs := by
    split
    · rename_i hfresh
      exact withoutMark_eq_self (hmark hfresh)
    · rfl
  simp only [hcs, true_and]
  have hn : (r.text ++ cs).length < (r.text ++ cs).length + 1 := Nat.lt_succ_self _
  exact ⟨⟨hstuck, messagesOf_takeMessages hn⟩, messagesOf_append hn⟩

/-- **Piece by piece**, the messages are those of the whole text, however the bytes are cut. -/
theorem Waits.receiveAll {r : Receiving} (hr : r.Waits) (pieces : List (List UInt8))
    (hmark : r.isFresh = true →
      (Utf8.decodePart (r.bytes ++ pieces.flatten)).1.head? ≠ some '\uFEFF') :
    (r.receiveAll pieces).2 = messagesOf (r.text ++
        (Utf8.decodePart (r.bytes ++ pieces.flatten)).1) ∧
      (r.receiveAll pieces).1.bytes = (Utf8.decodePart (r.bytes ++ pieces.flatten)).2 := by
  -- Each piece is a step of the induction, which leaves a receiver that waits again.
  induction pieces generalizing r with
  | nil =>
    rw [List.flatten_nil, List.append_nil, hr.bytes, List.append_nil, hr.text]
    exact ⟨rfl, rfl⟩
  | cons bytes pieces ih =>
    have hdecode := Utf8.decodePart_append (r.bytes ++ bytes) pieces.flatten
    rw [List.append_assoc] at hdecode
    rw [List.flatten_cons, hdecode] at hmark ⊢
    have hfirst (hfresh : r.isFresh = true) :
        (Utf8.decodePart (r.bytes ++ bytes)).1.head? ≠ some '\uFEFF' := by
      intro hhead
      refine hmark hfresh ?_
      rw [List.head?_append, hhead]
      rfl
    obtain ⟨hwaits, hbytes, hfresh, htext⟩ := r.receive_spec bytes hfirst
    -- As long as no character has come, the text is still to begin with the next one.
    have hnext : (r.receive bytes).1.isFresh = true →
        (Utf8.decodePart ((r.receive bytes).1.bytes ++ pieces.flatten)).1.head? ≠
          some '\uFEFF' := by
      intro hstill
      rw [hfresh, Bool.and_eq_true, List.isEmpty_iff] at hstill
      have hhead := hmark hstill.1
      rwa [hstill.2, List.nil_append, ← hbytes] at hhead
    obtain ⟨hmessages, hleft⟩ := ih hwaits hnext
    rw [← hbytes, ← List.append_assoc, htext, ← hmessages]
    exact ⟨rfl, hleft⟩

end Receiving

/-- **However the body of a stream is cut into pieces**, the stream delivers what the whole body
gives, and then its end. -/
theorem delivered_eq_items {r : Http.Response} {pieces : List (List UInt8)}
    (hpieces : pieces.flatten = r.arrived)
    (hmark : (Text.Utf8.decodePart r.arrived).1.head? ≠ some '\uFEFF') :
    Receiving.delivered pieces r.isWhole = items r ++ [.ending] := by
  obtain ⟨hmessages, hbytes⟩ := Receiving.waits_initial.receiveAll pieces
    fun _ => by rw [hpieces]; exact hmark
  have hstart : Receiving.initial.bytes ++ pieces.flatten = r.arrived := hpieces
  rw [hstart] at hmessages hbytes
  unfold Receiving.delivered items Receiving.finish
  simp only [hmessages, hbytes, messages, withoutMark_eq_self hmark]
  simp [messagesOf, Receiving.initial]

end MachiningViewer.Progress.EventStream
