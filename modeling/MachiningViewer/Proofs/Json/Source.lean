import MachiningViewer.Json.Record
import MachiningViewer.Proofs.Json.Literal
import MachiningViewer.Proofs.Json.Numeral
import Mathlib.Data.List.DropRight

/-!
# Well-formed JSON texts

A `Source` is a JSON text that keeps to the grammar, with all that a text has and its tree has not:
the spelling of strings and numbers, and the blanks. Every source is read as its own tree
(`read_source`), and a text that is read without a break is one of a source (`exists_source`). So a
law over all well-formed texts is one over all sources.
-/

namespace MachiningViewer.Json

open Text

theorem bind_eq_ok {α β : Type} {x : Except Fault α} {f : α → Except Fault β} {b : β} :
    x >>= f = .ok b ↔ ∃ a, x = .ok a ∧ f a = .ok b := by
  cases x <;> simp [bind, Except.bind]

/-- White space between the parts of a text. -/
structure Blanks where
  chars : List Char
  all_spaces : ∀ c ∈ chars, isSpace c

/-- No white space. -/
def Blanks.none : Blanks :=
  ⟨[], by simp⟩

@[simp]
theorem Blanks.chars_none : none.chars = [] :=
  rfl

/-- The name of a member as it is spelled, with the blanks in front of it and behind it. -/
structure Key where
  before : Blanks
  literal : Literal
  after : Blanks

/-- The spelling of a name that is written. -/
def Key.ofString (name : String) : Key :=
  ⟨.none, .ofString name, .none⟩

/-- A JSON text that keeps to the grammar. -/
inductive Source where
  | null
  | boolean (b : Bool)
  | number (n : Numeral)
  | string (l : Literal)
  | array (blanks : Blanks) (items : List Source)
  | object (blanks : Blanks) (members : List (Key × Source))
  | spaced (before : Blanks) (inner : Source) (after : Blanks)

/-- The text of a key, with its colon. -/
def Key.text (k : Key) : List Char :=
  k.before.chars ++ '"' :: (k.literal.text ++ '"' :: (k.after.chars ++ [':']))

mutual

/-- How the source is spelled. -/
def Source.text : Source → List Char
  | .null => "null".toList
  | .boolean b => if b then "true".toList else "false".toList
  | .number n => n.text
  | .string l => '"' :: (l.text ++ ['"'])
  | .array blanks items => '[' :: (blanks.chars ++ (itemsText items ++ [']']))
  | .object blanks members => '\x7b' :: (blanks.chars ++ (membersText members ++ ['\x7d']))
  | .spaced before inner after => before.chars ++ (inner.text ++ after.chars)

/-- The items of an array with commas between them. -/
def itemsText : List Source → List Char
  | [] => []
  | [s] => s.text
  | s :: ss => s.text ++ ',' :: itemsText ss

/-- The members of an object with commas between them. -/
def membersText : List (Key × Source) → List Char
  | [] => []
  | [(k, s)] => k.text ++ s.text
  | (k, s) :: ms => k.text ++ (s.text ++ ',' :: membersText ms)

end

mutual

/-- The tree that the source is read as. -/
def Source.tree : Source → Tree
  | .null => .null
  | .boolean b => .boolean b
  | .number n => .number n.value
  | .string l => .string l.value
  | .array _ items => .array (itemTrees items) true
  | .object _ members => .object (memberTrees members) true
  | .spaced _ inner _ => inner.tree

/-- The trees of the items of an array. -/
def itemTrees : List Source → List Tree
  | [] => []
  | s :: ss => s.tree :: itemTrees ss

/-- The names and trees of the members of an object. -/
def memberTrees : List (Key × Source) → List (Except Fault String × Tree)
  | [] => []
  | (k, s) :: ms => (k.literal.value, s.tree) :: memberTrees ms

end

theorem itemTrees_cons (s : Source) (ss : List Source) :
    itemTrees (s :: ss) = s.tree :: itemTrees ss := by
  rw [itemTrees]

theorem memberTrees_cons (k : Key) (s : Source) (ms : List (Key × Source)) :
    memberTrees ((k, s) :: ms) = (k.literal.value, s.tree) :: memberTrees ms := by
  rw [memberTrees]

theorem memberTrees_eq_map (ms : List (Key × Source)) :
    memberTrees ms = ms.map fun m => (m.1.literal.value, m.2.tree) := by
  induction ms with
  | nil => rw [memberTrees, List.map_nil]
  | cons m ms ih => rw [memberTrees, List.map_cons, ih]

theorem itemsText_singleton (s : Source) : itemsText [s] = s.text := by
  rw [itemsText]

theorem itemsText_cons_cons (s s' : Source) (ss : List Source) :
    itemsText (s :: s' :: ss) = s.text ++ ',' :: itemsText (s' :: ss) := by
  rw [itemsText]
  simp

theorem membersText_singleton (k : Key) (s : Source) :
    membersText [(k, s)] = k.text ++ s.text := by
  rw [membersText]

theorem membersText_cons_cons (k : Key) (s : Source) (m : Key × Source)
    (ms : List (Key × Source)) :
    membersText ((k, s) :: m :: ms) = k.text ++ (s.text ++ ',' :: membersText (m :: ms)) := by
  rw [membersText]
  simp

/-! ### Blanks -/

theorem skipSpace_append (b : Blanks) (cs : List Char) :
    skipSpace (b.chars ++ cs) = skipSpace cs :=
  List.dropWhile_append_of_pos b.all_spaces

theorem skipSpace_cons {c : Char} (h : isSpace c = false) (cs : List Char) :
    skipSpace (c :: cs) = c :: cs := by
  simp [skipSpace, h]

theorem skipSpace_skipSpace (cs : List Char) : skipSpace (skipSpace cs) = skipSpace cs :=
  List.dropWhile_idempotent isSpace cs

/-- The blanks at the front of a text. -/
theorem exists_blanks (cs : List Char) : ∃ b : Blanks, cs = b.chars ++ skipSpace cs :=
  ⟨⟨cs.takeWhile isSpace, fun _ hc => List.mem_takeWhile_imp hc⟩,
    List.takeWhile_append_dropWhile.symm⟩

theorem endsNumber_append (b : Blanks) {rest : List Char} (h : EndsNumber rest) :
    EndsNumber (b.chars ++ rest) := by
  obtain ⟨chars, hspaces⟩ := b
  cases chars with
  | nil => exact h
  | cons c cs =>
    rintro _ ⟨⟩
    have hc : isSpace c = true := hspaces c List.mem_cons_self
    have hcases : ((c = ' ' ∨ c = '\n') ∨ c = '\t') ∨ c = '\r' := by simpa [isSpace] using hc
    -- None of the blanks can go on a number.
    rcases hcases with ((rfl | rfl) | rfl) | rfl <;> decide

theorem readValue_skipSpace (fuel : Nat) (cs : List Char) :
    readValue fuel (skipSpace cs) = readValue fuel cs := by
  cases fuel with
  | zero => rw [readValue, readValue]
  | succ fuel => rw [readValue, readValue, skipSpace_skipSpace]

theorem readItems_skipSpace (fuel : Nat) (cs : List Char) :
    readItems fuel (skipSpace cs) = readItems fuel cs := by
  cases fuel with
  | zero => rw [readItems, readItems]
  | succ fuel => rw [readItems, readItems, readValue_skipSpace]

theorem readValue_append (b : Blanks) (fuel : Nat) (cs : List Char) :
    readValue fuel (b.chars ++ cs) = readValue fuel cs := by
  rw [← readValue_skipSpace, skipSpace_append, readValue_skipSpace]

theorem readItems_append (b : Blanks) (fuel : Nat) (cs : List Char) :
    readItems fuel (b.chars ++ cs) = readItems fuel cs := by
  rw [← readItems_skipSpace, skipSpace_append, readItems_skipSpace]

/-! ### Reading -/

/-- A number starts with its sign or with a digit. -/
theorem Numeral.exists_cons (n : Numeral) :
    ∃ c cs, n.text = c :: cs ∧ (c = '-' ∨ isAsciiDigit c) := by
  obtain ⟨c, cs, hcs⟩ := List.exists_cons_of_ne_nil n.whole.ne_nil
  have hc : isAsciiDigit c := n.whole.all_digits c (hcs ▸ List.mem_cons_self)
  cases hneg : n.negative with
  | true => exact ⟨'-', _, by simp only [Numeral.text, hneg, if_true]; rfl, .inl rfl⟩
  | false => exact ⟨c, cs ++ n.tail.text, by simp [Numeral.text, hneg, hcs], .inr hc⟩

theorem isSpace_eq_false {c : Char} (h : c = '-' ∨ isAsciiDigit c) : isSpace c = false := by
  have hne (x : Char) (hx : ¬ (x = '-' ∨ isAsciiDigit x)) : c ≠ x := by
    rintro rfl
    exact hx h
  simp [isSpace, hne ' ' (by decide), hne '\n' (by decide), hne '\t' (by decide),
    hne '\r' (by decide)]

theorem readValue_number (n : Numeral) {fuel : Nat} {rest : List Char} (h : EndsNumber rest) :
    readValue (fuel + 1) (n.text ++ rest) = (.number n.value, rest) := by
  have hread := n.read?_text h
  obtain ⟨c, cs, hcs, hc⟩ := n.exists_cons
  rw [hcs, List.cons_append] at hread ⊢
  rw [readValue, skipSpace_cons (isSpace_eq_false hc)]
  -- The sign or digit leads past the other beginnings to the last case, that of numbers.
  split
  case h_1 heq => cases heq
  case h_8 => rw [hread]
  all_goals
    rename_i heq
    obtain ⟨rfl, -⟩ := List.cons.inj heq
    exact absurd hc (by decide)

/-- What a source starts with behind its blanks closes neither an array nor an object. -/
theorem Source.exists_cons : (s : Source) → (rest : List Char) →
    ∃ c cs, skipSpace (s.text ++ rest) = c :: cs ∧ c ≠ ']'
  | .null, rest => ⟨'n', _, by rw [Source.text]; rfl, by decide⟩
  | .boolean true, rest => ⟨'t', _, by rw [Source.text]; rfl, by decide⟩
  | .boolean false, rest => ⟨'f', _, by rw [Source.text]; rfl, by decide⟩
  | .number n, rest => by
    obtain ⟨c, cs, hcs, hc⟩ := n.exists_cons
    refine ⟨c, cs ++ rest, ?_, ?_⟩
    · rw [Source.text, hcs, List.cons_append, skipSpace_cons (isSpace_eq_false hc)]
    · rintro rfl
      exact absurd hc (by decide)
  | .string l, rest => ⟨'"', _, by rw [Source.text]; rfl, by decide⟩
  | .array _ _, rest => ⟨'[', _, by rw [Source.text]; rfl, by decide⟩
  | .object _ _, rest => ⟨'\x7b', _, by rw [Source.text]; rfl, by decide⟩
  | .spaced before inner after, rest => by
    -- The blanks in front are skipped, and the inner source decides.
    obtain ⟨c, cs, hcs, hc⟩ := inner.exists_cons (after.chars ++ rest)
    refine ⟨c, cs, ?_, hc⟩
    rw [Source.text, List.append_assoc, List.append_assoc, skipSpace_append, hcs]

theorem readValue_array {fuel : Nat} {cs : List Char} {c : Char} {r : List Char}
    (h : skipSpace cs = c :: r) (hc : c ≠ ']') :
    readValue (fuel + 1) ('[' :: cs) =
      let (items, closed, r) := readItems fuel cs
      (.array items closed, r) := by
  rw [readValue, skipSpace_cons (by decide)]
  simp only [h]
  split
  · rename_i heq
    exact absurd (List.cons.inj heq).1 hc
  · rw [← h, readItems_skipSpace]

theorem readValue_object {fuel : Nat} {cs r : List Char} (h : skipSpace cs = '"' :: r) :
    readValue (fuel + 1) ('\x7b' :: cs) =
      let (members, closed, r) := readMembers fuel r
      (.object members closed, r) := by
  rw [readValue, skipSpace_cons (by decide)]
  simp only [h]

theorem readItems_last {fuel : Nat} {cs r r' : List Char} {t : Tree}
    (hvalue : readValue fuel cs = (t, r)) (hr : skipSpace r = ']' :: r') :
    readItems (fuel + 1) cs = ([t], true, r') := by
  rw [readItems, hvalue]
  simp only [hr]

theorem readItems_comma {fuel : Nat} {cs r r' : List Char} {t : Tree} {c : Char} {r'' : List Char}
    (hvalue : readValue fuel cs = (t, r)) (hr : skipSpace r = ',' :: r')
    (hr' : skipSpace r' = c :: r'') (hc : c ≠ ']') :
    readItems (fuel + 1) cs =
      let (items, closed, r) := readItems fuel r'
      (t :: items, closed, r) := by
  rw [readItems, hvalue]
  simp only [hr, hr']
  split
  · rename_i heq
    exact absurd (List.cons.inj heq).1 hc
  · rw [← hr', readItems_skipSpace]

theorem readMembers_last {fuel : Nat} (l : Literal) {cs v r r' : List Char} {t : Tree}
    (hcs : skipSpace cs = ':' :: v) (hvalue : readValue fuel v = (t, r))
    (hr : skipSpace r = '\x7d' :: r') :
    readMembers (fuel + 1) (l.text ++ '"' :: cs) = ([(l.value, t)], true, r') := by
  rw [readMembers, l.readString?_text]
  simp only [hcs, hvalue, hr]

theorem readMembers_comma {fuel : Nat} (l : Literal) {cs v r r' r'' : List Char} {t : Tree}
    (hcs : skipSpace cs = ':' :: v) (hvalue : readValue fuel v = (t, r))
    (hr : skipSpace r = ',' :: r') (hr' : skipSpace r' = '"' :: r'') :
    readMembers (fuel + 1) (l.text ++ '"' :: cs) =
      let (members, closed, r) := readMembers fuel r''
      ((l.value, t) :: members, closed, r) := by
  rw [readMembers, l.readString?_text]
  simp only [hcs, hvalue, hr, hr']

theorem exists_cons_itemsText (s : Source) (ss : List Source) (rest : List Char) :
    ∃ c cs, skipSpace (itemsText (s :: ss) ++ rest) = c :: cs ∧ c ≠ ']' := by
  cases ss with
  | nil =>
    rw [itemsText_singleton]
    exact s.exists_cons rest
  | cons s' ss =>
    rw [itemsText_cons_cons, List.append_assoc]
    exact s.exists_cons _

/-- What is left of a key once its opening quotation mark is read. -/
theorem skipSpace_key (k : Key) (cs : List Char) :
    skipSpace (k.text ++ cs) =
      '"' :: (k.literal.text ++ '"' :: (k.after.chars ++ ':' :: cs)) := by
  rw [Key.text, List.append_assoc, skipSpace_append, List.cons_append, skipSpace_cons (by decide)]
  simp

theorem skipSpace_colon (b : Blanks) (cs : List Char) :
    skipSpace (b.chars ++ ':' :: cs) = ':' :: cs := by
  rw [skipSpace_append, skipSpace_cons (by decide)]

theorem endsNumber_cons {c : Char} (h : c = ',' ∨ c = ']' ∨ c = '\x7d') (cs : List Char) :
    EndsNumber (c :: cs) := by
  rintro _ ⟨⟩
  rcases h with rfl | rfl | rfl <;> decide

mutual

/-- **Every source is read as its tree**, up to blanks behind it. -/
theorem Source.readValue_text : (s : Source) → {fuel : Nat} → {rest : List Char} →
    s.text.length < fuel → EndsNumber rest →
      ∃ r, readValue fuel (s.text ++ rest) = (s.tree, r) ∧ skipSpace r = skipSpace rest
  -- Each step into a source takes one unit of fuel and at least one character.
  | _, 0, _, hfuel, _ => by cases hfuel
  | .null, fuel + 1, rest, _, _ => ⟨rest, by rw [Source.text, Source.tree, readValue]; rfl, rfl⟩
  | .boolean true, fuel + 1, rest, _, _ =>
    ⟨rest, by rw [Source.text, Source.tree, readValue]; rfl, rfl⟩
  | .boolean false, fuel + 1, rest, _, _ =>
    ⟨rest, by rw [Source.text, Source.tree, readValue]; rfl, rfl⟩
  | .number n, fuel + 1, rest, _, hrest =>
    ⟨rest, by rw [Source.text, Source.tree, readValue_number n hrest], rfl⟩
  | .string l, fuel + 1, rest, _, _ => by
    refine ⟨rest, ?_, rfl⟩
    rw [Source.text, Source.tree, List.cons_append, List.append_assoc, readValue,
      skipSpace_cons (by decide)]
    simp only [List.cons_append, List.nil_append, l.readString?_text]
  | .array blanks [], fuel + 1, rest, _, _ => by
    refine ⟨rest, ?_, rfl⟩
    rw [Source.text, Source.tree, itemsText, itemTrees, List.cons_append, List.append_assoc,
      readValue, skipSpace_cons (by decide)]
    simp only [skipSpace_append, List.nil_append, List.cons_append,
      skipSpace_cons (c := ']') (by decide)]
  | .array blanks (s :: ss), fuel + 1, rest, hfuel, _ => by
    -- The array does not close at once, so its items are read, with what is left of the fuel.
    obtain ⟨c, cs, hc, hne⟩ := exists_cons_itemsText s ss (']' :: rest)
    have hlength : (itemsText (s :: ss)).length + 1 < fuel := by
      rw [Source.text, List.length_cons, List.length_append, List.length_append] at hfuel
      simp only [List.length_cons, List.length_nil] at hfuel
      omega
    refine ⟨rest, ?_, rfl⟩
    rw [Source.text, Source.tree, List.cons_append, List.append_assoc, List.append_assoc,
      List.singleton_append, readValue_array ((skipSpace_append _ _).trans hc) hne,
      readItems_append]
    simp only [readItems_text s ss hlength rest]
  | .object blanks [], fuel + 1, rest, _, _ => by
    refine ⟨rest, ?_, rfl⟩
    rw [Source.text, Source.tree, membersText, memberTrees, List.cons_append, List.append_assoc,
      readValue, skipSpace_cons (by decide)]
    simp only [skipSpace_append, List.nil_append, List.cons_append,
      skipSpace_cons (c := '\x7d') (by decide)]
  | .object blanks (m :: ms), fuel + 1, rest, hfuel, _ => by
    have hlength : (membersText (m :: ms)).length + 1 < fuel := by
      rw [Source.text, List.length_cons, List.length_append, List.length_append] at hfuel
      simp only [List.length_cons, List.length_nil] at hfuel
      omega
    -- The members follow the quotation mark, which has told that there are any.
    obtain ⟨cs, hcs, hmembers⟩ := readMembers_text m ms hlength rest
    refine ⟨rest, ?_, rfl⟩
    rw [Source.text, Source.tree, List.cons_append, List.append_assoc, List.append_assoc,
      List.singleton_append, readValue_object ((skipSpace_append _ _).trans hcs)]
    simp only [hmembers]
  | .spaced before inner after, fuel + 1, rest, hfuel, hrest => by
    have hlength : inner.text.length < fuel + 1 := by
      rw [Source.text, List.length_append, List.length_append] at hfuel
      omega
    -- The blanks behind the source are left over, which is why the rest is told up to blanks.
    obtain ⟨r, hread, hr⟩ := inner.readValue_text hlength (endsNumber_append after hrest)
    refine ⟨r, ?_, by rw [hr, skipSpace_append]⟩
    rw [Source.text, Source.tree, List.append_assoc, List.append_assoc, readValue_append, hread]

theorem readItems_text : (s : Source) → (ss : List Source) → {fuel : Nat} →
    (itemsText (s :: ss)).length + 1 < fuel → (rest : List Char) →
      readItems fuel (itemsText (s :: ss) ++ ']' :: rest) = (itemTrees (s :: ss), true, rest)
  | _, _, 0, hfuel, _ => by cases hfuel
  | s, [], fuel + 1, hfuel, rest => by
    rw [itemsText_singleton] at hfuel ⊢
    obtain ⟨r, hread, hr⟩ := s.readValue_text (Nat.lt_of_succ_lt_succ hfuel)
      (endsNumber_cons (.inr (.inl rfl)) rest)
    rw [readItems_last hread (hr.trans (skipSpace_cons (by decide) rest)), itemTrees, itemTrees]
  | s, s' :: ss, fuel + 1, hfuel, rest => by
    rw [itemsText_cons_cons, List.length_append, List.length_cons] at hfuel
    -- The comma ends the first item, be it a number, and has another one behind it.
    have hlength : s.text.length < fuel := by omega
    obtain ⟨r, hread, hr⟩ := s.readValue_text hlength
      (endsNumber_cons (.inl rfl) (itemsText (s' :: ss) ++ ']' :: rest))
    obtain ⟨c, cs, hc, hne⟩ := exists_cons_itemsText s' ss (']' :: rest)
    rw [itemsText_cons_cons, List.append_assoc, List.cons_append,
      readItems_comma hread (hr.trans (skipSpace_cons (by decide) _)) hc hne,
      readItems_text s' ss (by omega), itemTrees_cons s]

/-- The quotation mark of the first name is read before the members are. -/
theorem readMembers_text : (m : Key × Source) → (ms : List (Key × Source)) → {fuel : Nat} →
    (membersText (m :: ms)).length + 1 < fuel → (rest : List Char) →
      ∃ cs, skipSpace (membersText (m :: ms) ++ '\x7d' :: rest) = '"' :: cs ∧
        readMembers fuel cs = (memberTrees (m :: ms), true, rest)
  | _, _, 0, hfuel, _ => by cases hfuel
  | (k, s), [], fuel + 1, hfuel, rest => by
    rw [membersText_singleton, List.length_append] at hfuel
    have hlength : s.text.length < fuel := by omega
    obtain ⟨r, hread, hr⟩ := s.readValue_text hlength
      (endsNumber_cons (.inr (.inr rfl)) rest)
    refine ⟨_, by rw [membersText_singleton, List.append_assoc, skipSpace_key], ?_⟩
    rw [readMembers_last k.literal (skipSpace_colon _ _) hread
      (hr.trans (skipSpace_cons (by decide) rest)), memberTrees, memberTrees]
  | (k, s), m :: ms, fuel + 1, hfuel, rest => by
    rw [membersText_cons_cons, List.length_append, List.length_append, List.length_cons] at hfuel
    have hlength : s.text.length < fuel := by omega
    obtain ⟨r, hread, hr⟩ := s.readValue_text hlength
      (endsNumber_cons (.inl rfl) (membersText (m :: ms) ++ '\x7d' :: rest))
    -- The other members are read behind the comma, from the mark of their first name on.
    have hlengths : (membersText (m :: ms)).length + 1 < fuel := by omega
    obtain ⟨cs, hcs, hmembers⟩ := readMembers_text m ms hlengths rest
    refine ⟨_, by rw [membersText_cons_cons, List.append_assoc, skipSpace_key], ?_⟩
    rw [List.append_assoc, List.cons_append, readMembers_comma k.literal (skipSpace_colon _ _) hread
      (hr.trans (skipSpace_cons (by decide) _)) hcs, hmembers, memberTrees_cons k]

end

/-- **A well-formed text is read to its end.** -/
theorem read_source (s : Source) : Tree.read (String.ofList s.text) = (s.tree, true) := by
  have hend : EndsNumber [] := by rintro _ ⟨⟩
  obtain ⟨r, hread, hr⟩ := s.readValue_text (Nat.lt_succ_self _) hend
  rw [List.append_nil] at hread
  simp only [Tree.read, String.toList_ofList, hread, hr]
  rfl

/-- What is made of a well-formed text depends on its tree alone. -/
theorem decode_source {α : Type} (read : Tree → Except Fault α) (s : Source) :
    decode read (String.ofList s.text) = read s.tree := by
  simp only [decode, read_source]
  cases read s.tree <;> rfl

/-! ### What is read -/

theorem readLiteral_eq {word cs r : List Char} {value t : Tree}
    (h : readLiteral word value cs = (t, r)) (ht : t.isWhole = true) :
    cs = word ++ r ∧ value = t := by
  unfold readLiteral afterLiteral? at h
  split at h
  · rename_i hafter
    obtain ⟨rfl, rfl⟩ := Prod.mk.inj h
    split at hafter
    · obtain ⟨rest, rfl⟩ := List.isPrefixOf_iff_prefix.1 ‹_›
      obtain rfl := Option.some.inj hafter
      exact ⟨by rw [List.drop_left], rfl⟩
    · cases hafter
  · obtain ⟨rfl, rfl⟩ := Prod.mk.inj h
    cases ht

/-- Blanks in front of a source make another one. -/
theorem exists_spaced {cs r : List Char} {t : Tree}
    (h : ∃ s : Source, skipSpace cs = s.text ++ r ∧ s.tree = t) :
    ∃ s : Source, cs = s.text ++ r ∧ s.tree = t := by
  obtain ⟨s, hs, rfl⟩ := h
  obtain ⟨b, hb⟩ := exists_blanks cs
  refine ⟨.spaced b s .none, ?_, by rw [Source.tree]⟩
  rw [Source.text, Blanks.chars_none, List.append_nil, List.append_assoc, ← hs, ← hb]

/-- Blanks behind a source make another one. -/
theorem exists_spaced_skipSpace {cs r : List Char} {t : Tree}
    (h : ∃ s : Source, cs = s.text ++ r ∧ s.tree = t) :
    ∃ s : Source, cs = s.text ++ skipSpace r ∧ s.tree = t := by
  obtain ⟨s, rfl, rfl⟩ := h
  obtain ⟨b, hb⟩ := exists_blanks r
  refine ⟨.spaced .none s b, ?_, by rw [Source.tree]⟩
  rw [Source.text, Blanks.chars_none, List.nil_append, List.append_assoc, ← hb]

/-- An array is a source if its items are. -/
theorem exists_source_of_array {fuel : Nat} {rest r : List Char} {t : Tree}
    (hitems : ∀ {r ts}, readItems fuel rest = (ts, true, r) → areWhole ts = true →
      ∃ s ss, rest = itemsText (s :: ss) ++ ']' :: r ∧ itemTrees (s :: ss) = ts)
    (h : readValue (fuel + 1) ('[' :: rest) = (t, r)) (ht : t.isWhole = true) :
    ∃ s : Source, '[' :: rest = s.text ++ r ∧ s.tree = t := by
  rw [readValue, skipSpace_cons (by decide)] at h
  simp only at h
  split at h
  · -- The array is empty, but for blanks.
    rename_i hclose
    obtain ⟨rfl, rfl⟩ := Prod.mk.inj h
    obtain ⟨b, hb⟩ := exists_blanks rest
    refine ⟨.array b [], ?_, by rw [Source.tree, itemTrees]⟩
    rw [hb, hclose, Source.text, itemsText]
    simp
  · rw [readItems_skipSpace] at h
    generalize hread : readItems fuel rest = result at h
    obtain ⟨items, closed, r'⟩ := result
    obtain ⟨rfl, rfl⟩ := Prod.mk.inj h
    -- A tree without a break is that of a closed array.
    rw [Tree.isWhole, Bool.and_eq_true] at ht
    obtain ⟨hwhole, rfl⟩ := ht
    obtain ⟨s, ss, rfl, rfl⟩ := hitems hread hwhole
    refine ⟨.array .none (s :: ss), ?_, by rw [Source.tree]⟩
    rw [Source.text]
    simp

/-- An object is a source if its members are. -/
theorem exists_source_of_object {fuel : Nat} {rest r : List Char} {t : Tree}
    (hmembers : ∀ {cs r ts} (b : Blanks), readMembers fuel cs = (ts, true, r) →
      haveWhole ts = true → ∃ m ms,
        b.chars ++ '"' :: cs = membersText (m :: ms) ++ '\x7d' :: r ∧ memberTrees (m :: ms) = ts)
    (h : readValue (fuel + 1) ('\x7b' :: rest) = (t, r)) (ht : t.isWhole = true) :
    ∃ s : Source, '\x7b' :: rest = s.text ++ r ∧ s.tree = t := by
  rw [readValue, skipSpace_cons (by decide)] at h
  simp only at h
  split at h
  · -- The object is empty, but for blanks.
    rename_i hclose
    obtain ⟨rfl, rfl⟩ := Prod.mk.inj h
    obtain ⟨b, hb⟩ := exists_blanks rest
    refine ⟨.object b [], ?_, by rw [Source.tree, memberTrees]⟩
    rw [hb, hclose, Source.text, membersText]
    simp
  · rename_i hquote
    generalize hread : readMembers fuel _ = result at h
    obtain ⟨members, closed, r'⟩ := result
    obtain ⟨rfl, rfl⟩ := Prod.mk.inj h
    rw [Tree.isWhole, Bool.and_eq_true] at ht
    obtain ⟨hwhole, rfl⟩ := ht
    obtain ⟨b, hb⟩ := exists_blanks rest
    obtain ⟨m, ms, hms, rfl⟩ := hmembers b hread hwhole
    refine ⟨.object .none (m :: ms), ?_, by rw [Source.tree]⟩
    rw [hb, hquote, hms, Source.text]
    simp
  · -- A member without a name is a break.
    obtain ⟨rfl, rfl⟩ := Prod.mk.inj h
    cases ht

mutual

/-- **What is read without a break is a source.** -/
theorem exists_source_of_readValue : (fuel : Nat) → {cs r : List Char} → {t : Tree} →
    readValue fuel cs = (t, r) → t.isWhole = true →
      ∃ s : Source, cs = s.text ++ r ∧ s.tree = t
  | 0, _, _, _, h, ht => by
    rw [readValue] at h
    obtain ⟨rfl, rfl⟩ := Prod.mk.inj h
    cases ht
  | fuel + 1, cs, r, t, h, ht => by
    -- The cases are those of the first character behind the blanks.
    refine exists_spaced ?_
    have hread := h
    rw [readValue] at h
    split at h
    · obtain ⟨rfl, rfl⟩ := Prod.mk.inj h
      cases ht
    · rename_i hcs
      obtain ⟨rfl, rfl⟩ := readLiteral_eq h ht
      exact ⟨.null, by rw [hcs, Source.text]; rfl, by rw [Source.tree]⟩
    · rename_i hcs
      obtain ⟨rfl, rfl⟩ := readLiteral_eq h ht
      exact ⟨.boolean true, by rw [hcs, Source.text]; rfl, by rw [Source.tree]⟩
    · rename_i hcs
      obtain ⟨rfl, rfl⟩ := readLiteral_eq h ht
      exact ⟨.boolean false, by rw [hcs, Source.text]; rfl, by rw [Source.tree]⟩
    · rename_i hcs
      split at h
      · obtain ⟨rfl, rfl⟩ := Prod.mk.inj h
        obtain ⟨l, rfl, rfl⟩ := Literal.exists_literal ‹_›
        exact ⟨.string l, by rw [hcs, Source.text]; simp, by rw [Source.tree]⟩
      · obtain ⟨rfl, rfl⟩ := Prod.mk.inj h
        cases ht
    · rename_i rest hcs
      rw [hcs]
      rw [← readValue_skipSpace, hcs] at hread
      exact exists_source_of_array (exists_items fuel) hread ht
    · rename_i rest hcs
      rw [hcs]
      rw [← readValue_skipSpace, hcs] at hread
      exact exists_source_of_object (exists_members fuel) hread ht
    · split at h
      · obtain ⟨rfl, rfl⟩ := Prod.mk.inj h
        obtain ⟨n, htext, rfl⟩ := exists_numeral ‹_›
        exact ⟨.number n, by rw [htext, Source.text], by rw [Source.tree]⟩
      · obtain ⟨rfl, rfl⟩ := Prod.mk.inj h
        cases ht

theorem exists_items : (fuel : Nat) → {cs r : List Char} → {ts : List Tree} →
    readItems fuel cs = (ts, true, r) → areWhole ts = true →
      ∃ s ss, cs = itemsText (s :: ss) ++ ']' :: r ∧ itemTrees (s :: ss) = ts
  | 0, _, _, _, h, _ => by
    rw [readItems] at h
    cases h
  | fuel + 1, cs, r, ts, h, hts => by
    rw [readItems] at h
    generalize hvalue : readValue fuel cs = result at h
    obtain ⟨t, rest⟩ := result
    have hsource (ht : t.isWhole = true) :=
      exists_spaced_skipSpace (exists_source_of_readValue fuel hvalue ht)
    simp only at h
    split at h
    · rename_i hclose
      cases h
      rw [areWhole, Bool.and_eq_true] at hts
      obtain ⟨s, rfl, rfl⟩ := hsource hts.1
      exact ⟨s, [], by rw [itemsText_singleton, hclose], by rw [itemTrees, itemTrees]⟩
    · rename_i rest' hcomma
      split at h
      · cases h
      · -- There is an item behind the comma, so the induction goes on with it.
        rw [readItems_skipSpace] at h
        generalize hitems : readItems fuel rest' = result at h
        obtain ⟨items, closed, r'⟩ := result
        cases h
        rw [areWhole, Bool.and_eq_true] at hts
        obtain ⟨s, rfl, rfl⟩ := hsource hts.1
        obtain ⟨s', ss, rfl, rfl⟩ := exists_items fuel hitems hts.2
        refine ⟨s, s' :: ss, ?_, itemTrees_cons s _⟩
        rw [itemsText_cons_cons, hcomma, List.append_assoc, List.cons_append]
    · cases h

theorem exists_members : (fuel : Nat) → {cs r : List Char} →
    {ts : List (Except Fault String × Tree)} → (b : Blanks) →
    readMembers fuel cs = (ts, true, r) → haveWhole ts = true →
      ∃ m ms, b.chars ++ '"' :: cs = membersText (m :: ms) ++ '\x7d' :: r ∧
        memberTrees (m :: ms) = ts
  | 0, _, _, _, _, h, _ => by
    rw [readMembers] at h
    cases h
  | fuel + 1, cs, r, ts, b, h, hts => by
    rw [readMembers] at h
    split at h
    · cases h
    · rename_i name rest hname
      obtain ⟨l, rfl, rfl⟩ := Literal.exists_literal hname
      obtain ⟨b', hb'⟩ := exists_blanks rest
      split at h
      · rename_i rest' hcolon
        rw [hb', hcolon]
        generalize hvalue : readValue fuel rest' = result at h
        obtain ⟨t, rest⟩ := result
        have hsource (ht : t.isWhole = true) :=
          exists_spaced_skipSpace (exists_source_of_readValue fuel hvalue ht)
        simp only at h
        split at h
        · rename_i hclose
          cases h
          rw [haveWhole, Bool.and_eq_true] at hts
          obtain ⟨s, rfl, rfl⟩ := hsource hts.1
          refine ⟨(⟨b, l, b'⟩, s), [], ?_, by rw [memberTrees, memberTrees]⟩
          rw [membersText_singleton, hclose, Key.text]
          simp
        · rename_i rest'' hcomma
          split at h
          · -- There is a name behind the comma, and the blanks between them belong to its key.
            rename_i hquote
            generalize hmembers : readMembers fuel _ = result at h
            obtain ⟨members, closed, r'⟩ := result
            cases h
            rw [haveWhole, Bool.and_eq_true] at hts
            obtain ⟨s, rfl, rfl⟩ := hsource hts.1
            obtain ⟨b'', hb''⟩ := exists_blanks rest''
            obtain ⟨m, ms, hms, rfl⟩ := exists_members fuel b'' hmembers hts.2
            refine ⟨(⟨b, l, b'⟩, s), m :: ms, ?_, memberTrees_cons _ s _⟩
            rw [membersText_cons_cons, hcomma, hb'', hquote, hms, Key.text]
            simp
          · cases h
        · cases h
      · cases h

end

/-- A text that is read to its end without a break is one of a source. -/
theorem exists_source {text : String} {t : Tree} (h : Tree.read text = (t, true))
    (ht : t.isWhole = true) : ∃ s : Source, s.text = text.toList ∧ s.tree = t := by
  simp only [Tree.read] at h
  obtain ⟨hvalue, hends⟩ := Prod.mk.inj h
  obtain ⟨s, hs, htree⟩ := exists_spaced_skipSpace
    (exists_source_of_readValue _ (Prod.ext hvalue rfl) ht)
  refine ⟨s, ?_, htree⟩
  rw [hs, List.isEmpty_iff.1 hends, List.append_nil]

/-! ### Trees of well-formed texts -/

/-- The tree is that of a well-formed text. -/
inductive Tree.Spelled : Tree → Prop where
  | null : Spelled .null
  | boolean (b : Bool) : Spelled (.boolean b)
  | number (n : Numeral) : Spelled (.number n.value)
  | string (l : Literal) : Spelled (.string l.value)
  | array {items : List Tree} (h : ∀ t ∈ items, Spelled t) : Spelled (.array items true)
  | object {members : List (Except Fault String × Tree)}
    (names : ∀ m ∈ members, ∃ l : Literal, m.1 = l.value) (h : ∀ m ∈ members, Spelled m.2) :
    Spelled (.object members true)

theorem exists_name_of_mem_memberTrees (ms : List (Key × Source)) :
    ∀ m ∈ memberTrees ms, ∃ l : Literal, m.1 = l.value := by
  rw [memberTrees_eq_map]
  intro m hm
  obtain ⟨⟨k, s⟩, -, rfl⟩ := List.mem_map.1 hm
  exact ⟨k.literal, rfl⟩

mutual

theorem Source.spelled : (s : Source) → s.tree.Spelled
  | .null => by rw [Source.tree]; exact .null
  | .boolean b => by rw [Source.tree]; exact .boolean b
  | .number n => by rw [Source.tree]; exact .number n
  | .string l => by rw [Source.tree]; exact .string l
  | .array _ items => by rw [Source.tree]; exact .array (spelled_itemTrees items)
  | .object _ members => by
    rw [Source.tree]
    exact .object (exists_name_of_mem_memberTrees members) (spelled_memberTrees members)
  | .spaced _ inner _ => by rw [Source.tree]; exact inner.spelled

theorem spelled_itemTrees : (ss : List Source) → ∀ t ∈ itemTrees ss, t.Spelled
  | [] => by simp [itemTrees]
  | s :: ss => by
    rw [itemTrees, List.forall_mem_cons]
    exact ⟨s.spelled, spelled_itemTrees ss⟩

theorem spelled_memberTrees : (ms : List (Key × Source)) → ∀ m ∈ memberTrees ms, m.2.Spelled
  | [] => by simp [memberTrees]
  | (_, s) :: ms => by
    rw [memberTrees, List.forall_mem_cons]
    exact ⟨s.spelled, spelled_memberTrees ms⟩

end

theorem areWhole_iff (ts : List Tree) : areWhole ts = true ↔ ∀ t ∈ ts, t.isWhole = true := by
  induction ts with
  | nil => simp [areWhole]
  | cons t ts ih => rw [areWhole, Bool.and_eq_true, ih, List.forall_mem_cons]

theorem haveWhole_iff (ms : List (Except Fault String × Tree)) :
    haveWhole ms = true ↔ ∀ m ∈ ms, m.2.isWhole = true := by
  induction ms with
  | nil => simp [haveWhole]
  | cons m ms ih => rw [haveWhole, Bool.and_eq_true, ih, List.forall_mem_cons]

/-- The tree of a well-formed text has no break. -/
theorem Tree.Spelled.isWhole {t : Tree} (h : t.Spelled) : t.isWhole = true := by
  induction h with
  | null | boolean | number | string => rw [Tree.isWhole] <;> simp
  | array _ ih => rw [Tree.isWhole, (areWhole_iff _).2 ih, Bool.and_true]
  | object _ _ ih => rw [Tree.isWhole, (haveWhole_iff _).2 ih, Bool.and_true]

/-- An integer in a well-formed text fits into 64 bits. -/
theorem Tree.Spelled.isInteger64 {i : Int} (h : (Tree.number (.integer i)).Spelled) :
    IsInteger64 i := by
  generalize ht : Tree.number (.integer i) = t at h
  cases h with
  | number n => exact n.isInteger64 (Tree.number.inj ht).symm
  | null | boolean | string | array | object => cases ht

/-- Does the text keep to the grammar to its end? -/
def isWellFormed (text : String) : Bool :=
  (Tree.read text).2 && (Tree.read text).1.isWhole

/-- **The well-formed texts** are those of the sources. -/
theorem isWellFormed_iff (text : String) :
    isWellFormed text = true ↔ ∃ s : Source, s.text = text.toList := by
  rw [isWellFormed, Bool.and_eq_true]
  constructor
  · rintro ⟨hends, hwhole⟩
    obtain ⟨s, hs, -⟩ := exists_source (Prod.ext rfl hends) hwhole
    exact ⟨s, hs⟩
  · rintro ⟨s, hs⟩
    obtain rfl : String.ofList s.text = text := by rw [hs, String.ofList_toList]
    rw [read_source]
    exact ⟨rfl, s.spelled.isWhole⟩

/-- Half of a surrogate pair keeps to the grammar, though it stands for no text. -/
example : isWellFormed "[1, \"\\ud800\"]" = true := by decide +kernel

end MachiningViewer.Json
