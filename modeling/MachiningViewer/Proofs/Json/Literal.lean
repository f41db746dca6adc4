import MachiningViewer.Json.Value
import Mathlib.Tactic.SplitIfs

/-!
# Strings in JSON texts

A `Literal` is what stands between the quotation marks of a string, as it is spelled: each `Glyph`
is a character that stands for itself, an escape of its own, or a code unit that is given by four
hexadecimal digits. Every list of glyphs is the spelling of a string, and the reader finds the end
of each of them, whatever follows (`readString?_text`); nothing else is read as a string
(`exists_literal`).

The spelling that is written (`Literal.ofString`) denotes the text it was made of, whatever
characters that has (`value_ofString`).
-/

namespace MachiningViewer.Json

theorem map_ne_error {α β : Type} {f : α → β} {x : Except Fault α} {fault : Fault}
    (hx : x ≠ .error fault) : x.map f ≠ .error fault := by
  cases x with
  | error other => exact fun h => hx (congrArg Except.error (Except.error.inj h))
  | ok a => nofun

/-- What stands for one character, or for one code unit, inside a string. -/
inductive Glyph where
  | plain (c : Char) (h : ¬ c.toNat < 0x20 ∧ c ≠ '"' ∧ c ≠ '\\')
  | escaped (letter c : Char) (h : escaped? letter = some c)
  | numbered (a b c d : Char) (n : Nat) (h : hex4? a b c d = some n)

namespace Glyph

/-- How it is spelled. -/
def text : Glyph → List Char
  | plain c _ => [c]
  | escaped letter _ _ => ['\\', letter]
  | numbered a b c d _ _ => ['\\', 'u', a, b, c, d]

/-- What it denotes. -/
def piece : Glyph → Piece
  | plain c _ => .char c
  | escaped _ c _ => .char c
  | numbered _ _ _ _ n _ => .unit n

end Glyph

/-- What stands between the quotation marks of a string. -/
abbrev Literal := List Glyph

namespace Literal

/-- How it is spelled. -/
def text (l : Literal) : List Char :=
  l.flatMap (·.text)

/-- The text that it denotes. There is none if half of a surrogate pair stands alone. -/
def value (l : Literal) : Except Fault String :=
  (characters (l.map (·.piece))).map String.ofList

@[simp]
theorem text_cons (g : Glyph) (l : Literal) : text (g :: l) = g.text ++ text l :=
  List.flatMap_cons

/-! ### Reading -/

/-- A string is read glyph by glyph. -/
theorem readPieces?_glyph (g : Glyph) (cs : List Char) :
    readPieces? (g.text ++ cs) = (readPieces? cs).map fun (ps, r) => (g.piece :: ps, r) := by
  cases g with
  | plain c h =>
    obtain ⟨hcontrol, hquote, hslash⟩ := h
    -- A plain character is no quotation mark and starts no escape, so the last case reads it.
    show readPieces? (c :: cs) = _
    rw [readPieces?]
    · cases readPieces? cs <;> simp [hcontrol, hslash, Glyph.piece]
    · exact hquote
    · exact fun _ _ _ _ _ he _ => hslash he
    · exact fun _ _ he _ => hslash he
  | escaped letter c h =>
    show readPieces? ('\\' :: letter :: cs) = _
    rw [readPieces?, h]
    · cases readPieces? cs <;> rfl
    · rintro _ _ _ _ _ rfl -
      cases h
  | numbered a b c d n h =>
    show readPieces? ('\\' :: 'u' :: a :: b :: c :: d :: cs) = _
    rw [readPieces?, h]
    cases readPieces? cs <;> rfl

theorem readPieces?_text (l : Literal) (rest : List Char) :
    readPieces? (l.text ++ '"' :: rest) = some (l.map (·.piece), rest) := by
  induction l with
  | nil => rfl
  | cons g l ih => rw [text_cons, List.append_assoc, readPieces?_glyph, ih]; rfl

/-- **A string is read as it is spelled**, whatever follows it. -/
theorem readString?_text (l : Literal) (rest : List Char) :
    readString? (l.text ++ '"' :: rest) = some (l.value, rest) := by
  rw [readString?, readPieces?_text]
  rfl

/-- **Nothing else is read as a string.** -/
theorem exists_of_readPieces? {cs rest : List Char} {ps : List Piece}
    (h : readPieces? cs = some (ps, rest)) :
    ∃ l : Literal, cs = l.text ++ '"' :: rest ∧ l.map (·.piece) = ps := by
  -- Each case that succeeds takes one glyph off, and says why it is one.
  fun_induction readPieces? cs generalizing ps rest with
  | case1 => cases h
  | case2 r =>
    obtain ⟨rfl, rfl⟩ := Prod.mk.inj (Option.some.inj h)
    exact ⟨[], rfl, rfl⟩
  | case3 a b c d r n ps' r' hread hhex ih =>
    obtain ⟨rfl, rfl⟩ := Prod.mk.inj (Option.some.inj h)
    obtain ⟨l, rfl, rfl⟩ := ih hread
    exact ⟨.numbered a b c d n hhex :: l, rfl, rfl⟩
  | case4 => cases h
  | case5 letter r hne c ps' r' hread hescaped ih =>
    obtain ⟨rfl, rfl⟩ := Prod.mk.inj (Option.some.inj h)
    obtain ⟨l, rfl, rfl⟩ := ih hread
    exact ⟨.escaped letter c hescaped :: l, rfl, rfl⟩
  | case6 => cases h
  | case7 => cases h
  | case8 c r hquote hnumbered hescaped hplain ps' r' hread ih =>
    obtain ⟨rfl, rfl⟩ := Prod.mk.inj (Option.some.inj h)
    obtain ⟨l, rfl, rfl⟩ := ih hread
    have hplain : ¬ c.toNat < 0x20 ∧ c ≠ '\\' := by simpa using hplain
    exact ⟨.plain c ⟨hplain.1, hquote, hplain.2⟩ :: l, rfl, rfl⟩
  | case9 => cases h

theorem exists_literal {cs rest : List Char} {s : Except Fault String}
    (h : readString? cs = some (s, rest)) :
    ∃ l : Literal, cs = l.text ++ '"' :: rest ∧ l.value = s := by
  obtain ⟨⟨ps, r⟩, hread, heq⟩ := Option.map_eq_some_iff.1 h
  obtain ⟨rfl, rfl⟩ := Prod.mk.inj heq
  obtain ⟨l, rfl, rfl⟩ := exists_of_readPieces? hread
  exact ⟨l, rfl, rfl⟩

/-- A spelling that denotes no text is not malformed: half of a surrogate pair stands alone in it,
in front of nothing or in a wrong place. -/
theorem value_ne_malformed (l : Literal) : l.value ≠ .error .malformed := by
  have hcharacters (ps : List Piece) : characters ps ≠ .error .malformed := by
    fun_induction characters ps with
    | case1 => nofun
    | case2 c ps ih => exact map_ne_error ih
    | case3 high low ps hhigh hlow ih => exact map_ne_error ih
    | case4 | case5 | case7 | case8 => nofun
    | case6 high low ps hhigh hlow ih => exact map_ne_error ih
    | case9 n ps hne hhigh hlow ih => exact map_ne_error ih
  exact map_ne_error (hcharacters _)

/-! ### Writing -/

theorem hex4?_of_lt {n : Nat} (h : n < 0x20) :
    hex4? '0' '0' (hexChar (n / 16)) (hexChar (n % 16)) = some n := by
  revert n
  decide

/-- The spelling of a character that is written. -/
def glyph (c : Char) : Glyph :=
  if hquote : c = '"' then .escaped '"' '"' rfl
  else if hslash : c = '\\' then .escaped '\\' '\\' rfl
  else if c = '\x08' then .escaped 'b' '\x08' rfl
  else if c = '\x0c' then .escaped 'f' '\x0c' rfl
  else if c = '\n' then .escaped 'n' '\n' rfl
  else if c = '\r' then .escaped 'r' '\r' rfl
  else if c = '\t' then .escaped 't' '\t' rfl
  else if hcontrol : c.toNat < 0x20 then .numbered '0' '0' _ _ c.toNat (hex4?_of_lt hcontrol)
  else .plain c ⟨hcontrol, hquote, hslash⟩

/-- The spelling of a text that is written. -/
def ofString (s : String) : Literal :=
  s.toList.map glyph

theorem text_glyph (c : Char) : (glyph c).text = writeChar c := by
  unfold glyph writeChar
  split_ifs <;> rfl

theorem text_ofString (s : String) : writeString s = '"' :: (ofString s).text ++ ['"'] := by
  simp [writeString, ofString, text, List.flatMap_map, text_glyph]

/-- A code unit that is no half of a surrogate pair is a character. -/
theorem characters_unit {n : Nat} (h : n < 0xD800) (ps : List Piece) :
    characters (.unit n :: ps) = (characters ps).map (Char.ofNat n :: ·) := by
  have hhigh : isHighSurrogate n = false := by simp [isHighSurrogate]; omega
  have hlow : isLowSurrogate n = false := by simp [isLowSurrogate]; omega
  rcases ps with _ | ⟨_ | low, ps⟩ <;> simp [characters, hhigh, hlow]

/-- A glyph that is written denotes its character, or the code unit of a control character. -/
theorem piece_glyph (c : Char) :
    (glyph c).piece = .char c ∨ c.toNat < 0x20 ∧ (glyph c).piece = .unit c.toNat := by
  unfold glyph
  split_ifs <;> simp_all [Glyph.piece]

theorem characters_glyph (c : Char) (ps : List Piece) :
    characters ((glyph c).piece :: ps) = (characters ps).map (c :: ·) := by
  rcases piece_glyph c with hchar | ⟨hcontrol, hunit⟩
  · rw [hchar, characters]
  · rw [hunit, characters_unit (by omega), Char.ofNat_toNat]

/-- **What is written denotes the text that it was made of.** -/
theorem value_ofString (s : String) : (ofString s).value = .ok s := by
  have hread (cs : List Char) : characters ((cs.map glyph).map (·.piece)) = .ok cs := by
    induction cs with
    | nil => rfl
    | cons c cs ih =>
      rw [List.map_cons, List.map_cons, characters_glyph, ih]
      rfl
  rw [value, ofString, hread]
  exact congrArg Except.ok String.ofList_toList

end Literal

end MachiningViewer.Json
