import MachiningViewer.Proofs.Toolpath.Feeds

/-!
# The grammar of toolpath lines

What a line of a toolpath text commands, if anything, is said here as a grammar, by relations
between a line and its parts. A line that is not skipped has a *body*, the line without its comments
(`Uncommented`, `HasBody`); a body may open with a motion word, in any letter case, that ends where
it may end (`Opens`); and the words behind the motion word give the move its values (`Commands`).

The reader tries the motion words in a fixed order and looks at the first that fits only. That is
enough: of two words that both fit, one begins the other, as `G0` begins `G00`, and then the shorter
one is followed by a digit, before which it must not end (`splitMotion?_eq_some_iff`). So every line
commands what the grammar says and nothing else (`command?_eq_some_iff`).
-/

namespace MachiningViewer

open Text

/-! ### Capitals -/

/-- Only letters become capitals. -/
theorem Text.eq_of_toUpper_eq {c d : Char} (hd : d.toNat < 65) (h : c.toUpper = d) : c = d := by
  unfold Char.toUpper at h
  split at h
  · rename_i hc
    have hlow : 97 ≤ c.val.toNat := hc.1
    have hhigh : c.val.toNat ≤ 122 := hc.2
    have hgap : ('A'.val - 'a'.val).toNat = 2 ^ 32 - 32 := by decide
    have hval : d.toNat = (c.val + ('A'.val - 'a'.val)).toNat := by rw [← h]; rfl
    rw [UInt32.toNat_add, hgap] at hval
    omega
  · exact h

/-- What follows a word that opens a text in any letter case. -/
theorem Text.afterWord?_eq_some_iff {word cs rest : List Char} :
    afterWord? word cs = some rest ↔ ∃ token, cs = token ++ rest ∧ upper token = word := by
  -- Both sides consume one character of the word and one of the line at a time.
  induction word generalizing cs with
  | nil =>
    rw [afterWord?, Option.some_inj]
    constructor
    · rintro rfl
      exact ⟨[], rfl, rfl⟩
    · rintro ⟨token, rfl, htoken⟩
      rw [List.map_eq_nil_iff.1 htoken]
      rfl
  | cons w ws ih =>
    cases cs with
    | nil =>
      rw [afterWord?]
      constructor
      · intro h
        cases h
      · rintro ⟨token, hnil, htoken⟩
        rw [(List.append_eq_nil_iff.1 hnil.symm).1] at htoken
        cases htoken
    | cons c cs =>
      rw [afterWord?]
      constructor
      · intro h
        split at h
        · rename_i hc
          obtain ⟨token, rfl, rfl⟩ := ih.1 h
          exact ⟨c :: token, rfl, congrArg (· :: upper token) hc⟩
        · cases h
      · rintro ⟨token, heq, htoken⟩
        obtain ⟨t, token, rfl, ht, htail⟩ := List.map_eq_cons_iff.1 htoken
        obtain ⟨rfl, rfl⟩ := List.cons.inj heq
        rw [if_pos ht]
        exact ih.2 ⟨token, rfl, htail⟩

namespace Block

/-! ### Comments -/

/-- The second text is the first with a blank in the place of each comment. A comment starts with an
opening parenthesis and goes to the next closing one or, if there is none, to the end. -/
inductive Uncommented : List Char → List Char → Prop
  | plain {cs : List Char} (hcs : '(' ∉ cs) : Uncommented cs cs
  | closed {front comment rest rest' : List Char} (hfront : '(' ∉ front) (hcomment : ')' ∉ comment)
      (hrest : Uncommented rest rest') :
      Uncommented (front ++ '(' :: comment ++ ')' :: rest) (front ++ ' ' :: rest')
  | unclosed {front comment : List Char} (hfront : '(' ∉ front) (hcomment : ')' ∉ comment) :
      Uncommented (front ++ '(' :: comment) (front ++ [' '])

theorem Uncommented.cons {c : Char} (hc : c ≠ '(') {cs ds : List Char} (h : Uncommented cs ds) :
    Uncommented (c :: cs) (c :: ds) := by
  have hfront {front : List Char} (hf : '(' ∉ front) : '(' ∉ c :: front := by
    simpa [hf] using hc.symm
  cases h with
  | plain hcs => exact .plain (hfront hcs)
  | closed hf hcomment hrest => exact .closed (hfront hf) hcomment hrest
  | unclosed hf hcomment => exact .unclosed (hfront hf) hcomment

theorem blankParens_append {front : List Char} (hfront : '(' ∉ front) (cs : List Char) :
    blankParens false (front ++ cs) = front ++ blankParens false cs := by
  induction front with
  | nil => rfl
  | cons c front ih =>
    obtain ⟨hc, hf⟩ := not_or.1 (mt List.mem_cons.2 hfront)
    rw [List.cons_append, blankParens, if_neg Bool.false_ne_true, if_neg (Ne.symm hc), ih hf]
    rfl

theorem blankParens_unclosed {comment : List Char} (hcomment : ')' ∉ comment) :
    blankParens true comment = [] := by
  induction comment with
  | nil => rfl
  | cons c comment ih =>
    obtain ⟨hc, hrest⟩ := not_or.1 (mt List.mem_cons.2 hcomment)
    rw [blankParens, if_pos rfl, bne_iff_ne.2 (Ne.symm hc), ih hrest]

theorem blankParens_closed {comment : List Char} (hcomment : ')' ∉ comment) (cs : List Char) :
    blankParens true (comment ++ ')' :: cs) = blankParens false cs := by
  induction comment with
  | nil => rfl
  | cons c comment ih =>
    obtain ⟨hc, hrest⟩ := not_or.1 (mt List.mem_cons.2 hcomment)
    rw [List.cons_append, blankParens, if_pos rfl, bne_iff_ne.2 (Ne.symm hc), ih hrest]

theorem blankParens_of_uncommented {cs ds : List Char} (h : Uncommented cs ds) :
    blankParens false cs = ds := by
  induction h with
  | @plain cs hcs =>
    have happend := blankParens_append hcs []
    rwa [List.append_nil, blankParens, List.append_nil] at happend
  | closed hfront hcomment hrest ih =>
    rw [List.append_assoc, blankParens_append hfront, List.cons_append, blankParens,
      if_neg Bool.false_ne_true, if_pos rfl, blankParens_closed hcomment, ih]
  | unclosed hfront hcomment =>
    rw [blankParens_append hfront, blankParens, if_neg Bool.false_ne_true, if_pos rfl,
      blankParens_unclosed hcomment]

/-- Outside a comment the text is read as it is to be. Inside one, it is read so from its end on, if
there is an end. -/
theorem uncommented_blankParens (cs : List Char) :
    Uncommented cs (blankParens false cs) ∧
      (')' ∉ cs ∨ ∃ comment rest, cs = comment ++ ')' :: rest ∧ ')' ∉ comment ∧
        Uncommented rest (blankParens false rest)) := by
  -- Both are shown at once, since a parenthesis leads from the outside in and back.
  induction cs with
  | nil => exact ⟨.plain (List.not_mem_nil), .inl List.not_mem_nil⟩
  | cons c cs ih =>
    obtain ⟨houtside, hinside⟩ := ih
    constructor
    · by_cases hc : c = '('
      · subst hc
        obtain hopen | ⟨comment, rest, rfl, hcomment, hrest⟩ := hinside
        · rw [blankParens, if_neg Bool.false_ne_true, if_pos rfl, blankParens_unclosed hopen]
          show Uncommented ([] ++ '(' :: cs) ([] ++ [' '])
          exact .unclosed List.not_mem_nil hopen
        · rw [blankParens, if_neg Bool.false_ne_true, if_pos rfl, blankParens_closed hcomment]
          show Uncommented ([] ++ '(' :: comment ++ ')' :: rest) ([] ++ ' ' :: _)
          exact .closed List.not_mem_nil hcomment hrest
      · rw [blankParens, if_neg Bool.false_ne_true, if_neg hc]
        exact houtside.cons hc
    · by_cases hc : c = ')'
      · subst hc
        exact .inr ⟨[], cs, rfl, List.not_mem_nil, houtside⟩
      · obtain hopen | ⟨comment, rest, rfl, hcomment, hrest⟩ := hinside
        · exact .inl (by simpa [hopen] using Ne.symm hc)
        · exact .inr ⟨c :: comment, rest, rfl, by simpa [hcomment] using Ne.symm hc, hrest⟩

theorem uncommented_iff {cs ds : List Char} : Uncommented cs ds ↔ blankParens false cs = ds :=
  ⟨blankParens_of_uncommented, fun h => h ▸ (uncommented_blankParens cs).1⟩

/-- The body of a line that is neither blank nor opened by a comment: the trimmed line up to its
first semicolon, without the comments in parentheses, trimmed again. -/
def HasBody (line body : List Char) : Prop :=
  trim line ≠ [] ∧ (trim line).head? ≠ some ';' ∧ (trim line).head? ≠ some '(' ∧
    ∃ code, Uncommented ((trim line).takeWhile (· != ';')) code ∧ body = trim code

theorem body?_eq_some_iff {line body : List Char} : body? line = some body ↔ HasBody line body := by
  unfold body? HasBody stripComments
  simp only [uncommented_iff, exists_eq_left']
  split
  · simp [*]
  · simp [*]
  · simp [*]
  · -- The last arm of the match says by its negations what the line does not start with.
    rename_i hnil hsemicolon hparen
    have hhead (c : Char) (hc : ∀ tail, trim line = c :: tail → False) :
        (trim line).head? ≠ some c := fun h => by
      obtain ⟨tail, htail⟩ := List.head?_eq_some_iff.1 h
      exact hc tail htail
    rw [Option.some_inj, eq_comm]
    exact ⟨fun h => ⟨hnil, hhead ';' hsemicolon, hhead '(' hparen, h⟩, fun h => h.2.2.2⟩

/-! ### Motion words -/

/-- The motion word in letters for a kind of motion. -/
def name : MoveKind → List Char
  | .rapid => "RAPID".toList
  | .feed => "FEED".toList

/-- The motion words with digits for a kind of motion. -/
def codes : MoveKind → List (List Char)
  | .rapid => ["G0".toList, "G00".toList]
  | .feed => ["G1".toList, "G01".toList]

/-- The body opens with a motion word of the kind, in any letter case, and `rest` follows. A word in
letters ends at a blank or at the end of the body, one with digits also before a letter. -/
inductive Opens (kind : MoveKind) (rest : List Char) : List Char → Prop
  | name {token : List Char} (htoken : upper token = name kind)
      (hrest : ∀ c ∈ rest.head?, isBlank c = true) : Opens kind rest (token ++ rest)
  | code {token : List Char} (htoken : upper token ∈ codes kind)
      (hrest : ∀ c ∈ rest.head?, isBlank c = true ∨ isAsciiLetter c = true) :
      Opens kind rest (token ++ rest)

/-- The motion words in the order in which they are tried are those of the grammar. -/
theorem spelling_of_mem_motionWords :
    ∀ w ∈ motionWords, (w.isName = true ∧ w.spelling = name w.kind) ∨
      (w.isName = false ∧ w.spelling ∈ codes w.kind) := by
  decide

theorem exists_name (kind : MoveKind) :
    ∃ w ∈ motionWords, w.kind = kind ∧ w.isName = true ∧ w.spelling = name kind := by
  cases kind <;> decide

theorem exists_code (kind : MoveKind) :
    ∀ spelling ∈ codes kind, ∃ w ∈ motionWords, w.kind = kind ∧ w.isName = false ∧
      w.spelling = spelling := by
  cases kind <;> decide

/-- No word begins one that is tried after it, and where it is the other way round, a digit follows
the shorter word. -/
theorem motionWords_pairwise :
    motionWords.Pairwise fun v w => ¬ v.spelling <+: w.spelling ∧
      (w.spelling <+: v.spelling →
        (v.spelling.drop w.spelling.length).head? ∈ [some '0', some '1']) := by
  decide

theorem endsBefore_iff (w : MotionWord) (rest : List Char) :
    w.endsBefore rest = true ↔
      ∀ c ∈ rest.head?, isBlank c = true ∨ isAsciiLetter c = true ∧ w.isName = false := by
  cases rest with
  | nil => simp [MotionWord.endsBefore]
  | cons c rest => simp [MotionWord.endsBefore]

/-- A digit ends no motion word. -/
theorem endsBefore_digit {w : MotionWord} {c : Char} (hc : c = '0' ∨ c = '1') (rest : List Char) :
    w.endsBefore (c :: rest) = false := by
  have hblank : isBlank c = false := by rcases hc with rfl | rfl <;> decide
  have hletter : isAsciiLetter c = false := by rcases hc with rfl | rfl <;> decide
  rw [MotionWord.endsBefore, hblank, hletter]
  rfl

theorem opens_iff {kind : MoveKind} {body rest : List Char} :
    Opens kind rest body ↔ ∃ w ∈ motionWords, w.kind = kind ∧ w.endsBefore rest = true ∧
      afterWord? w.spelling body = some rest := by
  simp only [afterWord?_eq_some_iff, endsBefore_iff]
  constructor
  · -- A word in letters ends at a blank only, a code also before a letter, just as `endsBefore` has
    -- it.
    rintro (⟨htoken, hrest⟩ | ⟨htoken, hrest⟩)
    · obtain ⟨w, hw, hk, hname, hspelling⟩ := exists_name kind
      exact ⟨w, hw, hk, fun c hc => .inl (hrest c hc), _, rfl, htoken.trans hspelling.symm⟩
    · obtain ⟨w, hw, hk, hname, hspelling⟩ := exists_code kind _ htoken
      refine ⟨w, hw, hk, fun c hc => ?_, _, rfl, hspelling.symm⟩
      exact (hrest c hc).imp_right fun h => ⟨h, hname⟩
  · rintro ⟨w, hw, rfl, hends, token, rfl, htoken⟩
    obtain ⟨hname, hspelling⟩ | ⟨-, hspelling⟩ := spelling_of_mem_motionWords w hw
    · refine .name (htoken.trans hspelling) fun c hc => ?_
      exact (hends c hc).resolve_right fun h => by rw [hname] at h; exact Bool.noConfusion h.2
    · refine .code (htoken ▸ hspelling) fun c hc => ?_
      exact (hends c hc).imp_right And.left

/-- A word that is tried after another one that fits does not end where it may. -/
theorem endsBefore_of_later {before after : List MotionWord} {v w : MotionWord}
    {body rest rest' : List Char}
    (hwords : motionWords = before ++ v :: after) (hw : w ∈ after)
    (hv : afterWord? v.spelling body = some rest') (hfit : afterWord? w.spelling body = some rest) :
    w.endsBefore rest = false := by
  have hpairwise := motionWords_pairwise
  rw [hwords] at hpairwise
  obtain ⟨hnot, hdigit⟩ := List.rel_of_pairwise_cons (List.pairwise_append.1 hpairwise).2.1 hw
  obtain ⟨token, hbody, htoken⟩ := afterWord?_eq_some_iff.1 hfit
  obtain ⟨token', hbody', htoken'⟩ := afterWord?_eq_some_iff.1 hv
  have hcapitals : w.spelling ++ upper rest = v.spelling ++ upper rest' := by
    rw [← htoken, ← htoken', upper, upper, upper, upper, ← List.map_append, ← List.map_append,
      ← hbody, hbody']
  -- The two words lie on one another, so the shorter one begins the other.
  obtain ⟨t, ht⟩ : w.spelling <+: v.spelling :=
    (List.prefix_or_prefix_of_prefix (List.prefix_append w.spelling (upper rest))
      (hcapitals ▸ List.prefix_append v.spelling (upper rest'))).resolve_right hnot
  cases t with
  | nil =>
    rw [List.append_nil] at ht
    exact absurd (ht ▸ List.prefix_rfl) hnot
  | cons d ds =>
    have hhead := hdigit ⟨_, ht⟩
    rw [← ht, List.drop_left] at hhead
    have hd : d = '0' ∨ d = '1' := by simpa using hhead
    rw [← ht, List.append_assoc, List.append_cancel_left_eq] at hcapitals
    obtain ⟨c, cs, rfl, hc, -⟩ := List.map_eq_cons_iff.1 hcapitals
    have hcd : c = d := eq_of_toUpper_eq (by rcases hd with rfl | rfl <;> decide) hc
    exact endsBefore_digit (hcd ▸ hd) cs

/-- **The reader of motion words follows the grammar.** -/
theorem splitMotion?_eq_some_iff {kind : MoveKind} {body rest : List Char} :
    splitMotion? body = some (kind, rest) ↔ Opens kind rest body := by
  rw [opens_iff, splitMotion?]
  cases hfirst : motionWords.findSome? fun w => (afterWord? w.spelling body).map (w, ·) with
  | none =>
    have hnone := List.findSome?_eq_none_iff.1 hfirst
    constructor
    · intro h
      cases h
    · rintro ⟨w, hw, -, -, hfit⟩
      rw [Option.map_eq_none_iff.1 (hnone w hw)] at hfit
      cases hfit
  | some found =>
    obtain ⟨before, v, after, hwords, hv, hbefore⟩ := List.findSome?_eq_some_iff.1 hfirst
    obtain ⟨rest', hfit', rfl⟩ := Option.map_eq_some_iff.1 hv
    have hmem : v ∈ motionWords := hwords ▸ List.mem_append_right _ List.mem_cons_self
    constructor
    · intro h
      dsimp only at h
      split at h
      · rename_i hends
        obtain ⟨rfl, rfl⟩ := Prod.mk.inj (Option.some.inj h)
        exact ⟨v, hmem, rfl, hends, hfit'⟩
      · cases h
    · -- A word that fits is tried before the first that fits, is that word, or is tried later.
      rintro ⟨w, hw, rfl, hends, hfit⟩
      rw [hwords] at hw
      obtain hw | hw := List.mem_append.1 hw
      · rw [Option.map_eq_none_iff.1 (hbefore w hw)] at hfit
        cases hfit
      obtain rfl | hw := List.mem_cons.1 hw
      · obtain rfl := Option.some.inj (hfit'.symm.trans hfit)
        exact if_pos hends
      · rw [endsBefore_of_later hwords hw hfit' hfit] at hends
        cases hends

example : splitMotion? "g01x2".toList = some (.feed, "x2".toList) := by decide

example : splitMotion? "G000 X2".toList = none := by decide

/-! ### Words and moves -/

/-- The values that words give to an address, in order. -/
def valuesOf (address : Char) (words : List Word) : List Float :=
  (words.filter (·.address == address)).map (·.value)

theorem firstValue?_eq (address : Char) (words : List Word) :
    firstValue? address words = (valuesOf address words).head? := by
  rw [firstValue?, valuesOf, List.head?_map, List.head?_filter]

theorem firstFeed?_eq (words : List Word) :
    firstFeed? words = ((valuesOf 'F' words).filter (· ≥ 0.0)).head? := by
  rw [firstFeed?, valuesOf, List.filter_map, List.head?_map, List.filter_filter, List.head?_filter]
  congr 2
  funext w
  rw [Bool.and_comm]
  rfl

/-- The line commands the move, whose feed is the one of its own line. The body of the line opens
with a motion word for the kind of the move. The first value that the words behind it give to an
axis is the move's on that axis, and the first feed rate there that is not negative is its feed. -/
def Commands (line : List Char) (m : Move) : Prop :=
  ∃ body rest, HasBody line body ∧ Opens m.kind rest body ∧
    m.x = (valuesOf 'X' (Word.scan rest)).head? ∧
    m.y = (valuesOf 'Y' (Word.scan rest)).head? ∧
    m.z = (valuesOf 'Z' (Word.scan rest)).head? ∧
    m.feed = ((valuesOf 'F' (Word.scan rest)).filter (· ≥ 0.0)).head?

/-- The move that a line commands by itself, if it commands one. -/
def command? (line : List Char) : Option Move :=
  (body? line).bind motion?

/-- **A line commands what the grammar says and nothing else.** -/
theorem command?_eq_some_iff {line : List Char} {m : Move} :
    command? line = some m ↔ Commands line m := by
  simp only [command?, Option.bind_eq_some_iff, body?_eq_some_iff, motion?, Option.map_eq_some_iff,
    Prod.exists, splitMotion?_eq_some_iff, Commands, ← firstValue?_eq, ← firstFeed?_eq]
  constructor
  · rintro ⟨body, hbody, kind, rest, hopens, rfl⟩
    exact ⟨body, rest, hbody, hopens, rfl, rfl, rfl, rfl⟩
  · rintro ⟨body, rest, hbody, hopens, hx, hy, hz, hfeed⟩
    refine ⟨body, hbody, m.kind, rest, hopens, ?_⟩
    rw [ofWords, ← hx, ← hy, ← hz, ← hfeed]

end Block

namespace Toolpath

/-- The moves of a text are commanded by its lines, in order, and inherit feed rates from each
other. -/
theorem moves_eq_inheritFeeds (text : String) :
    (interpret text).moves =
      inheritFeeds none ((lines text.toList).filterMap Block.command?) := by
  show inheritFeeds none ((bodies text.toList).filterMap Block.motion?) = _
  rw [bodies, List.filterMap_filterMap]
  rfl

/-- **The line grammar is exactly what is recognised.** The moves of a text are those that its lines
command, in order and at most one for each line, where a feed move that is commanded without a feed
rate has the last one of the feed moves before it. -/
theorem moves_follow_grammar (text : String) :
    ∃ command? : List Char → Option Move,
      (∀ line m, command? line = some m ↔ Block.Commands line m) ∧
      let commands := (lines text.toList).filterMap command?
      (interpret text).moves = commands.mapIdx fun i m =>
        m.orFeed (((commands.take i).filter (·.kind == .feed)).filterMap (·.feed)).getLast? := by
  refine ⟨Block.command?, fun line m => Block.command?_eq_some_iff, ?_⟩
  intro commands
  rw [moves_eq_inheritFeeds, inheritFeeds_eq_mapIdx]
  simp only [feedAfter, filterMap_cuttingFeed?, Option.or_none]
  rfl

end Toolpath

end MachiningViewer
