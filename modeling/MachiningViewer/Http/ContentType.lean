import MachiningViewer.Text.Blank
import MachiningViewer.Text.Charset.Label

/-!
# Content types

The head of an answer may say of what type its body is: a type and a subtype, and after them
parameters, each a name and a value. Only the character set is looked at, and it counts only where
the whole content type keeps to its grammar.
-/

namespace MachiningViewer.Http.ContentType

/-- A character of a name. -/
def isToken (c : Char) : Bool :=
  Text.isAsciiLetter c || Text.isAsciiDigit c || "!#$%&'*+-.^_\x60|~".toList.contains c

/-- A character that may stand between quotation marks. -/
def isQuotable (c : Char) : Bool :=
  31 < c.toNat && c.toNat ≠ 127

/-- The longest beginning of names' characters, and what follows it. -/
def token (cs : List Char) : List Char × List Char :=
  (cs.takeWhile isToken, cs.dropWhile isToken)

theorem length_token_le (cs : List Char) : (token cs).2.length ≤ cs.length :=
  (List.dropWhile_sublist isToken).length_le

/-- What follows a value: the end, or a semicolon and more. -/
def afterValue? : List Char → Option (List Char)
  | [] => some []
  | ';' :: rest => some rest
  | _ => none

/-- A value between quotation marks, of which the first has been read. It has at least one
character, which may be a quotation mark. -/
def quotedValue? : List Char → Option (List Char × List Char)
  | [] => none
  | c :: cs =>
    let body := cs.takeWhile fun d => d != '"' && isQuotable d
    match cs.dropWhile fun d => d != '"' && isQuotable d with
    | '"' :: rest =>
      if isQuotable c then (afterValue? (rest.dropWhile (· == ' '))).map fun r => (c :: body, r)
      else none
    | _ => none

/-- The value of a parameter. One without quotation marks may be empty at the very end only. -/
def value? : List Char → Option (List Char × List Char)
  | '"' :: cs => quotedValue? cs
  | cs =>
    let (v, rest) := token cs
    if v.isEmpty && !rest.isEmpty then none else (afterValue? rest).map fun r => (v, r)

theorem length_afterValue?_le {cs rest : List Char} (h : afterValue? cs = some rest) :
    rest.length ≤ cs.length := by
  unfold afterValue? at h
  split at h <;> simp_all

theorem length_quotedValue?_le {cs v rest : List Char} (h : quotedValue? cs = some (v, rest)) :
    rest.length ≤ cs.length := by
  unfold quotedValue? at h
  split at h
  · simp at h
  · rename_i c cs
    dsimp only at h
    split at h
    · rename_i rest' hd
      split at h
      · obtain ⟨r, hr, he⟩ := Option.map_eq_some_iff.1 h
        obtain ⟨-, rfl⟩ := Prod.mk.inj he
        have h1 := length_afterValue?_le hr
        have h2 := (List.dropWhile_sublist (l := rest') (· == ' ')).length_le
        have h3 := (List.dropWhile_sublist (l := cs) fun d => d != '"' && isQuotable d).length_le
        rw [hd] at h3
        simp only [List.length_cons] at h3 ⊢
        omega
      · simp at h
    · simp at h

theorem length_value?_le {cs v rest : List Char} (h : value? cs = some (v, rest)) :
    rest.length ≤ cs.length := by
  unfold value? at h
  split at h
  · have := length_quotedValue?_le h
    simp only [List.length_cons]
    omega
  · dsimp only at h
    split at h
    · simp at h
    · obtain ⟨r, hr, he⟩ := Option.map_eq_some_iff.1 h
      obtain ⟨-, rfl⟩ := Prod.mk.inj he
      exact Nat.le_trans (length_afterValue?_le hr) (length_token_le _)

/-- A parameter, and what follows it. -/
def parameter? (cs : List Char) : Option ((String × String) × List Char) :=
  match token cs with
  | ([], _) => none
  | (name, '=' :: rest) =>
    (value? rest).map fun (v, next) => ((String.ofList name, String.ofList v), next)
  | _ => none

theorem length_parameter?_lt {cs rest : List Char} {p : String × String}
    (h : parameter? cs = some (p, rest)) : rest.length < cs.length := by
  have hlen := length_token_le cs
  unfold parameter? at h
  split at h
  · simp at h
  · rename_i name after _ heq
    obtain ⟨⟨v, next⟩, hv, he⟩ := Option.map_eq_some_iff.1 h
    obtain ⟨-, rfl⟩ := Prod.mk.inj he
    have := length_value?_le hv
    rw [heq] at hlen
    simp only [List.length_cons] at hlen
    omega
  · simp at h

/-- The parameters after a semicolon, in order, if all keep to the grammar. -/
def parameters? (cs : List Char) : Option (List (String × String)) :=
  match cs with
  | [] => some []
  | ' ' :: rest => parameters? rest
  | c :: tail =>
    match _h : parameter? (c :: tail) with
    | none => none
    | some (p, next) => (parameters? next).map (p :: ·)
termination_by cs.length
decreasing_by
  · simp
  · exact length_parameter?_lt _h

/-- The parameters of a content type that keeps to the grammar. -/
def parametersOf? (cs : List Char) : Option (List (String × String)) :=
  let (kind, rest) := token cs
  match kind, rest with
  | _ :: _, '/' :: rest =>
    let (subtype, rest) := token rest
    match rest with
    | [] => some []
    | ';' :: rest => if subtype.isEmpty then none else parameters? rest
    | _ => none
  | _, _ => none

/-- The character set that a content type names. It is UTF-8 where none is named that is known. -/
def charset (contentType : Option String) : Text.Charset :=
  let named : Option Text.Charset := do
    let cs := (← contentType).toList
    guard (cs.all fun c => c == '\t' || (31 < c.toNat && c.toNat < 127))
    let parameters ← parametersOf? (Text.trim cs)
    let (_, label) ← parameters.find? fun (name, _) => name.map Char.toLower == "charset"
    Text.Charset.ofLabel? label
  named.getD .utf8

end MachiningViewer.Http.ContentType
