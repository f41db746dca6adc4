/-!
# Values and tables

What a TOML document holds is a `Value`. The entries of a table stand in the order in which they
were defined, and no two have the same key.

The tables of a document are built from its pairs and headers in the order in which they stand. What
may still be added to a table depends on how it came into being (`Origin`): one that was defined, by
a header or by braces, is not defined again, and one that came of the points in a key grows by such
keys only. Whatever would break these rules, or define a key twice, is refused.
-/

namespace MachiningViewer.Toml

/-- A value of a TOML document. -/
inductive Value where
  | string (s : String)
  | integer (i : Int)
  | double (x : Float)
  | boolean (b : Bool)
  /-- A date, a time, or both, as it is written. -/
  | moment (text : String)
  | array (items : List Value)
  | table (entries : List (String × Value))
  deriving Repr, Inhabited

/-! ### Building tables -/

/-- How a table came into being. -/
inductive Origin where
  /-- By a header of its own, or by braces. -/
  | defined
  /-- On the way of another table's header. -/
  | passed
  /-- By the points in a key. -/
  | dotted
  deriving DecidableEq, Repr

/-- What a key stands for while tables are built. -/
inductive Node where
  | value (v : Value)
  | table (origin : Origin) (entries : List (String × Node))
  /-- Several tables under one header, the last one first. -/
  | tables (elements : List (List (String × Node)))

/-- The entries of a table while it is built. -/
abbrev Entries := List (String × Node)

namespace Entries

/-- Puts another node in the place of the one with a key. -/
def replace (key : String) (node : Node) (es : Entries) : Entries :=
  es.map fun e => if e.1 = key then (key, node) else e

/-- Changes the table at the end of a path by `f`. Tables that are missing on the way are made. Keys
with points (`dotted`) do not lead into a table that has been defined. -/
def changeAt (dotted : Bool) (f : Origin → Entries → Option Entries) :
    List String → Origin → Entries → Option Entries
  | [], origin, es => f origin es
  | key :: path, _, es =>
    match es.lookup key with
    | none => do
      let origin := if dotted then Origin.dotted else Origin.passed
      let inner ← changeAt dotted f path origin []
      pure (es ++ [(key, .table origin inner)])
    | some (.value _) => none
    | some (.table origin inner) =>
      if dotted && origin == .defined then none
      else do
        let inner ← changeAt dotted f path origin inner
        pure (replace key (.table origin inner) es)
    | some (.tables []) => none
    | some (.tables (last :: earlier)) => do
      let last ← changeAt dotted f path .defined last
      pure (replace key (.tables (last :: earlier)) es)

/-- Adds a pair. The path of a key with points has to end in a table that came of such points. -/
def addPair (path : List String) (key : String) (v : Value) (es : Entries) : Option Entries :=
  changeAt true (fun origin inner =>
    if (origin == .dotted) == path.isEmpty then none
    else if (inner.lookup key).isSome then none
    else some (inner ++ [(key, .value v)])) path .defined es

/-- Defines a table by its header. -/
def define (path : List String) (key : String) (es : Entries) : Option Entries :=
  changeAt false (fun _ inner =>
    match inner.lookup key with
    | none => some (inner ++ [(key, .table .defined [])])
    | some (.table .passed own) => some (inner.filter (·.1 ≠ key) ++ [(key, .table .defined own)])
    | some _ => none) path .defined es

/-- Adds a table to those with the same header. -/
def append (path : List String) (key : String) (es : Entries) : Option Entries :=
  changeAt false (fun _ inner =>
    match inner.lookup key with
    | none => some (inner ++ [(key, .tables [[]])])
    | some (.tables elements) => some (replace key (.tables ([] :: elements)) inner)
    | some _ => none) path .defined es

end Entries

/-! ### What is built -/

mutual

/-- The value of a node. -/
def Node.finish : Node → Value
  | .value v => v
  | .table _ entries => .table (finishEntries entries)
  | .tables elements => .array (finishElements elements [])

/-- The values of entries. -/
def finishEntries : List (String × Node) → List (String × Value)
  | [] => []
  | (key, node) :: es => (key, node.finish) :: finishEntries es

/-- The tables under one header, of which the last one is given first, before those in `later`. -/
def finishElements : List (List (String × Node)) → List Value → List Value
  | [], later => later
  | es :: earlier, later => finishElements earlier (.table (finishEntries es) :: later)

end

end MachiningViewer.Toml
