import DriverExtension.Toml.Value

namespace DriverExtension.Toml

/-!
# TOML texts

A text is a row of statements, a line each: headers open tables, and keys get values in the table
that is open.  `parse` performs the statements in order and gives the root table.
-/

/-- The tables so far. -/
structure Building where
  root : Table Node
  /-- The way to the table that is open. -/
  path : List Name

namespace Building

/-- Nothing said yet; the root table is open. -/
def start : Building := ⟨⟨.explicit, none, []⟩, []⟩

/-- A header whose name has a meaning already. -/
def reopened (k : Key) : Conflict :=
  .duplicate (String.ofList (writtenName k.name.text.toList)) (some k.way)

/-- The table of a name, opened by a header.  One on the way of other headers keeps its members and
moves to the end. -/
def opened (k : Key) (span : Span) (t : Table Node) : Except Conflict (Table Node) :=
  match t.find? k.name.text with
  | none => .ok (t.add k.name (.table ⟨.explicit, some span, []⟩))
  | some (.table ⟨.implicit, _, members⟩) =>
    .ok ((t.remove k.name.text).add k.name (.table ⟨.explicit, some span, members⟩))
  | some _ => .error (reopened k)

/-- The array of tables of a name with one more table, opened by a header. -/
def extended (k : Key) (span : Span) (t : Table Node) : Except Conflict (Table Node) :=
  let fresh : Table Node := ⟨.explicit, some span, []⟩
  match t.find? k.name.text with
  | none => .ok (t.add k.name (.tables [] fresh))
  | some (.tables before last) => .ok (t.put k.name (.tables (before ++ [last]) fresh))
  | some _ => .error (reopened k)

/-- Performs a header; `inArray` tells whether it opens a table of an array. -/
def openTable (inArray : Bool) (k : Key) (span : Span) (b : Building) :
    Except Conflict Building := do
  let made := if inArray then extended k span else opened k span
  return ⟨← b.root.update .header made [] k.path, k.path ++ [k.name]⟩

/-- Gives a value to a key of the open table. -/
def assign (k : Key) (x : Node) (b : Building) : Except Conflict Building := do
  let table := some (b.path.map (·.text))
  let given (t : Table Node) : Except Conflict (Table Node) := (t.upTo x).assign .key table k x
  return { b with root := ← b.root.update .header given [] b.path }

end Building

/-- The end of a line after a statement. -/
def endLine (s : List Char) : Except Fault (List Char) :=
  (skipLineEnd s).mapError fun f => (f.expecting ["newline", "`#`"]).hard

/-- The closing brackets of a header. -/
def closeHeader (inArray : Bool) (s : List Char) : Read Unit :=
  match inArray, s with
  | false, ']' :: rest => .ok ((), rest)
  | true, ']' :: ']' :: rest => .ok ((), rest)
  | _, _ => expecting ["`.`", if inArray then "`]]`" else "`]`"] (hard (nothing s))

/-- The header whose opening brackets have been read; `s` is where it begins. -/
def header (inArray : Bool) (b : Building) (s inside : List Char) :
    Except Fault (Rest Building) := do
  let (k, rest) ← key inside
  let (_, rest) ← closeHeader inArray rest
  let next ← endLine rest
  let b ← (b.openTable inArray k (.between s rest)).mapError fun c => .because s c.message
  return (b, next)

/-- A key with its value on a line. -/
def assignment (b : Building) (s : List Char) : Except Fault (Rest Building) := do
  let ((k, x), rest) ← keyed (value (nestingLimit - 1)) s
  let next ← endLine rest
  let b ← (b.assign k x).mapError fun c => .because s c.message
  return (b, next)

/-- A statement, performed. -/
def statement (b : Building) (s : List Char) : Read Building :=
  match s with
  | ['['] => labelled "table header" (nothing s)
  | '[' :: '[' :: rest => labelled "table header" (header true b s rest)
  | '[' :: rest => labelled "table header" (header false b s rest)
  | _ => assignment b s

/-- Performs the statements of a text; `fuel` bounds their number. -/
def statements : Nat → Building → List Char → Except Fault Building
  | 0, b, _ => .ok b
  | fuel + 1, b, s =>
    match skipBlanks s with
    | [] => .ok b
    | '\n' :: rest => statements fuel b rest
    | '\r' :: '\n' :: rest => statements fuel b rest
    | '\r' :: rest => .error (.here ('\r' :: rest))
    | '#' :: rest => do statements fuel b (← skipLineEnd ('#' :: rest))
    | c :: rest => do
      let (b, rest) ← statement b (c :: rest)
      statements fuel b rest

/-- A text without the mark that may stand at its very beginning. -/
def dropMark : List Char → List Char
  | '\ufeff' :: rest => rest
  | s => s

/-- The root table of a text. -/
def parse (text : String) : Except Fault (Table Node) := do
  let s := dropMark text.toList
  return (← statements (s.length + 1) .start s).root

end DriverExtension.Toml
