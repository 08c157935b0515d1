import DriverExtension.Toml.Node
import DriverExtension.Toml.Scalar

namespace DriverExtension.Toml

/-!
# Keys and values of TOML

A key is a path of names joined by dots.  Values nest by arrays and inline tables; an inline table
is complete where it ends, and nothing can be added to it later.
-/

/-- Keys have fewer names and values fewer levels than this. -/
def nestingLimit : Nat := 80

/-- A key or a value that is nested too deeply. -/
def tooDeep (s : List Char) : Fault := .because s "recursion limit exceeded"

/-- A closing bracket. -/
def close (bracket : Char) (name : String) (s : List Char) : Read Unit :=
  labelled name (expecting [s!"`{bracket}`"] (hard (symbol bracket s)))

/-! ### Keys -/

/-- One name of a key. -/
def name (s : List Char) : Read Name :=
  let named (rest : Rest (List Char)) : Rest Name :=
    (⟨String.ofList rest.1, .between s rest.2⟩, rest.2)
  match s with
  | '"' :: rest => (basic rest).map named
  | '\x27' :: rest => (literal rest).map named
  | _ =>
    match s.span isBare with
    | ([], _) => nothing s
    | found => .ok (named found)

/-- A name with blanks around it. -/
def spacedName (s : List Char) : Except Fault (Rest Name) := do
  let (n, rest) ← name (skipBlanks s)
  return (n, skipBlanks rest)

/-- The names after a first one, each behind a dot; `fuel` bounds their number. -/
def moreNames : Nat → List Char → Read (List Name)
  | fuel + 1, '.' :: rest =>
    match spacedName rest with
    | .ok (n, rest) => become (n :: ·) (moreNames fuel rest)
    | .error f => if f.soft then .ok ([], '.' :: rest) else .error f
  | _, s => .ok ([], s)

/-- A key with blanks around it. -/
def key (s : List Char) : Except Fault (Rest Key) := do
  let (first, rest) ← labelled "key" (spacedName s)
  let (more, rest) ← labelled "key" (moreNames rest.length rest)
  if nestingLimit ≤ more.length + 1 then throw (tooDeep s)
  return (.ofNames first more, rest)

/-- A key and its value; `value` reads values. -/
def keyed (value : List Char → Read Node) (s : List Char) : Except Fault (Rest (Key × Node)) := do
  let (k, s) ← key s
  let (_, s) ← expecting ["`.`", "`=`"] (hard (symbol '=' s))
  let (x, rest) ← hard (value (skipBlanks s))
  return ((k, x), rest)

/-! ### Arrays and inline tables -/

/-- An item of an array with blanks, line breaks and comments around it. -/
def item (value : List Char → Read Node) (s : List Char) : Except Fault (Rest Node) := do
  let (x, rest) ← value (← skipTrivia false s)
  return (x, ← skipTrivia false rest)

/-- The items of an array, as far as there are any; `fuel` bounds their number. -/
def items (value : List Char → Read Node) : Nat → List Char → Read (List Node)
  | 0, s => .ok ([], s)
  | fuel + 1, s =>
    match item value s with
    | .ok (x, ',' :: rest) => become (x :: ·) (items value fuel rest)
    | .ok (x, rest) => .ok ([x], rest)
    | .error f => if f.soft then .ok ([], s) else .error f

/-- The array whose opening bracket has been read; `s` is where it begins. -/
def array (value : List Char → Read Node) (s inside : List Char) : Except Fault (Rest Node) := do
  let (xs, rest) ← items value inside.length inside
  let (_, rest) ← close ']' "array" (← (skipTrivia false rest).mapError .hard)
  return (.array xs (.between s rest), rest)

/-- The members of an inline table, as far as there are any; `fuel` bounds their number. -/
def inlineMembers (value : List Char → Read Node) : Nat → List Char → Read (List (Key × Node))
  | 0, s => .ok ([], s)
  | fuel + 1, s =>
    match keyed value s with
    | .ok (m, rest) =>
      match skipBlanks rest with
      | ',' :: rest =>
        match inlineMembers value fuel rest with
        | .ok ([], _) => .ok ([m], ',' :: rest)
        | r => become (m :: ·) r
      | rest => .ok ([m], rest)
    | .error f => if f.soft then .ok ([], s) else .error f

/-- The table that members make. -/
def gather : List (Key × Node) → Table Node → Except Conflict (Table Node)
  | [], t => .ok t
  | (k, x) :: rest, t => do gather rest (← t.assign .inlineKey none k x)

/-- The inline table whose opening brace has been read; `s` is where it begins. -/
def inlineTable (value : List Char → Read Node) (s inside : List Char) :
    Except Fault (Rest Node) := do
  let (ms, rest) ← inlineMembers value inside.length inside
  let t ← (gather ms ⟨.explicit, none, []⟩).mapError fun c => (Fault.because inside c.message).hard
  let (_, rest) ← close '\x7d' "inline table" (skipBlanks rest)
  return (.inline { t with span := some (.between s rest) }, rest)

/-! ### Values -/

/-- What cannot begin a value. -/
def noValue (s : List Char) : Fault :=
  ((Fault.here s).labelled "string").expecting ["`\"`", "`\x27`"]

/-- A string, a number, a date or a truth value. -/
def scalar (s : List Char) : Read Document :=
  match s with
  | [] => nothing []
  | '"' :: _ | '\x27' :: _ => become (fun t => .string (String.ofList t)) (anyString s)
  | 't' :: 'r' :: 'u' :: 'e' :: rest => .ok (.bool true, rest)
  | 'f' :: 'a' :: 'l' :: 's' :: 'e' :: rest => .ok (.bool false, rest)
  | 't' :: _ | 'f' :: _ => .error (noValue s).hard
  | 'i' :: 'n' :: 'f' :: rest => .ok (.float (.infinite false), rest)
  | 'n' :: 'a' :: 'n' :: rest => .ok (.float .nan, rest)
  | '_' :: _ => .error (((Fault.here s).labelled "integer").expecting ["leading digit"])
  | '.' :: _ =>
    .error (((Fault.here s).labelled "floating-point number").expecting ["leading digit"])
  | c :: _ => if c.isDigit || c = '+' || c = '-' then number s else .error (noValue s)

/-- A value; `depth` levels may still be opened. -/
def value (depth : Nat) (s : List Char) : Read Node :=
  match s, depth with
  | '[' :: rest, depth + 1 => array (value depth) s rest
  | '\x7b' :: rest, depth + 1 => inlineTable (value depth) s rest
  | '[' :: _, 0 | '\x7b' :: _, 0 => .error (tooDeep s).hard
  | _, _ => (scalar s).map fun (d, rest) => (.scalar d (.between s rest), rest)

end DriverExtension.Toml
