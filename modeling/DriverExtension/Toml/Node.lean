import DriverExtension.Document.Basic
import DriverExtension.Toml.Quoted

namespace DriverExtension.Toml

/-!
# What a TOML text says

A text describes a tree of tables, arrays and scalars; every part knows where it stands.  A table is
opened once, by a header or between braces.  One that only stands on the way of other headers may
still be opened; one that dotted keys have made may only be added to by dotted keys.

* `Node`, `Table`  — the tree; `Table.document` leaves out where its parts stand;
* `Conflict`       — what a text says twice, or of something that is no table;
* `Table.update`   — changes the table that a path leads to;
* `Table.assign`   — gives a value to a key.
-/

/-- A name, and where it stands. -/
structure Name where
  text : String
  span : Span
deriving DecidableEq, Repr

/-- A path of names and a last name. -/
structure Key where
  path : List Name
  name : Name
deriving DecidableEq, Repr

namespace Key

/-- The key of a row of names. -/
def ofNames (first : Name) : List Name → Key
  | [] => ⟨[], first⟩
  | second :: more =>
    let k := ofNames second more
    ⟨first :: k.path, k.name⟩

/-- The texts of the path. -/
def way (k : Key) : List String := k.path.map (·.text)

end Key

/-- How a table came about. -/
inductive TableKind where
  /-- By a header of its own, between braces, or as the root. -/
  | explicit
  /-- On the path of another header. -/
  | implicit
  /-- On the path of a dotted key. -/
  | dotted
deriving DecidableEq, Repr

/-- A table with members of some type, in the order of the text. -/
structure Table (ν : Type) where
  kind : TableKind
  /-- Where it stands, if it was opened. -/
  span : Option Span
  members : List (Name × ν)

/-- A part of a text. -/
inductive Node where
  | scalar (d : Document) (span : Span)
  | array (items : List Node) (span : Span)
  /-- A table between braces, or one that dotted keys between braces have made. -/
  | inline (t : Table Node)
  | table (t : Table Node)
  /-- An array of tables that headers have opened; the last one may still grow. -/
  | tables (before : List (Table Node)) (last : Table Node)

/-! ### Documents -/

mutual

/-- The document of a node. -/
def Node.document : Node → Document
  | .scalar d _ => d
  | .array items _ => .array (Node.documents items)
  | .inline t => t.document
  | .table t => t.document
  | .tables before last => .array (Table.documents before ++ [last.document])

/-- The documents of nodes. -/
def Node.documents : List Node → List Document
  | [] => []
  | x :: rest => x.document :: Node.documents rest

/-- The document of a table. -/
def Table.document : Table Node → Document
  | ⟨_, _, members⟩ => .object (memberDocuments members)

/-- The documents of tables. -/
def Table.documents : List (Table Node) → List Document
  | [] => []
  | t :: rest => t.document :: Table.documents rest

/-- The documents of members. -/
def memberDocuments : List (Name × Node) → List (String × Document)
  | [] => []
  | (name, x) :: rest => (name.text, x.document) :: memberDocuments rest

end

/-- What a node is called. -/
def Node.form : Node → String
  | .scalar (.string _) _ => "string"
  | .scalar (.int _) _ => "integer"
  | .scalar (.float _) _ => "float"
  | .scalar (.bool _) _ => "boolean"
  | .scalar _ _ => "datetime"
  | .array .. => "array"
  | .inline _ => "inline table"
  | .table _ => "table"
  | .tables .. => "array of tables"

/-- Where a node stands. -/
def Node.span? : Node → Option Span
  | .scalar _ span | .array _ span => some span
  | .inline t | .table t => t.span
  | .tables before last =>
    match (before.head?.getD last).span, last.span with
    | some a, some b => some ⟨a.left, b.after⟩
    | _, _ => none

/-! ### Conflicts -/

/-- Why a part of a text cannot stand beside the parts before it. -/
inductive Conflict where
  /-- A name has a meaning already, maybe in a table that is told by its path. -/
  | duplicate (name : String) (table : Option (List String))
  /-- A path leads through something that is no table. -/
  | noTable (path : List String) (form : String)
deriving DecidableEq, Repr

/-- The wording of a conflict. -/
def Conflict.message : Conflict → String
  | .duplicate name none => s!"duplicate key `{name}`"
  | .duplicate name (some []) => s!"duplicate key `{name}` in document root"
  | .duplicate name (some path) =>
    s!"duplicate key `{name}` in table `" ++ ".".intercalate path ++ "`"
  | .noTable path form =>
    "dotted key `" ++ ".".intercalate path ++ s!"` attempted to extend non-table type ({form})"

/-! ### Members -/

/-- What leads to a table. -/
inductive Way where
  | header
  | key
  /-- A key between braces. -/
  | inlineKey
deriving DecidableEq, Repr

/-- The table that is made on the way where there is none. -/
def Way.made : Way → Node
  | .header => .table ⟨.implicit, none, []⟩
  | .key => .table ⟨.dotted, none, []⟩
  | .inlineKey => .inline ⟨.dotted, none, []⟩

namespace Table

variable {ν : Type}

/-- The member of a name. -/
def find? (t : Table ν) (name : String) : Option ν :=
  (t.members.find? (·.1.text = name)).map (·.2)

/-- The table with one more member at its end. -/
def add (t : Table ν) (name : Name) (x : ν) : Table ν :=
  { t with members := t.members ++ [(name, x)] }

/-- The table without the member of a name. -/
def remove (t : Table ν) (name : String) : Table ν :=
  { t with members := t.members.filter (·.1.text ≠ name) }

/-- The table with another value for a name, which is added where it is not there. -/
def put (t : Table ν) (name : Name) (x : ν) : Table ν :=
  if (t.find? name.text).isSome then
    { t with members := t.members.map fun (n, y) => (n, if n.text = name.text then x else y) }
  else t.add name x

/-- The table where it ends no earlier than a node. -/
def upTo (t : Table ν) (x : Node) : Table ν :=
  match t.span, x.span? with
  | some a, some b => { t with span := some ⟨a.left, b.after⟩ }
  | _, _ => t

/-- Changes the table that a path leads to.  Tables on the way are made where they are missing; in
an array of tables the way leads through the last one.  The names in `walked` have led here. -/
def update (way : Way) (f : Table Node → Except Conflict (Table Node)) (walked : List String) :
    List Name → Table Node → Except Conflict (Table Node)
  | [], t => f t
  | name :: path, t => do
    let walked := walked ++ [name.text]
    match (t.find? name.text).getD way.made with
    | .table u =>
      if way = .key && u.kind = .explicit then throw (.duplicate name.text none)
      return t.put name (.table (← update way f walked path u))
    | .inline u =>
      if way ≠ .inlineKey then throw (.noTable walked "inline table")
      if u.kind = .explicit then throw (.duplicate name.text none)
      return t.put name (.inline (← update way f walked path u))
    | .tables before last =>
      return t.put name (.tables before (← update way f walked path last))
    | x => throw (.noTable walked x.form)

/-- Gives a value to a name that has none; `dotted` tells whether a dotted key leads to it. -/
def give (dotted : Bool) (table : Option (List String)) (name : Name) (x : Node)
    (t : Table Node) : Except Conflict (Table Node) :=
  if (t.kind == .dotted) != dotted then .error (.duplicate name.text none)
  else if (t.find? name.text).isSome then .error (.duplicate name.text table)
  else .ok (t.add name x)

/-- Gives a value to a key. -/
def assign (way : Way) (table : Option (List String)) (k : Key) (x : Node) (t : Table Node) :
    Except Conflict (Table Node) :=
  update way (give (!k.path.isEmpty) table k.name x) [] k.path t

end Table
end DriverExtension.Toml
