namespace DriverExtension.Toml

/-!
# Faults of form

A reader takes a text and returns what it read together with the text after it, or the fault that it
met.  A place in a text is given by how many characters are left there, so that readers need not
count what they have read.

* `Span`  — a stretch of a text;
* `Fault` — what is wrong at a place, in the terms of TOML;
* `Read`  — the result of a reader; `labelled`, `expecting` and `hard` say more about its fault.
-/

/-- A stretch of a text. -/
structure Span where
  /-- The characters that are left at its beginning. -/
  left : Nat
  /-- The characters that are left after it. -/
  after : Nat
deriving DecidableEq, Repr

/-- The stretch that begins one text and is no longer there in the other. -/
def Span.between (s rest : List Char) : Span := ⟨s.length, rest.length⟩

/-- Why a text is no TOML. -/
structure Fault where
  /-- The characters that are left where the fault is. -/
  left : Nat
  /-- What is not well-formed there. -/
  label : Option String
  /-- What could stand there. -/
  expected : List String
  /-- Why a well-formed part is refused. -/
  cause : Option String
  /-- Whether the text may still be of another form. -/
  soft : Bool
deriving DecidableEq, Repr

namespace Fault

/-- A fault at the beginning of a text. -/
def here (s : List Char) : Fault := ⟨s.length, none, [], none, true⟩

/-- A well-formed part that is refused. -/
def because (s : List Char) (cause : String) : Fault := { here s with cause := some cause }

/-- A number that is out of its range. -/
def outOfRange (s : List Char) : Fault := because s "value is out of range"

/-- Names what is not well-formed, unless something smaller has been named. -/
def labelled (name : String) (f : Fault) : Fault := { f with label := f.label <|> some name }

/-- Adds what could stand there. -/
def expecting (what : List String) (f : Fault) : Fault := { f with expected := f.expected ++ what }

/-- Rules out any other form. -/
def hard (f : Fault) : Fault := { f with soft := false }

/-- The wording of a fault, in lines. -/
def message (f : Fault) : String :=
  "\n".intercalate
    ((f.label.map ("invalid " ++ ·)).toList
      ++ (if f.expected.isEmpty then [] else ["expected " ++ ", ".intercalate f.expected])
      ++ f.cause.toList)

end Fault

/-- What has been read, and the text after it. -/
abbrev Rest (α : Type) := α × List Char

/-- The result of a reader. -/
abbrev Read (α : Type) := Except Fault (Rest α)

variable {α β : Type}

/-- Nothing of the form that is asked for. -/
def nothing (s : List Char) : Read α := .error (.here s)

/-- Changes what has been read. -/
def become (f : α → β) (r : Read α) : Read β := r.map fun (a, rest) => (f a, rest)

/-- Names what is not well-formed. -/
def labelled (name : String) (r : Read α) : Read α := r.mapError (·.labelled name)

/-- Adds what could stand at a fault. -/
def expecting (what : List String) (r : Read α) : Read α := r.mapError (·.expecting what)

/-- Rules out any other form. -/
def hard (r : Read α) : Read α := r.mapError .hard

/-- Another reader where the text may still be of another form. -/
def orElse (r : Read α) (other : Unit → Read α) : Read α :=
  match r with
  | .error f => if f.soft then other () else .error f
  | r => r

/-- The text after what may be there, or the text itself. -/
def pass (r : Read α) (s : List Char) : Except Fault (List Char) :=
  match r with
  | .ok (_, rest) => .ok rest
  | .error f => if f.soft then .ok s else .error f

end DriverExtension.Toml
