import DriverExtension.Number.Shortest
import DriverExtension.Text.Quoted

namespace DriverExtension

open Number Text

/-!
# Documents

A document is what a JSON or TOML text says before anybody asks what it means: scalars, arrays and
objects with their members in the order of the text, repeated names included.

Decoding a text reports the first fault that it meets, and a fault of meaning may come before a
fault of form.  So a text that breaks off still has a document, which keeps the place of the fault:

* `broken`     — no value can be read here, and nothing after it;
* `unreadable` — a complete scalar without a value (a number out of range, half a surrogate pair);
* `badKey`     — a member whose name is no readable string.

A document without these is `sound`.
-/

/-- A JSON or TOML value, possibly with faults of form inside. -/
inductive Document where
  | null
  | bool (b : Bool)
  | int (n : Int)
  | float (x : Binary64)
  | string (s : String)
  /-- A TOML date or time. -/
  | date
  | array (items : List Document)
  | object (members : List (String × Document))
  | broken
  | unreadable
  | badKey (key value : Document)

namespace Document

/-- The member of an object that counts: the last one of that name. -/
def get? (d : Document) (name : String) : Option Document :=
  match d with
  | .object members => (members.reverse.find? (·.1 = name)).map (·.2)
  | _ => none

mutual

/-- Whether the text of the document is complete, so that it can be skipped. -/
def complete : Document → Bool
  | .broken => false
  | .badKey key value =>
    (match key with
      | .unreadable => true
      | _ => false) && value.complete
  | .array items => completeItems items
  | .object members => completeMembers members
  | _ => true

/-- Whether every item is complete. -/
def completeItems : List Document → Bool
  | [] => true
  | d :: rest => d.complete && completeItems rest

/-- Whether every member is complete. -/
def completeMembers : List (String × Document) → Bool
  | [] => true
  | (_, d) :: rest => d.complete && completeMembers rest

end

mutual

/-- Whether the document has no fault of form. -/
def sound : Document → Bool
  | .broken | .unreadable | .badKey _ _ => false
  | .array items => soundItems items
  | .object members => soundMembers members
  | _ => true

/-- Whether every item is sound. -/
def soundItems : List Document → Bool
  | [] => true
  | d :: rest => d.sound && soundItems rest

/-- Whether every member is sound. -/
def soundMembers : List (String × Document) → Bool
  | [] => true
  | (_, d) :: rest => d.sound && soundMembers rest

end

mutual

/-- How deeply arrays and objects are nested. -/
def depth : Document → Nat
  | .array items => depthItems items + 1
  | .object members => depthMembers members + 1
  | _ => 0

/-- The greatest depth of the items. -/
def depthItems : List Document → Nat
  | [] => 0
  | d :: rest => max d.depth (depthItems rest)

/-- The greatest depth of the members. -/
def depthMembers : List (String × Document) → Nat
  | [] => 0
  | (_, d) :: rest => max d.depth (depthMembers rest)

end

/-- Puts a member into a list sorted by name; a member of the same name is replaced. -/
def insertMember (name : String) (d : Document) :
    List (String × Document) → List (String × Document)
  | [] => [(name, d)]
  | (n, e) :: rest =>
    if name = n then (name, d) :: rest
    else if name < n then (name, d) :: (n, e) :: rest
    else (n, e) :: insertMember name d rest

mutual

/-- The document with the members of every object sorted by name, the last of each name kept. -/
def sorted : Document → Document
  | .array items => .array (sortedItems items)
  | .object members => .object (sortedMembers members [])
  | d => d

/-- The items, each sorted. -/
def sortedItems : List Document → List Document
  | [] => []
  | d :: rest => d.sorted :: sortedItems rest

/-- The members, each sorted, put into `done` in turn. -/
def sortedMembers : List (String × Document) → List (String × Document) → List (String × Document)
  | [], done => done
  | (name, d) :: rest, done => sortedMembers rest (insertMember name d.sorted done)

end

end Document
end DriverExtension
