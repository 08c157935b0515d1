namespace DriverExtension

/-!
# Keys and what they ask for

`Key.action` maps a key to the action of the console.  Most keys act whatever modifiers are held;
only `c` tells control apart.
-/

/-- The key on the keyboard. -/
inductive KeyCode where
  | char (c : Char)
  | function (n : Nat)
  | enter
  | escape
  | tab
  | backTab
  | left
  | right
  | up
  | down
  | backspace
  | delete
  | insert
  | home
  | endKey
  | pageUp
  | pageDown
  | capsLock
  | scrollLock
  | numLock
  | printScreen
  | pause
  | menu
  | keypadBegin
  | null
  /-- A media key or a modifier pressed on its own. -/
  | special
deriving DecidableEq, Repr

/-- The modifiers held with a key. -/
structure Modifiers where
  shift : Bool
  control : Bool
  alt : Bool
  superKey : Bool
  hyperKey : Bool
  metaKey : Bool
deriving DecidableEq, Repr

/-- No modifiers. -/
def Modifiers.none : Modifiers := ⟨false, false, false, false, false, false⟩

/-- Whether a key went down, repeats, or went up. -/
inductive KeyKind where
  | press
  | repeated
  | release
deriving DecidableEq, Repr

/-- A key event. -/
structure Key where
  code : KeyCode
  modifiers : Modifiers
  kind : KeyKind
deriving DecidableEq, Repr

/-- What the user asks the console for. -/
inductive Action where
  | quit
  | previous
  | next
  | press
  | install
  | uninstall
  | clearLog
  | showHelp
  | closeDialog
  | none
deriving DecidableEq, Repr

/-- The action of a key. -/
def Key.action (k : Key) : Action :=
  match k.code with
  | .char 'q' => .quit
  | .char 'c' => if k.modifiers.control then .quit else .clearLog
  | .escape => .closeDialog
  | .left | .up | .backTab | .char 'h' => .previous
  | .right | .down | .tab | .char 'l' => .next
  | .enter | .char ' ' => .press
  | .char 'i' => .install
  | .char 'u' => .uninstall
  | .char '?' => .showHelp
  | _ => .none

end DriverExtension
