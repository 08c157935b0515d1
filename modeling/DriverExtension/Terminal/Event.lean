import DriverExtension.Console.Key

namespace DriverExtension.Terminal

/-!
# Terminal events

What a terminal reports.
-/

/-- A report of the terminal. -/
inductive TerminalEvent where
  | key (k : Key)
  | resize (width height : Nat)
  /-- The focus, the mouse, a pasted text, or an answer to a question about the terminal. -/
  | other
deriving DecidableEq, Repr

end DriverExtension.Terminal
