import DriverExtension.Screen.Canvas

namespace DriverExtension.Screen

/-!
# Where things stand on the screen

The frame is split from top to bottom into status bar, buttons, outcomes and help bar.  The outcomes
get at least five rows; what is left of a low frame goes to the help bar first, then in turn to the
status bar and the buttons.
-/

/-- The heights of status bar, buttons, outcomes and help bar. -/
structure Heights where
  status : Nat
  buttons : Nat
  outcomes : Nat
  bar : Nat
deriving DecidableEq, Repr

namespace Heights

/-- The heights in a frame. -/
def ofFrame (height : Nat) : Heights :=
  let spare := min (height - 8) 8
  let status := min 3 ((spare + 1) / 2)
  { status
    buttons := spare - status
    outcomes := max (min height 5) (height - 11)
    bar := min 3 (height - 5) }

theorem sum_ofFrame (height : Nat) :
    (ofFrame height).status + (ofFrame height).buttons + (ofFrame height).outcomes
      + (ofFrame height).bar = height := by
  simp only [ofFrame]
  omega

end Heights

/-- The place of `percent` of a length, to the nearest cell, a half going up. -/
def edge (length percent : Nat) : Nat := (length * percent + 50) / 100

/-- The part of a length between two percentages: where it begins and how long it is. -/
def portion (length low high : Nat) : Nat × Nat :=
  (edge length low, edge length high - edge length low)

/-- The column of a rectangle between two percentages of its width. -/
def column (r : Rect) (low high : Nat) : Rect :=
  let (x, width) := portion r.width low high
  { r with x := r.x + x, width }

/-- Three rows in the middle of a rectangle, or all of it if it is lower. -/
def centeredRow (r : Rect) : Rect :=
  let height := min 3 r.height
  { r with y := r.y + (r.height - height) / 2, height }

/-- The middle of a rectangle, as large as the given percentages of it. -/
def centeredRect (percentX percentY : Nat) (r : Rect) : Rect :=
  let marginX := (100 - percentX) / 2
  let marginY := (100 - percentY) / 2
  let (x, width) := portion r.width marginX (marginX + percentX)
  let (y, height) := portion r.height marginY (marginY + percentY)
  ⟨r.x + x, r.y + y, width, height⟩

/-- The areas that the screen is drawn into. -/
structure Layout where
  status : Rect
  install : Rect
  uninstall : Rect
  outcomes : Rect
  bar : Rect
  dialog : Rect
deriving DecidableEq, Repr

namespace Layout

/-- The row of the buttons in a frame. -/
def buttonRow (frame : Rect) : Rect :=
  let h := Heights.ofFrame frame.height
  { frame with y := frame.y + h.status, height := h.buttons }

/-- The areas in a frame. -/
def ofFrame (frame : Rect) : Layout :=
  let h := Heights.ofFrame frame.height
  { status := { frame with height := h.status }
    install := centeredRow (column (buttonRow frame) 20 50)
    uninstall := centeredRow (column (buttonRow frame) 50 80)
    outcomes := { frame with y := frame.y + h.status + h.buttons, height := h.outcomes }
    bar := { frame with y := frame.y + h.status + h.buttons + h.outcomes, height := h.bar }
    dialog := centeredRect 60 60 frame }

end Layout
end DriverExtension.Screen
