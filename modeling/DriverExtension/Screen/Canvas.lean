namespace DriverExtension.Screen

/-!
# Canvases

A canvas is a grid of cells.  Everything is drawn by marks, one cell each, and a widget's marks are
clipped to its area: `Canvas.draw` never touches a cell outside the rectangle that it is given.
-/

/-- The colours of a terminal that are used here. -/
inductive Color where
  | reset
  | black
  | red
  | green
  | yellow
  | blue
  | cyan
  | darkGray
  | white
deriving DecidableEq, Repr

/-- The name of a colour. -/
def Color.name : Color → String
  | .reset => "Reset"
  | .black => "Black"
  | .red => "Red"
  | .green => "Green"
  | .yellow => "Yellow"
  | .blue => "Blue"
  | .cyan => "Cyan"
  | .darkGray => "DarkGray"
  | .white => "White"

/-- What a drawing operation changes about the look of a cell. -/
structure Style where
  foreground : Option Color
  background : Option Color
  bold : Bool
deriving DecidableEq, Repr

namespace Style

/-- Changes nothing. -/
def plain : Style := ⟨none, none, false⟩

/-- Changes the foreground. -/
def colored (c : Color) : Style := ⟨some c, none, false⟩

end Style

/-- One cell of a terminal. -/
structure Cell where
  symbol : String
  foreground : Color
  background : Color
  bold : Bool
deriving DecidableEq, Repr

namespace Cell

/-- A cell that nothing was drawn on. -/
def blank : Cell := ⟨" ", .reset, .reset, false⟩

/-- Changes the look of a cell. -/
def restyle (s : Style) (c : Cell) : Cell where
  symbol := c.symbol
  foreground := s.foreground.getD c.foreground
  background := s.background.getD c.background
  bold := c.bold || s.bold

end Cell

/-- A rectangle of cells. -/
structure Rect where
  x : Nat
  y : Nat
  width : Nat
  height : Nat
deriving DecidableEq, Repr

namespace Rect

/-- The first column right of the rectangle. -/
def right (r : Rect) : Nat := r.x + r.width

/-- The first row below the rectangle. -/
def bottom (r : Rect) : Nat := r.y + r.height

/-- Whether the rectangle has no cells. -/
def isEmpty (r : Rect) : Bool := r.width = 0 || r.height = 0

/-- Whether a cell lies in the rectangle. -/
def contains (r : Rect) (x y : Nat) : Bool := r.x ≤ x && x < r.right && r.y ≤ y && y < r.bottom

/-- Whether the rectangle lies in another one. -/
def Within (r outer : Rect) : Prop :=
  outer.x ≤ r.x ∧ r.right ≤ outer.right ∧ outer.y ≤ r.y ∧ r.bottom ≤ outer.bottom

instance (r outer : Rect) : Decidable (r.Within outer) :=
  inferInstanceAs (Decidable (_ ∧ _ ∧ _ ∧ _))

/-- What a border one cell wide leaves inside. -/
def inner (r : Rect) : Rect where
  x := min (r.x + 1) r.right
  y := min (r.y + 1) r.bottom
  width := r.width - 2
  height := r.height - 2

/-- The rectangle without its first `n` columns. -/
def indent (r : Rect) (n : Nat) : Rect :=
  { r with x := r.x + min n r.width, width := r.width - n }

end Rect

/-- What a mark does to its cell. -/
inductive Paint where
  /-- Replaces the symbol. -/
  | put (symbol : String) (style : Style)
  /-- Adds to the symbol. -/
  | append (symbol : String) (style : Style)
  /-- Makes the cell blank. -/
  | reset
deriving DecidableEq, Repr

/-- The cell after painting. -/
def Paint.apply : Paint → Cell → Cell
  | .put symbol style, c => { c with symbol := symbol }.restyle style
  | .append symbol style, c => { c with symbol := c.symbol ++ symbol }.restyle style
  | .reset, _ => .blank

/-- A drawing operation on one cell. -/
structure Mark where
  x : Nat
  y : Nat
  paint : Paint
deriving DecidableEq, Repr

/-- A grid of cells, row by row. -/
structure Canvas where
  rows : Array (Array Cell)
deriving DecidableEq

namespace Canvas

/-- A canvas of blank cells. -/
def blank (width height : Nat) : Canvas := ⟨.replicate height (.replicate width .blank)⟩

/-- The cell at a place, if the canvas has it. -/
def cell? (c : Canvas) (x y : Nat) : Option Cell := c.rows[y]?.bind fun row => row[x]?

/-- Performs one mark. -/
def mark (c : Canvas) (m : Mark) : Canvas :=
  ⟨c.rows.modify m.y fun row => row.modify m.x m.paint.apply⟩

/-- Performs the marks that lie in an area, in order. -/
def draw (c : Canvas) (area : Rect) (marks : List Mark) : Canvas :=
  marks.foldl (fun c m => if area.contains m.x m.y then c.mark m else c) c

theorem cell?_mark (c : Canvas) (m : Mark) (x y : Nat) :
    (c.mark m).cell? x y =
      if m.x = x ∧ m.y = y then (c.cell? x y).map m.paint.apply else c.cell? x y := by
  simp only [cell?, mark, Array.getElem?_modify]
  by_cases hy : m.y = y
  · subst hy
    cases hrow : c.rows[m.y]? with
    | none => simp
    | some row =>
      by_cases hx : m.x = x <;> simp [Array.getElem?_modify, hx]
  · simp [hy]

theorem cell?_draw_of_not_contains (c : Canvas) (area : Rect) (marks : List Mark) {x y : Nat}
    (h : area.contains x y = false) : (c.draw area marks).cell? x y = c.cell? x y := by
  induction marks generalizing c with
  | nil => rfl
  | cons m rest ih =>
    simp only [draw, List.foldl_cons] at ih ⊢
    rw [ih]
    split
    · rename_i hm
      rw [cell?_mark, if_neg]
      rintro ⟨rfl, rfl⟩
      rw [h] at hm
      cases hm
    · rfl

end Canvas

/-- The marks that make every cell of a rectangle blank. -/
def clearing (r : Rect) : List Mark :=
  (List.range r.height).flatMap fun dy =>
    (List.range r.width).map fun dx => ⟨r.x + dx, r.y + dy, .reset⟩

end DriverExtension.Screen
