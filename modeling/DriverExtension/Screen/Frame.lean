import DriverExtension.Screen.Text

namespace DriverExtension.Screen

/-!
# Frames around areas

A frame is one cell wide, with an optional title in its top edge.
-/

/-- Where a title stands in the top edge. -/
inductive Alignment where
  | left
  | center
deriving DecidableEq, Repr

/-- The border of an area; where sides meet in a low or narrow area the later mark wins. -/
def borderMarks (r : Rect) (style : Style) : List Mark :=
  if r.isEmpty then []
  else
    let vertical (x : Nat) := (List.range r.height).map fun dy =>
      (⟨x, r.y + dy, .put "│" style⟩ : Mark)
    let horizontal (y : Nat) := (List.range r.width).map fun dx =>
      (⟨r.x + dx, y, .put "─" style⟩ : Mark)
    let right := r.right - 1
    let bottom := r.bottom - 1
    vertical r.x ++ horizontal r.y ++ vertical right ++ horizontal bottom ++
      [⟨right, bottom, .put "┘" style⟩, ⟨right, r.y, .put "┐" style⟩,
       ⟨r.x, bottom, .put "└" style⟩, ⟨r.x, r.y, .put "┌" style⟩]

/-- A title in the top edge; it keeps the style of the border. -/
def titleMarks (r : Rect) (title : String) (alignment : Alignment) : List Mark :=
  if r.isEmpty then []
  else
    let room := r.width - 2
    let length := Text.columns title
    let offset := match alignment with
      | .left => 0
      | .center => (room - length) / 2
    rowMarks ⟨r.x + 1 + offset, r.y, min length room, 1⟩ [⟨title, .plain⟩]

end DriverExtension.Screen
