import DriverExtension.Proofs.Screen.Drawing
import DriverExtension.Screen.View

namespace DriverExtension.Screen

/-!
# The help dialog over the screen

The dialog is drawn last, on an area that depends on the size of the screen only, and this area is
cleared first.  So around the dialog the screen is as without it, and nothing of a panel shows
through.

* `centeredRect_within` — the dialog lies on the screen;
* `cell?_render_help` — a cell of the screen with the dialog: one of the dialog alone, or one of the
  screen without it;
* `help_overlay` — the account of the dialog.
-/

/-- The middle part of a length lies on it. -/
theorem edge_le (length : Nat) {percent : Nat} (h : percent ≤ 80) : edge length percent ≤ length := by
  have hmul : length * percent ≤ length * 80 := Nat.mul_le_mul_left length h
  rw [edge]
  omega

/-- The middle of a rectangle lies in it. -/
theorem centeredRect_within (r : Rect) : (centeredRect 60 60 r).Within r := by
  have hcentered : centeredRect 60 60 r = ⟨r.x + edge r.width 20, r.y + edge r.height 20,
      edge r.width 80 - edge r.width 20, edge r.height 80 - edge r.height 20⟩ := rfl
  have hlow := edge_le r.width (show 20 ≤ 80 by decide)
  have hhigh := edge_le r.width (Nat.le_refl 80)
  have hlow' := edge_le r.height (show 20 ≤ 80 by decide)
  have hhigh' := edge_le r.height (Nat.le_refl 80)
  rw [hcentered]
  simp only [Rect.Within, Rect.right, Rect.bottom]
  omega

/-- The parts of the screen are drawn on the cells that it has. -/
theorem isSome_cell?_renderPanel (p : Panel) (width height x y : Nat) :
    ((renderPanel p width height).cell? x y).isSome
      = ((Canvas.blank width height).cell? x y).isSome := by
  simp only [renderPanel, Canvas.isSome_cell?_draw]

/-- So is the dialog. -/
theorem isSome_cell?_render (p : Panel) (width height x y : Nat) :
    ((render p width height).cell? x y).isSome = true ↔ x < width ∧ y < height := by
  have hcells : ((render p width height).cell? x y).isSome
      = ((Canvas.blank width height).cell? x y).isSome := by
    rw [render]
    split
    · rw [Canvas.isSome_cell?_draw, isSome_cell?_renderPanel]
    · exact isSome_cell?_renderPanel p width height x y
  rw [hcells, Canvas.cell?_blank]
  by_cases hxy : x < width ∧ y < height <;> simp [hxy]

/-- The dialog is drawn on an area that was cleared first. -/
theorem helpMarks_eq (r : Rect) : ∃ marks, helpMarks r = clearing r ++ marks := by
  refine ⟨borderMarks r (.colored .yellow) ++ titleMarks r " Help " .center
    ++ rowsMarks r.inner (helpLines.flatMap (wrap r.inner.width)), ?_⟩
  rw [helpMarks, List.append_assoc, List.append_assoc, List.append_assoc]

/-- **Overlay.**  A cell of the screen with the dialog is, on the area of the dialog, the cell of a
    screen that holds the dialog only, and elsewhere the cell of the screen without it. -/
theorem cell?_render_help (p : Panel) (width height x y : Nat) :
    let dialog := centeredRect 60 60 ⟨0, 0, width, height⟩
    (render { p with help := true } width height).cell? x y
      = if dialog.contains x y then
          ((Canvas.blank width height).draw dialog (helpMarks dialog)).cell? x y
        else (render { p with help := false } width height).cell? x y := by
  intro dialog
  have hopen : render { p with help := true } width height
      = (renderPanel p width height).draw dialog (helpMarks dialog) := rfl
  have hclosed : render { p with help := false } width height = renderPanel p width height := rfl
  rw [hopen, hclosed]
  by_cases hxy : dialog.contains x y = true
  · obtain ⟨marks, hmarks⟩ := helpMarks_eq dialog
    rw [if_pos hxy, hmarks]
    exact Canvas.cell?_draw_clearing _ _ dialog marks hxy
      (isSome_cell?_renderPanel p width height x y)
  · rw [if_neg hxy]
    exact Canvas.cell?_draw_of_not_contains _ _ _ (Bool.eq_false_iff.mpr hxy)

/-- **The help dialog.**  On a screen of any size the dialog has its area in the middle, and a screen
    with the dialog has the same cells as any other one.  Outside of the area they are those of the
    same panel without the dialog.  Inside, they are the same for any two panels that show the
    dialog. -/
theorem help_overlay (p q : Panel) (hp : p.help = true) (hq : q.help = true)
    (width height x y : Nat) :
    let dialog := centeredRect 60 60 ⟨0, 0, width, height⟩
    dialog.Within ⟨0, 0, width, height⟩ ∧
    (((render p width height).cell? x y).isSome = true ↔ x < width ∧ y < height) ∧
    (dialog.contains x y = false →
      (render p width height).cell? x y = (render { p with help := false } width height).cell? x y) ∧
    (dialog.contains x y = true →
      (render p width height).cell? x y = (render q width height).cell? x y) := by
  intro dialog
  have hopen {p : Panel} (hp : p.help = true) : p = { p with help := true } := by
    rw [← hp]
  refine ⟨centeredRect_within _, isSome_cell?_render p width height x y, ?_, ?_⟩
  · intro hxy
    rw [hopen hp, cell?_render_help, if_neg (Bool.eq_false_iff.mp hxy)]
  · intro hxy
    rw [hopen hp, hopen hq, cell?_render_help, cell?_render_help, if_pos hxy, if_pos hxy]

/-- On a screen of forty columns and twelve rows, two panels that have nothing in common. -/
theorem help_overlay_two_panels :
    let p : Panel := { Panel.new default "Bridge" .replace with help := true }
    let q : Panel :=
      { Panel.new default "None" .cancel with
        help := true, selected := .uninstall, outcomes := [⟨0, .error, "#0: failed"⟩] }
    let dialog := centeredRect 60 60 ⟨0, 0, 40, 12⟩
    dialog = ⟨8, 2, 24, 8⟩ ∧ p.outcomes ≠ q.outcomes ∧
    (render p 40 12).cell? 8 2 = (render q 40 12).cell? 8 2 ∧
    (render q 40 12).cell? 7 2 = (render { q with help := false } 40 12).cell? 7 2 := by
  intro p q dialog
  obtain ⟨-, -, -, hinside⟩ := help_overlay p q rfl rfl 40 12 8 2
  obtain ⟨-, -, houtside, -⟩ := help_overlay q p rfl rfl 40 12 7 2
  exact ⟨by decide, by decide, hinside (by decide), houtside (by decide)⟩

end DriverExtension.Screen
