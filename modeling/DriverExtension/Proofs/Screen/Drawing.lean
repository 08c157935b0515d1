import DriverExtension.Screen.Frame

namespace DriverExtension.Screen

/-!
# Drawing, cell by cell

A canvas is drawn by marks, and a mark concerns one cell.  So what marks do to a cell is told by the
paints that are meant for it, in their order, and the marks for other cells can be forgotten.

* `paintsAt`, `Cell.painted` — the paints for one cell, and the cell after them;
* `Canvas.cell?_draw` — a cell after drawing;
* `Canvas.isSome_cell?_draw` — drawing neither adds nor removes cells;
* `Canvas.cell?_draw_clearing` — on a cleared area nothing is left of what was there;
* `mem_rowMarks`, `mem_borderMarks`, `mem_titleMarks` — where the marks of a line and of a frame
  stand;
* `paintsAt_rows` — of lines below each other, one concerns a cell.
-/

namespace Rect

theorem contains_iff {r : Rect} {x y : Nat} :
    r.contains x y = true ↔ r.x ≤ x ∧ x < r.x + r.width ∧ r.y ≤ y ∧ y < r.y + r.height := by
  simp only [contains, Bool.and_eq_true, decide_eq_true_eq, and_assoc]
  rfl

/-- The cells inside a border. -/
theorem contains_inner_iff {r : Rect} {x y : Nat} :
    r.inner.contains x y = true ↔
      r.x + 1 ≤ x ∧ x + 1 < r.x + r.width ∧ r.y + 1 ≤ y ∧ y + 1 < r.y + r.height := by
  rw [contains_iff]
  simp only [inner, right, bottom]
  omega

end Rect

/-! ### The paints for one cell -/

/-- What marks paint on one cell, in their order. -/
def paintsAt (marks : List Mark) (x y : Nat) : List Paint :=
  (marks.filter fun m => m.x = x ∧ m.y = y).map Mark.paint

/-- A cell after several paints. -/
def Cell.painted (c : Cell) (paints : List Paint) : Cell := paints.foldl (fun c p => p.apply c) c

theorem paintsAt_append (marks marks' : List Mark) (x y : Nat) :
    paintsAt (marks ++ marks') x y = paintsAt marks x y ++ paintsAt marks' x y := by
  rw [paintsAt, List.filter_append, List.map_append]
  rfl

/-- Marks for other cells do not matter. -/
theorem paintsAt_eq_nil {marks : List Mark} {x y : Nat}
    (h : ∀ m ∈ marks, m.x = x → m.y ≠ y) : paintsAt marks x y = [] := by
  have hnone : (marks.filter fun m => m.x = x ∧ m.y = y) = [] := by
    rw [List.filter_eq_nil_iff]
    intro m hm hat
    obtain ⟨hx, hy⟩ := of_decide_eq_true hat
    exact h m hm hx hy
  rw [paintsAt, hnone, List.map_nil]

theorem Cell.painted_append (c : Cell) (ps qs : List Paint) :
    c.painted (ps ++ qs) = (c.painted ps).painted qs :=
  List.foldl_append

/-- A cell that is only made blank is blank. -/
theorem Cell.painted_reset (c : Cell) {paints : List Paint} (hne : paints ≠ [])
    (h : ∀ p ∈ paints, p = .reset) : c.painted paints = .blank := by
  induction paints generalizing c with
  | nil => exact absurd rfl hne
  | cons p rest ih =>
    obtain rfl : p = .reset := h p List.mem_cons_self
    by_cases hrest : rest = []
    · rw [hrest]
      rfl
    · exact ih _ hrest fun q hq => h q (List.mem_cons_of_mem _ hq)

/-! ### Canvases -/

namespace Canvas

/-- **Drawing.**  A cell of the area gets the paints that are meant for it; any other cell stays as
    it is. -/
theorem cell?_draw (c : Canvas) (area : Rect) (marks : List Mark) (x y : Nat) :
    (c.draw area marks).cell? x y
      = if area.contains x y then (c.cell? x y).map fun cell => cell.painted (paintsAt marks x y)
        else c.cell? x y := by
  by_cases harea : area.contains x y = true
  · rw [if_pos harea]
    induction marks generalizing c with
    | nil => exact Option.map_id'.symm
    | cons m rest ih =>
      have hstep : (c.draw area (m :: rest)).cell? x y
          = ((if area.contains m.x m.y then c.mark m else c).draw area rest).cell? x y := rfl
      rw [hstep, ih]
      by_cases hm : m.x = x ∧ m.y = y
      · -- the mark is for this cell, so it is in the area
        obtain ⟨rfl, rfl⟩ := hm
        have hpaints : paintsAt (m :: rest) m.x m.y = m.paint :: paintsAt rest m.x m.y := by
          simp [paintsAt]
        rw [if_pos harea, cell?_mark, if_pos ⟨rfl, rfl⟩, hpaints, Option.map_map]
        rfl
      · have hpaints : paintsAt (m :: rest) x y = paintsAt rest x y := by
          simp [paintsAt, hm]
        have hcell : (if area.contains m.x m.y then c.mark m else c).cell? x y = c.cell? x y := by
          split
          · rw [cell?_mark, if_neg hm]
          · rfl
        rw [hpaints, hcell]
  · rw [if_neg harea]
    exact cell?_draw_of_not_contains c area marks (Bool.eq_false_iff.mpr harea)

/-- Drawing neither adds nor removes cells. -/
theorem isSome_cell?_draw (c : Canvas) (area : Rect) (marks : List Mark) (x y : Nat) :
    ((c.draw area marks).cell? x y).isSome = (c.cell? x y).isSome := by
  rw [cell?_draw]
  split
  · exact Option.isSome_map
  · rfl

/-- The cells of a canvas of blank cells. -/
theorem cell?_blank (width height x y : Nat) :
    (blank width height).cell? x y = if x < width ∧ y < height then some .blank else none := by
  rw [cell?, blank]
  by_cases hy : y < height <;> by_cases hx : x < width <;> simp [hx, hy]

end Canvas

/-- Clearing blanks every cell of the rectangle. -/
theorem painted_clearing (c : Cell) {r : Rect} {x y : Nat} (h : r.contains x y = true) :
    c.painted (paintsAt (clearing r) x y) = .blank := by
  obtain ⟨hleft, hright, htop, hbottom⟩ := Rect.contains_iff.mp h
  have hresets : ∀ m ∈ clearing r, m.paint = .reset := by
    intro m hm
    obtain ⟨dy, -, hrow⟩ := List.mem_flatMap.mp hm
    obtain ⟨dx, -, rfl⟩ := List.mem_map.mp hrow
    rfl
  have hmark : (⟨x, y, .reset⟩ : Mark) ∈ clearing r := by
    refine List.mem_flatMap.mpr ⟨y - r.y, List.mem_range.mpr (by omega), ?_⟩
    refine List.mem_map.mpr ⟨x - r.x, List.mem_range.mpr (by omega), ?_⟩
    rw [Nat.add_sub_cancel' hleft, Nat.add_sub_cancel' htop]
  apply Cell.painted_reset
  · have hpaint : Paint.reset ∈ paintsAt (clearing r) x y :=
      List.mem_map.mpr ⟨_, List.mem_filter.mpr ⟨hmark, by simp⟩, rfl⟩
    exact List.ne_nil_of_mem hpaint
  · intro p hp
    obtain ⟨m, hm, rfl⟩ := List.mem_map.mp hp
    exact hresets m (List.mem_filter.mp hm).1

/-- What is drawn on an area that was cleared first does not depend on what was there. -/
theorem Canvas.cell?_draw_clearing (c c' : Canvas) (r : Rect) (marks : List Mark) {x y : Nat}
    (h : r.contains x y = true) (hcells : (c.cell? x y).isSome = (c'.cell? x y).isSome) :
    (c.draw r (clearing r ++ marks)).cell? x y = (c'.draw r (clearing r ++ marks)).cell? x y := by
  have hpainted (cell : Cell) : cell.painted (paintsAt (clearing r ++ marks) x y)
      = Cell.blank.painted (paintsAt marks x y) := by
    rw [paintsAt_append, Cell.painted_append, painted_clearing cell h]
  rw [cell?_draw, cell?_draw, if_pos h, if_pos h]
  simp only [hpainted]
  cases hc : c.cell? x y <;> cases hc' : c'.cell? x y <;> simp [hc, hc'] at hcells ⊢

/-! ### Where marks stand -/

/-- The blank cells behind a wide glyph. -/
theorem mem_hiddenMarks {y start stop : Nat} {m : Mark} (h : m ∈ hiddenMarks y start stop) :
    m.y = y ∧ start ≤ m.x ∧ m.x < stop := by
  obtain ⟨x, hx, rfl⟩ := List.mem_map.mp h
  obtain ⟨hstart, hstop⟩ := List.mem_range'_1.mp hx
  exact ⟨rfl, hstart, show x < stop by omega⟩

/-- Glyphs are drawn into one row, neither left of where they begin nor right of their area: a glyph
    without width joins the cell before it only if one of them was drawn there. -/
theorem mem_glyphMarks {left right y x : Nat} {first : Bool} {gs : List Glyph} {m : Mark}
    (hroom : left < right) (hx : left ≤ x) (hright : x ≤ right) (hfirst : first = true → x = left)
    (h : m ∈ glyphMarks left right y x first gs) : m.y = y ∧ left ≤ m.x ∧ m.x < right := by
  induction gs generalizing x first with
  | nil => exact absurd h List.not_mem_nil
  | cons g rest ih =>
    rw [glyphMarks] at h
    by_cases hfits : right < x + g.width
    · rw [if_pos hfits] at h
      exact absurd h List.not_mem_nil
    · rw [if_neg hfits, List.mem_cons, List.mem_append] at h
      rcases h with rfl | hhidden | hrest
      · split
        case isTrue hstart =>
          have hbegin : x = left := hfirst hstart
          exact ⟨rfl, hx, show x < right by omega⟩
        case isFalse =>
          split
          case isTrue hbegin => exact ⟨rfl, hx, show x < right by omega⟩
          case isFalse =>
            split
            case isTrue =>
              exact ⟨rfl, show left ≤ x - 1 by omega, show x - 1 < right by omega⟩
            case isFalse => exact ⟨rfl, hx, show x < right by omega⟩
      · obtain ⟨hy, hstart, hstop⟩ := mem_hiddenMarks hhidden
        exact ⟨hy, by omega, by omega⟩
      · have hlater : false = true → x + g.width = left := fun h => absurd h Bool.false_ne_true
        exact ih (Nat.le_add_right_of_le hx) (Nat.not_lt.mp hfits) hlater hrest

/-- So are spans. -/
theorem mem_spanMarks {area : Rect} {line : List Span} {m : Mark} (h : m ∈ spanMarks area line) :
    m.y = area.y ∧ area.x ≤ m.x ∧ m.x < area.right := by
  induction line generalizing area with
  | nil => exact absurd h List.not_mem_nil
  | cons s rest ih =>
    rw [spanMarks] at h
    by_cases hwidth : Text.columns s.text = 0
    · rw [if_pos hwidth] at h
      exact ih h
    · rw [if_neg hwidth] at h
      by_cases hempty : area.isEmpty = true
      · rw [if_pos hempty] at h
        exact absurd h List.not_mem_nil
      · rw [if_neg hempty, List.mem_append] at h
        rcases h with hspan | hrest
        · have hroom : area.x < area.right := by
            simp only [Rect.isEmpty, Bool.or_eq_true, decide_eq_true_eq, not_or] at hempty
            simp only [Rect.right]
            omega
          exact mem_glyphMarks hroom (Nat.le_refl _) (Nat.le_of_lt hroom) (fun _ => rfl) hspan
        · -- the area that is left has the same right end
          obtain ⟨hy, hleft, hright⟩ := ih hrest
          simp only [Rect.indent, Rect.right] at hy hleft hright ⊢
          exact ⟨hy, by omega, by omega⟩

/-- So is a line. -/
theorem mem_rowMarks {area : Rect} {line : List Span} {m : Mark} (h : m ∈ rowMarks area line) :
    m.y = area.y ∧ area.x ≤ m.x ∧ m.x < area.right := by
  rw [rowMarks] at h
  split at h
  · exact absurd h List.not_mem_nil
  · exact mem_spanMarks h

/-- A border is drawn around the cells inside it. -/
theorem mem_borderMarks {r : Rect} {style : Style} {m : Mark} (h : m ∈ borderMarks r style) :
    r.inner.contains m.x m.y = false := by
  rw [Bool.eq_false_iff, ne_eq, Rect.contains_inner_iff]
  rw [borderMarks] at h
  split at h
  · exact absurd h List.not_mem_nil
  · simp only [List.mem_append, List.mem_map, List.mem_cons, List.not_mem_nil, or_false,
      Rect.right, Rect.bottom] at h
    rcases h with ((((⟨d, -, rfl⟩ | ⟨d, -, rfl⟩) | ⟨d, -, rfl⟩) | ⟨d, -, rfl⟩) |
      rfl | rfl | rfl | rfl) <;> dsimp only <;> omega

/-- A title is drawn into the top edge. -/
theorem mem_titleMarks {r : Rect} {title : String} {alignment : Alignment} {m : Mark}
    (h : m ∈ titleMarks r title alignment) : m.y = r.y := by
  rw [titleMarks] at h
  split at h
  · exact absurd h List.not_mem_nil
  · exact (mem_rowMarks h).1

/-! ### Lines below each other -/

/-- Of lines below each other, the line of its row concerns a cell, if there is one. -/
theorem paintsAt_rows {β : Type} (lines : List β) (draw : Nat → β → List Mark) (top : Nat)
    (hrow : ∀ i line, ∀ m ∈ draw i line, m.y = top + i) (x i : Nat) :
    paintsAt (lines.mapIdx draw).flatten x (top + i)
      = (lines[i]?.map fun line => paintsAt (draw i line) x (top + i)).getD [] := by
  induction lines generalizing draw top i with
  | nil => rfl
  | cons line rest ih =>
    rw [List.mapIdx_cons, List.flatten_cons, paintsAt_append]
    cases i with
    | zero =>
      have hrest : paintsAt (rest.mapIdx fun i => draw (i + 1)).flatten x (top + 0) = [] := by
        apply paintsAt_eq_nil
        intro m hm _ hy
        obtain ⟨marks, hmarks, hmem⟩ := List.mem_flatten.mp hm
        obtain ⟨j, hj, rfl⟩ := List.mem_mapIdx.mp hmarks
        have hbelow := hrow _ _ m hmem
        omega
      rw [hrest, List.append_nil]
      rfl
    | succ i =>
      have hfirst : paintsAt (draw 0 line) x (top + (i + 1)) = [] := by
        apply paintsAt_eq_nil
        intro m hm _ hy
        have habove := hrow 0 line m hm
        omega
      have hshift (j : Nat) : top + (j + 1) = top + 1 + j := by omega
      rw [hfirst, List.nil_append, hshift,
        ih (fun j => draw (j + 1)) (top + 1) (fun j b m hm => (hrow (j + 1) b m hm).trans (hshift j))]
      rfl

end DriverExtension.Screen
