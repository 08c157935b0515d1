import DriverExtension.Proofs.Screen.Dialog
import DriverExtension.Proofs.Screen.Splitting

namespace DriverExtension.Screen

/-!
# The screen fits every terminal

The areas of the screen are computed in words of 16 bits, in which sums and differences may fail.
They do not, however small or large the terminal is and however a splitter shares out what there is;
every area lies on the terminal, and the buttons stand side by side.

* `Word.add?`, `Word.sub?` — sums and differences that fail instead of wrapping around;
* `centeredRow?`, `centeredRect?`, `plan?` — the areas in words;
* `Plan.Safe` — what is asked of the areas of the screen;
* `exists_centeredRow`, `exists_centeredRect`, `Parts.nonempty` — nothing fails;
* `Parts.safe` — the areas that are computed are as asked;
* `Parts.layout_standard` — the screen is drawn into the areas that its own splitter gives;
* `render_safe` — the account of all sizes.
-/

/-! ### Words -/

namespace Word

/-- The sum of two words, if it is a word. -/
def add? (a b : UInt16) : Option UInt16 :=
  if a.toNat + b.toNat < UInt16.size then some (a + b) else none

/-- The difference of two words, if it is a word. -/
def sub? (a b : UInt16) : Option UInt16 := if b ≤ a then some (a - b) else none

/-- The difference of two words, or zero. -/
def subOrZero (a b : UInt16) : UInt16 := if b ≤ a then a - b else 0

variable {a b c : UInt16}

/-- A sum is the exact one. -/
theorem add?_eq_some_iff : add? a b = some c ↔ c.toNat = a.toNat + b.toNat := by
  have hc := c.toNat_lt
  have hsum : (a + b).toNat = (a.toNat + b.toNat) % 2 ^ 16 := UInt16.toNat_add a b
  rw [add?]
  split
  case isTrue h =>
    have hlt : a.toNat + b.toNat < 2 ^ 16 := h
    rw [Option.some_inj, ← UInt16.toNat_inj, hsum, Nat.mod_eq_of_lt hlt, eq_comm]
  case isFalse h =>
    refine iff_of_false nofun (fun heq => h ?_)
    rwa [← heq]

/-- A difference is the exact one. -/
theorem sub?_eq_some_iff : sub? a b = some c ↔ c.toNat + b.toNat = a.toNat := by
  rw [sub?]
  split
  case isTrue h =>
    rw [Option.some_inj, ← UInt16.toNat_inj, UInt16.toNat_sub_of_le a b h]
    have hle : b.toNat ≤ a.toNat := h
    omega
  case isFalse h =>
    refine iff_of_false nofun (fun heq => h ?_)
    exact UInt16.le_iff_toNat_le.mpr (by omega)

/-- A sum fails only at the end of the words. -/
theorem exists_add (h : a.toNat + b.toNat < UInt16.size) :
    ∃ c, add? a b = some c ∧ c.toNat = a.toNat + b.toNat := by
  have hsum : add? a b = some (a + b) := if_pos h
  exact ⟨a + b, hsum, add?_eq_some_iff.mp hsum⟩

/-- A difference fails only below zero. -/
theorem exists_sub (h : b.toNat ≤ a.toNat) :
    ∃ c, sub? a b = some c ∧ c.toNat = a.toNat - b.toNat := by
  have hdifference : sub? a b = some (a - b) := if_pos (UInt16.le_iff_toNat_le.mpr h)
  exact ⟨a - b, hdifference, Nat.eq_sub_of_add_eq (sub?_eq_some_iff.mp hdifference)⟩

theorem toNat_subOrZero (a b : UInt16) : (subOrZero a b).toNat = a.toNat - b.toNat := by
  rw [subOrZero]
  split
  case isTrue h => exact UInt16.toNat_sub_of_le a b h
  case isFalse h =>
    have hlt : a.toNat < b.toNat := Nat.not_le.mp h
    exact (Nat.sub_eq_zero_of_le (Nat.le_of_lt hlt)).symm

end Word

/-! ### A row in the middle -/

/-- Three rows in the middle of an area, or all of it if it is lower. -/
def centeredRow? (a : Area) : Option Area := do
  let height := min 3 a.height
  let spare ← Word.sub? a.height height
  let y ← Word.add? a.y (spare / 2)
  return { a with y, height }

/-- An area stands in the middle of another one, three rows high if these are there. -/
structure Area.Centers (row a : Area) : Prop where
  x : row.x = a.x
  width : row.width = a.width
  height : row.height = min 3 a.height
  /-- The rows below are as many as those above, or one more. -/
  balanced : ∃ above below, row.start .vertical = a.start .vertical + above ∧
    a.stop .vertical = row.stop .vertical + below ∧ (below = above ∨ below = above + 1)

/-- The row in the middle of an area that fits is computed without a failure. -/
theorem exists_centeredRow {a : Area} (ha : a.Fits) :
    ∃ row, centeredRow? a = some row ∧ row.rect = centeredRow a.rect ∧ row.Centers a := by
  have hbottom : a.y.toNat + a.height.toNat < UInt16.size := ha .vertical
  have hheight : (min 3 a.height).toNat = min 3 a.height.toNat := UInt16.toNat_min 3 a.height
  obtain ⟨spare, hspare, hspareNat⟩ :=
    Word.exists_sub (show (min 3 a.height).toNat ≤ a.height.toNat by omega)
  have hhalf : (spare / 2).toNat = (a.height.toNat - min 3 a.height.toNat) / 2 := by
    rw [UInt16.toNat_div, hspareNat, hheight]
    rfl
  -- half of what is spare is less than the height, so the sum stays above the bottom
  obtain ⟨y, hy, hyNat⟩ :=
    Word.exists_add (show a.y.toNat + (spare / 2).toNat < UInt16.size by omega)
  rw [hhalf] at hyNat
  refine ⟨{ a with y, height := min 3 a.height }, ?_, ?_, rfl, rfl, rfl, ?_⟩
  · simp only [centeredRow?, hspare, hy, Option.bind_eq_bind, Option.bind_some]
    rfl
  · simp only [Area.rect, centeredRow, hyNat, hheight]
  · refine ⟨(a.height.toNat - min 3 a.height.toNat) / 2,
      a.height.toNat - min 3 a.height.toNat - (a.height.toNat - min 3 a.height.toNat) / 2, hyNat,
      ?_, by omega⟩
    simp only [Area.stop, Area.start, Area.extent, hyNat, hheight]
    omega

/-- What is computed stands in the middle. -/
theorem centers_of_eq_some {a row : Area} (ha : a.Fits) (h : centeredRow? a = some row) :
    row.rect = centeredRow a.rect ∧ row.Centers a := by
  obtain ⟨row', hrow', hcenters⟩ := exists_centeredRow ha
  rw [h] at hrow'
  obtain rfl := Option.some.inj hrow'
  exact hcenters

/-- It lies in the area. -/
theorem Area.Centers.within {row a : Area} (h : row.Centers a) : row.rect.Within a.rect := by
  obtain ⟨hx, hwidth, -, above, below, hstart, hstop, -⟩ := h
  simp only [Area.start, Area.stop, Area.extent] at hstart hstop
  simp only [Rect.Within, Rect.right, Rect.bottom, Area.rect, hx, hwidth]
  omega

/-- In areas side by side the rows in the middle are the same. -/
theorem Area.Centers.same_rows {row row' a a' : Area} (h : row.Centers a) (h' : row'.Centers a')
    (hstart : a.start .vertical = a'.start .vertical)
    (hextent : a.extent .vertical = a'.extent .vertical) :
    row.y = row'.y ∧ row.height = row'.height := by
  have hheight : a.height = a'.height := UInt16.toNat_inj.mp hextent
  have hrows : row.height = row'.height := by rw [h.height, h'.height, hheight]
  obtain ⟨above, below, habove, hbelow, hbalance⟩ := h.balanced
  obtain ⟨above', below', habove', hbelow', hbalance'⟩ := h'.balanced
  -- as many rows are left, so as many of them are above
  have hspare : row.extent .vertical = row'.extent .vertical := congrArg UInt16.toNat hrows
  simp only [Area.stop] at hbelow hbelow'
  have hy : row.start .vertical = row'.start .vertical := by omega
  exact ⟨UInt16.toNat_inj.mp hy, hrows⟩

/-! ### The middle of an area -/

/-- The middle of an area, as large as the given percentages of it. -/
def centeredRect? (split : Splitter) (percentX percentY : UInt16) (a : Area) : Option Area := do
  let marginY := (← Word.sub? 100 percentY) / 2
  let rows := split .vertical a
    [.percentage marginY, .percentage percentY, .percentage marginY]
  let row ← rows[1]?
  let marginX := (← Word.sub? 100 percentX) / 2
  let columns := split .horizontal row
    [.percentage marginX, .percentage percentX, .percentage marginX]
  columns[1]?

/-- The middle of an area that fits is computed without a failure, and lies in it. -/
theorem exists_centeredRect {split : Splitter} (hsplit : split.Lawful)
    {percentX percentY : UInt16} (hx : percentX ≤ 100) (hy : percentY ≤ 100) {a : Area}
    (ha : a.Fits) :
    ∃ part, centeredRect? split percentX percentY a = some part ∧ part.rect.Within a.rect := by
  obtain ⟨marginY, hmarginY, -⟩ := Word.exists_sub (UInt16.le_iff_toNat_le.mp hy)
  obtain ⟨marginX, hmarginX, -⟩ := Word.exists_sub (UInt16.le_iff_toNat_le.mp hx)
  obtain ⟨row, hrow⟩ := hsplit.exists_part .vertical a
    [.percentage (marginY / 2), .percentage percentY, .percentage (marginY / 2)]
    (show 1 < 3 by decide)
  obtain ⟨part, hpart⟩ := hsplit.exists_part .horizontal row
    [.percentage (marginX / 2), .percentage percentX, .percentage (marginX / 2)]
    (show 1 < 3 by decide)
  -- the second split is one of a part of the first, which fits as the area does
  have hrowWithin := (hsplit.spans_part ha hrow).within
  have hpartWithin := (hsplit.spans_part (ha.of_within hrowWithin) hpart).within
  refine ⟨part, ?_, hpartWithin.trans hrowWithin⟩
  simp only [centeredRect?, hmarginX, hmarginY, hrow, hpart, Option.bind_eq_bind,
    Option.bind_some]

/-! ### The areas of the screen -/

/-- The columns around and of the buttons. -/
def buttonColumns : List Constraint :=
  [.percentage 20, .percentage 30, .percentage 30, .percentage 20]

/-- Where the screen of a panel is drawn, and how many of the outcomes have no room. -/
structure Plan where
  status : Area
  install : Area
  uninstall : Area
  outcomes : Area
  bar : Area
  dialog : Option Area
  hidden : Nat
deriving DecidableEq

namespace Plan

/-- All areas that are drawn into. -/
def areas (plan : Plan) : List Area :=
  [plan.status, plan.install, plan.uninstall, plan.outcomes, plan.bar] ++ plan.dialog.toList

/-- The screen of a panel, drawn part by part. -/
def draw (plan : Plan) (p : Panel) (c : Canvas) : Canvas :=
  let panel := c
    |>.draw plan.status.rect (statusMarks p plan.status.rect)
    |>.draw plan.install.rect (buttonMarks .install (p.selected = .install) plan.install.rect)
    |>.draw plan.uninstall.rect
      (buttonMarks .uninstall (p.selected = .uninstall) plan.uninstall.rect)
    |>.draw plan.outcomes.rect (outcomesMarks p plan.outcomes.rect)
    |>.draw plan.bar.rect (barMarks plan.bar.rect)
  match plan.dialog with
  | some dialog => panel.draw dialog.rect (helpMarks dialog.rect)
  | none => panel

/-- A plan for a panel is safe in a frame. -/
structure Safe (plan : Plan) (p : Panel) (frame : Area) : Prop where
  /-- Every area lies in the frame. -/
  within : ∀ a ∈ plan.areas, a.rect.Within frame.rect
  /-- The buttons stand in the same rows, one right of the other. -/
  rows : plan.install.y = plan.uninstall.y ∧ plan.install.height = plan.uninstall.height
  apart : plan.install.rect.right ≤ plan.uninstall.rect.x
  /-- There is a dialog while the panel shows its help. -/
  dialog : plan.dialog.isSome = p.help
  /-- The outcomes that have room are the latest ones. -/
  shown : p.outcomes.drop plan.hidden = latest (plan.outcomes.rect.height - 2) p.outcomes

end Plan

/-- Where the screen of a panel is drawn in a frame. -/
def plan? (split : Splitter) (p : Panel) (frame : Area) : Option Plan := do
  let rows := split .vertical frame screenRows
  let columns := split .horizontal (← rows[1]?) buttonColumns
  let outcomes ← rows[2]?
  return {
    status := ← rows[0]?
    install := ← centeredRow? (← columns[1]?)
    uninstall := ← centeredRow? (← columns[2]?)
    outcomes
    bar := ← rows[3]?
    dialog := ← if p.help then some <$> centeredRect? split 60 60 frame else some none
    hidden := p.outcomes.length - (Word.subOrZero outcomes.height 2).toNat }

/-! ### The parts of a frame -/

/-- The areas of a frame on the way to those of the screen, each as it is computed. -/
structure Parts (split : Splitter) (frame : Area) where
  status : Area
  row : Area
  outcomes : Area
  bar : Area
  left : Area
  right : Area
  install : Area
  uninstall : Area
  dialog : Area
  status_eq : (split .vertical frame screenRows)[0]? = some status
  row_eq : (split .vertical frame screenRows)[1]? = some row
  outcomes_eq : (split .vertical frame screenRows)[2]? = some outcomes
  bar_eq : (split .vertical frame screenRows)[3]? = some bar
  left_eq : (split .horizontal row buttonColumns)[1]? = some left
  right_eq : (split .horizontal row buttonColumns)[2]? = some right
  install_eq : centeredRow? left = some install
  uninstall_eq : centeredRow? right = some uninstall
  dialog_eq : centeredRect? split 60 60 frame = some dialog

namespace Parts

variable {split : Splitter} {frame : Area}

/-- The plan for a panel. -/
def plan (parts : Parts split frame) (p : Panel) : Plan where
  status := parts.status
  install := parts.install
  uninstall := parts.uninstall
  outcomes := parts.outcomes
  bar := parts.bar
  dialog := if p.help then some parts.dialog else none
  hidden := p.outcomes.length - (parts.outcomes.height.toNat - 2)

/-- This is the plan that is computed. -/
theorem plan?_eq (parts : Parts split frame) (p : Panel) :
    plan? split p frame = some (parts.plan p) := by
  have hrows : (Word.subOrZero parts.outcomes.height 2).toNat
      = parts.outcomes.height.toNat - 2 := Word.toNat_subOrZero parts.outcomes.height 2
  simp only [plan?, parts.status_eq, parts.row_eq, parts.outcomes_eq, parts.bar_eq, parts.left_eq,
    parts.right_eq, parts.install_eq, parts.uninstall_eq, parts.dialog_eq, hrows,
    Option.bind_eq_bind, Option.bind_some, plan]
  split <;> rfl

section Lawful

variable (hsplit : split.Lawful) (hframe : frame.Fits)

include hsplit hframe

/-- Every frame that fits has its parts. -/
theorem nonempty : Nonempty (Parts split frame) := by
  obtain ⟨status, hstatus⟩ := hsplit.exists_part .vertical frame screenRows (show 0 < 4 by decide)
  obtain ⟨row, hrow⟩ := hsplit.exists_part .vertical frame screenRows (show 1 < 4 by decide)
  obtain ⟨outcomes, houtcomes⟩ :=
    hsplit.exists_part .vertical frame screenRows (show 2 < 4 by decide)
  obtain ⟨bar, hbar⟩ := hsplit.exists_part .vertical frame screenRows (show 3 < 4 by decide)
  obtain ⟨left, hleft⟩ := hsplit.exists_part .horizontal row buttonColumns (show 1 < 4 by decide)
  obtain ⟨right, hright⟩ := hsplit.exists_part .horizontal row buttonColumns (show 2 < 4 by decide)
  -- what is left to compute are the rows of the buttons and the dialog
  have hrowFits : row.Fits := hframe.of_within (hsplit.spans_part hframe hrow).within
  obtain ⟨install, hinstall, -⟩ :=
    exists_centeredRow (hrowFits.of_within (hsplit.spans_part hrowFits hleft).within)
  obtain ⟨uninstall, huninstall, -⟩ :=
    exists_centeredRow (hrowFits.of_within (hsplit.spans_part hrowFits hright).within)
  obtain ⟨dialog, hdialog, -⟩ := exists_centeredRect hsplit (show (60 : UInt16) ≤ 100 by decide)
    (show (60 : UInt16) ≤ 100 by decide) hframe
  exact ⟨⟨status, row, outcomes, bar, left, right, install, uninstall, dialog, hstatus, hrow,
    houtcomes, hbar, hleft, hright, hinstall, huninstall, hdialog⟩⟩

/-- Their plan is safe. -/
theorem safe (parts : Parts split frame) (p : Panel) : (parts.plan p).Safe p frame := by
  have hrow := hsplit.spans_part hframe parts.row_eq
  have hrowFits : parts.row.Fits := hframe.of_within hrow.within
  have hleft := hsplit.spans_part hrowFits parts.left_eq
  have hright := hsplit.spans_part hrowFits parts.right_eq
  obtain ⟨-, hinstall⟩ := centers_of_eq_some (hrowFits.of_within hleft.within) parts.install_eq
  obtain ⟨-, huninstall⟩ :=
    centers_of_eq_some (hrowFits.of_within hright.within) parts.uninstall_eq
  obtain ⟨dialog, hdialog, hdialogWithin⟩ := exists_centeredRect hsplit
    (show (60 : UInt16) ≤ 100 by decide) (show (60 : UInt16) ≤ 100 by decide) hframe
  obtain rfl : parts.dialog = dialog := Option.some.inj (parts.dialog_eq.symm.trans hdialog)
  constructor
  case within =>
    intro a ha
    simp only [Plan.areas, plan, List.mem_append, List.mem_cons, List.not_mem_nil, or_false,
      Option.mem_toList, Option.ite_none_right_eq_some, Option.some_inj] at ha
    rcases ha with (rfl | rfl | rfl | rfl | rfl) | ⟨-, rfl⟩
    · exact (hsplit.spans_part hframe parts.status_eq).within
    · exact (hinstall.within.trans hleft.within).trans hrow.within
    · exact (huninstall.within.trans hright.within).trans hrow.within
    · exact (hsplit.spans_part hframe parts.outcomes_eq).within
    · exact (hsplit.spans_part hframe parts.bar_eq).within
    · exact hdialogWithin
  case rows =>
    refine hinstall.same_rows huninstall ?_ ?_
    · exact hleft.start_cross.trans hright.start_cross.symm
    · exact hleft.extent_cross.trans hright.extent_cross.symm
  case apart =>
    have horder : parts.left.stop .horizontal ≤ parts.right.start .horizontal :=
      hsplit.stop_le_start hrowFits (show 1 < 2 by decide) parts.left_eq parts.right_eq
    show parts.install.x.toNat + parts.install.width.toNat ≤ parts.uninstall.x.toNat
    rw [hinstall.x, hinstall.width, huninstall.x]
    exact horder
  case dialog =>
    show (if p.help then some parts.dialog else none).isSome = p.help
    cases p.help <;> rfl
  case shown => rfl

end Lawful

/-- Where the parts lie on the screen. -/
def layout (parts : Parts split frame) : Layout :=
  ⟨parts.status.rect, parts.install.rect, parts.uninstall.rect, parts.outcomes.rect,
    parts.bar.rect, parts.dialog.rect⟩

/-- The screen drawn after the plan is the one drawn in these places. -/
theorem draw_plan (parts : Parts split frame) (p : Panel) (width height : Nat)
    (h : parts.layout = Layout.ofFrame ⟨0, 0, width, height⟩) :
    (parts.plan p).draw p (Canvas.blank width height) = render p width height := by
  rw [render, renderPanel, ← h]
  cases hhelp : p.help <;> simp only [Plan.draw, plan, hhelp] <;> rfl

end Parts

/-! ### The screen as it is split -/

/-- A part between two percentages of an area is a column of it. -/
theorem rect_column {a : Area} (ha : a.Fits) {low high start : Nat} (hlow : low ≤ high)
    (hhigh : high ≤ 100) (hstart : start = a.x.toNat + edge a.width.toNat low) :
    (a.part .horizontal start (edge a.width.toNat high - edge a.width.toNat low)).rect
      = column a.rect low high := by
  have hright : a.x.toNat + a.width.toNat < UInt16.size := ha .horizontal
  have hedge := edge_mono a.width.toNat hlow
  have hedge' := edge_mono a.width.toNat hhigh
  rw [edge_hundred] at hedge'
  rw [hstart, Area.rect_part (by omega) (by omega)]
  rfl

variable {width height : UInt16}

/-- The rows of the screen have the heights of its layout. -/
theorem Parts.rows_standard (parts : Parts standard ⟨0, 0, width, height⟩) :
    let layout := Layout.ofFrame ⟨0, 0, width.toNat, height.toNat⟩
    parts.status.rect = layout.status ∧
    parts.row.rect = Layout.buttonRow ⟨0, 0, width.toNat, height.toNat⟩ ∧
    parts.outcomes.rect = layout.outcomes ∧ parts.bar.rect = layout.bar := by
  intro layout
  let frame : Area := ⟨0, 0, width, height⟩
  let h := Heights.ofFrame height.toNat
  -- each row is stacked on the heights of those above it
  have hstatus : parts.status = frame.part .vertical 0 h.status :=
    Option.some.inj (parts.status_eq.symm.trans rfl)
  have hrow : parts.row = frame.part .vertical (0 + h.status) h.buttons :=
    Option.some.inj (parts.row_eq.symm.trans rfl)
  have houtcomes : parts.outcomes = frame.part .vertical (0 + h.status + h.buttons) h.outcomes :=
    Option.some.inj (parts.outcomes_eq.symm.trans rfl)
  have hbar : parts.bar
      = frame.part .vertical (0 + h.status + h.buttons + h.outcomes) h.bar :=
    Option.some.inj (parts.bar_eq.symm.trans rfl)
  have hsum : h.status + h.buttons + h.outcomes + h.bar = height.toNat :=
    Heights.sum_ofFrame height.toNat
  have hheight : height.toNat < UInt16.size := height.toNat_lt
  refine ⟨?_, ?_, ?_, ?_⟩
  · rw [hstatus, Area.rect_part (by omega) (by omega)]
    rfl
  · rw [hrow, Area.rect_part (by omega) (by omega)]
    rfl
  · rw [houtcomes, Area.rect_part (by omega) (by omega)]
    rfl
  · rw [hbar, Area.rect_part (by omega) (by omega)]
    rfl

/-- So have the buttons their places. -/
theorem Parts.buttons_standard (parts : Parts standard ⟨0, 0, width, height⟩) :
    let layout := Layout.ofFrame ⟨0, 0, width.toNat, height.toNat⟩
    parts.install.rect = layout.install ∧ parts.uninstall.rect = layout.uninstall := by
  intro layout
  have hframe := Area.fits_origin width height
  have hrowFits := hframe.of_within (standard_lawful.spans_part hframe parts.row_eq).within
  have hleftFits := hrowFits.of_within (standard_lawful.spans_part hrowFits parts.left_eq).within
  have hrightFits :=
    hrowFits.of_within (standard_lawful.spans_part hrowFits parts.right_eq).within
  obtain ⟨-, hrow, -, -⟩ := parts.rows_standard
  -- and each column on the lengths of those left of it, which add up to a percentage
  let w := parts.row.width.toNat
  have hleft : parts.left.rect = column parts.row.rect 20 50 := by
    have hpart : parts.left = parts.row.part .horizontal
        (parts.row.x.toNat + (edge w 20 - edge w 0)) (edge w 50 - edge w 20) :=
      Option.some.inj (parts.left_eq.symm.trans rfl)
    rw [hpart, rect_column hrowFits (by decide) (by decide)]
    rw [edge_zero, Nat.sub_zero]
  have hright : parts.right.rect = column parts.row.rect 50 80 := by
    have hpart : parts.right = parts.row.part .horizontal
        (parts.row.x.toNat + (edge w 20 - edge w 0) + (edge w 50 - edge w 20))
        (edge w 80 - edge w 50) :=
      Option.some.inj (parts.right_eq.symm.trans rfl)
    have hedge : edge w 20 ≤ edge w 50 := edge_mono w (by decide)
    rw [hpart, rect_column hrowFits (by decide) (by decide)]
    rw [edge_zero, Nat.sub_zero, Nat.add_assoc, Nat.add_sub_cancel' hedge]
  obtain ⟨hinstall, -⟩ := centers_of_eq_some hleftFits parts.install_eq
  obtain ⟨huninstall, -⟩ := centers_of_eq_some hrightFits parts.uninstall_eq
  rw [hinstall, huninstall, hleft, hright, hrow]
  exact ⟨rfl, rfl⟩

/-- So has the dialog. -/
theorem Parts.dialog_standard (parts : Parts standard ⟨0, 0, width, height⟩) :
    parts.dialog.rect = (Layout.ofFrame ⟨0, 0, width.toNat, height.toNat⟩).dialog := by
  let frame : Area := ⟨0, 0, width, height⟩
  let row := frame.part .vertical (0 + (edge height.toNat 20 - edge height.toNat 0))
    (edge height.toNat 80 - edge height.toNat 20)
  have hdialog : parts.dialog = row.part .horizontal
      (0 + (edge width.toNat 20 - edge width.toNat 0)) (edge width.toNat 80 - edge width.toNat 20) :=
    Option.some.inj (parts.dialog_eq.symm.trans rfl)
  have hframe : frame.Fits := Area.fits_origin width height
  have hrowFits : row.Fits := by
    have hpart : (standard .vertical frame
        [.percentage 20, .percentage 60, .percentage 20])[1]? = some row := rfl
    exact hframe.of_within (standard_lawful.spans_part hframe hpart).within
  have hrow : row.rect
      = ⟨0, edge height.toNat 20, width.toNat, edge height.toNat 80 - edge height.toNat 20⟩ := by
    have hheight : height.toNat < UInt16.size := height.toNat_lt
    have hedge := edge_le height.toNat (show 20 ≤ 80 by decide)
    have hedge' := edge_le height.toNat (Nat.le_refl 80)
    rw [Area.rect_part (by omega) (by omega), edge_zero, Nat.sub_zero, Nat.zero_add]
    rfl
  have hcolumn : parts.dialog.rect = column row.rect 20 80 := by
    have hstart : 0 + (edge width.toNat 20 - edge width.toNat 0)
        = row.x.toNat + edge row.width.toNat 20 := by
      rw [edge_zero]
      rfl
    rw [hdialog]
    exact rect_column hrowFits (by decide) (by decide) hstart
  have hdialogRect : (Layout.ofFrame ⟨0, 0, width.toNat, height.toNat⟩).dialog
      = ⟨0 + edge width.toNat 20, 0 + edge height.toNat 20,
          edge width.toNat 80 - edge width.toNat 20,
          edge height.toNat 80 - edge height.toNat 20⟩ := rfl
  rw [hcolumn, hrow, hdialogRect, Nat.zero_add (edge height.toNat 20)]
  rfl

/-- **The screen** is drawn into the areas that its own splitter gives. -/
theorem Parts.layout_standard (parts : Parts standard ⟨0, 0, width, height⟩) :
    parts.layout = Layout.ofFrame ⟨0, 0, width.toNat, height.toNat⟩ := by
  obtain ⟨hstatus, -, houtcomes, hbar⟩ := parts.rows_standard
  obtain ⟨hinstall, huninstall⟩ := parts.buttons_standard
  rw [layout, hstatus, hinstall, huninstall, houtcomes, hbar, parts.dialog_standard]

/-- **Every size.**  However a splitter shares out a terminal, of whatever size down to nothing, and
    whatever a panel shows: the areas of the screen are computed without a sum or difference that
    fails, each lies on the terminal, and the buttons stand in the same rows, one right of the other.
    The rows of a button are in the middle of its column, with at most one more below than above.
    The screen itself is drawn in this way, with a splitter of its own. -/
theorem render_safe (split : Splitter) (hsplit : split.Lawful) (p : Panel)
    (width height : UInt16) :
    (∃ plan, plan? split p ⟨0, 0, width, height⟩ = some plan ∧
      plan.Safe p ⟨0, 0, width, height⟩) ∧
    (∀ a : Area, a.Fits → ∃ row, centeredRow? a = some row ∧ row.rect = centeredRow a.rect ∧
      row.Centers a) ∧
    (standard.Lawful ∧ ∃ plan, plan? standard p ⟨0, 0, width, height⟩ = some plan ∧
      plan.draw p (Canvas.blank width.toNat height.toNat)
        = render p width.toNat height.toNat) := by
  have hframe := Area.fits_origin width height
  refine ⟨?_, fun a ha => exists_centeredRow ha, standard_lawful, ?_⟩
  · obtain ⟨parts⟩ := Parts.nonempty hsplit hframe
    exact ⟨parts.plan p, parts.plan?_eq p, parts.safe hsplit hframe p⟩
  · obtain ⟨parts⟩ := Parts.nonempty standard_lawful hframe
    exact ⟨parts.plan p, parts.plan?_eq p, parts.draw_plan p _ _ parts.layout_standard⟩

/-- On a terminal of thirty columns and nine rows, where not all rows can be had. -/
theorem render_safe_low :
    let p : Panel := { Panel.new default "None" .cancel with help := true }
    let plan : Plan := ⟨⟨0, 0, 30, 1⟩, ⟨6, 1, 9, 0⟩, ⟨15, 1, 9, 0⟩, ⟨0, 1, 30, 5⟩, ⟨0, 6, 30, 3⟩,
      some ⟨6, 2, 18, 5⟩, 0⟩
    plan? standard p ⟨0, 0, 30, 9⟩ = some plan ∧ plan.Safe p ⟨0, 0, 30, 9⟩ := by
  intro p plan
  obtain ⟨⟨plan', hplan', hsafe⟩, -, -⟩ := render_safe standard standard_lawful p 30 9
  have hplan : plan? standard p ⟨0, 0, 30, 9⟩ = some plan := by decide
  obtain rfl : plan' = plan := Option.some.inj (hplan'.symm.trans hplan)
  exact ⟨hplan, hsafe⟩

end DriverExtension.Screen
