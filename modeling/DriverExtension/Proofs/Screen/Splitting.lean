import DriverExtension.Screen.Layout
import Mathlib

namespace DriverExtension.Screen

/-!
# Splitting areas

A terminal gives its areas in words of 16 bits.  An area is split along one direction into parts, one
for each constraint, and how much a part gets when the constraints cannot all be met is left to the
splitter.  Whatever it decides, the parts stand one behind another in the area.

* `Area` — a rectangle in words;
* `Splitter`, `Splitter.Lawful` — a way to split areas, and what can be relied on;
* `Area.stack` — parts of given lengths, one behind another;
* `standard`, `standard_lawful` — the way in which the screen is split.
-/

/-! ### Areas -/

/-- What lies in a rectangle lies in every one around it. -/
theorem Rect.Within.trans {r s t : Rect} (h : r.Within s) (h' : s.Within t) : r.Within t := by
  simp only [Rect.Within] at h h' ⊢
  omega

/-- The direction in which parts follow each other. -/
inductive Direction where
  | vertical
  | horizontal
deriving DecidableEq, Repr

/-- The other direction. -/
def Direction.cross : Direction → Direction
  | .vertical => .horizontal
  | .horizontal => .vertical

/-- A rectangle of a terminal, in words. -/
structure Area where
  x : UInt16
  y : UInt16
  width : UInt16
  height : UInt16
deriving DecidableEq, Repr

namespace Area

/-- The rectangle of cells. -/
def rect (a : Area) : Rect := ⟨a.x.toNat, a.y.toNat, a.width.toNat, a.height.toNat⟩

/-- Where the area begins. -/
def start (a : Area) : Direction → Nat
  | .vertical => a.y.toNat
  | .horizontal => a.x.toNat

/-- How long it is. -/
def extent (a : Area) : Direction → Nat
  | .vertical => a.height.toNat
  | .horizontal => a.width.toNat

/-- Where it ends. -/
def stop (a : Area) (d : Direction) : Nat := a.start d + a.extent d

/-- The ends of the area are words. -/
def Fits (a : Area) : Prop := ∀ d, a.stop d < UInt16.size

/-- An area at the origin has its ends where its size says. -/
theorem fits_origin (width height : UInt16) : Fits ⟨0, 0, width, height⟩ := by
  intro d
  cases d with
  | vertical => simpa [stop, start, extent] using height.toNat_lt
  | horizontal => simpa [stop, start, extent] using width.toNat_lt

/-- A part of an area that lies in it in one direction and is as wide as it across. -/
structure Spans (d : Direction) (part a : Area) : Prop where
  start : a.start d ≤ part.start d
  stop : part.stop d ≤ a.stop d
  start_cross : part.start d.cross = a.start d.cross
  extent_cross : part.extent d.cross = a.extent d.cross

variable {d : Direction} {part a : Area}

/-- Such a part lies in the area. -/
theorem Spans.within (h : part.Spans d a) : part.rect.Within a.rect := by
  obtain ⟨hstart, hstop, hcross, hextent⟩ := h
  -- along the direction the ends lie in the area, across it they are the same
  cases d <;>
    simp only [Area.stop, Area.start, Area.extent, Direction.cross] at hstart hstop hcross hextent <;>
    simp only [Rect.Within, rect, Rect.right, Rect.bottom] <;>
    omega

/-- An area in one that fits does too. -/
theorem Fits.of_within (h : a.Fits) (hpart : part.rect.Within a.rect) : part.Fits := by
  obtain ⟨-, hright, -, hbottom⟩ := hpart
  intro d
  cases d with
  | vertical => exact Nat.lt_of_le_of_lt hbottom (h .vertical)
  | horizontal => exact Nat.lt_of_le_of_lt hright (h .horizontal)

end Area

/-! ### Splitters -/

/-- What is asked for a part. -/
inductive Constraint where
  /-- So many cells. -/
  | length (cells : UInt16)
  /-- At least so many cells. -/
  | min (cells : UInt16)
  /-- So much of a hundred parts of the area. -/
  | percentage (percent : UInt16)
deriving DecidableEq, Repr

/-- A way to split an area in one direction. -/
abbrev Splitter := Direction → Area → List Constraint → List Area

/-- What can be relied on when an area is split: there is a part for each constraint, and the parts
    lie in the area, each behind those before it. -/
structure Splitter.Lawful (split : Splitter) : Prop where
  length (d : Direction) (a : Area) (cs : List Constraint) : (split d a cs).length = cs.length
  spans (d : Direction) (a : Area) (cs : List Constraint) (ha : a.Fits) :
    ∀ part ∈ split d a cs, part.Spans d a
  ordered (d : Direction) (a : Area) (cs : List Constraint) (ha : a.Fits) :
    (split d a cs).Pairwise fun part next => part.stop d ≤ next.start d

namespace Splitter.Lawful

variable {split : Splitter} {d : Direction} {a : Area} {cs : List Constraint} {i j : Nat}

/-- There is a part for each constraint. -/
theorem exists_part (h : split.Lawful) (d : Direction) (a : Area) (cs : List Constraint)
    (hi : i < cs.length) : ∃ part, (split d a cs)[i]? = some part := by
  have hi' : i < (split d a cs).length := by rwa [h.length]
  exact ⟨_, List.getElem?_eq_getElem hi'⟩

/-- It lies in the area. -/
theorem spans_part (h : split.Lawful) (ha : a.Fits) {part : Area}
    (hpart : (split d a cs)[i]? = some part) : part.Spans d a :=
  h.spans d a cs ha part (List.mem_of_getElem? hpart)

/-- A part ends before a later one begins. -/
theorem stop_le_start (h : split.Lawful) (ha : a.Fits) (hij : i < j) {part next : Area}
    (hpart : (split d a cs)[i]? = some part) (hnext : (split d a cs)[j]? = some next) :
    part.stop d ≤ next.start d := by
  obtain ⟨hi, rfl⟩ := List.getElem?_eq_some_iff.mp hpart
  obtain ⟨hj, rfl⟩ := List.getElem?_eq_some_iff.mp hnext
  exact List.pairwise_iff_getElem.mp (h.ordered d a cs ha) i j hi hj hij

end Splitter.Lawful

/-! ### Parts one behind another -/

namespace Area

/-- The part of an area between two places. -/
def part (d : Direction) (a : Area) (start length : Nat) : Area :=
  match d with
  | .vertical => { a with y := .ofNat start, height := .ofNat length }
  | .horizontal => { a with x := .ofNat start, width := .ofNat length }

/-- Parts of given lengths, one behind another. -/
def stack (d : Direction) (a : Area) : Nat → List Nat → List Area
  | _, [] => []
  | start, l :: ls => a.part d start l :: a.stack d (start + l) ls

variable {d : Direction} {a : Area} {start length : Nat}

theorem start_part (h : start < UInt16.size) : (a.part d start length).start d = start := by
  cases d <;> exact UInt16.toNat_ofNat_of_lt' h

theorem extent_part (h : length < UInt16.size) : (a.part d start length).extent d = length := by
  cases d <;> exact UInt16.toNat_ofNat_of_lt' h

theorem start_cross_part : (a.part d start length).start d.cross = a.start d.cross := by
  cases d <;> rfl

theorem extent_cross_part : (a.part d start length).extent d.cross = a.extent d.cross := by
  cases d <;> rfl

/-- The rectangle of a part. -/
theorem rect_part (hstart : start < UInt16.size) (hlength : length < UInt16.size) :
    (a.part d start length).rect =
      match d with
      | .vertical => { a.rect with y := start, height := length }
      | .horizontal => { a.rect with x := start, width := length } := by
  have hstart' : (UInt16.ofNat start).toNat = start := UInt16.toNat_ofNat_of_lt' hstart
  have hlength' : (UInt16.ofNat length).toNat = length := UInt16.toNat_ofNat_of_lt' hlength
  cases d <;> simp only [part, rect, hstart', hlength']

theorem length_stack (ls : List Nat) : (a.stack d start ls).length = ls.length := by
  induction ls generalizing start with
  | nil => rfl
  | cons l ls ih => rw [stack, List.length_cons, List.length_cons, ih]

/-- Stacked parts lie where the stack does. -/
theorem bounds_of_mem_stack {ls : List Nat} (h : start + ls.sum < UInt16.size) {part : Area}
    (hpart : part ∈ a.stack d start ls) :
    start ≤ part.start d ∧ part.stop d ≤ start + ls.sum := by
  induction ls generalizing start with
  | nil => exact absurd hpart List.not_mem_nil
  | cons l ls ih =>
    rw [List.sum_cons] at h ⊢
    rw [stack, List.mem_cons] at hpart
    rcases hpart with rfl | hrest
    · -- the first part takes `l` of the lengths, the others lie behind it
      rw [stop, start_part (by omega), extent_part (by omega)]
      omega
    · obtain ⟨hstart, hstop⟩ := ih (by omega) hrest
      omega

/-- Stacked parts are as wide as the area. -/
theorem cross_of_mem_stack {ls : List Nat} {part : Area} (hpart : part ∈ a.stack d start ls) :
    part.start d.cross = a.start d.cross ∧ part.extent d.cross = a.extent d.cross := by
  induction ls generalizing start with
  | nil => exact absurd hpart List.not_mem_nil
  | cons l ls ih =>
    rw [stack, List.mem_cons] at hpart
    rcases hpart with rfl | hrest
    · exact ⟨start_cross_part, extent_cross_part⟩
    · exact ih hrest

/-- Stacked parts stand one behind another. -/
theorem pairwise_stack {ls : List Nat} (h : start + ls.sum < UInt16.size) :
    (a.stack d start ls).Pairwise fun part next => part.stop d ≤ next.start d := by
  induction ls generalizing start with
  | nil => exact List.Pairwise.nil
  | cons l ls ih =>
    rw [List.sum_cons] at h
    have hrest : start + l + ls.sum < UInt16.size := by omega
    refine List.pairwise_cons.mpr ⟨?_, ih hrest⟩
    intro next hnext
    rw [stop, start_part (by omega), extent_part (by omega)]
    exact (bounds_of_mem_stack hrest hnext).1

end Area

/-- Stacking parts that are together no longer than the area is a lawful way to split. -/
theorem Splitter.lawful_of_lengths (lengths : Nat → List Constraint → List Nat)
    (hlength : ∀ n cs, (lengths n cs).length = cs.length)
    (hsum : ∀ n cs, (lengths n cs).sum ≤ n) :
    Splitter.Lawful fun d a cs => a.stack d (a.start d) (lengths (a.extent d) cs) := by
  have hroom (d : Direction) (a : Area) (cs : List Constraint) :
      a.start d + (lengths (a.extent d) cs).sum ≤ a.stop d :=
    Nat.add_le_add_left (hsum _ cs) _
  constructor
  case length =>
    intro d a cs
    rw [Area.length_stack, hlength]
  case spans =>
    intro d a cs ha part hpart
    have hfits := Nat.lt_of_le_of_lt (hroom d a cs) (ha d)
    obtain ⟨hstart, hstop⟩ := Area.bounds_of_mem_stack hfits hpart
    obtain ⟨hcross, hextent⟩ := Area.cross_of_mem_stack hpart
    exact ⟨hstart, Nat.le_trans hstop (hroom d a cs), hcross, hextent⟩
  case ordered =>
    intro d a cs ha
    exact Area.pairwise_stack (Nat.lt_of_le_of_lt (hroom d a cs) (ha d))

/-! ### How the screen is split -/

/-- The rows of the screen: status bar, buttons, outcomes, help bar. -/
def screenRows : List Constraint := [.length 3, .length 5, .min 5, .length 3]

/-- What a constraint asks of a hundred parts. -/
def Constraint.percent : Constraint → Nat
  | .percentage percent => percent.toNat
  | _ => 0

/-- The lengths of parts given in percent, from the percentage `low` on. -/
def percentLengths (n : Nat) : Nat → List Constraint → List Nat
  | _, [] => []
  | low, c :: cs =>
    let high := min (low + c.percent) 100
    (edge n high - edge n low) :: percentLengths n high cs

/-- The lengths of the parts of a length: the rows of the screen have heights of their own. -/
def standardLengths (n : Nat) (cs : List Constraint) : List Nat :=
  if cs = screenRows then
    let h := Heights.ofFrame n
    [h.status, h.buttons, h.outcomes, h.bar]
  else percentLengths n 0 cs

/-- The way in which the screen is split. -/
def standard : Splitter := fun d a cs =>
  a.stack d (a.start d) (standardLengths (a.extent d) cs)

theorem edge_mono (n : Nat) {low high : Nat} (h : low ≤ high) : edge n low ≤ edge n high := by
  have hmul : n * low ≤ n * high := Nat.mul_le_mul_left n h
  rw [edge, edge]
  omega

theorem edge_zero (n : Nat) : edge n 0 = 0 := by
  rw [edge]
  omega

theorem edge_hundred (n : Nat) : edge n 100 = n := by
  rw [edge]
  omega

theorem length_percentLengths (n low : Nat) (cs : List Constraint) :
    (percentLengths n low cs).length = cs.length := by
  induction cs generalizing low with
  | nil => rfl
  | cons c cs ih => rw [percentLengths, List.length_cons, List.length_cons, ih]

/-- Parts in percent end before the length does. -/
theorem sum_percentLengths_le (n : Nat) {low : Nat} (hlow : low ≤ 100) (cs : List Constraint) :
    edge n low + (percentLengths n low cs).sum ≤ n := by
  induction cs generalizing low with
  | nil =>
    have hedge := edge_mono n hlow
    rwa [edge_hundred] at hedge
  | cons c cs ih =>
    -- a part ends at its upper percentage, where the next one begins
    have hstep : low ≤ min (low + c.percent) 100 := by omega
    have hedge := edge_mono n hstep
    have hrest := ih (Nat.min_le_right (low + c.percent) 100)
    rw [percentLengths, List.sum_cons]
    omega

theorem length_standardLengths (n : Nat) (cs : List Constraint) :
    (standardLengths n cs).length = cs.length := by
  rw [standardLengths]
  split
  case isTrue hrows => rw [hrows]; rfl
  case isFalse => exact length_percentLengths n 0 cs

theorem sum_standardLengths_le (n : Nat) (cs : List Constraint) :
    (standardLengths n cs).sum ≤ n := by
  rw [standardLengths]
  split
  case isTrue =>
    have hsum := Heights.sum_ofFrame n
    simp only [List.sum_cons, List.sum_nil]
    omega
  case isFalse =>
    have hsum := sum_percentLengths_le n (Nat.zero_le 100) cs
    omega

/-- The screen is split lawfully. -/
theorem standard_lawful : standard.Lawful :=
  Splitter.lawful_of_lengths standardLengths length_standardLengths sum_standardLengths_le

end DriverExtension.Screen
