import DriverExtension.Screen.Canvas
import DriverExtension.Text.Cluster
import DriverExtension.Text.Width

namespace DriverExtension.Screen

open DriverExtension.Text

/-!
# Text on the screen

A line is made of spans, each with a style, and a span of glyphs, one per grapheme cluster.

* `rowMarks`      — a line cut at the right end of its area, marks joined to the cell before them;
* `centeredMarks` — a line in the middle of its area;
* `wrap`          — a line broken at spaces into rows of a given width.
-/

/-- A text in one style. -/
structure Span where
  text : String
  style : Style
deriving DecidableEq, Repr

/-- A grapheme cluster with its width and style. -/
structure Glyph where
  symbol : String
  width : Nat
  style : Style
deriving DecidableEq, Repr

namespace Span

/-- The clusters of a span; line breaks are not drawn. -/
def glyphs (s : Span) : List Glyph :=
  (clusters s.text.toList).filterMap fun cluster =>
    if cluster = ['\n'] then none
    else some ⟨String.ofList cluster, columnsOf cluster, s.style⟩

end Span

/-! ### One row -/

/-- Blank cells at the given columns. -/
def hiddenMarks (y start stop : Nat) : List Mark :=
  (List.range' start (stop - start)).map fun x => ⟨x, y, .reset⟩

/-- Draws glyphs from column `x` on up to column `right`.  A glyph without width joins the cell
before it, or the first cell if nothing is before it; the cells behind a wide glyph become blank. -/
def glyphMarks (left right y : Nat) (x : Nat) (first : Bool) : List Glyph → List Mark
  | [] => []
  | g :: rest =>
    let next := x + g.width
    if right < next then []
    else
      let mark : Mark :=
        if first then ⟨x, y, .put g.symbol g.style⟩
        else if x = left then ⟨x, y, .append g.symbol g.style⟩
        else if g.width = 0 then ⟨x - 1, y, .append g.symbol g.style⟩
        else ⟨x, y, .put g.symbol g.style⟩
      mark :: (hiddenMarks y (x + 1) next ++ glyphMarks left right y next false rest)

/-- Draws spans one after the other; those without width are left out. -/
def spanMarks (area : Rect) : List Span → List Mark
  | [] => []
  | s :: rest =>
    let width := columns s.text
    if width = 0 then spanMarks area rest
    else if area.isEmpty then []
    else glyphMarks area.x area.right area.y area.x true s.glyphs
      ++ spanMarks (area.indent width) rest

/-- Draws a line into the first row of an area. -/
def rowMarks (area : Rect) (line : List Span) : List Mark :=
  if area.isEmpty then [] else spanMarks area line

/-! ### Centred lines -/

/-- The glyphs that fit into a width; those wider than all of it are left out. -/
def cut (limit : Nat) : Nat → List Glyph → List Glyph
  | _, [] => []
  | used, g :: rest =>
    if limit < g.width then cut limit used rest
    else if limit < used + g.width then []
    else g :: cut limit (used + g.width) rest

/-- The width of glyphs. -/
def glyphsWidth (gs : List Glyph) : Nat := gs.foldr (fun g width => g.width + width) 0

/-- Draws glyphs one after the other from column `x` on. -/
def placeGlyphs (y : Nat) : Nat → List Glyph → List Mark
  | _, [] => []
  | x, g :: rest =>
    if g.width = 0 then placeGlyphs y x rest
    else ⟨x, y, .put g.symbol g.style⟩ :: placeGlyphs y (x + g.width) rest

/-- Draws a line in the middle of the first row of an area. -/
def centeredMarks (area : Rect) (line : List Span) : List Mark :=
  if area.isEmpty then []
  else
    let gs := cut area.width 0 (line.flatMap Span.glyphs)
    placeGlyphs area.y (area.x + (area.width / 2 - glyphsWidth gs / 2)) gs

/-! ### Wrapped text -/

/-- The state of wrapping: the rows that are done, the row that is being filled, and the spaces and
the word after it that are not yet placed. -/
structure Wrapping where
  done : List (List Glyph)
  line : List Glyph
  spaces : List Glyph
  word : List Glyph
  /-- Whether the last glyph was no space. -/
  afterWord : Bool
deriving DecidableEq

namespace Wrapping

/-- Whether a glyph is a space. -/
def isSpace (g : Glyph) : Bool := g.symbol = " "

/-- The start of a line. -/
def start : Wrapping := ⟨[], [], [], [], false⟩

/-- Moves the word to the row; the spaces before it go along unless the row is empty. -/
def place (w : Wrapping) : Wrapping :=
  { w with
    line := if w.line.isEmpty then w.word else w.line ++ w.spaces ++ w.word
    spaces := []
    word := [] }

/-- Drops spaces as long as they fit into `room`. -/
def dropSpaces (room : Nat) : List Glyph → List Glyph
  | [] => []
  | g :: rest => if room < g.width then g :: rest else dropSpaces (room - g.width) rest

/-- Ends the row; of the spaces after it those are dropped that would have fitted. -/
def breakLine (limit : Nat) (w : Wrapping) : Wrapping :=
  { w with
    done := w.done ++ [w.line]
    line := []
    spaces := dropSpaces (limit - glyphsWidth w.line) w.spaces }

/-- Adds a glyph to the spaces or to the word. -/
def add (g : Glyph) (w : Wrapping) : Wrapping :=
  if isSpace g then { w with spaces := w.spaces ++ [g], afterWord := false }
  else { w with word := w.word ++ [g], afterWord := true }

/-- Takes one more glyph. -/
def step (limit : Nat) (w : Wrapping) (g : Glyph) : Wrapping :=
  if limit < g.width then w
  else
    let wordEnds := w.afterWord && isSpace g
    let overflows := w.line.isEmpty &&
      (limit < glyphsWidth w.word + g.width || limit < glyphsWidth w.spaces + g.width)
    let w := if wordEnds || overflows then w.place else w
    let full := limit ≤ glyphsWidth w.line
    let tooLong := g.width ≠ 0 &&
      limit ≤ glyphsWidth w.line + glyphsWidth w.spaces + glyphsWidth w.word
    if full || tooLong then
      let w := w.breakLine limit
      if isSpace g && w.spaces.isEmpty then w else w.add g
    else w.add g

/-- The rows at the end of a line; there is at least one. -/
def finish (w : Wrapping) : List (List Glyph) :=
  let blank := w.line.isEmpty && w.word.isEmpty && !w.spaces.isEmpty
  let done := if blank then w.done ++ [[]] else w.done
  let line := if w.line.isEmpty then w.word else w.line ++ w.spaces ++ w.word
  let rows := if line.isEmpty then done else done ++ [line]
  if rows.isEmpty then [[]] else rows

end Wrapping

/-- The rows of a line in a given width. -/
def wrap (limit : Nat) (line : List Span) : List (List Glyph) :=
  ((line.flatMap Span.glyphs).foldl (Wrapping.step limit) .start).finish

/-- Draws rows from the top of an area on, as many as it has room for. -/
def rowsMarks (area : Rect) (rows : List (List Glyph)) : List Mark :=
  if area.isEmpty then []
  else (rows.take area.height).mapIdx (fun i row => placeGlyphs (area.y + i) area.x row) |>.flatten

end DriverExtension.Screen
