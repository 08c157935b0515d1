import DriverExtension.Console.Panel
import DriverExtension.Screen.Frame
import DriverExtension.Screen.Layout

namespace DriverExtension.Screen

/-!
# The screen of the panel

`render` draws a panel: status bar, buttons, outcomes, help bar, and the help dialog on top when it
is open.  Each part is a list of marks that depends on its area and on what it shows; each is
clipped to its area.
-/

/-! ### Status bar -/

/-- The colour of the policy in the status bar. -/
def policyColor : ReplacementPolicy → Color
  | .replace => .yellow
  | .cancel => .green

/-- The line of the status bar. -/
def statusLine (p : Panel) : List Span :=
  let label := Style.colored .darkGray
  [⟨"Extension: ", label⟩, ⟨p.identifier.text, .colored .cyan⟩, ⟨"  |  ", .plain⟩,
   ⟨"Backend: ", label⟩, ⟨p.backend, .colored .white⟩, ⟨"  |  ", .plain⟩,
   ⟨"On replace: ", label⟩, ⟨p.policy.name, .colored (policyColor p.policy)⟩]

/-- The status bar. -/
def statusMarks (p : Panel) (r : Rect) : List Mark :=
  borderMarks r (.colored .blue) ++ titleMarks r " Virtual USB Driver Installer " .center
    ++ centeredMarks r.inner (statusLine p)

/-! ### Buttons -/

/-- The style of the label of a button. -/
def labelStyle (selected : Bool) : Style :=
  if selected then ⟨some .black, some .yellow, true⟩ else .colored .white

/-- The style of the border of a button. -/
def buttonBorder (selected : Bool) : Style :=
  .colored (if selected then .yellow else .darkGray)

/-- A button. -/
def buttonMarks (b : Button) (selected : Bool) (r : Rect) : List Mark :=
  borderMarks r (buttonBorder selected)
    ++ centeredMarks r.inner [⟨" " ++ b.label ++ " ", labelStyle selected⟩]

/-! ### Outcomes -/

/-- The colour of an outcome. -/
def severityColor : Severity → Color
  | .info => .white
  | .warning => .yellow
  | .error => .red
  | .success => .green

/-- The age of an outcome: seconds, after a minute also minutes. -/
def elapsedText (milliseconds : Nat) : String :=
  let seconds := milliseconds / 1000
  if seconds / 60 = 0 then s!"{seconds % 60}s"
  else
    let rest := seconds % 60
    s!"{seconds / 60}m" ++ (if rest < 10 then "0" else "") ++ s!"{rest}s"

/-- A text filled up with spaces on the left. -/
def padLeft (width : Nat) (s : String) : String :=
  String.ofList (List.replicate (width - s.length) ' ') ++ s

/-- A text filled up with spaces on the right. -/
def padRight (width : Nat) (s : String) : String :=
  s ++ String.ofList (List.replicate (width - s.length) ' ')

/-- The line of an outcome. -/
def outcomeLine (o : Outcome) : List Span :=
  [⟨"[" ++ padLeft 6 (elapsedText o.time) ++ "] ", .colored .darkGray⟩,
   ⟨o.text, .colored (severityColor o.severity)⟩]

/-- The outcomes that a number of rows has room for: the latest ones. -/
def latest (rows : Nat) (outcomes : List Outcome) : List Outcome :=
  outcomes.drop (outcomes.length - rows)

/-- Lines from the top of an area on, one row each. -/
def linesMarks (area : Rect) (lines : List (List Span)) : List Mark :=
  (lines.mapIdx fun i line => rowMarks ⟨area.x, area.y + i, area.width, 1⟩ line).flatten

/-- The outcomes. -/
def outcomesMarks (p : Panel) (r : Rect) : List Mark :=
  borderMarks r (.colored .blue) ++ titleMarks r " Outcomes " .left
    ++ linesMarks r.inner ((latest (r.height - 2) p.outcomes).map outcomeLine)

/-! ### Help -/

/-- The style of the names of keys. -/
def keyStyle : Style := ⟨some .yellow, none, true⟩

/-- The line of the help bar. -/
def barLine : List Span :=
  [⟨"q", keyStyle⟩, ⟨" Quit  ", .plain⟩, ⟨"←/→", keyStyle⟩, ⟨" Select  ", .plain⟩,
   ⟨"Enter", keyStyle⟩, ⟨" Press  ", .plain⟩, ⟨"i", keyStyle⟩, ⟨" Install  ", .plain⟩,
   ⟨"u", keyStyle⟩, ⟨" Uninstall  ", .plain⟩, ⟨"c", keyStyle⟩, ⟨" Clear  ", .plain⟩,
   ⟨"?", keyStyle⟩, ⟨" Help", .plain⟩]

/-- The help bar. -/
def barMarks (r : Rect) : List Mark :=
  borderMarks r (.colored .darkGray) ++ centeredMarks r.inner barLine

/-- Keys and what they do. -/
def bindings : List (String × String) :=
  [("Enter / Space", "Press the focused button"), ("←/→ Tab", "Move focus"),
   ("i", "Install (activate) the dext"), ("u", "Uninstall (deactivate) the dext"),
   ("c", "Clear outcomes"), ("q / Ctrl+C", "Quit")]

/-- The lines of the help dialog. -/
def helpLines : List (List Span) :=
  bindings.map (fun (keys, description) => [⟨padRight 15 keys, keyStyle⟩, ⟨description, .plain⟩])
    ++ [[], [⟨"Activation may ask for approval in System Settings > Privacy & Security. "
      ++ "The outcome appears here once macOS reports it.", .colored .darkGray⟩]]

/-- The help dialog; what was on its area before is erased. -/
def helpMarks (r : Rect) : List Mark :=
  clearing r ++ borderMarks r (.colored .yellow) ++ titleMarks r " Help " .center
    ++ rowsMarks r.inner (helpLines.flatMap (wrap r.inner.width))

/-! ### The whole screen -/

/-- Draws everything but the dialog. -/
def renderPanel (p : Panel) (width height : Nat) : Canvas :=
  let layout := Layout.ofFrame ⟨0, 0, width, height⟩
  (Canvas.blank width height)
    |>.draw layout.status (statusMarks p layout.status)
    |>.draw layout.install (buttonMarks .install (p.selected = .install) layout.install)
    |>.draw layout.uninstall (buttonMarks .uninstall (p.selected = .uninstall) layout.uninstall)
    |>.draw layout.outcomes (outcomesMarks p layout.outcomes)
    |>.draw layout.bar (barMarks layout.bar)

/-- Draws a panel. -/
def render (p : Panel) (width height : Nat) : Canvas :=
  let dialog := (Layout.ofFrame ⟨0, 0, width, height⟩).dialog
  let canvas := renderPanel p width height
  if p.help then canvas.draw dialog (helpMarks dialog) else canvas

/-! ### Reading a canvas back -/

/-- The text of a row. -/
def Canvas.rowText (row : Array Cell) : String := String.join (row.toList.map Cell.symbol)

/-- The look of a cell in words; nothing for the default look. -/
def Cell.look (c : Cell) : Option String :=
  if c.foreground = .reset && c.background = .reset && !c.bold then none
  else some (c.foreground.name ++ "/" ++ c.background.name ++ (if c.bold then "/BOLD" else ""))

/-- A stretch of cells of one look: where it begins, how long it is, and the look. -/
abbrev Run := Nat × Nat × String

/-- The maximal stretches of cells with a look of their own, from column `x` on. -/
def runs (x : Nat) : List Cell → List Run
  | [] => []
  | c :: rest =>
    match c.look, runs (x + 1) rest with
    | none, more => more
    | some look, (start, length, look') :: more =>
      if start = x + 1 && look = look' then (x, length + 1, look) :: more
      else (x, 1, look) :: (start, length, look') :: more
    | some look, [] => [(x, 1, look)]

end DriverExtension.Screen
