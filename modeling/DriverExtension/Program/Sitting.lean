import DriverExtension.Console.Loop
import DriverExtension.Program.Setup
import DriverExtension.Terminal.Input

namespace DriverExtension

open Log Storage Terminal

/-!
# A sitting at the console

A sitting is a console together with the terminal that it is used at.  Whatever is typed is acted on
before the events that have arrived; these are all shown before the next thing is typed.
-/

/-- What happens at the terminal. -/
inductive Happening where
  /-- Keys are typed, and their bytes are read at once. -/
  | typed (bytes : List UInt8)
  | resized (width height : Nat)
  /-- The terminal is gone. -/
  | vanished
deriving DecidableEq, Repr

/-- The report of a run at a terminal. -/
structure ConsoleReport extends Report where
  /-- Whether the console took over the screen. -/
  entered : Bool
  /-- Whether it gave the screen back. -/
  left : Bool

/-- The report of a run that did not use the screen. -/
def ConsoleReport.unused (r : Report) : ConsoleReport := ⟨r, false, false⟩

/-- A console at a terminal. -/
structure Sitting where
  console : Console
  /-- The bytes of a key that is not complete. -/
  buffer : List UInt8
  /-- Whether the terminal is gone. -/
  gone : Bool
deriving DecidableEq

namespace Sitting

/-- What the system says about a terminal that is gone. -/
def goneText : String := "Input/output error (os error 5)"

/-- The signals of what happens, and the bytes that are left. -/
def signals (buffer : List UInt8) : Happening → List Signal × List UInt8
  | .typed bytes =>
    let (events, left) := Input.feed buffer bytes
    (events.filterMap Signal.ofEvent?, left)
  | .resized width height => ((Signal.ofEvent? (.resize width height)).toList, buffer)
  | .vanished => ([], buffer)

/-- One thing that happens at a time, and the events that arrive after it. -/
def step (s : Sitting) (time : Nat) (h : Happening) : Sitting × List Effect :=
  let (signals, buffer) := signals s.buffer h
  let (console, acted) := s.console.run (signals.flatMap (Console.attend time))
  let (console, shown) := console.settle time
  match h with
  | .vanished =>
    let (console', failed) := console.step time (.drawFailure goneText)
    (⟨console', buffer, s.gone || !console.stopped⟩, acted ++ shown ++ failed)
  | _ => (⟨console, buffer, s.gone⟩, acted ++ shown)

/-- All that happens, each with its time. -/
def run (s : Sitting) : List (Nat × Happening) → Sitting × List Effect
  | [] => (s, [])
  | (time, h) :: rest =>
    let (s, first) := s.step time h
    let (s, others) := s.run rest
    (s, first ++ others)

/-- The start of a sitting; events that are there already are shown first. -/
def start (c : Console) : Sitting × List Effect :=
  let (console, shown) := c.settle 0
  (⟨console, [], false⟩, shown)

/-- What is said when the screen cannot be given back. -/
def goneErrors : String :=
  s!"Failed to show the cursor: {goneText}\n" ++ (Complaint.mk goneText []).message

end Sitting

/-- A sitting with its log file.  `errors` is what the run has said before, `records` what it has
logged. -/
def sit (filter : Filter) (logPath errors : String) (records : List Record) (files : FileTree)
    (c : Console) (happenings : List (Nat × Happening)) : ConsoleReport :=
  let (s, shown) := Sitting.start c
  let (s, effects) := s.run happenings
  let log := filter.write (records ++ (shown ++ effects).flatMap Effect.records)
  let files := LogFile.append logPath log files
  if s.gone then ⟨⟨Report.failure, "", errors ++ Sitting.goneErrors, files⟩, true, false⟩
  else ⟨⟨Report.success, "", errors, files⟩, true, true⟩

end DriverExtension
