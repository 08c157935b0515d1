import DriverExtension.Program.Run
import DriverExtension.Screen.View

/-!
# The program

This module joins `Program` to the files, the environment and the terminal of a process.  Only the
files that a run can touch are read, and only those that it changed are written.
-/

namespace DriverExtension.Host

open CommandLine Log Storage

/-! ### Files -/

/-- Whether a path leads to a directory. -/
def isDirectory (path : String) : IO Bool :=
  (IO.FS.DirEntry.root ⟨path, ""⟩).isDir

/-- The directories above a path, the nearest one first. -/
def above (path : String) : List String :=
  go path.length path
where
  /-- As far as there are any, but no more than a number. -/
  go : Nat → String → List String
    | 0, _ => []
    | n + 1, path =>
      match parent path with
      | some directory => directory :: go n directory
      | none => []

/-- Adds a directory to a file tree, if there is one. -/
def fetchDirectory (t : FileTree) (path : String) : IO FileTree := do
  if path.isEmpty || !(← isDirectory path) then return t
  match t.makeDirectory path with
  | .ok t => return t
  | .error _ => return t

/-- Adds to a file tree what lies at a path and above it. -/
def fetch (t : FileTree) (path : String) : IO FileTree := do
  let t ← (path :: above path).reverse.foldlM fetchDirectory t
  if path.isEmpty || (← isDirectory path) then return t
  match ← (IO.FS.readBinFile path).toBaseIO with
  | .error _ => return t
  | .ok bytes =>
    match t.alter path fun _ => bytes.toList with
    | .ok t => return t
    | .error _ => return t

/-- Writes a file that a run has changed. -/
def store (before after : FileTree) (path : String) : IO Unit := do
  match before.readBytes path, after.readBytes path with
  | old, .ok bytes =>
    if old.toOption ≠ some bytes then
      if let some directory := parent path then
        if !directory.isEmpty then IO.FS.createDirAll directory
      IO.FS.writeBinFile path ⟨bytes.toArray⟩
  | _, .error _ => return

/-! ### The environment -/

/-- The environment of the process. -/
def environment : IO Environment := do
  return ⟨⟨← IO.getEnv "HOME", ← IO.getEnv "XDG_CONFIG_HOME"⟩, ← IO.getEnv "RUST_LOG"⟩

/-- A number in the environment. -/
def size (name : String) (standard : Nat) : IO Nat := do
  return ((← IO.getEnv name).bind String.toNat?).getD standard

/-- The files that the words of the command line may lead to. -/
def settingsPaths (env : Surroundings) (words : List String) : List String :=
  let asked :=
    match parse words with
    | .ok a => (a.config.map env.expand).toList
    | .error _ => []
  asked ++ [env.settingsPath, systemSettingsPath]

/-! ### The console -/

/-- Draws the panel from the upper left corner of the screen. -/
def draw (width height : Nat) (p : Panel) : IO Unit := do
  let rows := (Screen.render p width height).rows.toList.map Screen.Canvas.rowText
  let output ← IO.getStdout
  output.putStr ("\x1b[H" ++ "\r\n".intercalate rows)
  output.flush

/-- Appends text to the log file. -/
def appendLog (path text : String) : IO Unit := do
  let file ← IO.FS.Handle.mk path .append
  file.putStr text

/-- Acts on what the terminal sends until the console stops or the terminal is closed. -/
partial def interact (log : List Effect → IO Unit) (draw : Panel → IO Unit) (begun : Nat)
    (s : Sitting) : IO Unit := do
  draw s.console.panel
  if s.console.stopped then return
  let bytes ← (← IO.getStdin).read 1024
  if bytes.isEmpty then return
  let now ← IO.monoMsNow
  let (s, effects) := s.step (now - begun) (.typed bytes.toList)
  log effects
  interact log draw begun s

/-- A sitting at the terminal of the process. -/
def sitDown (env : Environment) (ready : Ready) (manager : Manager) : IO Unit := do
  let s := ready.setup
  let path := s.settings.logFile env.surroundings
  let log (effects : List Effect) : IO Unit :=
    appendLog path (ready.filter.write (effects.flatMap Effect.records))
  let width ← size "COLUMNS" 80
  let height ← size "LINES" 24
  let output ← IO.getStdout
  output.putStr "\x1b[?1049h\x1b[?25l\x1b[2J"
  appendLog path (ready.filter.write (s.records manager))
  let (sitting, shown) := Sitting.start (.new s.identifier s.policy manager)
  log shown
  interact log (draw width height) (← IO.monoMsNow) sitting
  output.putStr "\x1b[?1049l\x1b[?25h"
  output.flush

/-! ### Runs -/

/-- Prints what a run has written. -/
def publish (r : Report) : IO UInt32 := do
  (← IO.getStdout).putStr r.output
  (← IO.getStderr).putStr r.errors
  return UInt32.ofNat r.exit

/-- A run of the program. -/
def run (words : List String) : IO UInt32 := do
  let env ← environment
  let paths := settingsPaths env.surroundings words
  let files ← paths.foldlM fetch .empty
  let logPath :=
    match Ready.begin env files words with
    | .ok ready => [ready.setup.settings.logFile env.surroundings]
    | .error _ => []
  let files ← logPath.foldlM fetch files
  match Ready.begin env files words with
  | .ok ready =>
    match ready.setup.command with
    | .console =>
      if !(← (← IO.getStdout).isTty) then
        let r := Program.run env files .platform words
        (paths ++ logPath).forM (store files r.files)
        publish r
      else
        (← IO.getStderr).putStr ready.setup.warningText
        (paths ++ logPath).forM (store files ready.files)
        sitDown env ready .platform
        return 0
    | _ => publish (Program.run env files .platform words)
  | .error r =>
    paths.forM (store files r.files)
    publish r

end DriverExtension.Host

/-- The program. -/
def main (words : List String) : IO UInt32 := DriverExtension.Host.run words
