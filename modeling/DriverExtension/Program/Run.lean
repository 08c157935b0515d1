import DriverExtension.Program.Sitting

namespace DriverExtension

open CommandLine Log Storage

/-!
# A run of the program

`Program.run` is a run from the command line, `Program.runConsole` one at a terminal.  Both are given
the environment, the files that are there, the manager that requests go to, and the words of the
command line.
-/

namespace Program

/-- The complaint about a request that was not accepted. -/
def refusal (kind : RequestKind) (f : Fault) : Complaint :=
  ⟨s!"Failed to submit {kind} request", f.causes⟩

/-- The end of an attempt: its exit status, its last records and, where it went wrong otherwise, a
complaint.  A wait that nothing decides is ended by the user. -/
def conclude (r : Request) : Verdict → Nat × List Record × Option Complaint
  | .succeeded => (Report.success, [], none)
  | .failed => (Report.failure, [], none)
  | .waiting => (Report.failure, [Attempt.interrupted r], none)
  | .lost f => (Report.failure, [], some ⟨"Lost connection to the extension manager", f.causes⟩)

/-- Submits a single request and waits for its outcome. -/
def attempt (ready : Ready) (manager : Manager) (kind : RequestKind) : Report :=
  let s := ready.setup
  let (result, _, _, channel, records) :=
    Attempt.begin (.new s.identifier s.policy) kind manager .new
  let report (exit : Nat) (records : List Record) (complaint : Option Complaint) : Report :=
    ⟨exit, ready.filter.write (s.records manager ++ records),
      s.warningText ++ (complaint.map Complaint.message).getD "", ready.files⟩
  match result with
  | .error f => report Report.failure records (some (refusal kind f))
  | .ok r =>
    let (verdict, _, seen) := Attempt.look r true channel
    let (exit, last, complaint) := conclude r verdict
    report exit (records ++ seen ++ last) complaint

/-- The complaint about an output that is no terminal. -/
def noTerminal : Complaint := ⟨"No such device or address (os error 6)", []⟩

/-- A console without a terminal. -/
def consoleless (env : Surroundings) (ready : Ready) (manager : Manager) : Report :=
  let s := ready.setup
  let files := LogFile.append (s.settings.logFile env)
    (ready.filter.write (s.records manager)) ready.files
  Ready.complain files "" s.warningText noTerminal

/-- A run from the command line. -/
def run (env : Environment) (files : FileTree) (manager : Manager) (words : List String) :
    Report :=
  match Ready.begin env files words with
  | .error report => report
  | .ok ready =>
    match ready.setup.command with
    | .install => attempt ready manager .activate
    | .uninstall => attempt ready manager .deactivate
    | .console => consoleless env.surroundings ready manager

/-- A run at a terminal, where something may be typed. -/
def runConsole (env : Environment) (files : FileTree) (manager : Manager) (words : List String)
    (happenings : List (Nat × Happening)) : ConsoleReport :=
  match Ready.begin env files words with
  | .error report => .unused report
  | .ok ready =>
    match ready.setup.command with
    | .install => .unused (attempt ready manager .activate)
    | .uninstall => .unused (attempt ready manager .deactivate)
    | .console =>
      let s := ready.setup
      sit ready.filter (s.settings.logFile env.surroundings) s.warningText (s.records manager)
        ready.files (.new s.identifier s.policy manager) happenings

end Program
end DriverExtension
