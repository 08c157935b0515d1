import DriverExtension.Fault

namespace DriverExtension.Log

/-!
# Log levels and records

A record has a level, the target that it belongs to, and a message.  A level admits the records that
are at least as severe.
-/

/-- How severe a record is. -/
inductive Level where
  | error
  | warn
  | info
  | debug
  | trace
deriving DecidableEq, Repr

namespace Level

/-- The rank of a level; a more severe level has a smaller one. -/
def rank : Level → Nat
  | .error => 1
  | .warn => 2
  | .info => 3
  | .debug => 4
  | .trace => 5

/-- The word for a level on the command line and in the settings. -/
def word : Level → String
  | .error => "error"
  | .warn => "warn"
  | .info => "info"
  | .debug => "debug"
  | .trace => "trace"

/-- The label of a level in a log. -/
def label : Level → String
  | .error => "ERROR"
  | .warn => "WARN"
  | .info => "INFO"
  | .debug => "DEBUG"
  | .trace => "TRACE"

/-- The levels from the least severe on. -/
def all : List Level := [.trace, .debug, .info, .warn, .error]

/-- The level of a word. -/
def ofWord? (s : String) : Option Level := all.find? (·.word = s)

/-- The level of a word, or why it is none. -/
def ofWord (s : String) : Except Fault Level :=
  match ofWord? s with
  | some level => .ok level
  | none =>
    .error (.configuration (s!"Invalid log level '{s}', must be one of: "
      ++ ", ".intercalate (all.map word)))

/-- Whether a filter at this level admits records of another. -/
def admits (filter level : Level) : Bool := level.rank ≤ filter.rank

theorem ofWord?_word (level : Level) : ofWord? level.word = some level := by
  cases level <;> rfl

theorem word_of_ofWord? {s : String} {level : Level} (h : ofWord? s = some level) :
    level.word = s := by
  rw [ofWord?] at h
  simpa using List.find?_some h

theorem ofWord_eq_ok_iff (s : String) (level : Level) :
    ofWord s = .ok level ↔ s = level.word := by
  unfold ofWord
  constructor
  · intro h
    split at h
    · rename_i level' hlevel
      rw [← Except.ok.inj h, word_of_ofWord? hlevel]
    · cases h
  · rintro rfl
    rw [ofWord?_word]

end Level

/-- One log record. -/
structure Record where
  level : Level
  target : String
  message : String
deriving DecidableEq, Repr

/-- A result together with the records that were logged on the way to it. -/
structure Logged (α : Type) where
  value : α
  records : List Record

end DriverExtension.Log
