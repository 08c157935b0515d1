import DriverExtension.CommandLine.Help

namespace DriverExtension.CommandLine

open Log

/-!
# Reading a command line

`parse` reads the words of a command line from the left.  The value of an option may be the word
after it; it is looked at only when the next option, the command or the end of the line is reached,
so that an earlier fault does not always win over a later one.
-/

/-- Why reading stops before the end. -/
inductive Stop where
  | usage (e : UsageError)
  /-- There is something to print instead of something to do. -/
  | print (text : String)
deriving DecidableEq, Repr

/-- An option whose value has not been looked at. -/
inductive Pending where
  | nothing
  /-- The next word is the value, unless it looks like an option. -/
  | awaiting (s : Setting)
  | given (s : Setting) (value : String)
deriving DecidableEq, Repr

/-- What has been read so far. -/
structure Progress where
  arguments : Arguments
  pending : Pending
deriving DecidableEq

namespace Progress

/-- Nothing has been read. -/
def start : Progress := ⟨.empty, .nothing⟩

/-- Whether an option has a value. -/
def isSet (p : Progress) : Setting → Bool
  | .config => p.arguments.config.isSome
  | .logLevel => p.arguments.logLevel.isSome
  | .identifier => p.arguments.identifier.isSome

/-- Gives an option a value. -/
def assign (p : Progress) (s : Setting) (value : String) : Except UsageError Progress :=
  if p.isSet s then .error (.repeatedSetting s)
  else
    match s with
    | .config =>
      if value.isEmpty then .error (.missingValue s)
      else .ok ⟨{ p.arguments with config := some value }, .nothing⟩
    | .logLevel =>
      if value.isEmpty then .error (.missingValue s)
      else
        match Level.ofWord? value with
        | some level => .ok ⟨{ p.arguments with logLevel := some level }, .nothing⟩
        | none => .error (.unknownLevel value)
    | .identifier =>
      match Identifier.ofString? value with
      | .ok i => .ok ⟨{ p.arguments with identifier := some i }, .nothing⟩
      | .error cause => .error (.badIdentifier value cause)

/-- Looks at the value that is still to be looked at. -/
def resolve (p : Progress) : Except Stop Progress :=
  match p.pending with
  | .nothing => .ok p
  | .awaiting s => .error (.usage (.missingValue s))
  | .given s value => (p.assign s value).mapError .usage

/-- An option with the value that is written with it, if one is. -/
def option (p : Progress) (s : Setting) (value : Option String) : Except Stop Progress := do
  let p ← p.resolve
  match value with
  | some value => (p.assign s value).mapError .usage
  | none => return { p with pending := .awaiting s }

/-- A flag; `help` is what the flag for help prints. -/
def flag (p : Progress) (f : Flag) (help : String) : Except Stop Progress := do
  let p ← p.resolve
  match f with
  | .help => throw (.print help)
  | .version => throw (.print Help.version)
  | .saveConfig =>
    if p.arguments.saveConfig then throw (.usage (.repeatedFlag f))
    else return { p with arguments := { p.arguments with saveConfig := true } }

end Progress

/-! ### Words -/

/-- A word of a command line by its form. -/
inductive Word where
  /-- Two dashes: no options follow. -/
  | separator
  | long (name : String) (value : Option String)
  | short (letter : Char) (rest : List Char)
  | plain
deriving DecidableEq, Repr

namespace Word

/-- The form of a word. -/
def ofString (word : String) : Word :=
  match word.toList with
  | ['-', '-'] => .separator
  | '-' :: '-' :: s =>
    let name := String.ofList (s.takeWhile (· ≠ '='))
    match s.dropWhile (· ≠ '=') with
    | _ :: value => .long name (some (String.ofList value))
    | [] => .long name none
  | '-' :: c :: rest => .short c rest
  | _ => .plain

end Word

/-- The value that is written directly after the letter of an option. -/
def attached? : List Char → Option String
  | [] => none
  | '=' :: value => some (String.ofList value)
  | value => some (String.ofList value)

/-- A long option. -/
def Progress.long (p : Progress) (name : String) (value : Option String) : Except Stop Progress :=
  match Setting.named? name, Flag.named? name, value with
  | some s, _, _ => p.option s value
  | none, some f, none => p.flag f Help.long
  | none, some f, some value => .error (.usage (.unexpectedValue value f))
  | none, none, _ => .error (.usage (.unexpectedArgument ("--" ++ name)))

/-- An option by its letter. -/
def Progress.short (p : Progress) (letter : Char) (rest : List Char) : Except Stop Progress :=
  match Setting.lettered? letter, Flag.lettered? letter with
  | some s, _ => p.option s (attached? rest)
  | none, some f => p.flag f Help.short
  | none, none => .error (.usage (.unexpectedArgument s!"-{letter}"))

/-! ### Commands -/

/-- What follows a command: nothing but the question for its help. -/
def afterCommand (c : Command) : List String → Except Stop Unit
  | [] => .ok ()
  | word :: rest =>
    match Word.ofString word, rest with
    | .separator, [] => .ok ()
    | .separator, next :: _ => .error (.usage (.unexpectedArgument next))
    | .long name value, _ =>
      match decide (name = Flag.help.name), value with
      | true, none => .error (.print (Help.ofCommand c))
      | true, some value => .error (.usage (.unexpectedValue value .help))
      | false, _ => .error (.usage (.unexpectedArgument ("--" ++ name)))
    | .short letter _, _ =>
      if letter = 'h' then .error (.print (Help.ofCommand c))
      else .error (.usage (.unexpectedArgument s!"-{letter}"))
    | .plain, _ => .error (.usage (.unexpectedArgument word))

/-- What follows the word for help: at most one command. -/
def helpFor : List String → Stop
  | [] => .print Help.long
  | word :: rest =>
    match Command.named? word, decide (word = helpWord), rest with
    | some c, _, [] => .print (Help.ofCommand c)
    | none, true, [] => .print Help.ofHelp
    | none, false, _ => .usage (.unknownCommand word)
    | _, _, next :: _ => .usage (.unknownCommand next)

/-- Whether a word is a command or asks for help like one. -/
def isCommandWord (word : String) : Bool := (Command.named? word).isSome || word = helpWord

/-! ### Command lines -/

/-- The rest of a command line after two dashes: there must be none. -/
def afterSeparator (p : Progress) : List String → Except Stop Arguments
  | [] => p.resolve.map (·.arguments)
  | word :: _ =>
    if isCommandWord word then .error (.usage (.unexpectedArgument word))
    else .error (.usage (.unknownCommand word))

/-- The word after an option that awaits its value is no command. -/
def commandOf? (p : Progress) (word : String) : Option Command :=
  match p.pending with
  | .awaiting _ => none
  | _ => Command.named? word

/-- Whether a word asks for help like a command. -/
def asksForHelp (p : Progress) (word : String) : Bool :=
  match p.pending with
  | .awaiting _ => false
  | _ => word = helpWord

/-- Reads the rest of a command line. -/
def parseFrom (p : Progress) : List String → Except Stop Arguments
  | [] => p.resolve.map (·.arguments)
  | word :: rest =>
    if asksForHelp p word then .error (helpFor rest)
    else
      match commandOf? p word with
      | some c => do
        afterCommand c rest
        let p ← p.resolve
        return { p.arguments with command := some c }
      | none =>
        match Word.ofString word with
        | .separator => afterSeparator p rest
        | .long name value => do parseFrom (← p.long name value) rest
        | .short letter more => do parseFrom (← p.short letter more) rest
        | .plain =>
          match p.pending with
          | .awaiting s => parseFrom { p with pending := .given s word } rest
          | _ => .error (.usage (.unknownCommand word))

/-- Reads a command line. -/
def parse (words : List String) : Except Stop Arguments := parseFrom .start words

end DriverExtension.CommandLine
