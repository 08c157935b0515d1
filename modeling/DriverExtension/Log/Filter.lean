import DriverExtension.Log.Level
import DriverExtension.Log.Pattern
import DriverExtension.Number.Numeral
import DriverExtension.Text.Alphanumeric
import DriverExtension.Text.Blank

namespace DriverExtension.Log

open Text

/-!
# Log filters

A filter decides which records are written.  It is a list of directives; each admits records up to a
level, and may be restricted to the targets that begin with a given text.  The directive that says
most about a record decides.

* `Directive.parse` — one directive as text: a level, a target, or `target=level`;
* `Filter.ofText?` — a list of directives, separated by commas;
* `Filter.choose` — the filter of the environment, or the one of the configured level.
-/

/-- One rule of a filter. -/
structure Directive where
  /-- The beginning of the targets that the rule is for; without one it is for all. -/
  target : Option String
  /-- A field that a record must have, besides. -/
  field : Option String
  /-- The least severe level that is admitted; without one nothing is. -/
  threshold : Option Level
deriving DecidableEq, Repr

namespace Directive

/-- The only field of the records of this program. -/
def messageField : String := "message"

/-- Whether the rule is for a record. -/
def covers (d : Directive) (r : Record) : Bool :=
  (d.target.all fun start => start.toList.isPrefixOf r.target.toList)
    && d.field.all (· = messageField)

/-- Whether the rule admits a level. -/
def admits (d : Directive) (level : Level) : Bool := d.threshold.any (·.admits level)

/-- How much a rule says about its records: the longer its target, the more; then a field counts. -/
def weight (d : Directive) : Nat :=
  2 * (match d.target with
    | some start => start.utf8ByteSize + 1
    | none => 0) + (if d.field.isSome then 1 else 0)

end Directive

/-! ### Levels of directives -/

/-- The thresholds by number; the first admits nothing. -/
def numberedThresholds : List (Option Level) :=
  [none, some .error, some .warn, some .info, some .debug, some .trace]

/-- The threshold that a word or a number stands for. -/
def threshold? (s : List Char) : Option (Option Level) :=
  match Number.numeral? s with
  | some n => numberedThresholds[n]?
  | none =>
    let word := (String.ofList s).toLower
    if word = "off" then some none else (Level.ofWord? word).map some

/-! ### Directives as text -/

/-- What one piece of text asks for. -/
inductive DirectiveText where
  | rule (d : Directive)
  /-- A rule about spans or the values of fields, which no record belongs to. -/
  | silent
deriving DecidableEq, Repr

namespace DirectiveText

/-- Whether a piece may begin with a character. -/
def isStart (c : Char) : Bool := c = '[' || c = '-' || c = ':' || c = '_' || alphanumeric.contains c

/-- The threshold at the end of a piece; an empty one admits everything. -/
def ending (s : List Char) : Option (Option Level) :=
  if s.isEmpty then some (some .trace) else threshold? s

/-- The value that a field is asked to have, if one is; a further equals sign ends it. -/
def valueOf? (field : List Char) : Option (List Char) :=
  match field.dropWhile (· ≠ '=') with
  | _ :: value => some (value.takeWhile (· ≠ '='))
  | [] => none

/-- The rule for a target, a span and a field.  A value that is asked for must be readable. -/
def restricted? (target : Option String) (span field : List Char) (bracketsClosed : Bool)
    (threshold : Option Level) : Option DirectiveText :=
  match valueOf? field with
  | some value => if Pattern.isReadable value then some .silent else none
  | none =>
    if !span.isEmpty || bracketsClosed then some .silent
    else some (.rule ⟨target, some (String.ofList field), threshold⟩)

/-- What follows the closing bracket: nothing, or an equals sign and a threshold.  `scanned` is what
was found there, `piece` is where the threshold is cut from. -/
def afterBracket (scanned piece : List Char) : Option (Option Level) :=
  match scanned with
  | [] => some (some .trace)
  | '=' :: _ => ending (piece.drop 1)
  | _ => none

/-- What follows the opening bracket: the name of a span, and maybe a field in braces. -/
def bracket (target : Option String) (scanned piece : List Char) : Option DirectiveText :=
  let n := (scanned.takeWhile fun c => c ≠ ']' && c ≠ '\x7b').length
  match scanned.drop n with
  | ']' :: rest =>
    (afterBracket rest (piece.drop (n + 1))).bind (restricted? target (piece.take n) [] true)
  | '\x7b' :: rest =>
    let m := (rest.takeWhile (· ≠ '\x7d')).length
    match rest.drop m with
    | '\x7d' :: ']' :: rest' =>
      if m = 0 then none
      else
        let field := (piece.drop (n + 1)).take m
        (afterBracket rest' (piece.drop (n + m + 3))).bind
          (restricted? target (piece.take n) field false)
    | _ => none
  | _ => none

/-- Reads one piece.  Its parts are found in the piece without blanks at its ends, and then cut out
of the piece as it stands, at the same distances from its beginning. -/
def parse (piece : List Char) : Option DirectiveText :=
  let scanned := trim piece
  match scanned with
  | [] => none
  | '[' :: rest => bracket none rest (piece.drop 1)
  | c :: _ =>
    if !isStart c then none
    else
      let n := (scanned.takeWhile fun c => c ≠ '=' && c ≠ '[').length
      let target := some (String.ofList (piece.take n))
      match scanned.drop n with
      | [] =>
        match threshold? piece with
        | some threshold => some (.rule ⟨none, none, threshold⟩)
        | none => some (.rule ⟨some (String.ofList piece), none, some .trace⟩)
      | '=' :: _ => (ending (piece.drop (n + 1))).map fun threshold =>
          .rule ⟨target, none, threshold⟩
      | _ :: rest => bracket target rest (piece.drop (n + 1))

end DirectiveText

/-! ### Filters -/

/-- The rules by which records are written. -/
structure Filter where
  directives : List Directive
deriving DecidableEq, Repr

namespace Filter

/-- The filter of a level. -/
def atLevel (level : Level) : Filter := ⟨[⟨none, none, some level⟩]⟩

/-- The rule that decides about a record: the one that says most, and of equals the last. -/
def deciding? (f : Filter) (r : Record) : Option Directive :=
  f.directives.foldl (fun best d =>
    if d.covers r && best.all (fun b => b.weight ≤ d.weight) then some d else best) none

/-- Whether a record is written. -/
def admits (f : Filter) (r : Record) : Bool := (f.deciding? r).any (·.admits r.level)

/-- The texts between commas. -/
def pieces : List Char → List (List Char)
  | [] => [[]]
  | c :: rest =>
    if c = ',' then [] :: pieces rest
    else
      match pieces rest with
      | [] => [[c]]
      | s :: more => (c :: s) :: more

/-- The rules among directives. -/
def rules (ds : List DirectiveText) : List Directive :=
  ds.filterMap fun
    | .rule d => some d
    | .silent => none

/-- The filter that a text describes, if it is one.  Where the text has no directives the filter
admits errors only. -/
def ofText? (s : String) : Option Filter :=
  match (pieces s.toList).filter (!·.isEmpty) with
  | [] => some (atLevel .error)
  | texts => (texts.mapM DirectiveText.parse).map fun ds => ⟨rules ds⟩

/-- The filter that the environment asks for; where it asks for none that can be read, the one of
the level that a word names. -/
def choose (asked : Option String) (word : String) : Except Fault Filter :=
  match asked.bind ofText? with
  | some f => .ok f
  | none => (Level.ofWord word).map atLevel

theorem admits_atLevel (level : Level) (r : Record) :
    (atLevel level).admits r = level.admits r.level := by
  simp [atLevel, admits, deciding?, Directive.covers, Directive.admits]

end Filter
end DriverExtension.Log
