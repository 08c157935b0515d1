import DriverExtension.Text.Emoji
import DriverExtension.Text.Wide
import DriverExtension.Text.ZeroWidth

namespace DriverExtension.Text

/-!
# Columns of a terminal

How many columns a text takes.  A character has a width of its own, `charWidth`, and some characters
change what comes before them: a selector asks for the picture or the plain form, a modifier colours a
hand, a joiner makes one picture of two, and a few scripts write two letters in one place.  So a text
is read from its end, and what was read last is kept as a `Trail`.

* `charWidth` — the columns of a character on its own;
* `Trail`     — what the character behind means for the one before it;
* `columns`   — the columns of a text.
-/

/-- The columns of a character on its own. -/
def charWidth (c : Char) : Nat :=
  if c.toNat ≤ 0xa0 then 1
  else if c = '\u17d8' then 3
  else if zeroWidth.contains c then 0
  else if wide.contains c then 2
  else 1

/-- U+200D. -/
def joiner : Char := '\u200d'

/-- U+FE0F asks for the picture form of the character before it. -/
def pictureSelector : Char := '\ufe0f'

/-- U+FE0E asks for the plain form of the character before it. -/
def plainSelector : Char := '\ufe0e'

/-- Whether the picture form of a character can be asked for. -/
def canBePicture (c : Char) : Bool := plainEmoji.contains c || plainablePictures.contains c

/-- Whether the plain form of a picture can be asked for, so that it takes one column. -/
def canBePlain (c : Char) : Bool :=
  plainablePictures.contains c && !(0x1f200 ≤ c.toNat && c.toNat ≤ 0x1f2ff)

/-- Whether a character changes the colour of the picture before it. -/
def isModifier (c : Char) : Bool := 0x1f3fb ≤ c.toNat && c.toNat ≤ 0x1f3ff

/-- Whether a character is one half of a flag. -/
def isRegional (c : Char) : Bool := 0x1f1e6 ≤ c.toNat && c.toNat ≤ 0x1f1ff

/-- Letters that merge with the letter before them. -/
inductive Merging where
  /-- An Arabic alef, after a lam. -/
  | alef
  /-- A Hebrew lamed, after an alef and a joiner. -/
  | lamed
  /-- A Khmer letter, which goes below the letter before it after a coeng. -/
  | belowCoeng
  /-- A Buginese ya, after a vowel and a joiner. -/
  | ya
  /-- That vowel, after an a. -/
  | vowelAndYa
  /-- A Tifinagh consonant, after another. -/
  | consonant
  /-- A Tifinagh consonant with the mark that joins it to another. -/
  | markedConsonant
  /-- A Lisu tone that completes another. -/
  | tone
  /-- An Old Turkic i, after an orkhon. -/
  | orkhonI
deriving DecidableEq, Repr

/-- What stands before a joined picture, from the picture on backwards. -/
inductive Joined where
  /-- The joiner. -/
  | bare
  /-- A keycap. -/
  | keycap
  /-- One half of a flag. -/
  | halfFlag
  /-- An even number of halves. -/
  | evenHalves
  /-- An odd number of halves, more than one. -/
  | oddHalves
  /-- The end of a tag, after so many letters and, before them, so many digits. -/
  | tag (letters digits : Nat)
deriving DecidableEq, Repr

/-- What the characters behind mean for the character before them. -/
inductive Trail where
  | plain
  | lineFeed
  | modifier
  | halfFlag
  | halfFlags
  | picture
  | joined (form : Joined)
  | merging (letter : Merging) (withJoiner : Bool)
deriving DecidableEq, Repr

/-- Which form of a character the selector behind it asks for. -/
inductive Form where
  | usual | picture | plain
deriving DecidableEq, Repr

/-- Whether a character between two letters does not keep them from merging. -/
def mergesThrough (c : Char) : Bool :=
  c = '\u034f' || c = '\u17b4' || c = '\u17b5' || ('\u180b' ≤ c && c ≤ '\u180d') || c = '\u180f' ||
    c = joiner || ('\ufe00' ≤ c && c ≤ '\ufe0f') || (0xe0100 ≤ c.toNat && c.toNat ≤ 0xe01ef)

/-- The lams of the Arabic script. -/
def isLam (c : Char) : Bool :=
  c = '\u0644' || ('\u06b5' ≤ c && c ≤ '\u06b8') || c = '\u076a' || c = '\u08a6' || c = '\u08c7'

/-- The alefs of the Arabic script. -/
def isAlef (c : Char) : Bool :=
  c = '\u0622' || c = '\u0623' || c = '\u0625' || c = '\u0627' || ('\u0671' ≤ c && c ≤ '\u0673') ||
    c = '\u0675' || c = '\u0773' || c = '\u0774' || ('\u0870' ≤ c && c ≤ '\u0882')

/-- The Khmer letters that have a form below the line. -/
def hasFormBelow (c : Char) : Bool :=
  ('\u1780' ≤ c && c ≤ '\u1782') || ('\u1784' ≤ c && c ≤ '\u1787') ||
    ('\u1789' ≤ c && c ≤ '\u178c') || ('\u178e' ≤ c && c ≤ '\u1793') ||
    ('\u1795' ≤ c && c ≤ '\u1798') || ('\u179b' ≤ c && c ≤ '\u179d') || c = '\u17a0' ||
    c = '\u17a2' || c = '\u17a7' || c = '\u17ab' || c = '\u17ac' || c = '\u17af'

/-- The consonants of the Tifinagh script. -/
def isTifinagh (c : Char) : Bool := ('\u2d31' ≤ c && c ≤ '\u2d65') || c = '\u2d6f'

/-- The letters of a tag. -/
def isTagLetter (c : Char) : Bool := 0xe0061 ≤ c.toNat && c.toNat ≤ 0xe007a

/-- The digits of a tag. -/
def isTagDigit (c : Char) : Bool := 0xe0030 ≤ c.toNat && c.toNat ≤ 0xe0039

/-- What a character means for the one before it, whatever is behind it. -/
def Trail.ofChar (c : Char) : Trail :=
  if c = '\n' then .lineFeed
  else if c.toNat ≤ 0xa0 then .plain
  else if isRegional c then .halfFlag
  else if isModifier c then .modifier
  else if emojiPictures.contains c then .picture
  else if c = '\u05dc' then .merging .lamed false
  else if isAlef c then .merging .alef false
  else if hasFormBelow c then .merging .belowCoeng false
  else if c = '\u1a10' then .merging .ya false
  else if isTifinagh c then .merging .consonant false
  else if c = '\ua4fc' || c = '\ua4fd' then .merging .tone false
  else if c.toNat = 0x10c03 then .merging .orkhonI false
  else .plain

namespace Merging

/-- The columns of a character and its trail, if it merges with the letter behind it. -/
def step? (letter : Merging) (withJoiner : Bool) (c : Char) : Option (Int × Trail) :=
  match letter with
  | .alef =>
    if isLam c then some (0, .plain)
    else if transparentMarks.contains c then some (0, .merging .alef false)
    else none
  | .lamed => if withJoiner && c = '\u05d0' then some (0, .plain) else none
  | .belowCoeng => if c = '\u17d2' then some (-1, .plain) else none
  | .ya => if withJoiner && c = '\u1a17' then some (0, .merging .vowelAndYa false) else none
  | .vowelAndYa => if c = '\u1a15' then some (0, .plain) else none
  | .consonant =>
    if c = '\u2d7f' then some (1, .merging .markedConsonant false)
    else if withJoiner && isTifinagh c then some (0, .plain)
    else none
  | .markedConsonant => if isTifinagh c then some (-1, .plain) else none
  | .tone => if '\ua4f8' ≤ c && c ≤ '\ua4fb' then some (0, .plain) else none
  | .orkhonI => if withJoiner && c.toNat = 0x10c32 then some (0, .plain) else none

end Merging

namespace Joined

/-- The columns of a character and its trail, if it goes on with the chain of pictures. -/
def step? (form : Joined) (c : Char) : Option (Int × Trail) :=
  match form with
  | .bare =>
    if c = '\u20e3' then some (0, .joined .keycap)
    else if isRegional c then some (1, .joined .halfFlag)
    else if isModifier c then some (0, .modifier)
    else if c.toNat = 0xe007f then some (0, .joined (.tag 0 0))
    else if emojiPictures.contains c then some (0, .picture)
    else none
  | .keycap => none
  | .halfFlag => if isRegional c then some (-1, .joined .evenHalves) else none
  | .evenHalves =>
    if isRegional c then some (3, .joined .oddHalves)
    else if c = joiner then some (0, .joined .bare)
    else none
  | .oddHalves =>
    if isRegional c then some (-1, .joined .evenHalves)
    else if c = joiner then some (0, .joined .bare)
    else none
  | .tag letters digits =>
    if isTagLetter c && digits = 0 && letters < 6 then some (0, .joined (.tag (letters + 1) 0))
    else if isTagDigit c && ((digits = 0 && letters < 5) || digits = 1 || digits = 2) then
      some (0, .joined (.tag letters (digits + 1)))
    else if c.toNat = 0x1f3f4 && (digits = 3 || (digits = 0 && 3 ≤ letters)) then some (0, .picture)
    else none

end Joined

namespace Trail

/-- The columns of a character and its trail, if what is behind it changes them. -/
def step? (behind : Trail) (c : Char) : Option (Int × Trail) :=
  match behind with
  | .plain => none
  | .lineFeed => if c = '\r' then some (0, .plain) else none
  | .modifier =>
    if modifiableEmoji.contains c then some (0, .picture)
    else if c = joiner then some (0, .joined .bare)
    else none
  | .halfFlag => if isRegional c then some (1, .halfFlags) else none
  | .halfFlags =>
    if isRegional c then some (1, .halfFlags)
    else if c = joiner then some (0, .joined .bare)
    else none
  | .picture => if c = joiner then some (0, .joined .bare) else none
  | .joined form => form.step? c
  | .merging letter withJoiner =>
    if letter ≠ .alef && c = joiner then some (0, .merging letter true)
    else if letter ≠ .alef && mergesThrough c then some (0, behind)
    else letter.step? withJoiner c

/-- The columns of a character and its trail. -/
def step (behind : Trail) (c : Char) : Int × Trail :=
  if c.toNat ≤ 0xa0 && behind ≠ .lineFeed then (1, .ofChar c)
  else (behind.step? c).getD (charWidth c, .ofChar c)

/-- Whether the trail outlives a selector. -/
def isMerging : Trail → Bool
  | .merging .. => true
  | _ => false

/-- Whether the trail is the joiner of a picture, or a keycap before it. -/
def isJoiner : Trail → Bool
  | .joined .bare | .joined .keycap => true
  | _ => false

end Trail

/-- What is known of the end of a text: its columns, and what it means for the character before. -/
structure Tail where
  width : Int
  trail : Trail
  /-- The form that a selector at the start of this tail asks for. -/
  form : Form
deriving DecidableEq, Repr

namespace Tail

/-- The tail of no characters. -/
def empty : Tail := ⟨0, .plain, .usual⟩

/-- A tail with a character before it that takes `step.1` columns. -/
def grow (tail : Tail) (step : Int × Trail) : Tail := ⟨tail.width + step.1, step.2, .usual⟩

/-- A tail with a character before it that no selector changes. -/
def addUsual (tail : Tail) (c : Char) : Tail :=
  if c = pictureSelector then
    let kept := tail.trail.isMerging || tail.trail.isJoiner
    ⟨tail.width, if kept then tail.trail else .plain, .picture⟩
  else if c = plainSelector then
    ⟨tail.width, if tail.trail.isMerging then tail.trail else .plain, .plain⟩
  else tail.grow (tail.trail.step c)

/-- A tail with a character before it. -/
def add (tail : Tail) (c : Char) : Tail :=
  match tail.form with
  | .usual => tail.addUsual c
  | .picture =>
    if canBePicture c then tail.grow (if tail.trail.isJoiner then 0 else 2, .picture)
    else ({ tail with trail := if tail.trail.isMerging then tail.trail else .plain }).addUsual c
  | .plain => if canBePlain c then tail.grow (1, .plain) else tail.addUsual c

end Tail

/-- The columns of characters in a row. -/
def columnsOf (cs : List Char) : Nat := (cs.foldr (fun c tail => tail.add c) Tail.empty).width.toNat

/-- The columns of a text. -/
def columns (s : String) : Nat := columnsOf s.toList

end DriverExtension.Text
