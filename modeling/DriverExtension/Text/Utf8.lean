namespace DriverExtension.Text

/-!
# Bytes as text

Files hold bytes.  `decodeUtf8?` reads them as a text or refuses them; `decodeLossily` shows them
whatever they are, with U+FFFD for each maximal piece that is no character.
-/

/-- Whether a byte continues a character. -/
def isContinuation (b : UInt8) : Bool := 0x80 ≤ b && b ≤ 0xbf

/-- How the first byte of a character is to be continued: the number of further bytes and the range
of the first of them; `none` for a byte that starts no character. -/
def sequenceShape (b : UInt8) : Option (Nat × UInt8 × UInt8) :=
  if b < 0x80 then some (0, 0x80, 0xbf)
  else if 0xc2 ≤ b && b ≤ 0xdf then some (1, 0x80, 0xbf)
  else if b = 0xe0 then some (2, 0xa0, 0xbf)
  else if b = 0xed then some (2, 0x80, 0x9f)
  else if 0xe1 ≤ b && b ≤ 0xef then some (2, 0x80, 0xbf)
  else if b = 0xf0 then some (3, 0x90, 0xbf)
  else if 0xf1 ≤ b && b ≤ 0xf3 then some (3, 0x80, 0xbf)
  else if b = 0xf4 then some (3, 0x80, 0x8f)
  else none

/-- The payload bits of the first byte of a character of `n + 1` bytes. -/
def leadingBits (n : Nat) (b : UInt8) : Nat :=
  match n with
  | 0 => b.toNat
  | 1 => b.toNat % 0x20
  | 2 => b.toNat % 0x10
  | _ => b.toNat % 0x08

/-- Reads up to `n` continuation bytes; the first must lie in the given range.  Returns how many
were missing, the code point so far and the rest. -/
def takeContinuation (n : Nat) (low high : UInt8) (code : Nat) (bytes : List UInt8) :
    Nat × Nat × List UInt8 :=
  match n, bytes with
  | 0, _ => (0, code, bytes)
  | n + 1, [] => (n + 1, code, [])
  | n + 1, b :: rest =>
    if low ≤ b && b ≤ high then takeContinuation n 0x80 0xbf (code * 0x40 + b.toNat % 0x40) rest
    else (n + 1, code, b :: rest)

theorem takeContinuation_length (n : Nat) (low high : UInt8) (code : Nat) (bytes : List UInt8) :
    (takeContinuation n low high code bytes).2.2.length ≤ bytes.length := by
  fun_induction takeContinuation n low high code bytes with
  | case1 => exact Nat.le_refl _
  | case2 => exact Nat.le_refl _
  | case3 low high code n b rest hrange ih => exact Nat.le_succ_of_le ih
  | case4 => exact Nat.le_refl _

/-- The characters that the bytes spell; a maximal piece that starts as a character but does not
complete one, or a byte that starts none, is `none`. -/
def decodePieces (bytes : List UInt8) : List (Option Char) :=
  match bytes with
  | [] => []
  | b :: rest =>
    match sequenceShape b with
    | none => none :: decodePieces rest
    | some (n, low, high) =>
      match h : takeContinuation n low high (leadingBits n b) rest with
      | (missing, code, rest') =>
        have : rest'.length ≤ rest.length := by
          have := takeContinuation_length n low high (leadingBits n b) rest
          rw [h] at this; exact this
        (if missing = 0 then some (Char.ofNat code) else none) :: decodePieces rest'
termination_by bytes.length

/-- The text that the bytes spell, if they are UTF-8. -/
def decodeUtf8? (bytes : List UInt8) : Option String :=
  ((decodePieces bytes).mapM id).map String.ofList

/-- The text that the bytes spell, with U+FFFD for what is no character. -/
def decodeLossily (bytes : List UInt8) : String :=
  String.ofList ((decodePieces bytes).map fun piece => piece.getD '\ufffd')

/-- The bytes of a text. -/
def encodeUtf8 (s : String) : List UInt8 := s.toUTF8.toList

end DriverExtension.Text
