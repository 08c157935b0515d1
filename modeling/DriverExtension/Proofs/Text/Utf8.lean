import DriverExtension.Text.Utf8

namespace DriverExtension.Text

/-!
# Texts as bytes and back

Every text can be read from the bytes that it is written as.

* `encodeUtf8_eq_flatMap` — a text is written character by character;
* `decodePieces_cons` — reading a character whose bytes go on as its first one asks for;
* `decodePieces_utf8EncodeChar` — each character is read from its bytes;
* `decodeUtf8?_encodeUtf8` — and so is each text.
-/

/-! ### Writing -/

/-- The loop that lists an array of bytes goes on from where it stands. -/
theorem toList_loop_eq (bytes : ByteArray) (i : Nat) (read : List UInt8) :
    ByteArray.toList.loop bytes i read = read.reverse ++ bytes.data.toList.drop i := by
  fun_induction ByteArray.toList.loop bytes i read with
  | case1 i read hlt ih =>
    have hsize : i < bytes.data.toList.length := hlt
    have hget : bytes.get! i = bytes.data.toList[i] := by
      show bytes.data[i]! = _
      rw [getElem!_pos bytes.data i hlt, Array.getElem_toList]
    rw [ih, List.drop_eq_getElem_cons hsize, hget, List.reverse_cons, List.append_assoc]
    rfl
  | case2 i read hge =>
    have hsize : bytes.data.toList.length ≤ i := Nat.le_of_not_lt hge
    rw [List.drop_eq_nil_of_le hsize, List.append_nil]

/-- A text is written character by character. -/
theorem encodeUtf8_eq_flatMap (s : String) :
    encodeUtf8 s = s.toList.flatMap String.utf8EncodeChar := by
  have hbytes : s.toUTF8 = (s.toList.flatMap String.utf8EncodeChar).toByteArray :=
    String.utf8Encode_toList.symm
  rw [encodeUtf8, hbytes, ByteArray.toList, toList_loop_eq, List.toList_data_toByteArray]
  rfl

/-! ### Reading -/

/-- A byte between the bounds is taken. -/
theorem takeContinuation_cons {low high b : UInt8} (hlow : low ≤ b) (hhigh : b ≤ high)
    (n code : Nat) (rest : List UInt8) :
    takeContinuation (n + 1) low high code (b :: rest)
      = takeContinuation n 0x80 0xbf (code * 0x40 + b.toNat % 0x40) rest := by
  rw [takeContinuation, decide_eq_true hlow, decide_eq_true hhigh]
  rfl

/-- A character is read if its first byte is followed by as many others as it asks for. -/
theorem decodePieces_cons {b low high : UInt8} {n code : Nat} {rest rest' : List UInt8}
    (hshape : sequenceShape b = some (n, low, high))
    (htake : takeContinuation n low high (leadingBits n b) rest = (0, code, rest')) :
    decodePieces (b :: rest) = some (Char.ofNat code) :: decodePieces rest' := by
  rw [decodePieces]
  simp only [hshape, htake, if_pos]

/-- How the first byte of a character is to be continued, by its number. -/
theorem sequenceShape_ofNat {n : Nat} (h : n < 256) :
    sequenceShape (UInt8.ofNat n)
      = if n < 0x80 then some (0, 0x80, 0xbf)
        else if 0xc2 ≤ n ∧ n ≤ 0xdf then some (1, 0x80, 0xbf)
        else if n = 0xe0 then some (2, 0xa0, 0xbf)
        else if n = 0xed then some (2, 0x80, 0x9f)
        else if 0xe1 ≤ n ∧ n ≤ 0xef then some (2, 0x80, 0xbf)
        else if n = 0xf0 then some (3, 0x90, 0xbf)
        else if 0xf1 ≤ n ∧ n ≤ 0xf3 then some (3, 0x80, 0xbf)
        else if n = 0xf4 then some (3, 0x80, 0x8f)
        else none := by
  unfold sequenceShape
  simp only [UInt8.le_iff_toNat_le, UInt8.lt_iff_toNat_lt, ← UInt8.toNat_inj,
    UInt8.toNat_ofNat_of_lt' h, Bool.and_eq_true, decide_eq_true_eq]
  rfl

/-- A byte whose number lies between the bounds is taken. -/
theorem takeContinuation_ofNat {low high : UInt8} {m : Nat} (hlow : low.toNat ≤ m)
    (hhigh : m ≤ high.toNat) (n code : Nat) (rest : List UInt8) :
    takeContinuation (n + 1) low high code (UInt8.ofNat m :: rest)
      = takeContinuation n 0x80 0xbf (code * 0x40 + m % 0x40) rest := by
  have hm : (UInt8.ofNat m).toNat = m :=
    UInt8.toNat_ofNat_of_lt' (Nat.lt_of_le_of_lt hhigh (UInt8.toNat_lt high))
  have hfrom : low ≤ UInt8.ofNat m := by rwa [UInt8.le_iff_toNat_le, hm]
  have hto : UInt8.ofNat m ≤ high := by rwa [UInt8.le_iff_toNat_le, hm]
  rw [takeContinuation_cons hfrom hto, hm]

/-! ### Characters -/

/-- A character of one byte is read. -/
theorem decodePieces_one {v : Nat} (hhigh : v ≤ 0x7f) (rest : List UInt8) :
    decodePieces (UInt8.ofNat v :: rest) = some (Char.ofNat v) :: decodePieces rest := by
  have hbyte : v < 256 := by omega
  have hshape : sequenceShape (UInt8.ofNat v) = some (0, 0x80, 0xbf) := by
    rw [sequenceShape_ofNat hbyte, if_pos (by omega)]
  refine decodePieces_cons hshape ?_
  rw [takeContinuation, leadingBits, UInt8.toNat_ofNat_of_lt' hbyte]

/-- A character of two bytes is read. -/
theorem decodePieces_two {v : Nat} (hlow : 0x80 ≤ v) (hhigh : v ≤ 0x7ff) (rest : List UInt8) :
    decodePieces
        (UInt8.ofNat (v / 64 % 0x20 + 0xc0) :: UInt8.ofNat (v % 0x40 + 0x80) :: rest)
      = some (Char.ofNat v) :: decodePieces rest := by
  have hbyte : v / 64 % 0x20 + 0xc0 < 256 := by omega
  have hshape : sequenceShape (UInt8.ofNat (v / 64 % 0x20 + 0xc0)) = some (1, 0x80, 0xbf) := by
    rw [sequenceShape_ofNat hbyte, if_neg (by omega), if_pos (by omega)]
  refine decodePieces_cons hshape ?_
  rw [takeContinuation_ofNat (by show 0x80 ≤ _; omega) (by show _ ≤ 0xbf; omega), takeContinuation,
    leadingBits, UInt8.toNat_ofNat_of_lt' hbyte]
  refine congrArg (fun code => (0, code, rest)) ?_
  omega

/-- A character of three bytes is read, unless its number is one of those that are none of a
    character. -/
theorem decodePieces_three {v : Nat} (hlow : 0x800 ≤ v) (hhigh : v ≤ 0xffff)
    (hvalid : v < 0xd800 ∨ 0xdfff < v) (rest : List UInt8) :
    decodePieces
        (UInt8.ofNat (v / 4096 % 0x10 + 0xe0) :: UInt8.ofNat (v / 64 % 0x40 + 0x80)
          :: UInt8.ofNat (v % 0x40 + 0x80) :: rest)
      = some (Char.ofNat v) :: decodePieces rest := by
  have hbyte : v / 4096 % 0x10 + 0xe0 < 256 := by omega
  -- the first byte bounds the second one from below, from above, or not at all
  obtain ⟨low, high, hshape, hfrom, hto⟩ : ∃ low high,
      sequenceShape (UInt8.ofNat (v / 4096 % 0x10 + 0xe0)) = some (2, low, high) ∧
        low.toNat ≤ v / 64 % 0x40 + 0x80 ∧ v / 64 % 0x40 + 0x80 ≤ high.toNat := by
    rw [sequenceShape_ofNat hbyte, if_neg (by omega), if_neg (by omega)]
    by_cases hfirst : v / 4096 % 0x10 + 0xe0 = 0xe0
    · exact ⟨0xa0, 0xbf, if_pos hfirst, by show 0xa0 ≤ _; omega, by show _ ≤ 0xbf; omega⟩
    by_cases hlast : v / 4096 % 0x10 + 0xe0 = 0xed
    · rw [if_neg hfirst]
      exact ⟨0x80, 0x9f, if_pos hlast, by show 0x80 ≤ _; omega, by show _ ≤ 0x9f; omega⟩
    · rw [if_neg hfirst, if_neg hlast]
      exact ⟨0x80, 0xbf, if_pos (by omega), by show 0x80 ≤ _; omega, by show _ ≤ 0xbf; omega⟩
  refine decodePieces_cons hshape ?_
  rw [takeContinuation_ofNat hfrom hto,
    takeContinuation_ofNat (by show 0x80 ≤ _; omega) (by show _ ≤ 0xbf; omega), takeContinuation,
    leadingBits, UInt8.toNat_ofNat_of_lt' hbyte]
  refine congrArg (fun code => (0, code, rest)) ?_
  omega

/-- A character of four bytes is read. -/
theorem decodePieces_four {v : Nat} (hlow : 0x10000 ≤ v) (hhigh : v < 0x110000)
    (rest : List UInt8) :
    decodePieces
        (UInt8.ofNat (v / 262144 % 0x08 + 0xf0) :: UInt8.ofNat (v / 4096 % 0x40 + 0x80)
          :: UInt8.ofNat (v / 64 % 0x40 + 0x80) :: UInt8.ofNat (v % 0x40 + 0x80) :: rest)
      = some (Char.ofNat v) :: decodePieces rest := by
  have hbyte : v / 262144 % 0x08 + 0xf0 < 256 := by omega
  obtain ⟨low, high, hshape, hfrom, hto⟩ : ∃ low high,
      sequenceShape (UInt8.ofNat (v / 262144 % 0x08 + 0xf0)) = some (3, low, high) ∧
        low.toNat ≤ v / 4096 % 0x40 + 0x80 ∧ v / 4096 % 0x40 + 0x80 ≤ high.toNat := by
    rw [sequenceShape_ofNat hbyte, if_neg (by omega), if_neg (by omega), if_neg (by omega),
      if_neg (by omega), if_neg (by omega)]
    by_cases hfirst : v / 262144 % 0x08 + 0xf0 = 0xf0
    · exact ⟨0x90, 0xbf, if_pos hfirst, by show 0x90 ≤ _; omega, by show _ ≤ 0xbf; omega⟩
    by_cases hlast : v / 262144 % 0x08 + 0xf0 = 0xf4
    · rw [if_neg hfirst, if_neg (by omega)]
      exact ⟨0x80, 0x8f, if_pos hlast, by show 0x80 ≤ _; omega, by show _ ≤ 0x8f; omega⟩
    · rw [if_neg hfirst]
      exact ⟨0x80, 0xbf, if_pos (by omega), by show 0x80 ≤ _; omega, by show _ ≤ 0xbf; omega⟩
  refine decodePieces_cons hshape ?_
  rw [takeContinuation_ofNat hfrom hto,
    takeContinuation_ofNat (by show 0x80 ≤ _; omega) (by show _ ≤ 0xbf; omega),
    takeContinuation_ofNat (by show 0x80 ≤ _; omega) (by show _ ≤ 0xbf; omega), takeContinuation,
    leadingBits, UInt8.toNat_ofNat_of_lt' hbyte]
  · refine congrArg (fun code => (0, code, rest)) ?_
    omega
  all_goals intro h; cases h

/-- Every character is read from its bytes. -/
theorem decodePieces_utf8EncodeChar (c : Char) (rest : List UInt8) :
    decodePieces (String.utf8EncodeChar c ++ rest) = some c :: decodePieces rest := by
  have hvalid : c.toNat < 0xd800 ∨ 0xdfff < c.toNat ∧ c.toNat < 0x110000 := c.valid
  have hchar : Char.ofNat c.toNat = c := Char.ofNat_toNat c
  unfold String.utf8EncodeChar
  show decodePieces ((if c.toNat ≤ 0x7f then _ else if c.toNat ≤ 0x7ff then _
    else if c.toNat ≤ 0xffff then _ else _) ++ rest) = _
  by_cases hone : c.toNat ≤ 0x7f
  · have hread := decodePieces_one hone rest
    rw [hchar] at hread
    rw [if_pos hone]
    exact hread
  by_cases htwo : c.toNat ≤ 0x7ff
  · have hread := decodePieces_two (by omega) htwo rest
    rw [hchar] at hread
    rw [if_neg hone, if_pos htwo]
    exact hread
  by_cases hthree : c.toNat ≤ 0xffff
  · have hread := decodePieces_three (by omega) hthree (by omega) rest
    rw [hchar] at hread
    rw [if_neg hone, if_neg htwo, if_pos hthree]
    exact hread
  · have hread := decodePieces_four (v := c.toNat) (by omega) (by omega) rest
    rw [hchar] at hread
    rw [if_neg hone, if_neg htwo, if_neg hthree]
    exact hread

/-! ### Texts -/

/-- The pieces of a text are its characters. -/
theorem decodePieces_flatMap (s : List Char) :
    decodePieces (s.flatMap String.utf8EncodeChar) = s.map some := by
  induction s with
  | nil => rw [List.flatMap_nil, decodePieces, List.map_nil]
  | cons c s ih => rw [List.flatMap_cons, decodePieces_utf8EncodeChar, ih, List.map_cons]

/-- **Round trip.**  Every text is read from the bytes that it is written as. -/
theorem decodeUtf8?_encodeUtf8 (s : String) : decodeUtf8? (encodeUtf8 s) = some s := by
  have hall : (s.toList.map some).mapM id = some s.toList := by
    induction s.toList with
    | nil => rfl
    | cons c s ih => rw [List.map_cons, List.mapM_cons, ih]; rfl
  rw [decodeUtf8?, encodeUtf8_eq_flatMap, decodePieces_flatMap, hall, Option.map_some,
    String.ofList_toList]

end DriverExtension.Text
