import DriverExtension.Document.Reader
import DriverExtension.Document.Writer
import DriverExtension.Proofs.Number.Integers

namespace DriverExtension.Document

open Number

/-!
# Documents are read as they are written

A document without faults of form is written on one line, and the reader finds in this text the
document that was written and nothing behind it.  This holds for every text in strings and names,
whatever must be escaped in it, and for all integers of 64 bits with or without a sign.

* `escape`, `piece` — a character between quotes, and what the reader makes of it;
* `readString_escapes` — strings are read back;
* `isPlain` — the documents in question: no floating point numbers, dates and faults;
* `readValue_text` — a document is read back from the text in front of what follows;
* `ofJson_toJson` — so it is from its own text.
-/

/-! ### Strings -/

/-- The characters of a character between quotes. -/
def escape (c : Char) : List Char := (escapeJson c).toList

/-- The characters of a string between quotes. -/
def escapes (s : List Char) : List Char := s.flatMap escape

/-- The piece that a character is read as: most control characters are written by their numbers. -/
def piece (c : Char) : Piece :=
  if c = '\n' ∨ c = '\r' ∨ c = '\t' then .char c
  else if c.toNat < 0x20 then .unit c.toNat else .char c

/-- A string is written between quotes. -/
theorem writeString_eq (out s : String) :
    writeString out s = out ++ String.ofList ('"' :: escapes s.toList ++ ['"']) := by
  have hfold (cs : List Char) (out : String) :
      cs.foldl (fun out c => out ++ escapeJson c) out = out ++ String.ofList (escapes cs) := by
    induction cs generalizing out with
    | nil => simp [escapes]
    | cons c cs ih =>
      rw [List.foldl_cons, ih]
      apply String.toList_injective
      simp [escapes, escape]
  rw [writeString, String.foldl_eq_foldl_toList, hfold]
  apply String.toList_injective
  simp

/-- Most control characters are written by their numbers, in four hexadecimal digits. -/
theorem escape_control {c : Char} (hc : c.toNat < 0x20)
    (hletter : ¬ (c = '\n' ∨ c = '\r' ∨ c = '\t')) :
    ∃ z w, escape c = ['\\', 'u', '0', '0', z, w] ∧
      hexQuad? ['0', '0', z, w] = some (c.toNat, []) := by
  have hall : ∀ n < 0x20,
      ¬ (Char.ofNat n = '\n' ∨ Char.ofNat n = '\r' ∨ Char.ofNat n = '\t') →
      escape (Char.ofNat n)
          = ['\\', 'u', '0', '0', Nat.digitChar (n / 16), Nat.digitChar (n % 16)] ∧
        hexQuad? ['0', '0', Nat.digitChar (n / 16), Nat.digitChar (n % 16)] = some (n, []) := by
    decide +kernel
  have hat := hall c.toNat hc
  rw [Char.ofNat_toNat] at hat
  exact ⟨_, _, hat hletter⟩

/-- All others that are not escaped by a letter stand for themselves. -/
theorem escape_plain {c : Char} (hc : ¬ c.toNat < 0x20) (hquote : c ≠ '"')
    (hbackslash : c ≠ '\\') : escape c = [c] := by
  have hletter : ∀ d : Char, d.toNat < 0x20 → c ≠ d := by
    rintro d hd rfl
    exact hc hd
  unfold escape escapeJson
  split
  · exact absurd rfl hquote
  · exact absurd rfl hbackslash
  · exact absurd rfl (hletter '\n' (by decide))
  · exact absurd rfl (hletter '\r' (by decide))
  · exact absurd rfl (hletter '\t' (by decide))
  · rw [if_neg hc, Char.toString_eq_singleton, String.toList_singleton]

/-- What a character is written as is read as its piece. -/
theorem scanString_escape (c : Char) (rest : List Char) :
    scanString (escape c ++ rest)
      = (scanString rest).map fun (ps, r) => (piece c :: ps, r) := by
  by_cases hletter : c = '\n' ∨ c = '\r' ∨ c = '\t'
  · rw [piece, if_pos hletter]
    rcases hletter with rfl | rfl | rfl <;> rfl
  · by_cases hc : c.toNat < 0x20
    · obtain ⟨z, w, hescape, hnumber⟩ := escape_control hc hletter
      rw [piece, if_neg hletter, if_pos hc, hescape]
      simp only [List.cons_append, List.nil_append, scanString, hnumber]
    · rw [piece, if_neg hletter, if_neg hc]
      by_cases hquote : c = '"'
      · rw [hquote]
        rfl
      · by_cases hbackslash : c = '\\'
        · rw [hbackslash]
          rfl
        · rw [escape_plain hc hquote hbackslash, List.singleton_append]
          rw [scanString, if_neg hc]
          · rfl
          all_goals simp [hquote, hbackslash]

/-- A string is read up to the quote that closes it. -/
theorem scanString_escapes (s rest : List Char) :
    scanString (escapes s ++ '"' :: rest) = some (s.map piece, rest) := by
  induction s with
  | nil => rfl
  | cons c s ih =>
    rw [escapes, List.flatMap_cons, List.append_assoc, scanString_escape]
    rw [escapes] at ih
    rw [ih]
    rfl

/-- No control character is half of a surrogate pair. -/
theorem assemble_unit {n : Nat} (hn : n < 0x20) (rest : List Piece) :
    assemble (.unit n :: rest) = (assemble rest).map (Char.ofNat n :: ·) := by
  have hlow : ¬ 0xd800 ≤ n := by omega
  have hhigh : ¬ 0xdc00 ≤ n := by omega
  cases rest with
  | nil => simp [assemble, hlow]
  | cons p rest =>
    cases p with
    | char c =>
      simp only [assemble, hlow, Option.map_map]
      rfl
    | unit m => simp [assemble, hlow, hhigh]

/-- The pieces of a string make up the string. -/
theorem assemble_pieces (s : List Char) : assemble (s.map piece) = some s := by
  induction s with
  | nil => rfl
  | cons c s ih =>
    have hpiece : assemble (piece c :: s.map piece) = (assemble (s.map piece)).map (c :: ·) := by
      rw [piece]
      split
      · rfl
      · split
        case isTrue hc => rw [assemble_unit hc, Char.ofNat_toNat]
        case isFalse => rfl
    rw [List.map_cons, hpiece, ih]
    rfl

/-- **Strings.**  A written string is read back, up to the quote that closes it. -/
theorem readString_escapes (s : String) (rest : List Char) :
    readString (escapes s.toList ++ '"' :: rest) = (.string s, some rest) := by
  rw [readString, scanString_escapes]
  simp only [assemble_pieces, String.ofList_toList]

/-! ### Texts -/

/-- The text of a document. -/
def text (d : Document) : List Char := d.toJson.toList

/-- The text of items; a comma stands before each but the first of the array. -/
def itemsText (first : Bool) (items : List Document) : List Char :=
  (writeItems "" first items).toList

/-- The text of members; a comma stands before each but the first of the object. -/
def membersText (first : Bool) (ms : List (String × Document)) : List Char :=
  (writeMembers "" first ms).toList

/-- The text of a string between its quotes. -/
def quoted (s : String) : List Char := '"' :: (escapes s.toList ++ ['"'])

/-- What stands before an item or a member. -/
def separator (first : Bool) : List Char := if first then [] else [',']

theorem toList_writeString (out s : String) :
    (writeString out s).toList = out.toList ++ quoted s := by
  rw [writeString_eq, String.toList_append, String.toList_ofList]
  rfl

theorem toList_separated (out : String) (first : Bool) :
    (if first then out else out ++ ",").toList = out.toList ++ separator first := by
  cases first with
  | true => exact (List.append_nil _).symm
  | false => exact String.toList_append

mutual

/-- A document is written behind what has been written. -/
theorem toList_writeTo (out : String) (d : Document) :
    (writeTo out d).toList = out.toList ++ text d := by
  cases d with
  | bool b => cases b <;> simp [text, toJson, writeTo]
  | string s => simp [text, toJson, writeTo, toList_writeString]
  | array items =>
    simp only [text, toJson, writeTo, String.toList_append]
    rw [toList_writeItems (out ++ "[") true items, toList_writeItems ("" ++ "[") true items]
    simp
  | object ms =>
    simp only [text, toJson, writeTo, String.toList_append]
    rw [toList_writeMembers (out ++ "\x7b") true ms, toList_writeMembers ("" ++ "\x7b") true ms]
    simp
  | _ => simp [text, toJson, writeTo]

/-- So are items. -/
theorem toList_writeItems (out : String) (first : Bool) (items : List Document) :
    (writeItems out first items).toList = out.toList ++ itemsText first items := by
  cases items with
  | nil => simp [itemsText, writeItems]
  | cons d rest =>
    simp only [itemsText, writeItems]
    rw [toList_writeItems _ false rest, toList_writeTo _ d, toList_separated]
    rw [toList_writeItems (writeTo _ d) false rest, toList_writeTo _ d, toList_separated]
    simp

/-- So are members. -/
theorem toList_writeMembers (out : String) (first : Bool) (ms : List (String × Document)) :
    (writeMembers out first ms).toList = out.toList ++ membersText first ms := by
  cases ms with
  | nil => simp [membersText, writeMembers]
  | cons m rest =>
    obtain ⟨name, d⟩ := m
    simp only [membersText, writeMembers]
    rw [toList_writeMembers _ false rest, toList_writeTo _ d, String.toList_append,
      toList_writeString, toList_separated]
    rw [toList_writeMembers (writeTo _ d) false rest, toList_writeTo _ d, String.toList_append,
      toList_writeString, toList_separated]
    simp

end

/-- The text of a string is the string between quotes. -/
theorem text_string (s : String) : text (.string s) = quoted s :=
  toList_writeString "" s

/-- The text of an array. -/
theorem text_array (items : List Document) :
    text (.array items) = '[' :: (itemsText true items ++ [']']) := by
  have h := toList_writeItems "[" true items
  simp only [text, toJson, writeTo, String.toList_append]
  exact congrArg (· ++ [']']) h

/-- The text of an object. -/
theorem text_object (ms : List (String × Document)) :
    text (.object ms) = '\x7b' :: (membersText true ms ++ ['\x7d']) := by
  have h := toList_writeMembers "\x7b" true ms
  simp only [text, toJson, writeTo, String.toList_append]
  exact congrArg (· ++ ['\x7d']) h

/-- The text of an item and of those after it. -/
theorem itemsText_cons (first : Bool) (d : Document) (rest : List Document) :
    itemsText first (d :: rest) = separator first ++ (text d ++ itemsText false rest) := by
  rw [itemsText, writeItems, toList_writeItems, toList_writeTo, toList_separated]
  simp

/-- The text of a member and of those after it. -/
theorem membersText_cons (first : Bool) (name : String) (d : Document)
    (rest : List (String × Document)) :
    membersText first ((name, d) :: rest)
      = separator first ++ (quoted name ++ ':' :: (text d ++ membersText false rest)) := by
  rw [membersText, writeMembers, toList_writeMembers, toList_writeTo, String.toList_append,
    toList_writeString, toList_separated]
  simp

/-! ### Reading -/

mutual

/-- Whether a document is made of texts, truth values, `null` and integers of 64 bits. -/
def isPlain : Document → Bool
  | .null | .bool _ | .string _ => true
  | .int n => -0x8000000000000000 ≤ n && n < 0x10000000000000000
  | .array items => isPlainItems items
  | .object ms => isPlainMembers ms
  | _ => false

/-- Whether every item is. -/
def isPlainItems : List Document → Bool
  | [] => true
  | d :: rest => d.isPlain && isPlainItems rest

/-- Whether every member is. -/
def isPlainMembers : List (String × Document) → Bool
  | [] => true
  | (_, d) :: rest => d.isPlain && isPlainMembers rest

end

/-- A sign or a digit is told from what begins other values. -/
theorem ne_of_number {c d : Char} (hc : c = '-' ∨ c.isDigit = true) (hminus : d ≠ '-')
    (hdigit : d.isDigit = false) : c ≠ d := by
  rintro rfl
  rcases hc with hc | hc
  · exact hminus hc
  · rw [hdigit] at hc
    cases hc

/-- So it is no blank. -/
theorem isBlank_of_number {c : Char} (hc : c = '-' ∨ c.isDigit = true) : isBlank c = false := by
  have hspace := ne_of_number (d := ' ') hc (by decide) (by decide)
  have hline := ne_of_number (d := '\n') hc (by decide) (by decide)
  have htab := ne_of_number (d := '\t') hc (by decide) (by decide)
  have hreturn := ne_of_number (d := '\r') hc (by decide) (by decide)
  simp [isBlank, hspace, hline, htab, hreturn]

/-- A number is read where a digit or a minus sign stands. -/
theorem readValue_number {c : Char} (hc : c = '-' ∨ c.isDigit = true) (fuel : Nat)
    (rest : List Char) : readValue (fuel + 1) (c :: rest) = readNumber (c :: rest) := by
  have hskip : skipBlanks (c :: rest) = c :: rest := by
    simp [skipBlanks, isBlank_of_number hc]
  have hstart : (decide (c = '-') || c.isDigit) = true := by simpa using hc
  rw [readValue, hskip]
  split
  · rename_i heq
    cases heq
  · rename_i heq
    exact absurd (List.cons.inj heq).1 (ne_of_number hc (by decide) (by decide))
  · rename_i heq
    exact absurd (List.cons.inj heq).1 (ne_of_number hc (by decide) (by decide))
  · rename_i heq
    exact absurd (List.cons.inj heq).1 (ne_of_number hc (by decide) (by decide))
  · rename_i heq
    exact absurd (List.cons.inj heq).1 (ne_of_number hc (by decide) (by decide))
  · rename_i heq
    exact absurd (List.cons.inj heq).1 (ne_of_number hc (by decide) (by decide))
  · rename_i heq
    exact absurd (List.cons.inj heq).1 (ne_of_number hc (by decide) (by decide))
  · rename_i heq
    obtain ⟨rfl, rfl⟩ := List.cons.inj heq
    exact if_pos hstart

/-- An integer begins with a sign or a digit. -/
theorem exists_repr_cons (n : Int) :
    ∃ c rest, n.repr.toList = c :: rest ∧ (c = '-' ∨ c.isDigit = true) := by
  rw [Int.repr_eq_if]
  split
  · obtain ⟨d, ds, hds⟩ :=
      List.exists_cons_of_ne_nil (Nat.toDigits_ne_nil (b := 10) (n := n.toNat))
    rw [Nat.toList_repr, hds]
    refine ⟨d, ds, rfl, .inr ?_⟩
    exact Nat.isDigit_of_mem_toDigits (by decide) (by decide) (hds ▸ List.mem_cons_self)
  · rw [String.toList_append]
    exact ⟨'-', _, rfl, .inl rfl⟩

/-- The text of an integer. -/
theorem text_int (n : Int) : text (.int n) = n.repr.toList := by
  have h : toJson (.int n) = "" ++ n.repr := by rw [toJson, writeTo]; rfl
  rw [text, h, String.empty_append]

/-- The text of a plain document begins with no blank, and does not close an array. -/
theorem exists_text_cons {d : Document} (h : d.isPlain = true) :
    ∃ c rest, text d = c :: rest ∧ isBlank c = false ∧ c ≠ ']' := by
  cases d with
  | null => exact ⟨'n', _, rfl, by decide, by decide⟩
  | bool b =>
    cases b with
    | true => exact ⟨'t', _, rfl, by decide, by decide⟩
    | false => exact ⟨'f', _, rfl, by decide, by decide⟩
  | int n =>
    obtain ⟨c, rest, hrepr, hc⟩ := exists_repr_cons n
    exact ⟨c, rest, (text_int n).trans hrepr, isBlank_of_number hc,
      ne_of_number hc (by decide) (by decide)⟩
  | string s => exact ⟨'"', _, text_string s, by decide, by decide⟩
  | array items => exact ⟨'[', _, text_array items, by decide, by decide⟩
  | object ms => exact ⟨'\x7b', _, text_object ms, by decide, by decide⟩
  | float x => cases h
  | date => cases h
  | broken => cases h
  | unreadable => cases h
  | badKey key value => cases h

/-- What stands behind a value in an array or in an object. -/
theorem endsNumber_cons {c : Char} (hc : c = ',' ∨ c = ']' ∨ c = '\x7d') (rest : List Char) :
    EndsNumber (c :: rest) := by
  intro d hd
  obtain rfl : c = d := by simpa using hd
  rcases hc with rfl | rfl | rfl <;> decide

/-- An array that does not close at once is read item by item. -/
theorem readValue_array {c : Char} (hblank : isBlank c = false) (hc : c ≠ ']') (fuel : Nat)
    (rest : List Char) : readValue (fuel + 1) ('[' :: c :: rest)
      = (.array (readItems fuel (c :: rest)).1, (readItems fuel (c :: rest)).2) := by
  have hopen : skipBlanks ('[' :: c :: rest) = '[' :: c :: rest := rfl
  have hskip : skipBlanks (c :: rest) = c :: rest := by simp [skipBlanks, hblank]
  simp only [readValue, hopen, hskip]
  split
  · rename_i heq
    exact absurd (List.cons.inj heq).1 hc
  · rfl

/-- An object with members is read member by member. -/
theorem readValue_object (fuel : Nat) (rest : List Char) :
    readValue (fuel + 1) ('\x7b' :: '"' :: rest)
      = (.object (readMembers fuel ('"' :: rest)).1, (readMembers fuel ('"' :: rest)).2) := rfl

/-- The last item stands before the closing bracket. -/
theorem readItems_last {fuel : Nat} {s rest : List Char} {d : Document}
    (h : readValue fuel s = (d, some (']' :: rest))) :
    readItems (fuel + 1) s = ([d], some rest) := by
  have hclose : skipBlanks (']' :: rest) = ']' :: rest := rfl
  simp only [readItems, h, hclose]

/-- Any other stands before a comma, with the next items behind it. -/
theorem readItems_more {fuel : Nat} {s more : List Char} {d : Document} {items : List Document}
    {rest : Option (List Char)} (h : readValue fuel s = (d, some (',' :: more)))
    (hmore : readItems fuel more = (items, rest)) :
    readItems (fuel + 1) s = (d :: items, rest) := by
  have hcomma : skipBlanks (',' :: more) = ',' :: more := rfl
  simp only [readItems, h, hcomma, hmore]

variable {fuel : Nat} {s t : List Char} {name : String} {d : Document}

/-- The value of the last member stands before the closing brace. -/
theorem readMembers_last {rest : List Char}
    (hname : readValue (fuel + 2) s = (.string name, some (':' :: t)))
    (hvalue : readValue (fuel + 1) t = (d, some ('\x7d' :: rest))) :
    readMembers (fuel + 3) s = ([(name, d)], some rest) := by
  have hcolon : skipBlanks (':' :: t) = ':' :: t := rfl
  have hclose : skipBlanks ('\x7d' :: rest) = '\x7d' :: rest := rfl
  rw [readMembers, hname]
  simp only [readMember, hcolon, hvalue, hclose, id]

/-- That of any other stands before a comma, with the next members behind it. -/
theorem readMembers_more {more : List Char} {ms : List (String × Document)}
    {rest : Option (List Char)}
    (hname : readValue (fuel + 2) s = (.string name, some (':' :: t)))
    (hvalue : readValue (fuel + 1) t = (d, some (',' :: more)))
    (hmore : readMembers (fuel + 1) more = (ms, rest)) :
    readMembers (fuel + 3) s = ((name, d) :: ms, rest) := by
  have hcolon : skipBlanks (':' :: t) = ':' :: t := rfl
  have hcomma : skipBlanks (',' :: more) = ',' :: more := rfl
  rw [readMembers, hname]
  simp only [readMember, hcolon, hvalue, hcomma, hmore, id]

/-- The items after the first are written behind a comma. -/
theorem itemsText_false (d : Document) (rest : List Document) :
    itemsText false (d :: rest) = ',' :: itemsText true (d :: rest) := by
  rw [itemsText_cons, itemsText_cons]
  rfl

/-- So are the members after the first. -/
theorem membersText_false (m : String × Document) (rest : List (String × Document)) :
    membersText false (m :: rest) = ',' :: membersText true (m :: rest) := by
  obtain ⟨name, d⟩ := m
  rw [membersText_cons, membersText_cons]
  rfl

mutual

/-- **Reading.**  A plain document is read back from the text in front of what follows. -/
theorem readValue_text (d : Document) (h : d.isPlain = true) (fuel : Nat)
    (hfuel : (text d).length ≤ fuel) (rest : List Char) (hrest : EndsNumber rest) :
    readValue fuel (text d ++ rest) = (d, some rest) := by
  obtain ⟨c, more, hc, -, -⟩ := exists_text_cons h
  obtain ⟨fuel, rfl⟩ : ∃ f, fuel = f + 1 := by
    rw [hc, List.length_cons] at hfuel
    exact Nat.exists_eq_add_one.mpr (by omega)
  cases d with
  | null => rfl
  | bool b => cases b <;> rfl
  | int n =>
    obtain ⟨hlow, hhigh⟩ : -0x8000000000000000 ≤ n ∧ n < 0x10000000000000000 := by
      simpa [isPlain] using h
    obtain ⟨c, more, hrepr, hc⟩ := exists_repr_cons n
    have hscan := scanNumber_repr hlow hhigh hrest
    rw [hrepr] at hscan
    rw [text_int, hrepr, List.cons_append, readValue_number hc, readNumber, ← List.cons_append,
      hscan]
  | string s =>
    rw [text_string, quoted, List.cons_append, List.append_assoc]
    exact readString_escapes s rest
  | array items =>
    rw [text_array] at hfuel ⊢
    cases items with
    | nil => rfl
    | cons e items =>
      obtain ⟨he, hitems⟩ := (Bool.and_eq_true _ _).mp h
      obtain ⟨c, more, htext, hblank, hclose⟩ := exists_text_cons he
      have hread := readItems_text (e :: items) (List.cons_ne_nil _ _) h fuel
        (by simp at hfuel; omega) rest
      have hcons : itemsText true (e :: items) = c :: (more ++ itemsText false items) := by
        rw [itemsText_cons, htext]
        rfl
      rw [List.cons_append, List.append_assoc, List.singleton_append]
      rw [hcons, List.cons_append] at hread ⊢
      -- the first item is told from a closing bracket by how it begins
      rw [readValue_array hblank hclose, hread]
  | object ms =>
    rw [text_object] at hfuel ⊢
    cases ms with
    | nil => rfl
    | cons m ms =>
      have hread := readMembers_text (m :: ms) (List.cons_ne_nil _ _) h fuel
        (by simp at hfuel; omega) rest
      obtain ⟨more, hcons⟩ : ∃ more, membersText true (m :: ms) = '"' :: more :=
        ⟨_, membersText_cons true m.1 m.2 ms⟩
      rw [List.cons_append, List.append_assoc, List.singleton_append]
      rw [hcons, List.cons_append] at hread ⊢
      rw [readValue_object, hread]
  | float x => cases h
  | date => cases h
  | broken => cases h
  | unreadable => cases h
  | badKey key value => cases h

/-- So are the items of an array. -/
theorem readItems_text (items : List Document) (hne : items ≠ [])
    (h : isPlainItems items = true) (fuel : Nat)
    (hfuel : (itemsText true items).length < fuel) (rest : List Char) :
    readItems fuel (itemsText true items ++ ']' :: rest) = (items, some rest) := by
  obtain ⟨fuel, rfl⟩ : ∃ f, fuel = f + 1 := Nat.exists_eq_add_one.mpr (by omega)
  cases items with
  | nil => exact absurd rfl hne
  | cons d items =>
    obtain ⟨hd, hitems⟩ := (Bool.and_eq_true _ _).mp h
    rw [itemsText_cons] at hfuel ⊢
    simp only [separator, if_true, List.nil_append, List.append_assoc, List.length_append] at hfuel ⊢
    cases items with
    | nil =>
      apply readItems_last
      exact readValue_text d hd fuel (by omega) (']' :: rest) (endsNumber_cons (by simp) rest)
    | cons e items =>
      -- the text of the item is not empty, so the other texts are shorter than the fuel that is left
      obtain ⟨c, more, htext, -, -⟩ := exists_text_cons hd
      have hlength : 1 ≤ (text d).length := by simp [htext]
      rw [itemsText_false, List.length_cons] at hfuel
      rw [itemsText_false, List.cons_append]
      apply readItems_more
      · exact readValue_text d hd fuel (by omega) _ (endsNumber_cons (by simp) _)
      · exact readItems_text (e :: items) (List.cons_ne_nil _ _) hitems fuel (by omega) rest

/-- So are the members of an object. -/
theorem readMembers_text (ms : List (String × Document)) (hne : ms ≠ [])
    (h : isPlainMembers ms = true) (fuel : Nat)
    (hfuel : (membersText true ms).length < fuel) (rest : List Char) :
    readMembers fuel (membersText true ms ++ '\x7d' :: rest) = (ms, some rest) := by
  cases ms with
  | nil => exact absurd rfl hne
  | cons m ms =>
    obtain ⟨name, d⟩ := m
    obtain ⟨hd, hms⟩ := (Bool.and_eq_true _ _).mp h
    rw [membersText_cons] at hfuel ⊢
    simp only [separator, if_true, List.nil_append, List.append_assoc, List.cons_append,
      List.length_append, List.length_cons, quoted] at hfuel ⊢
    -- a name takes two quotes and a colon, so three steps can be taken off
    obtain ⟨fuel, rfl⟩ : ∃ f, fuel = f + 3 := ⟨fuel - 3, by omega⟩
    have hname (more : List Char) :
        readValue (fuel + 2) ('"' :: (escapes name.toList ++ ('"' :: more)))
          = (.string name, some more) :=
      readString_escapes name more
    have hvalue {more : List Char} (hmore : EndsNumber more) :
        readValue (fuel + 1) (text d ++ more) = (d, some more) :=
      readValue_text d hd (fuel + 1) (by omega) more hmore
    cases ms with
    | nil => exact readMembers_last (hname _) (hvalue (endsNumber_cons (by simp) rest))
    | cons m ms =>
      rw [membersText_false, List.length_cons] at hfuel
      rw [membersText_false, List.cons_append]
      apply readMembers_more (hname _) (hvalue (endsNumber_cons (by simp) _))
      exact readMembers_text (m :: ms) (List.cons_ne_nil _ _) hms (fuel + 1) (by omega) rest

end

/-- **Written documents.**  A plain document is what its text is read as, and nothing follows it. -/
theorem ofJson_toJson {d : Document} (h : d.isPlain = true) : ofJson d.toJson = (d, true) := by
  have hread := readValue_text d h (3 * (text d).length + 3) (by omega) []
    (show EndsNumber [] by rintro c ⟨⟩)
  rw [List.append_nil, text] at hread
  simp only [ofJson, hread]
  rfl

end DriverExtension.Document
