import DriverExtension.Toml.Quoted

namespace DriverExtension.Toml

/-!
# Strings of TOML and back

Every text can be read from the string that it is written as, whichever of the five forms that is.

* `Stands` — how a character may stand between double quotes;
* `basic_escapeAll`, `literal_append` — reading the strings on one line;
* `LongForm` — how a text may stand between long quotes: with two of its quotes in a row at most;
* `LongReader`, `LongReader.read_longForm` — reading a long string, in either form;
* `anyString_quoteChars` — the round trip.
-/

/-! ### Characters -/

/-- How a character may stand between double quotes: as it is, as an escape by a letter or by its
    number; and a line break as it is in a long string. -/
inductive Stands : Bool → Char → List Char → Prop
  | plain {long : Bool} {c : Char} (hvisible : isVisible c = true) (hquote : c ≠ '"')
      (hbackslash : c ≠ '\\') : Stands long c [c]
  | lineBreak : Stands true '\n' ['\n']
  | letter {long : Bool} {c : Char} (l : Char) (hletter : escaped? l = some c) :
      Stands long c ['\\', l]
  | number {long : Bool} {c : Char} (x y z w : Char) (hnumber : codePoint? [x, y, z, w] = some c) :
      Stands long c ['\\', 'u', x, y, z, w]

/-- The number of an ASCII character has four digits, from which it is read. -/
theorem exists_hexQuad_eq {c : Char} (hc : c.toNat < 0x80) :
    ∃ x y z w, hexQuad c.toNat = [x, y, z, w] ∧ codePoint? [x, y, z, w] = some c := by
  have hall : ∀ n < 0x80,
      (hexQuad n).length = 4 ∧ codePoint? (hexQuad n) = some (Char.ofNat n) := by decide
  obtain ⟨hlength, hread⟩ := hall c.toNat hc
  rw [Char.ofNat_toNat] at hread
  match hdigits : hexQuad c.toNat, hlength with
  | [x, y, z, w], _ =>
    rw [hdigits] at hread
    exact ⟨x, y, z, w, rfl, hread⟩

/-- A character that is not a control character is visible or a line break. -/
theorem isVisible_of_isControl {c : Char} (hcontrol : isControl c = false) (hbreak : c ≠ '\n') :
    isVisible c = true := by
  by_cases htab : c = '\t'
  · simp [isVisible, htab]
  · simp [isControl, htab, hbreak] at hcontrol
    simp [isVisible, htab, hcontrol]

/-- No line break is visible. -/
theorem ne_of_isVisible {c : Char} (h : isVisible c = true) : c ≠ '\r' ∧ c ≠ '\n' := by
  constructor <;> rintro rfl <;> cases h

/-- What stands for a character begins with no quote, and with no line break unless it is one. -/
theorem Stands.head {long : Bool} {c : Char} {out : List Char} (h : Stands long c out) :
    ∃ d more, out = d :: more ∧ d ≠ '"' ∧ d ≠ '\r' ∧ (d = '\n' → c = '\n') := by
  cases h with
  | plain hvisible hquote hbackslash => exact ⟨c, [], rfl, hquote, (ne_of_isVisible hvisible).1, id⟩
  | lineBreak => exact ⟨'\n', [], rfl, by decide, by decide, id⟩
  | letter l hletter => exact ⟨'\\', [l], rfl, by decide, by decide, fun h => by cases h⟩
  | number x y z w hnumber => exact ⟨'\\', _, rfl, by decide, by decide, fun h => by cases h⟩

/-- Every character but the quote is written as it may stand. -/
theorem stands_escapeChar (long : Bool) {c : Char} (hc : c ≠ '"') :
    Stands long c (escapeChar long c) := by
  unfold escapeChar
  split
  · exact .letter 'b' rfl
  · exact .letter 't' rfl
  · cases long with
    | false => exact .letter 'n' rfl
    | true => exact .lineBreak
  · exact .letter 'f' rfl
  · exact .letter 'r' rfl
  · exact .letter '\\' rfl
  · rename_i hbreak _ _ hbackslash
    cases hcontrol : isControl c with
    | true =>
      have hascii : c.toNat < 0x80 := by
        simp [isControl] at hcontrol
        omega
      obtain ⟨x, y, z, w, hdigits, hnumber⟩ := exists_hexQuad_eq hascii
      rw [if_pos rfl, hdigits]
      exact .number x y z w hnumber
    | false => exact .plain (isVisible_of_isControl hcontrol hbreak) hc hbackslash

/-- So is a quote with a backslash before it. -/
theorem stands_quote (long : Bool) : Stands long '"' ['\\', '"'] := .letter '"' rfl

/-- A quote is escaped where none may stand as it is. -/
theorem escapeAll_quote_zero (long : Bool) (s : List Char) :
    escapeAll long 0 ('"' :: s) = '\\' :: '"' :: escapeAll long (if long then 2 else 0) s := rfl

/-- Any other character is escaped for itself. -/
theorem escapeAll_cons (long : Bool) (room : Nat) {c : Char} (hc : c ≠ '"') (s : List Char) :
    escapeAll long room (c :: s)
      = escapeChar long c ++ escapeAll long (if long then 2 else 0) s := by
  simp only [escapeAll, if_neg hc]

/-! ### Strings on one line -/

/-- What may stand between double quotes is read. -/
theorem basic_append {c : Char} {out : List Char} (h : Stands false c out) (rest : List Char) :
    basic (out ++ rest) = prepend c (basic rest) := by
  cases h with
  | plain hvisible hquote hbackslash =>
    rw [List.singleton_append]
    conv => lhs; unfold basic
    split <;> simp_all
  | letter l hletter =>
    unfold escaped? at hletter
    split at hletter <;> cases hletter <;> rfl
  | number x y z w hnumber =>
    simp only [List.cons_append, List.nil_append, basic, hnumber]

/-- A text with escapes is read up to the quote that closes it. -/
theorem basic_escapeAll (s rest : List Char) :
    basic (escapeAll false 0 s ++ '"' :: rest) = .ok (s, rest) := by
  induction s with
  | nil => rfl
  | cons c s ih =>
    by_cases hc : c = '"'
    · subst hc
      rw [escapeAll_quote_zero, List.cons_append, List.cons_append]
      have hquote := basic_append (stands_quote false) (escapeAll false 0 s ++ '"' :: rest)
      rw [ih] at hquote
      exact hquote
    · rw [escapeAll_cons false 0 hc, List.append_assoc, basic_append (stands_escapeChar false hc)]
      rw [if_neg Bool.false_ne_true, ih]
      rfl

/-- A text of visible characters without apostrophes is read up to the apostrophe that closes it. -/
theorem literal_append {s : List Char} (h : ∀ c ∈ s, isVisible c = true ∧ c ≠ '\x27')
    (rest : List Char) : literal (s ++ '\x27' :: rest) = .ok (s, rest) := by
  induction s with
  | nil => rfl
  | cons c s ih =>
    rw [List.forall_mem_cons] at h
    obtain ⟨⟨hvisible, hc⟩, hrest⟩ := h
    rw [List.cons_append, literal, if_pos hvisible, ih hrest]
    · rfl
    · exact hc

/-! ### Long strings -/

/-- How a text may stand between long quotes: its own quotes as they are, with at most two in a row
    and at most `room` at the beginning, and its other characters as they may stand there. -/
inductive LongForm (quote : Char) (stands : Char → List Char → Prop) :
    Nat → List Char → List Char → Prop
  | nil {room : Nat} : LongForm quote stands room [] []
  | quote {room : Nat} {s t : List Char} (h : LongForm quote stands room s t) :
      LongForm quote stands (room + 1) (quote :: s) (quote :: t)
  | other {room : Nat} {c : Char} {out s t : List Char} (hc : stands c out)
      (h : LongForm quote stands 2 s t) : LongForm quote stands room (c :: s) (out ++ t)

/-- What a reader of long strings does: three quotes in a row close the string; one or two are read
    if it goes on, which it does wherever another character stands; and this one is read. -/
structure LongReader (quote : Char) (stands : Char → List Char → Prop)
    (read : List Char → Read (List Char)) : Prop where
  close : ∀ rest, read (quote :: quote :: quote :: rest) = closeLong quote rest
  go : ∀ rest, ¬ [quote, quote] <+: rest → goesOn quote rest = true →
    read (quote :: rest) = prepend quote (read rest)
  other : ∀ {c out}, stands c out → ∀ rest, read (out ++ rest) = prepend c (read rest)
  goesOn_other : ∀ {c out}, stands c out → ∀ rest, goesOn quote (out ++ rest) = true
  head : ∀ {c out}, stands c out → ∃ d more, out = d :: more ∧ d ≠ quote ∧ d ≠ '\r' ∧
    (d = '\n' → c = '\n')

/-- No quotes after the closing ones belong to the string if there are none. -/
theorem closeLong_of_head? {quote : Char} {rest : List Char} (h : rest.head? ≠ some quote) :
    closeLong quote rest = .ok ([], rest) := by
  have hne : ∀ c more, rest = c :: more → ¬ c = quote := by
    rintro c more rfl rfl
    exact h rfl
  unfold closeLong
  split
  · rw [if_neg (hne _ _ rfl)]
  · rw [if_neg (hne _ _ rfl)]
  · rfl

/-- One quote does. -/
theorem closeLong_one {quote : Char} {rest : List Char} (h : rest.head? ≠ some quote) :
    closeLong quote (quote :: rest) = .ok ([quote], rest) := by
  cases rest with
  | nil => simp [closeLong]
  | cons c rest =>
    have hc : ¬ c = quote := fun heq => h (congrArg some heq)
    simp [closeLong, hc]

/-- Two quotes do. -/
theorem closeLong_two (quote : Char) (rest : List Char) :
    closeLong quote (quote :: quote :: rest) = .ok ([quote, quote], rest) := by
  simp [closeLong]

/-- Quotes do not end what goes on. -/
theorem goesOn_cons (quote : Char) (rest : List Char) :
    goesOn quote (quote :: rest) = goesOn quote rest := by
  simp [goesOn]

/-- A long string goes on with a visible character, unless a backslash ends the text. -/
theorem goesOn_of_isVisible {quote c : Char} (hvisible : isVisible c = true) (hc : c ≠ quote)
    (hbackslash : c ≠ '\\' ∨ quote = '\x27') (rest : List Char) :
    goesOn quote ([c] ++ rest) = true := by
  obtain ⟨hreturn, hbreak⟩ := ne_of_isVisible hvisible
  rw [goesOn, List.singleton_append, List.dropWhile_cons_of_neg (by simpa using hc)]
  split <;> simp_all

namespace LongReader

variable {quote : Char} {stands : Char → List Char → Prop} {read : List Char → Read (List Char)}

/-- **Long strings.**  A text that stands between long quotes is read up to the quotes that close
    it. -/
theorem read_longForm (h : LongReader quote stands read) {room : Nat} (hroom : room ≤ 2)
    {s t rest : List Char} (hform : LongForm quote stands room s t)
    (hrest : rest.head? ≠ some quote) :
    read (t ++ quote :: quote :: quote :: rest) = .ok (s, rest) := by
  induction hform with
  | nil => rw [List.nil_append, h.close, closeLong_of_head? hrest]
  | other hc hform ih =>
    rw [List.append_assoc, h.other hc, ih (Nat.le_refl 2)]
    rfl
  | quote hform ih =>
    have hread := ih (Nat.le_of_succ_le hroom)
    cases hform with
    | nil =>
      -- one quote before those that close the string
      show read (quote :: quote :: quote :: quote :: rest) = _
      rw [h.close, closeLong_one hrest]
    | other hc hform =>
      obtain ⟨d, more, hout, hd, -, -⟩ := h.head hc
      rw [List.cons_append, h.go, hread]
      · rfl
      · rw [hout]
        intro hprefix
        exact hd (List.cons_prefix_cons.mp hprefix).1.symm
      · rw [List.append_assoc]
        exact h.goesOn_other hc _
    | quote hform =>
      cases hform with
      | nil =>
        -- two quotes before those that close the string
        show read (quote :: quote :: quote :: quote :: quote :: rest) = _
        rw [h.close, closeLong_two]
      | other hc hform =>
        obtain ⟨d, more, hout, hd, -, -⟩ := h.head hc
        rw [List.cons_append, h.go, hread]
        · rfl
        · rw [hout]
          intro hprefix
          exact hd (List.cons_prefix_cons.mp (List.cons_prefix_cons.mp hprefix).2).1.symm
        · rw [List.cons_append, goesOn_cons, List.append_assoc]
          exact h.goesOn_other hc _
      | quote hform => omega

/-- What stands between long quotes begins with no line break of its own unless the text has one. -/
theorem dropLineBreak_longForm (h : LongReader quote stands read) {room : Nat}
    {s t : List Char} (hform : LongForm quote stands room s t) (hbreak : '\n' ∉ s)
    (hquote : quote ≠ '\n' ∧ quote ≠ '\r') (rest : List Char) :
    dropLineBreak (t ++ quote :: rest) = t ++ quote :: rest := by
  have hdrop : ∀ (c : Char) (more : List Char), c ≠ '\n' → c ≠ '\r' →
      dropLineBreak (c :: more) = c :: more := by
    intro c more hn hr
    unfold dropLineBreak
    split <;> simp_all
  cases hform with
  | nil => exact hdrop _ _ hquote.1 hquote.2
  | quote hform => exact hdrop _ _ hquote.1 hquote.2
  | other hc hform =>
    obtain ⟨d, more, rfl, -, hr, hn⟩ := h.head hc
    refine hdrop d _ (fun hd => ?_) hr
    rw [List.mem_cons, not_or] at hbreak
    exact hbreak.1 (hn hd).symm

end LongReader

/-! ### Between long double quotes -/

/-- The reader of long strings between double quotes. -/
theorem longBasic_reader : LongReader '"' (Stands true) (longBasic false) where
  close := fun _ => rfl
  go := by
    intro rest hquotes hgoes
    rw [longBasic, if_pos hgoes]
    rintro more rfl
    exact hquotes ⟨more, rfl⟩
  other := by
    intro c out h rest
    cases h with
    | plain hvisible hquote hbackslash =>
      obtain ⟨hreturn, hbreak⟩ := ne_of_isVisible hvisible
      rw [List.singleton_append]
      conv => lhs; unfold longBasic
      split <;> simp_all
    | lineBreak => rfl
    | letter l hletter =>
      unfold escaped? at hletter
      split at hletter <;> cases hletter <;> rfl
    | number x y z w hnumber =>
      simp only [List.cons_append, List.nil_append, longBasic, hnumber]
  goesOn_other := by
    intro c out h rest
    cases h with
    | plain hvisible hquote hbackslash =>
      exact goesOn_of_isVisible hvisible hquote (.inl hbackslash) rest
    | lineBreak => rfl
    | letter l hletter => rfl
    | number x y z w hnumber => rfl
  head := fun h => h.head

/-- A text with escapes may stand between long double quotes. -/
theorem longForm_escapeAll (room : Nat) (s : List Char) :
    LongForm '"' (Stands true) room s (escapeAll true room s) := by
  induction s generalizing room with
  | nil => exact .nil
  | cons c s ih =>
    by_cases hc : c = '"'
    · subst hc
      cases room with
      | zero => exact .other (stands_quote true) (ih 2)
      | succ room => exact .quote (ih room)
    · rw [escapeAll_cons true room hc]
      exact .other (stands_escapeChar true hc) (ih 2)

/-! ### Between long apostrophes -/

/-- A character that is no apostrophe and no control character stands for itself there. -/
def StandsAlone (c : Char) (out : List Char) : Prop :=
  out = [c] ∧ c ≠ '\x27' ∧ (isVisible c = true ∨ c = '\n')

/-- The reader of long strings between apostrophes. -/
theorem longLiteral_reader : LongReader '\x27' StandsAlone longLiteral where
  close := fun _ => rfl
  go := by
    intro rest hquotes hgoes
    rw [longLiteral, if_pos hgoes]
    rintro more rfl
    exact hquotes ⟨more, rfl⟩
  other := by
    rintro c out ⟨rfl, hquote, hc⟩ rest
    have hreturn : c ≠ '\r' := by
      rcases hc with hvisible | rfl
      · exact (ne_of_isVisible hvisible).1
      · decide
    have hread : (isVisible c || decide (c = '\n')) = true := by simpa using hc
    rw [List.singleton_append, longLiteral, if_pos hread]
    · exact fun _ h _ => hquote h
    · exact hquote
    · exact fun _ h _ => hreturn h
  goesOn_other := by
    rintro c out ⟨rfl, hquote, hvisible | rfl⟩ rest
    · exact goesOn_of_isVisible hvisible hquote (.inr rfl) rest
    · rfl
  head := by
    rintro c out ⟨rfl, hquote, hc⟩
    refine ⟨c, [], rfl, hquote, ?_, id⟩
    rcases hc with hvisible | rfl
    · exact (ne_of_isVisible hvisible).1
    · decide

/-- A row is at least as long as what precedes of it. -/
theorem le_longestRow (x : Char) (current : Nat) (s : List Char) :
    current ≤ longestRow x current s := by
  induction s generalizing current with
  | nil => exact Nat.le_refl current
  | cons c s ih =>
    rw [longestRow]
    split
    · exact Nat.le_of_succ_le (ih (current + 1))
    · exact Nat.le_max_left _ _

/-- A text without control characters may stand between long apostrophes if it has no more than two
    in a row. -/
theorem longForm_of_longestRow {s : List Char} (hcontrol : ∀ c ∈ s, isControl c = false)
    {current : Nat} (hrow : longestRow '\x27' current s ≤ 2) :
    LongForm '\x27' StandsAlone (2 - current) s s := by
  induction s generalizing current with
  | nil => exact .nil
  | cons c s ih =>
    rw [List.forall_mem_cons] at hcontrol
    rw [longestRow] at hrow
    split at hrow
    · rename_i hc
      subst hc
      -- there was room for this one
      have hle := Nat.le_trans (le_longestRow '\x27' (current + 1) s) hrow
      have hroom : 2 - current = 2 - (current + 1) + 1 := by omega
      rw [hroom]
      exact .quote (ih hcontrol.2 hrow)
    · rename_i hc
      have hrest := ih hcontrol.2 (Nat.le_trans (Nat.le_max_right _ _) hrow)
      have hvisible : isVisible c = true ∨ c = '\n' :=
        (Decidable.em (c = '\n')).symm.imp_left (isVisible_of_isControl hcontrol.1)
      exact .other ⟨rfl, hc, hvisible⟩ hrest

/-! ### All forms -/

/-- A text between long quotes is read, with or without a line break before it. -/
theorem read_enclose {quote : Char} {stands : Char → List Char → Prop}
    {read : List Char → Read (List Char)} (h : LongReader quote stands read)
    (hquote : quote ≠ '\n' ∧ quote ≠ '\r') {s t rest : List Char}
    (hform : LongForm quote stands 2 s t) (hrest : rest.head? ≠ some quote) :
    read (dropLineBreak
        ((if s.contains '\n' then ['\n'] else []) ++ t ++ [quote, quote, quote] ++ rest))
      = .ok (s, rest) := by
  have hread := h.read_longForm (Nat.le_refl 2) hform hrest
  cases hbroken : s.contains '\n' with
  | true =>
    rw [if_pos rfl, List.append_assoc, List.append_assoc]
    exact hread
  | false =>
    have hbreak : '\n' ∉ s := by simpa using hbroken
    rw [if_neg Bool.false_ne_true, List.nil_append, List.append_assoc]
    show read (dropLineBreak (t ++ quote :: quote :: quote :: rest)) = _
    rw [h.dropLineBreak_longForm hform hbreak hquote, hread]

/-- A text is read from the string between double quotes. -/
theorem anyString_basicForm (s : List Char) {rest : List Char} (hrest : rest.head? ≠ some '"') :
    anyString (basicForm s ++ rest) = .ok (s, rest) := by
  have hform : basicForm s ++ rest = '"' :: (escapeAll false 0 s ++ '"' :: rest) := by
    simp [basicForm]
  rw [hform, anyString, basic_escapeAll]
  -- these are not the quotes of a long string
  intro more hquotes
  cases s with
  | nil =>
    cases hquotes
    exact hrest rfl
  | cons c s =>
    by_cases hc : c = '"'
    · subst hc
      cases hquotes
    · obtain ⟨d, tail, hout, hd, -⟩ := (stands_escapeChar false hc).head
      rw [escapeAll_cons false 0 hc, hout] at hquotes
      exact hd (List.cons.inj hquotes).1

/-- A text is read from the string between apostrophes. -/
theorem anyString_literal {s rest : List Char} (h : ∀ c ∈ s, isVisible c = true ∧ c ≠ '\x27')
    (hrest : rest.head? ≠ some '\x27') :
    anyString ('\x27' :: s ++ ['\x27'] ++ rest) = .ok (s, rest) := by
  have hform : '\x27' :: s ++ ['\x27'] ++ rest = '\x27' :: (s ++ '\x27' :: rest) := by simp
  rw [hform, anyString, literal_append h]
  intro more hquotes
  cases s with
  | nil =>
    cases hquotes
    exact hrest rfl
  | cons c s => exact (h c List.mem_cons_self).2 (List.cons.inj hquotes).1

/-- A text is read from the long string between double quotes. -/
theorem anyString_longBasicForm (s : List Char) {rest : List Char} (hrest : rest.head? ≠ some '"') :
    anyString (longBasicForm (s.contains '\n') s ++ rest) = .ok (s, rest) :=
  read_enclose longBasic_reader (by decide) (longForm_escapeAll 2 s) hrest

/-- A text is read from the long string between apostrophes. -/
theorem anyString_enclose {s rest : List Char} (hcontrol : ∀ c ∈ s, isControl c = false)
    (hrow : longestRow '\x27' 0 s ≤ 2) (hrest : rest.head? ≠ some '\x27') :
    anyString (enclose '\x27' (s.contains '\n') s ++ rest) = .ok (s, rest) :=
  read_enclose longLiteral_reader (by decide) (longForm_of_longestRow hcontrol hrow) hrest

/-- **Round trip.**  A text is read from the string that it is written as, if no quote follows. -/
theorem anyString_quoteChars (s : List Char) {rest : List Char} (hquote : rest.head? ≠ some '"')
    (hapostrophe : rest.head? ≠ some '\x27') : anyString (quoteChars s ++ rest) = .ok (s, rest) := by
  have hplain : s.any isControl = false → ∀ c ∈ s, isControl c = false :=
    fun h c hc => by simpa using List.any_eq_false.mp h c hc
  unfold quoteChars
  dsimp only
  split
  · exact anyString_basicForm s hquote
  split
  · rename_i h
    simp only [Bool.and_eq_true, Bool.not_eq_true', List.contains_eq_mem,
      decide_eq_false_iff_not] at h
    obtain ⟨⟨hcontrol, hnone⟩, hbreak⟩ := h
    refine anyString_literal (fun c hc => ⟨isVisible_of_isControl (hplain hcontrol c hc) ?_, ?_⟩)
      hapostrophe
    · rintro rfl
      exact hbreak hc
    · rintro rfl
      exact hnone hc
  split
  · exact anyString_longBasicForm s hquote
  split
  · rename_i h
    simp only [Bool.and_eq_true, Bool.not_eq_true', decide_eq_true_eq] at h
    exact anyString_enclose (hplain h.1) h.2 hapostrophe
  split
  · exact anyString_longBasicForm s hquote
  · exact anyString_basicForm s hquote

end DriverExtension.Toml
