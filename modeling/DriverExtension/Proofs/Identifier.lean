import DriverExtension.CommandLine.Parse
import DriverExtension.Document.Writer
import DriverExtension.Proofs.Document.Alternatives

namespace DriverExtension

open CommandLine

/-!
# The grammar of identifiers

The check of identifiers looks at bytes, at characters and at the pieces between dots.  Together its
parts say that a text is a dotted name, and each text that is none is refused for one reason.

* `Identifier.IsSegment`, `Identifier.IsDottedName` — the grammar: segments with dots between them;
* `Identifier.any_isEmpty_segments_iff` — where a piece between dots is empty;
* `Identifier.isDotted_iff` — what the check of the pieces amounts to;
* `Identifier.Refused`, `Identifier.check_eq_error_iff` — the reasons, each with the texts that are
  refused for it;
* `Identifier.identifier_grammar` — the account of all texts.
-/

namespace Identifier

/-! ### The grammar -/

/-- The characters of segments: letters, digits and hyphens of ASCII. -/
def IsSegmentChar (c : Char) : Prop :=
  ('a' ≤ c ∧ c ≤ 'z') ∨ ('A' ≤ c ∧ c ≤ 'Z') ∨ ('0' ≤ c ∧ c ≤ '9') ∨ c = '-'

/-- A segment has one character or more. -/
def IsSegment (s : List Char) : Prop := s ≠ [] ∧ ∀ c ∈ s, IsSegmentChar c

/-- A dotted name has two segments or more, with a dot between each and the next one. -/
inductive IsDottedName : List Char → Prop
  | pair {a b : List Char} (ha : IsSegment a) (hb : IsSegment b) : IsDottedName (a ++ '.' :: b)
  | cons {a s : List Char} (ha : IsSegment a) (hs : IsDottedName s) : IsDottedName (a ++ '.' :: s)

/-- The characters that are allowed are those of segments, and the dot. -/
theorem isAllowed_iff (c : Char) : isAllowed c = true ↔ IsSegmentChar c ∨ c = '.' := by
  unfold isAllowed IsSegmentChar Char.isAlphanum Char.isAlpha Char.isUpper Char.isLower Char.isDigit
  simp only [Bool.or_eq_true, Bool.and_eq_true, decide_eq_true_eq, ge_iff_le, Char.le_def]
  grind

/-- No segment has a dot. -/
theorem IsSegment.dot_notMem {a : List Char} (ha : IsSegment a) : '.' ∉ a := by
  intro hdot
  have hchar := ha.2 '.' hdot
  revert hchar
  unfold IsSegmentChar
  decide

/-! ### Pieces between dots -/

/-- A text without dots is one piece. -/
theorem segments_of_notMem {a : List Char} (ha : '.' ∉ a) : segments a = [a] := by
  induction a with
  | nil => rfl
  | cons c a ih =>
    rw [List.mem_cons, not_or] at ha
    obtain ⟨hc, hrest⟩ := ha
    rw [segments, if_neg (Ne.symm hc), ih hrest]

/-- The first piece ends at the first dot. -/
theorem segments_append {a : List Char} (ha : '.' ∉ a) (b : List Char) :
    segments (a ++ '.' :: b) = a :: segments b := by
  induction a with
  | nil => rfl
  | cons c a ih =>
    rw [List.mem_cons, not_or] at ha
    obtain ⟨hc, hrest⟩ := ha
    rw [List.cons_append, segments, if_neg (Ne.symm hc), ih hrest]

/-- A text that consists of segments and dots has pieces, the first of which is empty if it begins
    with a dot or is empty itself, and one of the others if it ends with a dot or has two in a
    row. -/
theorem segments_eq_cons (s : List Char) :
    ∃ first others, segments s = first :: others ∧
      (first = [] ↔ s = [] ∨ s.head? = some '.') ∧
      (others.any List.isEmpty = true ↔ s.getLast? = some '.' ∨ ['.', '.'] <:+: s) := by
  induction s with
  | nil => exact ⟨[], [], rfl, by simp, by simp⟩
  | cons c s ih =>
    obtain ⟨first, others, hs, hfirst, hothers⟩ := ih
    by_cases hc : c = '.'
    · -- the pieces of the rest are the others now
      subst hc
      refine ⟨[], first :: others, by rw [segments, if_pos rfl, hs], by simp, ?_⟩
      rw [List.any_cons, Bool.or_eq_true, hothers, List.isEmpty_iff, hfirst, List.infix_cons_iff]
      cases s with
      | nil => simp
      | cons d s =>
        simp only [List.getLast?_cons_cons, List.cons_prefix_cons, List.nil_prefix, List.head?_cons,
          Option.some.injEq, reduceCtorEq, false_or, and_true, true_and, eq_comm (a := d)]
        exact or_left_comm
    · -- the first piece grows, and the others stay
      refine ⟨c :: first, others, by rw [segments, if_neg hc, hs], by simp [hc], ?_⟩
      rw [hothers, List.infix_cons_iff]
      cases s with
      | nil => simp [hc]
      | cons d s => simp [Ne.symm hc]

/-- **Empty pieces.**  A piece is empty exactly if the text is empty, begins or ends with a dot, or
    has two dots in a row. -/
theorem any_isEmpty_segments_iff (s : List Char) :
    (segments s).any List.isEmpty = true ↔
      s = [] ∨ s.head? = some '.' ∨ s.getLast? = some '.' ∨ ['.', '.'] <:+: s := by
  obtain ⟨first, others, hs, hfirst, hothers⟩ := segments_eq_cons s
  rw [hs, List.any_cons, Bool.or_eq_true, hothers, List.isEmpty_iff, hfirst, or_assoc]

/-- A dotted name has a dot, and all its pieces are segments. -/
theorem IsDottedName.segments {s : List Char} (h : IsDottedName s) :
    '.' ∈ s ∧ ∀ a ∈ Identifier.segments s, IsSegment a := by
  induction h with
  | pair ha hb =>
    refine ⟨by simp, ?_⟩
    rw [segments_append ha.dot_notMem, segments_of_notMem hb.dot_notMem]
    simp [ha, hb]
  | cons ha hs ih =>
    refine ⟨by simp, ?_⟩
    rw [segments_append ha.dot_notMem]
    exact List.forall_mem_cons.mpr ⟨ha, ih.2⟩

/-- All characters of a dotted name are allowed. -/
theorem IsDottedName.isAllowed {s : List Char} (h : IsDottedName s) :
    ∀ c ∈ s, isAllowed c = true := by
  have hsegment : ∀ a, IsSegment a → ∀ c ∈ a, Identifier.isAllowed c = true :=
    fun a ha c hc => (isAllowed_iff c).mpr (.inl (ha.2 c hc))
  have hdot : Identifier.isAllowed '.' = true := by decide
  induction h with
  | pair ha hb =>
    rw [List.forall_mem_append, List.forall_mem_cons]
    exact ⟨hsegment _ ha, hdot, hsegment _ hb⟩
  | cons ha hs ih =>
    rw [List.forall_mem_append, List.forall_mem_cons]
    exact ⟨hsegment _ ha, hdot, ih⟩

/-- A text with a dot, over the characters that are allowed and without empty pieces, is a dotted
    name. -/
theorem isDottedName_of_segments {s : List Char} (hdot : '.' ∈ s)
    (hall : ∀ c ∈ s, isAllowed c = true) (hne : (segments s).any List.isEmpty = false) :
    IsDottedName s := by
  -- on the length of the text, which is cut at its first dot
  induction hn : s.length using Nat.strongRecOn generalizing s with
  | ind n ih =>
    obtain ⟨a, b, rfl, ha⟩ := List.eq_append_cons_of_mem hdot
    rw [segments_append ha, List.any_cons, Bool.or_eq_false_iff] at hne
    rw [List.forall_mem_append, List.forall_mem_cons] at hall
    have hsegment : ∀ x : List Char, '.' ∉ x → (∀ c ∈ x, isAllowed c = true) →
        x.isEmpty = false → IsSegment x := by
      intro x hx hallowed hempty
      refine ⟨by simpa using hempty, ?_⟩
      intro c hc
      rcases (isAllowed_iff c).mp (hallowed c hc) with h | rfl
      · exact h
      · exact absurd hc hx
    have hfirst : IsSegment a := hsegment a ha hall.1 hne.1
    by_cases hb : '.' ∈ b
    · refine .cons hfirst (ih b.length ?_ hb hall.2.2 hne.2 rfl)
      rw [← hn, List.length_append, List.length_cons]
      omega
    · refine .pair hfirst (hsegment b hb hall.2.2 ?_)
      simpa [segments_of_notMem hb] using hne.2

/-- **Dotted names.**  Over the characters that are allowed, the check of the pieces accepts the
    dotted names. -/
theorem isDotted_iff {s : List Char} (hall : ∀ c ∈ s, isAllowed c = true) :
    isDotted s = true ↔ IsDottedName s := by
  rw [isDotted, Bool.and_eq_true, List.contains_iff_mem, Bool.not_eq_true']
  constructor
  · rintro ⟨hdot, hne⟩
    exact isDottedName_of_segments hdot hall hne
  · intro h
    obtain ⟨hdot, hsegments⟩ := h.segments
    refine ⟨hdot, List.any_eq_false.mpr fun a ha => ?_⟩
    simpa using (hsegments a ha).1

/-! ### The check -/

/-- Why a text is refused: it is empty; it is too long, whatever its characters are; it is not, and
    has a character that is not allowed, of which the first is told; or it is not and has none, and
    has no dot, begins or ends with one, or has two in a row. -/
inductive Refused (text : String) : IdentifierError → Prop
  | empty (htext : text = "") : Refused text .empty
  | tooLong (hlength : 255 < text.utf8ByteSize) : Refused text (.tooLong text.utf8ByteSize)
  | invalidCharacter (pre post : List Char) (c : Char) (hlength : text.utf8ByteSize ≤ 255)
      (htext : text.toList = pre ++ c :: post) (hpre : ∀ x ∈ pre, IsSegmentChar x ∨ x = '.')
      (hc : ¬ (IsSegmentChar c ∨ c = '.')) : Refused text (.invalidCharacter text c)
  | malformed (htext : text ≠ "") (hlength : text.utf8ByteSize ≤ 255)
      (hall : ∀ x ∈ text.toList, IsSegmentChar x ∨ x = '.')
      (hform : '.' ∉ text.toList ∨ text.toList.head? = some '.' ∨
        text.toList.getLast? = some '.' ∨ ['.', '.'] <:+: text.toList) :
      Refused text (.malformed text)

/-- A short text with a character that is not allowed is refused for the first one. -/
theorem check_of_find?_some {text : String} (htext : text ≠ "") (hlength : text.utf8ByteSize ≤ 255)
    {c : Char} (hfind : (text.toList.find? fun c => !isAllowed c) = some c) :
    check text = .error (.invalidCharacter text c) := by
  have hshort : ¬ maxLength < text.utf8ByteSize := Nat.not_lt.mpr hlength
  rw [check, String.isEmpty_eq_false_iff.mpr htext, if_neg Bool.false_ne_true, if_neg hshort, hfind]

/-- A short text over the characters that are allowed is left to the check of its pieces. -/
theorem check_of_isAllowed {text : String} (htext : text ≠ "") (hlength : text.utf8ByteSize ≤ 255)
    (hall : ∀ c ∈ text.toList, isAllowed c = true) :
    check text = if isDotted text.toList then .ok () else .error (.malformed text) := by
  have hshort : ¬ maxLength < text.utf8ByteSize := Nat.not_lt.mpr hlength
  have hfind : (text.toList.find? fun c => !isAllowed c) = none := by
    rw [List.find?_eq_none]
    intro c hc
    simpa using hall c hc
  rw [check, String.isEmpty_eq_false_iff.mpr htext, if_neg Bool.false_ne_true, if_neg hshort, hfind]

/-- A text passes the check if it is short enough and a dotted name. -/
theorem check_of_isDottedName {text : String} (hlength : text.utf8ByteSize ≤ 255)
    (h : IsDottedName text.toList) : check text = .ok () := by
  have htext : text ≠ "" := by
    rintro rfl
    exact absurd h.segments.1 (by simp)
  rw [check_of_isAllowed htext hlength h.isAllowed, if_pos ((isDotted_iff h.isAllowed).mpr h)]

/-- A text that there is a reason to refuse fails the check for that reason. -/
theorem Refused.check {text : String} {e : IdentifierError} (h : Refused text e) :
    check text = .error e := by
  cases h with
  | empty htext =>
    subst htext
    rfl
  | tooLong hlength =>
    have hne : text.isEmpty = false := by
      rw [String.isEmpty_eq_false_iff]
      rintro rfl
      exact absurd hlength (by decide)
    rw [Identifier.check, hne, if_neg Bool.false_ne_true]
    exact if_pos hlength
  | invalidCharacter pre post c hlength htext hpre hc =>
    have hne : text ≠ "" := by
      rintro rfl
      simp at htext
    refine check_of_find?_some hne hlength (List.find?_eq_some_iff_append.mpr ?_)
    refine ⟨?_, pre, post, htext, ?_⟩
    · rw [Bool.not_eq_true', ← Bool.not_eq_true, isAllowed_iff]
      exact hc
    · intro x hx
      rw [Bool.not_not]
      exact (isAllowed_iff x).mpr (hpre x hx)
  | malformed htext hlength hall hform =>
    have hdotted : isDotted text.toList = false := by
      rw [isDotted, Bool.and_eq_false_iff, Bool.not_eq_false', any_isEmpty_segments_iff]
      rcases hform with hdot | hform
      · exact .inl (by simpa using hdot)
      · exact .inr (.inr hform)
    rw [check_of_isAllowed htext hlength fun c hc => (isAllowed_iff c).mpr (hall c hc), hdotted,
      if_neg Bool.false_ne_true]

/-- Every text is short enough and a dotted name, or there is a reason to refuse it. -/
theorem isDottedName_or_refused (text : String) :
    (text.utf8ByteSize ≤ 255 ∧ IsDottedName text.toList) ∨ ∃ e, Refused text e := by
  by_cases htext : text = ""
  · exact .inr ⟨_, .empty htext⟩
  by_cases hlong : 255 < text.utf8ByteSize
  · exact .inr ⟨_, .tooLong hlong⟩
  have hlength : text.utf8ByteSize ≤ 255 := Nat.not_lt.mp hlong
  cases hfind : text.toList.find? fun c => !isAllowed c with
  | some c =>
    obtain ⟨hc, pre, post, heq, hpre⟩ := List.find?_eq_some_iff_append.mp hfind
    refine .inr ⟨_, .invalidCharacter pre post c hlength heq ?_ ?_⟩
    · intro x hx
      exact (isAllowed_iff x).mp (by simpa using hpre x hx)
    · rw [← isAllowed_iff]
      simpa using hc
  | none =>
    have hallowed : ∀ c ∈ text.toList, isAllowed c = true := by
      intro c hc
      simpa using List.find?_eq_none.mp hfind c hc
    by_cases hdotted : IsDottedName text.toList
    · exact .inl ⟨hlength, hdotted⟩
    refine .inr ⟨_, .malformed htext hlength (fun c hc => (isAllowed_iff c).mp (hallowed c hc)) ?_⟩
    by_cases hdot : '.' ∈ text.toList
    · -- there is a dot, so a piece must be empty, and the text is not
      have hempty : (segments text.toList).any List.isEmpty = true := by
        rw [← Bool.not_eq_false]
        exact fun hne => hdotted (isDottedName_of_segments hdot hallowed hne)
      rcases (any_isEmpty_segments_iff _).mp hempty with hnil | hform
      · exact absurd (String.toList_eq_nil_iff.mp hnil) htext
      · exact .inr hform
    · exact .inl hdot

/-- **The check** passes the dotted names that are short enough. -/
theorem check_eq_ok_iff (text : String) :
    check text = .ok () ↔ text.utf8ByteSize ≤ 255 ∧ IsDottedName text.toList := by
  constructor
  · intro h
    rcases isDottedName_or_refused text with hname | ⟨e, hrefused⟩
    · exact hname
    · rw [hrefused.check] at h
      cases h
  · rintro ⟨hlength, hname⟩
    exact check_of_isDottedName hlength hname

/-- It refuses every other text for the one reason that there is. -/
theorem check_eq_error_iff (text : String) (e : IdentifierError) :
    check text = .error e ↔ Refused text e := by
  constructor
  · intro h
    rcases isDottedName_or_refused text with ⟨hlength, hname⟩ | ⟨e', hrefused⟩
    · rw [check_of_isDottedName hlength hname] at h
      cases h
    · have heq := h.symm.trans hrefused.check
      rwa [Except.error.inj heq]
  · exact Refused.check

/-! ### Identifiers -/

/-- A text spells an identifier exactly if it passes the check. -/
theorem exists_ofString?_iff (text : String) :
    (∃ i, ofString? text = .ok i) ↔ check text = .ok () := by
  constructor
  · rintro ⟨i, hi⟩
    rw [← text_of_ofString? hi]
    exact i.checked
  · intro h
    exact ⟨⟨text, h⟩, ofString?_text ⟨text, h⟩⟩

/-- A text spells no identifier for the reason that it fails the check for. -/
theorem ofString?_eq_error_iff (text : String) (e : IdentifierError) :
    ofString? text = .error e ↔ check text = .error e := by
  unfold ofString?
  split
  · rename_i h
    simp [h]
  · rename_i e' h
    simp [h]

/-! ### Identifiers in JSON -/

/-- In JSON no character of an identifier needs an escape. -/
theorem escapeJson_of_isAllowed {c : Char} (h : isAllowed c = true) :
    Document.escapeJson c = c.toString := by
  have hplain : ∀ d : Char, isAllowed d = false → c ≠ d := by
    rintro d hd rfl
    rw [h] at hd
    cases hd
  have hprintable : ¬ c.toNat < 0x20 := by
    intro hcontrol
    have hall : ∀ n < 0x20, isAllowed (Char.ofNat n) = false := by decide
    rw [← Char.ofNat_toNat c, hall c.toNat hcontrol] at h
    cases h
  unfold Document.escapeJson
  split
  · exact absurd rfl (hplain '"' (by decide))
  · exact absurd rfl (hplain '\\' (by decide))
  · exact absurd rfl (hplain '\n' (by decide))
  · exact absurd rfl (hplain '\r' (by decide))
  · exact absurd rfl (hplain '\t' (by decide))
  · exact if_neg hprintable

/-- A text over the characters that are allowed stands in JSON as it is. -/
theorem foldl_escapeJson {s : List Char} (h : ∀ c ∈ s, isAllowed c = true) (out : String) :
    s.foldl (fun out c => out ++ Document.escapeJson c) out = out ++ String.ofList s := by
  induction s generalizing out with
  | nil => simp
  | cons c s ih =>
    rw [List.forall_mem_cons] at h
    rw [List.foldl_cons, ih h.2, escapeJson_of_isAllowed h.1, String.append_assoc]
    rw [← String.toList_inj]
    simp

/-- An identifier is written in JSON as its text between quotes. -/
theorem toJson_encode (i : Identifier) : i.encode.toJson = "\"" ++ i.text ++ "\"" := by
  have hallowed := ((check_eq_ok_iff i.text).mp i.checked).2.isAllowed
  show Document.writeString "" i.text = _
  rw [Document.writeString, String.foldl_eq_foldl_toList, foldl_escapeJson hallowed,
    String.ofList_toList, String.empty_append]

/-! ### The account -/

/-- **The grammar of identifiers.**  A text spells an identifier exactly if it has at most 255 bytes
    and is a dotted name.  The identifier then is that text: as text, when it is shown, and in JSON.
    Every other text is refused for the one reason that there is: it is empty; else it is too long;
    else it has a character that is not allowed, of which the first is told; else it has no dot,
    begins or ends with one, or has two in a row.  Documents and command lines take and refuse the
    same texts, for the same reasons. -/
theorem identifier_grammar (text : String) :
    ((∃ i, ofString? text = .ok i) ↔ text.utf8ByteSize ≤ 255 ∧ IsDottedName text.toList) ∧
    (∀ i, ofString? text = .ok i →
      i.text = text ∧ toString i = text ∧ i.encode = .string text ∧
      i.encode.toJson = "\"" ++ text ++ "\"") ∧
    (∀ e, ofString? text = .error e ↔ Refused text e) ∧
    (∀ source,
      decode source (.string text) = (ofString? text).mapError fun e => .rejected e.message) ∧
    (∀ p : Progress,
      p.assign .identifier text =
        if p.isSet .identifier then .error (.repeatedSetting .identifier)
        else
          ((ofString? text).map fun i =>
            ⟨{ p.arguments with identifier := some i }, .nothing⟩).mapError
              (.badIdentifier text)) := by
  refine ⟨?_, ?_, ?_, ?_, ?_⟩
  · rw [exists_ofString?_iff, check_eq_ok_iff]
  · intro i hi
    obtain rfl := text_of_ofString? hi
    exact ⟨rfl, rfl, rfl, toJson_encode i⟩
  · intro e
    rw [ofString?_eq_error_iff, check_eq_error_iff]
  · intro source
    rw [decode, (Decode.text_eq_ok_iff text).mpr rfl]
    simp only [bind, Except.bind]
    cases ofString? text <;> rfl
  · intro p
    rw [Progress.assign]
    cases p.isSet .identifier with
    | true => rfl
    | false => cases ofString? text <;> rfl

end Identifier
end DriverExtension
