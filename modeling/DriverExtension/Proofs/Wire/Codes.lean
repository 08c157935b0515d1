import DriverExtension.Proofs.Codes
import DriverExtension.Proofs.Document.Written
import DriverExtension.Proofs.Wire.RoundTrip

namespace DriverExtension

open Document (isPlain)

/-!
# Codes in written events

An event is written as one line of text and read back from it as it was, so the raw code of a result
reaches the other side of the wire, whatever it is and whether it has a name or not.

* `Event.isPlain_encode` — nothing in a written event is lost in its text;
* `Event.ofJson_toJson`, `Event.decode_text` — an event is read back from its text;
* `codes_kept` — results and failures keep their codes, on the wire and in what they are shown as.
-/

/-! ### Events in texts -/

/-- A code fits in what a reader takes for an integer. -/
theorem Document.isPlain_code (w : Int64) : isPlain (.int w.toInt) = true := by
  have hlow := w.le_toInt
  have hhigh := w.toInt_lt
  simp only [isPlain, Bool.and_eq_true, decide_eq_true_eq]
  omega

/-- So does the number of a request. -/
theorem RequestId.isPlain_encode (id : RequestId) : id.encode.isPlain = true := by
  have hhigh := id.val.toNat_lt
  simp only [encode, isPlain, Bool.and_eq_true, decide_eq_true_eq]
  omega

/-- A path is a text or nothing. -/
theorem Bundle.isPlain_encodePath (path : Option String) : (encodePath path).isPlain = true := by
  cases path <;> rfl

/-- An object is plain if its members are. -/
theorem Document.isPlain_object_iff (ms : List (String × Document)) :
    (object ms).isPlain = true ↔ ∀ m ∈ ms, m.2.isPlain = true := by
  rw [isPlain]
  induction ms with
  | nil => exact iff_of_true rfl (List.forall_mem_nil _)
  | cons m ms ih => rw [isPlainMembers, Bool.and_eq_true, ih, List.forall_mem_cons]

theorem Request.isPlain_encode (r : Request) : r.encode.isPlain = true := by
  rw [encode, Document.isPlain_object_iff]
  simp only [List.forall_mem_cons]
  exact ⟨r.id.isPlain_encode, rfl, rfl, List.forall_mem_nil _⟩

theorem Bundle.isPlain_encode (b : Bundle) : b.encode.isPlain = true := by
  rw [encode, Document.isPlain_object_iff]
  simp only [List.forall_mem_cons]
  exact ⟨rfl, rfl, rfl, isPlain_encodePath b.path, List.forall_mem_nil _⟩

theorem Completion.isPlain_encode (c : Completion) : c.encode.isPlain = true := by
  cases c with
  | completed => rfl
  | afterReboot => rfl
  | other code =>
    rw [encode, Document.isPlain_object_iff, List.forall_mem_singleton]
    exact Document.isPlain_code code

theorem Failure.isPlain_encode (f : Failure) : f.encode.isPlain = true := by
  rw [encode, Document.isPlain_object_iff]
  simp only [List.forall_mem_cons]
  exact ⟨rfl, Document.isPlain_code f.code, rfl, List.forall_mem_nil _⟩

/-- **Written events** are plain, whatever texts and codes they hold. -/
theorem Event.isPlain_encode (e : Event) : e.encode.isPlain = true := by
  rw [encode, Document.isPlain_object_iff, List.forall_mem_cons]
  refine ⟨rfl, ?_⟩
  cases e with
  | replacementNeeded r existing replacement action =>
    simp only [payload, List.forall_mem_cons]
    exact ⟨r.isPlain_encode, existing.isPlain_encode, replacement.isPlain_encode, rfl,
      List.forall_mem_nil _⟩
  | approvalNeeded r =>
    simp only [payload, List.forall_mem_cons]
    exact ⟨r.isPlain_encode, List.forall_mem_nil _⟩
  | finished r result =>
    simp only [payload, List.forall_mem_cons]
    exact ⟨r.isPlain_encode, result.isPlain_encode, List.forall_mem_nil _⟩
  | failed r failure =>
    simp only [payload, List.forall_mem_cons]
    exact ⟨r.isPlain_encode, failure.isPlain_encode, List.forall_mem_nil _⟩

/-- The text of an event is read to its end as the document that was written. -/
theorem Event.ofJson_toJson (e : Event) : Document.ofJson e.encode.toJson = (e.encode, true) :=
  Document.ofJson_toJson e.isPlain_encode

/-- **Texts.**  An event is read back from its text. -/
theorem Event.decode_text (e : Event) :
    decode .text (Document.ofJson e.encode.toJson).1 = .ok e := by
  rw [e.ofJson_toJson]
  exact e.decode_encode Document.reorders_id .text

/-! ### Codes -/

/-- **Codes are kept.**  A result gives back the raw code that it was made from, also after it has
    been written in an event and read again, from a value or from a text; and it is made from its raw
    code unless it hides one of the two codes that have names.  Failures of one domain have the same
    kind, and already the same label, exactly if they have the same code; and the label is one of the
    thirteen names exactly for the codes `1` to `13` of the system's domain. -/
theorem codes_kept :
    (∀ n, (Completion.ofRaw n).raw = n) ∧
    (∀ n r, ∃ c, c.raw = n ∧
      Event.decode .value (Event.finished r (.ofRaw n)).encode.sorted = .ok (.finished r c) ∧
      (Document.ofJson (Event.finished r (.ofRaw n)).encode.toJson).2 = true ∧
      Event.decode .text (Document.ofJson (Event.finished r (.ofRaw n)).encode.toJson).1
        = .ok (.finished r c)) ∧
    (∀ c, Completion.ofRaw c.raw = c ↔ c ≠ .other 0 ∧ c ≠ .other 1) ∧
    (∀ domain code code' description description',
      ((Failure.mk domain code description).kind = (Failure.mk domain code' description').kind ↔
        code = code') ∧
      (toString (Failure.mk domain code description).kind
          = toString (Failure.mk domain code' description').kind ↔ code = code')) ∧
    (FailureKind.names.length = 13 ∧ FailureKind.names.Nodup) ∧
    (∀ f : Failure, toString f.kind ∈ FailureKind.names ↔
      f.domain = "OSSystemExtensionErrorDomain" ∧ 1 ≤ f.code.toInt ∧ f.code.toInt ≤ 13) := by
  refine ⟨Completion.raw_ofRaw, ?_, Completion.ofRaw_raw_iff, ?_, FailureKind.names_distinct,
    Failure.label_mem_names_iff⟩
  · intro n r
    -- the result that is read back is the one that was written, so it has the same raw code
    let e := Event.finished r (.ofRaw n)
    refine ⟨.ofRaw n, Completion.raw_ofRaw n, ?_, ?_, e.decode_text⟩
    · exact e.decode_encode Document.reorders_sorted .value
    · rw [e.ofJson_toJson]
  · intro domain code code' description description'
    have hkind (h : code = code') : (Failure.mk domain code description).kind
        = (Failure.mk domain code' description').kind := by
      subst h
      rfl
    exact ⟨⟨fun h => Failure.code_eq_of_kind_eq h, hkind⟩,
      ⟨fun h => Failure.code_eq_of_label_eq h, fun h => congrArg toString (hkind h)⟩⟩

end DriverExtension
