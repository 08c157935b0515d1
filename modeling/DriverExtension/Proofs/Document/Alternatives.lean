import DriverExtension.Event
import DriverExtension.Proofs.Document.Records

namespace DriverExtension

/-!
# Reading scalars and alternatives

Which documents are read as which scalar, and which spell an alternative.

* `Decode.text_eq_ok_iff`, `Decode.word64_eq_ok_iff`, `Decode.integer64_eq_ok_iff`,
  `Decode.path?_eq_ok_iff` — a scalar is read from the one document that writes it;
* `Document.Spells` — the spellings of an alternative without payload;
* `Variants.read_eq_ok_iff` — what alternatives are read from;
* `RequestKind.decode_eq_ok_iff`, `ReplacementAction.decode_eq_ok_iff`,
  `Completion.decode_eq_ok_iff` — the spellings of directions, answers and results.
-/

/-! ### Scalars -/

namespace Decode

variable {source : Source} {d : Document}

/-- A text is read from a string. -/
theorem text_eq_ok_iff (s : String) : text source d = .ok s ↔ d = .string s := by
  unfold text
  split
  · simp
  · rename_i hne
    exact iff_of_false (mistyped_ne_ok _ _ _ _) (hne s)

/-- A word is read from the integer that it is. -/
theorem word64_eq_ok_iff (w : UInt64) : word64 source d = .ok w ↔ d = .int w.toNat := by
  unfold word64
  split
  · rename_i n
    have hlt := w.toNat_lt
    split
    · rename_i hrange
      simp only [Except.ok.injEq, Document.int.injEq]
      constructor
      · rintro rfl
        rw [UInt64.toNat_ofNat_of_lt' (by simp [UInt64.size]; omega)]
        omega
      · rintro rfl
        simp
    · rename_i hrange
      simp only [reduceCtorEq, Document.int.injEq, false_iff]
      omega
  · rename_i hne
    exact iff_of_false (mistyped_ne_ok _ _ _ _) (hne _)

/-- A signed word is read from the integer that it is. -/
theorem integer64_eq_ok_iff (w : Int64) : integer64 source d = .ok w ↔ d = .int w.toInt := by
  unfold integer64
  split
  · rename_i n
    have hlow := w.le_toInt
    have hhigh := w.toInt_lt
    split
    · rename_i hrange
      simp only [Except.ok.injEq, Document.int.injEq]
      constructor
      · rintro rfl
        rw [Int64.toInt_ofInt_of_le] <;> omega
      · rintro rfl
        simp
    · rename_i hrange
      simp only [reduceCtorEq, Document.int.injEq, false_iff]
      omega
  · rename_i hne
    exact iff_of_false (mistyped_ne_ok _ _ _ _) (hne _)

/-- A path is read from the document that writes it. -/
theorem path?_eq_ok_iff (path : Option String) :
    path? source d = .ok path ↔ d = Bundle.encodePath path := by
  unfold path?
  split
  · cases path <;> simp [Bundle.encodePath]
  · cases path <;> simp [Bundle.encodePath]
  · rename_i hnull hstring
    refine iff_of_false (mistyped_ne_ok _ _ _ _) ?_
    cases path with
    | none => exact hnull
    | some s => exact hstring s

end Decode

/-- A number of a request is read from the document that writes it. -/
theorem RequestId.decode_eq_ok_iff (source : Source) (d : Document) (id : RequestId) :
    decode source d = .ok id ↔ d = id.encode := by
  rw [decode, bind_eq_ok_iff]
  constructor
  · rintro ⟨w, hw, hid⟩
    obtain rfl : (⟨w⟩ : RequestId) = id := Except.ok.inj hid
    exact (Decode.word64_eq_ok_iff w).mp hw
  · intro hd
    exact ⟨id.val, (Decode.word64_eq_ok_iff id.val).mpr hd, rfl⟩

/-- An identifier is read from its text. -/
theorem Identifier.decode_eq_ok_iff (source : Source) (d : Document) (i : Identifier) :
    decode source d = .ok i ↔ d = i.encode := by
  rw [decode, bind_eq_ok_iff]
  constructor
  · rintro ⟨s, hs, hi⟩
    have hd := (Decode.text_eq_ok_iff s).mp hs
    split at hi
    · rename_i j hj
      obtain rfl := Except.ok.inj hi
      rw [hd, encode, text_of_ofString? hj]
    · cases hi
  · intro hd
    refine ⟨i.text, (Decode.text_eq_ok_iff i.text).mpr hd, ?_⟩
    rw [ofString?_text]
    rfl

/-! ### Alternatives -/

/-- The spellings of an alternative without payload: its name, or an object that holds nothing
    behind its name.  In a part that was set aside an empty object counts as nothing too. -/
def Document.Spells (source : Source) (name : String) (d : Document) : Prop :=
  d = .string name ∨ d = .object [(name, .null)] ∨
    (source = .buffer ∧ d = .object [(name, .object [])])

namespace Variants

variable {α : Type} {variants : Variants α} {source : Source}

/-- The name of an alternative without payload is read as that alternative. -/
theorem read_string (source : Source) (name : String) (a : α)
    (h : variants.lookup name = some (.none a)) : variants.read source (.string name) = .ok a := by
  have hbare : variants.bare source name = .ok a := by
    rw [bare, find, h]
    rfl
  cases source <;> exact hbare

/-- A payload behind its name is read by the decoder of that name. -/
theorem read_payload (source : Source) (name : String) (d : Document)
    (decode : Document → Decoded α) (a : α) (hkey : d.isBadKey = false)
    (h : variants.lookup name = some (.one decode)) (hd : decode d = .ok a) :
    variants.read source (.object [(name, d)]) = .ok a := by
  have hfull : variants.full source name d = .ok a := by
    rw [full, bind_eq_ok_iff]
    refine ⟨.one decode, ?_, ?_⟩
    · rw [Source.within_eq_ok_iff, find, h]
    · simp only [Source.within_eq_ok_iff, hd]
  cases d with
  | badKey key value => cases hkey
  | _ => cases source <;> exact hfull

/-- What counts as nothing behind a name. -/
theorem checkEmpty_eq_ok_iff (hsource : source = .value ∨ source = .buffer) (d : Document) :
    checkEmpty source d = .ok () ↔ d = .null ∨ (source = .buffer ∧ d = .object []) := by
  rcases hsource with rfl | rfl
  · cases d with
    | null => simp [checkEmpty]
    | _ => exact iff_of_false (Decode.mistyped_ne_ok _ _ _ _) (by simp)
  · cases d with
    | null => simp [checkEmpty]
    | object ms =>
      cases ms with
      | nil => simp [checkEmpty]
      | cons m rest => exact iff_of_false (Decode.mistyped_ne_ok _ _ _ _) (by simp)
    | _ => exact iff_of_false (Decode.mistyped_ne_ok _ _ _ _) (by simp)

/-- A bare name is read as an alternative without payload. -/
theorem bare_eq_ok_iff (name : String) (a : α) :
    variants.bare source name = .ok a ↔ variants.lookup name = some (.none a) := by
  unfold bare find
  cases variants.lookup name with
  | none => simp [bind, Except.bind]
  | some payload =>
    cases payload <;> simp [bind, Except.bind, pure, Except.pure, throw, throwThe,
      MonadExceptOf.throw]

/-- A name is read with what follows it: nothing, or a payload that its decoder reads. -/
theorem full_eq_ok_iff (hsource : source = .value ∨ source = .buffer) (name : String)
    (e : Document) (a : α) :
    variants.full source name e = .ok a ↔
      (variants.lookup name = some (.none a) ∧
        (e = .null ∨ (source = .buffer ∧ e = .object []))) ∨
      ∃ decode, variants.lookup name = some (.one decode) ∧ decode e = .ok a := by
  have hfind (payload : Payload α) : source.within .alternative (variants.find name) = .ok payload ↔
      variants.lookup name = some payload := by
    rw [Source.within_eq_ok_iff, find]
    cases variants.lookup name <;> simp
  simp only [full, bind_eq_ok_iff, hfind]
  cases hlookup : variants.lookup name with
  | none => simp
  | some payload =>
    cases payload with
    | none value =>
      simp [bind_unit_eq_ok_iff, Source.within_eq_ok_iff, checkEmpty_eq_ok_iff hsource,
        pure, Except.pure, and_comm]
    | one decode => simp [Source.within_eq_ok_iff]

/-- **Alternatives** are read from a name without payload, or from an object of one member that is
    the name with its payload. -/
theorem read_eq_ok_iff (hsource : source = .value ∨ source = .buffer) (d : Document) (a : α) :
    variants.read source d = .ok a ↔
      (∃ name, variants.lookup name = some (.none a) ∧ d.Spells source name) ∨
      ∃ name decode e, variants.lookup name = some (.one decode) ∧ d = .object [(name, e)] ∧
        decode e = .ok a := by
  have hread_string (name : String) :
      variants.read source (.string name) = variants.bare source name := by
    rcases hsource with rfl | rfl <;> rfl
  have hread_object (name : String) (e : Document) :
      variants.read source (.object [(name, e)]) = variants.full source name e := by
    rcases hsource with rfl | rfl <;> cases e <;> rfl
  -- nothing but a name or an object of one member is an alternative
  have hother (h : variants.read source d = .ok a) :
      (∃ name, d = .string name) ∨ ∃ name e, d = .object [(name, e)] := by
    rcases hsource with rfl | rfl <;> cases d with
    | string name => exact .inl ⟨name, rfl⟩
    | object ms =>
      cases ms with
      | nil => simp [read] at h
      | cons m rest =>
        cases rest with
        | nil => exact .inr ⟨m.1, m.2, rfl⟩
        | cons m' rest => simp [read] at h
    | _ => exact absurd h (Decode.mistyped_ne_ok _ _ _ _)
  constructor
  · intro h
    obtain ⟨name, rfl⟩ | ⟨name, e, rfl⟩ := hother h
    · rw [hread_string, bare_eq_ok_iff] at h
      exact .inl ⟨name, h, .inl rfl⟩
    · rw [hread_object, full_eq_ok_iff hsource] at h
      obtain ⟨hlookup, rfl | ⟨hbuffer, rfl⟩⟩ | ⟨decode, hlookup, he⟩ := h
      · exact .inl ⟨name, hlookup, .inr (.inl rfl)⟩
      · exact .inl ⟨name, hlookup, .inr (.inr ⟨hbuffer, rfl⟩)⟩
      · exact .inr ⟨name, decode, e, hlookup, rfl, he⟩
  · rintro (⟨name, hlookup, rfl | rfl | ⟨hbuffer, rfl⟩⟩ | ⟨name, decode, e, hlookup, rfl, he⟩)
    · rwa [hread_string, bare_eq_ok_iff]
    · rw [hread_object, full_eq_ok_iff hsource]
      exact .inl ⟨hlookup, .inl rfl⟩
    · rw [hread_object, full_eq_ok_iff hsource]
      exact .inl ⟨hlookup, .inr ⟨hbuffer, rfl⟩⟩
    · rw [hread_object, full_eq_ok_iff hsource]
      exact .inr ⟨decode, hlookup, he⟩

/-- Alternatives that are all without payload, each under its own name. -/
theorem read_named_eq_ok_iff (hsource : source = .value ∨ source = .buffer) (all : List α)
    (nameOf : α → String) (hnodup : (all.map nameOf).Nodup) (hall : ∀ a, a ∈ all) (d : Document)
    (a : α) :
    read source (all.map fun a => (nameOf a, .none a)) d = .ok a ↔ d.Spells source (nameOf a) := by
  have hnames : ((all.map fun a => (nameOf a, Payload.none a)).map Prod.fst).Nodup := by
    simpa [Function.comp_def] using hnodup
  have hlookup (name : String) (payload : Payload α) :
      (all.map fun a => (nameOf a, Payload.none a)).lookup name = some payload ↔
        ∃ a, nameOf a = name ∧ Payload.none a = payload := by
    rw [Document.lookup_eq_some_iff_mem hnames]
    simp [hall]
  rw [read_eq_ok_iff hsource]
  simp [hlookup]

end Variants

/-! ### The alternatives of the domain -/

section Spellings

variable {source : Source} (hsource : source = .value ∨ source = .buffer) (d : Document)

include hsource

/-- A direction is read from the spellings of its name. -/
theorem RequestKind.decode_eq_ok_iff (k : RequestKind) :
    decode source d = .ok k ↔ d.Spells source k.name :=
  Variants.read_named_eq_ok_iff hsource [RequestKind.activate, .deactivate] RequestKind.name
    (by decide) (fun k => by cases k <;> simp) d k

/-- An answer is read from the spellings of its name. -/
theorem ReplacementAction.decode_eq_ok_iff (a : ReplacementAction) :
    decode source d = .ok a ↔ d.Spells source a.name :=
  Variants.read_named_eq_ok_iff hsource [ReplacementAction.replace, .cancel] ReplacementAction.name
    (by decide) (fun a => by cases a <;> simp) d a

/-- A result is read from the spellings of its name, or from its code behind the name of the results
    without a name. -/
theorem Completion.decode_eq_ok_iff (result : Completion) :
    decode source d = .ok result ↔
      match result with
      | .completed => d.Spells source "Completed"
      | .afterReboot => d.Spells source "WillCompleteAfterReboot"
      | .other code => d = .object [("Other", .int code.toInt)] := by
  have hlookup (name : String) (payload : Payload Completion) :
      (variants source).lookup name = some payload ↔ (name, payload) ∈ variants source :=
    Document.lookup_eq_some_iff_mem (by simp [variants]) name payload
  rw [decode, Variants.read_eq_ok_iff hsource]
  constructor
  · rintro (⟨name, hname, hspells⟩ | ⟨name, read, e, hname, rfl, he⟩)
    · obtain ⟨rfl, rfl⟩ | ⟨rfl, rfl⟩ : (name = "Completed" ∧ result = .completed) ∨
          (name = "WillCompleteAfterReboot" ∧ result = .afterReboot) := by
        simpa [variants] using (hlookup _ _).mp hname
      · exact hspells
      · exact hspells
    · obtain ⟨rfl, rfl⟩ : name = "Other" ∧ read = fun d => do
          return .other (← Decode.integer64 source d) := by
        simpa [variants] using (hlookup _ _).mp hname
      obtain ⟨code, hcode, hresult⟩ := (bind_eq_ok_iff _ _ _).mp he
      obtain rfl : Completion.other code = result := Except.ok.inj hresult
      rw [(Decode.integer64_eq_ok_iff code).mp hcode]
  · intro h
    cases result with
    | completed => exact .inl ⟨"Completed", rfl, h⟩
    | afterReboot => exact .inl ⟨"WillCompleteAfterReboot", rfl, h⟩
    | other code =>
      refine .inr ⟨"Other", _, .int code.toInt, rfl, h, ?_⟩
      rw [(Decode.integer64_eq_ok_iff code).mpr rfl]
      rfl

end Spellings

end DriverExtension
