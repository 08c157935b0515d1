import DriverExtension.Proofs.Wire.Events

namespace DriverExtension

open Document (Members Neat Once Reordered Reorders)
open Found.Members (get getD)

/-!
# Round trips

Whatever is written can be read back, from a value or from a text and in whatever order its members
are written.

* `Document.Written` — how an object is written: its members in some order, all of them neat;
* `Request.decode_encode`, `Event.decode_encode`, `Settings.decode_encode`, … — one for each type;
* `RoundTrips` — decoding inverts encoding, so encoding picks one spelling for each value;
* `wire_round_trips` — this holds of every type that is written.
-/

/-! ### Written objects -/

namespace Document

variable {f : Document → Document} {ms ms' : Members} {n : Nat}

/-- A written text is neat. -/
theorem Reorders.neat_string (hf : Reorders f) (n : Nat) (s : String) : Neat n (f (.string s)) := by
  rw [hf.string]
  exact ⟨rfl, Nat.zero_le n⟩

/-- A written integer is neat. -/
theorem Reorders.neat_int (hf : Reorders f) (n : Nat) (i : Int) : Neat n (f (.int i)) := by
  rw [hf.int]
  exact ⟨rfl, Nat.zero_le n⟩

/-- A written path is neat. -/
theorem Reorders.neat_path (hf : Reorders f) (n : Nat) (path : Option String) :
    Neat n (f (Bundle.encodePath path)) := by
  cases path with
  | some s => exact hf.neat_string n s
  | none =>
    rw [Bundle.encodePath, hf.null]
    exact ⟨rfl, Nat.zero_le n⟩

/-- How the object of the members `ms` is written: with the members in some order, each neat within
    `n` levels. -/
structure Written (f : Document → Document) (n : Nat) (ms ms' : Members) : Prop where
  eq : f (.object ms) = .object ms'
  reordered : Reordered f ms ms'
  neat : Neat (n + 1) (.object ms')

/-- An object with distinct names and neat members is written so. -/
theorem Reorders.written (hf : Reorders f) (hnodup : (ms.map Prod.fst).Nodup)
    (hneat : ∀ m ∈ ms, Neat n (f m.2)) : ∃ ms', Written f n ms ms' := by
  obtain ⟨ms', heq, h⟩ := hf.exists_reordered ms hnodup
  exact ⟨ms', heq, h, h.neat hneat⟩

namespace Written

variable {α : Type} {name : String} {decode : Document → Decoded α} {d : Document} {a : α}

/-- The whole object is neat. -/
theorem neat_object (h : Written f n ms ms') : Neat (n + 1) (f (.object ms)) := h.eq ▸ h.neat

/-- The object has a form that fits. -/
theorem fits (h : Written f n ms ms') (shape : Shape) : shape.Fits ms' :=
  (Shape.fits_iff_of_sound shape ms' h.neat.sound).mpr (Once.of_nodup _ h.reordered.nodup)

/-- A member is got back if its document is read back. -/
theorem get (h : Written f n ms ms') (hlookup : ms.lookup name = some d)
    (hd : decode (f d) = .ok a) : get ms' name decode = .ok a := by
  refine (Found.Members.get_eq_ok_iff a).mpr ⟨f d, ?_, hd⟩
  rw [h.reordered.lookup, hlookup]
  rfl

/-- So is a member that has a default. -/
theorem getD (h : Written f n ms ms') (hlookup : ms.lookup name = some d) (default : α)
    (hd : decode (f d) = .ok a) : getD ms' name default decode = .ok a := by
  refine (Found.Members.getD_eq_ok_iff default a).mpr (.inl ⟨f d, ?_, hd⟩)
  rw [h.reordered.lookup, hlookup]
  rfl

end Written
end Document

/-! ### Reading back, type by type -/

section Types

variable {f : Document → Document} (hf : Reorders f) (source : Source)

include hf

theorem Decode.text_written (s : String) : text source (f (.string s)) = .ok s := by
  rw [text_eq_ok_iff, hf.string]

theorem Decode.integer64_written (w : Int64) : integer64 source (f (.int w.toInt)) = .ok w := by
  rw [integer64_eq_ok_iff, hf.int]

theorem Decode.path?_written (path : Option String) :
    path? source (f (Bundle.encodePath path)) = .ok path := by
  rw [path?_eq_ok_iff]
  cases path with
  | some s => exact hf.string s
  | none => exact hf.null

theorem RequestId.decode_encode (id : RequestId) : decode source (f id.encode) = .ok id := by
  rw [decode_eq_ok_iff, encode, hf.int]

theorem Identifier.decode_encode (i : Identifier) : decode source (f i.encode) = .ok i := by
  rw [decode_eq_ok_iff, encode, hf.string]

theorem RequestKind.decode_encode (k : RequestKind) : decode source (f k.encode) = .ok k := by
  rw [encode, hf.string]
  exact Variants.read_string source k.name k (by cases k <;> rfl)

theorem ReplacementAction.decode_encode (a : ReplacementAction) :
    decode source (f a.encode) = .ok a := by
  rw [encode, hf.string]
  exact Variants.read_string source a.name a (by cases a <;> rfl)

theorem ReplacementPolicy.decode_encode (p : ReplacementPolicy) :
    decode source (f p.encode) = .ok p := by
  rw [encode, hf.string]
  exact Variants.read_string source p.name p (by cases p <;> rfl)

omit source in
/-- The code of an alternative without a name is written behind the word for it. -/
theorem Document.written_other (code : Int64) :
    f (.object [("Other", .int code.toInt)]) = .object [("Other", .int code.toInt)] := by
  obtain ⟨ms', heq, hperm⟩ := hf.object [("Other", .int code.toInt)] (by simp)
  rw [List.map_singleton, hf.int] at hperm
  rw [heq, List.perm_singleton.mp hperm]

theorem Completion.decode_encode (result : Completion) :
    decode source (f result.encode) = .ok result := by
  cases result with
  | completed =>
    rw [encode, hf.string]
    exact Variants.read_string source "Completed" _ rfl
  | afterReboot =>
    rw [encode, hf.string]
    exact Variants.read_string source "WillCompleteAfterReboot" _ rfl
  | other code =>
    rw [encode, Document.written_other hf]
    refine Variants.read_payload source "Other" _ _ _ rfl rfl ?_
    rw [(Decode.integer64_eq_ok_iff code).mpr rfl]
    rfl

theorem FailureKind.decode_encode (k : FailureKind) : decode source (f k.encode) = .ok k := by
  cases k with
  | other code =>
    rw [encode, Document.written_other hf]
    refine Variants.read_payload source "Other" _ _ _ rfl rfl ?_
    rw [(Decode.integer64_eq_ok_iff code).mpr rfl]
    rfl
  | _ =>
    exact (congrArg (decode source) (hf.string _)).trans (Variants.read_string source _ _ rfl)

omit source in
/-- A written result is neat. -/
theorem Completion.neat_encode (result : Completion) : Neat 1 (f result.encode) := by
  cases result with
  | completed => exact hf.neat_string 1 _
  | afterReboot => exact hf.neat_string 1 _
  | other code =>
    rw [encode, Document.written_other hf]
    exact ⟨rfl, Nat.le_refl 1⟩

omit source in
theorem Request.exists_written (r : Request) :
    ∃ ms', Document.Written f 0 [("id", r.id.encode), ("kind", r.kind.encode),
      ("identifier", r.identifier.encode)] ms' := by
  refine hf.written (by simp) ?_
  simp only [List.forall_mem_cons]
  exact ⟨hf.neat_int 0 _, hf.neat_string 0 _, hf.neat_string 0 _, List.forall_mem_nil _⟩

theorem Request.decode_encode (r : Request) : decode source (f r.encode) = .ok r := by
  obtain ⟨ms', h⟩ := r.exists_written hf
  rw [encode, h.eq, decode_object_iff]
  exact ⟨h.fits _, h.get rfl (r.id.decode_encode hf source),
    h.get rfl (r.kind.decode_encode hf source), h.get rfl (r.identifier.decode_encode hf source)⟩

omit source in
theorem Bundle.exists_written (b : Bundle) :
    ∃ ms', Document.Written f 0 [("bundle_identifier", .string b.identifier),
      ("bundle_version", .string b.version), ("bundle_short_version", .string b.shortVersion),
      ("path", encodePath b.path)] ms' := by
  refine hf.written (by simp) ?_
  simp only [List.forall_mem_cons]
  exact ⟨hf.neat_string 0 _, hf.neat_string 0 _, hf.neat_string 0 _, hf.neat_path 0 _,
    List.forall_mem_nil _⟩

theorem Bundle.decode_encode (b : Bundle) : decode source (f b.encode) = .ok b := by
  obtain ⟨ms', h⟩ := b.exists_written hf
  rw [encode, h.eq, decode_object_iff]
  exact ⟨h.fits _, h.get rfl (Decode.text_written hf source _),
    h.get rfl (Decode.text_written hf source _), h.get rfl (Decode.text_written hf source _),
    h.getD rfl none (Decode.path?_written hf source _)⟩

omit source in
theorem Failure.exists_written (x : Failure) :
    ∃ ms', Document.Written f 0 [("domain", .string x.domain), ("code", .int x.code.toInt),
      ("description", .string x.description)] ms' := by
  refine hf.written (by simp) ?_
  simp only [List.forall_mem_cons]
  exact ⟨hf.neat_string 0 _, hf.neat_int 0 _, hf.neat_string 0 _, List.forall_mem_nil _⟩

theorem Failure.decode_encode (x : Failure) : decode source (f x.encode) = .ok x := by
  obtain ⟨ms', h⟩ := x.exists_written hf
  rw [encode, h.eq, decode_object_iff]
  exact ⟨h.fits _, h.get rfl (Decode.text_written hf source _),
    h.get rfl (Decode.integer64_written hf source _),
    h.get rfl (Decode.text_written hf source _)⟩

omit source in
theorem InstallerSection.exists_written (s : InstallerSection) :
    ∃ ms', Document.Written f 0 [("log_level", .string s.logLevel),
      ("log_file", Bundle.encodePath s.logFile)] ms' := by
  refine hf.written (by simp) ?_
  simp only [List.forall_mem_cons]
  exact ⟨hf.neat_string 0 _, hf.neat_path 0 _, List.forall_mem_nil _⟩

theorem InstallerSection.decode_encode (s : InstallerSection) :
    decode source (f s.encode) = .ok s := by
  obtain ⟨ms', h⟩ := s.exists_written hf
  rw [encode, h.eq, decode_object_iff]
  exact ⟨h.fits _, h.get rfl (Decode.text_written hf source _),
    h.getD rfl none (Decode.path?_written hf source _)⟩

omit source in
theorem ExtensionSection.exists_written (s : ExtensionSection) :
    ∃ ms', Document.Written f 0 [("identifier", s.identifier.encode),
      ("replacement", s.replacement.encode)] ms' := by
  refine hf.written (by simp) ?_
  simp only [List.forall_mem_cons]
  exact ⟨hf.neat_string 0 _, hf.neat_string 0 _, List.forall_mem_nil _⟩

theorem ExtensionSection.decode_encode (s : ExtensionSection) :
    decode source (f s.encode) = .ok s := by
  obtain ⟨ms', h⟩ := s.exists_written hf
  rw [encode, h.eq, decode_object_iff]
  exact ⟨h.fits _, h.getD rfl .standard (s.identifier.decode_encode hf source),
    h.getD rfl .standard (s.replacement.decode_encode hf source)⟩

theorem Settings.decode_encode (s : Settings) : decode source (f s.encode) = .ok s := by
  obtain ⟨_, hinstaller⟩ := s.installer.exists_written hf
  obtain ⟨_, hextension⟩ := s.extension.exists_written hf
  obtain ⟨ms', h⟩ : ∃ ms', Document.Written f 1 [("installer", s.installer.encode),
      ("extension", s.extension.encode)] ms' := by
    refine hf.written (by simp) ?_
    simp only [List.forall_mem_cons]
    exact ⟨hinstaller.neat_object, hextension.neat_object, List.forall_mem_nil _⟩
  rw [encode, h.eq, decode_object_iff]
  exact ⟨h.fits _, h.getD rfl .standard (s.installer.decode_encode hf source),
    h.getD rfl .standard (s.extension.decode_encode hf source)⟩

omit source in
/-- The members of a written event are neat. -/
theorem Event.neat_payload (e : Event) : ∀ m ∈ e.payload, Neat 1 (f m.2) := by
  obtain ⟨_, hrequest⟩ := e.request.exists_written hf
  cases e with
  | replacementNeeded r existing replacement action =>
    obtain ⟨_, hexisting⟩ := existing.exists_written hf
    obtain ⟨_, hreplacement⟩ := replacement.exists_written hf
    simp only [payload, List.forall_mem_cons]
    exact ⟨hrequest.neat_object, hexisting.neat_object, hreplacement.neat_object,
      hf.neat_string 1 _, List.forall_mem_nil _⟩
  | approvalNeeded r =>
    simp only [payload, List.forall_mem_cons]
    exact ⟨hrequest.neat_object, List.forall_mem_nil _⟩
  | finished r result =>
    simp only [payload, List.forall_mem_cons]
    exact ⟨hrequest.neat_object, result.neat_encode hf, List.forall_mem_nil _⟩
  | failed r failure =>
    obtain ⟨_, hfailure⟩ := failure.exists_written hf
    simp only [payload, List.forall_mem_cons]
    exact ⟨hrequest.neat_object, hfailure.neat_object, List.forall_mem_nil _⟩

theorem Event.decode_encode (e : Event) : decode source (f e.encode) = .ok e := by
  obtain ⟨ms', h⟩ : ∃ ms', Document.Written f 1 (("type", .string e.tag.written) :: e.payload)
      ms' := by
    refine hf.written (by cases e <;> simp [payload]) ?_
    exact List.forall_mem_cons.mpr ⟨hf.neat_string 1 _, e.neat_payload hf⟩
  -- an event is at most two objects deep, far from the limit of nesting
  have hdepth : (Document.object ms').depth ≤ Decode.nestingLimit :=
    Nat.le_trans h.neat.depth_le (by decide)
  rw [encode, h.eq, decode_sound_object_iff ms' e h.neat.sound (fun _ => hdepth)]
  refine ⟨Once.of_nodup _ h.reordered.nodup, ?_, ?_⟩
  · rw [h.reordered.lookup]
    exact congrArg some (hf.string _)
  · cases e with
    | replacementNeeded r existing replacement action =>
      exact ⟨h.get rfl (r.decode_encode hf .buffer), h.get rfl (existing.decode_encode hf .buffer),
        h.get rfl (replacement.decode_encode hf .buffer),
        h.get rfl (action.decode_encode hf .buffer)⟩
    | approvalNeeded r => exact h.get rfl (r.decode_encode hf .buffer)
    | finished r result =>
      exact ⟨h.get rfl (r.decode_encode hf .buffer), h.get rfl (result.decode_encode hf .buffer)⟩
    | failed r failure =>
      exact ⟨h.get rfl (r.decode_encode hf .buffer), h.get rfl (failure.decode_encode hf .buffer)⟩

end Types

/-! ### Every type that is written -/

/-- Decoding inverts encoding: what is written is read back, from a value with its members sorted
    and from a text with its members as they are written.  So of all the spellings that decode to a
    value, its encoding is a canonical one: it decodes to the same value, and what it decodes to is
    encoded as it stands. -/
structure RoundTrips {α : Type} (encode : α → Document)
    (decode : Source → Document → Decoded α) : Prop where
  value (x : α) : decode .value (encode x).sorted = .ok x
  text (x : α) : decode .text (encode x) = .ok x
  canonical (d : Document) (x : α) (h : decode .value d = .ok x) :
    decode .value (encode x).sorted = .ok x ∧
      ∀ y, decode .value (encode x).sorted = .ok y → (encode y).sorted = (encode x).sorted

/-- What is read back in every order of the members round trips. -/
theorem RoundTrips.of_decode_encode {α : Type} {encode : α → Document}
    {decode : Source → Document → Decoded α}
    (h : ∀ f, Reorders f → ∀ source x, decode source (f (encode x)) = .ok x) :
    RoundTrips encode decode where
  value x := h Document.sorted Document.reorders_sorted .value x
  text x := h id Document.reorders_id .text x
  canonical _ x _ := by
    have hvalue := h Document.sorted Document.reorders_sorted .value x
    refine ⟨hvalue, ?_⟩
    intro y hy
    obtain rfl : x = y := Except.ok.inj (hvalue.symm.trans hy)
    rfl

/-- **Round trips.**  Every type that is written in documents is read back as it was. -/
theorem wire_round_trips :
    RoundTrips Identifier.encode Identifier.decode ∧
    RoundTrips RequestKind.encode RequestKind.decode ∧
    RoundTrips RequestId.encode RequestId.decode ∧
    RoundTrips Request.encode Request.decode ∧
    RoundTrips Bundle.encode Bundle.decode ∧
    RoundTrips ReplacementAction.encode ReplacementAction.decode ∧
    RoundTrips ReplacementPolicy.encode ReplacementPolicy.decode ∧
    RoundTrips Completion.encode Completion.decode ∧
    RoundTrips FailureKind.encode FailureKind.decode ∧
    RoundTrips Failure.encode Failure.decode ∧
    RoundTrips Event.encode Event.decode ∧
    RoundTrips Settings.encode Settings.decode :=
  ⟨.of_decode_encode fun _ hf source x => x.decode_encode hf source,
    .of_decode_encode fun _ hf source x => x.decode_encode hf source,
    .of_decode_encode fun _ hf source x => x.decode_encode hf source,
    .of_decode_encode fun _ hf source x => x.decode_encode hf source,
    .of_decode_encode fun _ hf source x => x.decode_encode hf source,
    .of_decode_encode fun _ hf source x => x.decode_encode hf source,
    .of_decode_encode fun _ hf source x => x.decode_encode hf source,
    .of_decode_encode fun _ hf source x => x.decode_encode hf source,
    .of_decode_encode fun _ hf source x => x.decode_encode hf source,
    .of_decode_encode fun _ hf source x => x.decode_encode hf source,
    .of_decode_encode fun _ hf source x => x.decode_encode hf source,
    .of_decode_encode fun _ hf source x => x.decode_encode hf source⟩

end DriverExtension
