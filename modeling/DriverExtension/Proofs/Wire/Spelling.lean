import DriverExtension.Proofs.Wire.Events

namespace DriverExtension

open Document (Members)
open Found.Members (get getD get_eq_ok_iff getD_eq_ok_iff)

/-!
# How events are spelled

The format of events and their parts, told without the decoders: which members a document has to
hold, and which documents these have to be.

* `Document.SpellsId`, `Document.SpellsCode`, `Document.SpellsIdentifier` — scalars with their
  ranges;
* `Request.Spelled`, `Bundle.Spelled`, `Completion.Spelled`, `Failure.Spelled` — the parts of
  events, each with the theorem that its decoder reads exactly these documents;
* `Event.Spelled`, `Event.decode_iff_spelled` — events;
* `Event.SpelledBy.buffered` — what spells a part by itself spells it within an event.
-/

/-! ### Scalars -/

namespace Document

/-- An object has a member of the given name, and its document is as required. -/
def HasMember (ms : Members) (name : String) (p : Document → Prop) : Prop :=
  ∃ d, ms.lookup name = some d ∧ p d

/-- A request number is an integer from `0` to `2 ^ 64 - 1`. -/
def SpellsId (id : RequestId) (d : Document) : Prop :=
  ∃ n : Int, d = .int n ∧ 0 ≤ n ∧ n < 0x10000000000000000 ∧ id = ⟨.ofNat n.toNat⟩

/-- A code is an integer from `-2 ^ 63` to `2 ^ 63 - 1`. -/
def SpellsCode (code : Int64) (d : Document) : Prop :=
  ∃ n : Int, d = .int n ∧ -0x8000000000000000 ≤ n ∧ n < 0x8000000000000000 ∧ code = .ofInt n

/-- An identifier is a string that passes the check of identifiers. -/
def SpellsIdentifier (i : Identifier) (d : Document) : Prop :=
  ∃ s, d = .string s ∧ Identifier.ofString? s = .ok i

/-- The numbers that spell a request number are those that it is written as. -/
theorem spellsId_iff (id : RequestId) (d : Document) : d.SpellsId id ↔ d = id.encode := by
  constructor
  · rintro ⟨n, rfl, hlow, hhigh, rfl⟩
    have hlt : n.toNat < UInt64.size := by
      simp only [UInt64.size]
      omega
    rw [RequestId.encode, UInt64.toNat_ofNat_of_lt' hlt, Int.toNat_of_nonneg hlow]
  · rintro rfl
    have hlt := id.val.toNat_lt
    refine ⟨id.val.toNat, rfl, by omega, by omega, ?_⟩
    simp

/-- The numbers that spell a code are those that it is written as. -/
theorem spellsCode_iff (code : Int64) (d : Document) : d.SpellsCode code ↔ d = .int code.toInt := by
  constructor
  · rintro ⟨n, rfl, hlow, hhigh, rfl⟩
    rw [Int64.toInt_ofInt_of_le] <;> omega
  · rintro rfl
    exact ⟨code.toInt, rfl, code.le_toInt, code.toInt_lt, by simp⟩

/-- The strings that spell an identifier are those that it is written as. -/
theorem spellsIdentifier_iff (i : Identifier) (d : Document) :
    d.SpellsIdentifier i ↔ d = i.encode := by
  constructor
  · rintro ⟨s, rfl, hs⟩
    rw [Identifier.encode, Identifier.text_of_ofString? hs]
  · rintro rfl
    exact ⟨i.text, rfl, i.ofString?_text⟩

/-- What spells an alternative by itself spells it within an event. -/
theorem Spells.buffered {name : String} {d : Document} (h : d.Spells .value name) :
    d.Spells .buffer name := by
  rcases h with h | h | ⟨hsource, -⟩
  · exact .inl h
  · exact .inr (.inl h)
  · cases hsource

variable {ms : Members} {name : String} {p q : Document → Prop}

/-- A member that is as required is also as anything that follows requires. -/
theorem HasMember.imp (h : HasMember ms name p) (hpq : ∀ d, p d → q d) : HasMember ms name q := by
  obtain ⟨d, hlookup, hd⟩ := h
  exact ⟨d, hlookup, hpq d hd⟩

/-- A member of a sound object is got if it spells what its decoder reads. -/
theorem get_iff_hasMember {α : Type} {decode : Document → Decoded α} {a : α} (name : String)
    (hsound : (object ms).sound = true) (h : ∀ d, d.sound = true → (decode d = .ok a ↔ p d)) :
    get ms name decode = .ok a ↔ HasMember ms name p := by
  rw [get_eq_ok_iff]
  refine exists_congr fun d => and_congr_right fun hlookup => ?_
  exact h d ((sound_object_iff ms).mp hsound _ (mem_of_lookup hlookup))

end Document

variable {source : Source}

/-! ### Requests -/

namespace Request

/-- The names of the members of a written request, in order. -/
def names : List String := ["id", "kind", "identifier"]

/-- Members spell a request. -/
structure SpelledBy (source : Source) (ms : Members) (r : Request) : Prop where
  id : Document.HasMember ms "id" (·.SpellsId r.id)
  kind : Document.HasMember ms "kind" (·.Spells source r.kind.name)
  identifier : Document.HasMember ms "identifier" (·.SpellsIdentifier r.identifier)

/-- A document spells a request. -/
def Spelled (r : Request) (source : Source) (d : Document) : Prop :=
  ∃ ms, d.Holds names ms ∧ r.SpelledBy source ms

/-- **A request** is read from the documents that spell it. -/
theorem decode_iff_spelled (hsource : source = .value ∨ source = .buffer) (r : Request)
    (d : Document) (hsound : d.sound = true) : decode source d = .ok r ↔ r.Spelled source d := by
  have hnodup : (shape source).names.Nodup := show names.Nodup by decide
  refine Shape.decode_sound_iff hsource hnodup ⟨_, List.mem_cons_self, rfl⟩ ?_ d hsound
  intro ms hms
  have hid := Document.get_iff_hasMember "id" hms fun d _ =>
    (RequestId.decode_eq_ok_iff source d r.id).trans (d.spellsId_iff r.id).symm
  have hkind := Document.get_iff_hasMember "kind" hms fun d _ =>
    RequestKind.decode_eq_ok_iff hsource d r.kind
  have hidentifier := Document.get_iff_hasMember "identifier" hms fun d _ =>
    (Identifier.decode_eq_ok_iff source d r.identifier).trans
      (d.spellsIdentifier_iff r.identifier).symm
  refine (decode_object_iff source ms r).trans (and_congr_right fun _ => ?_)
  rw [hid, hkind, hidentifier]
  constructor
  · rintro ⟨hid, hkind, hidentifier⟩
    exact ⟨hid, hkind, hidentifier⟩
  · rintro ⟨hid, hkind, hidentifier⟩
    exact ⟨hid, hkind, hidentifier⟩

/-- What spells a request by itself spells it within an event. -/
theorem Spelled.buffered {r : Request} {d : Document} (h : r.Spelled .value d) :
    r.Spelled .buffer d := by
  obtain ⟨ms, hholds, hspelled⟩ := h
  exact ⟨ms, hholds, hspelled.id, hspelled.kind.imp fun _ => .buffered, hspelled.identifier⟩

end Request

/-! ### Bundles -/

namespace Bundle

/-- The names of the members of a written bundle, in order. -/
def names : List String := ["bundle_identifier", "bundle_version", "bundle_short_version", "path"]

/-- Members spell a bundle.  Only the path may be missing. -/
structure SpelledBy (ms : Members) (b : Bundle) : Prop where
  identifier : Document.HasMember ms "bundle_identifier" (· = .string b.identifier)
  version : Document.HasMember ms "bundle_version" (· = .string b.version)
  shortVersion : Document.HasMember ms "bundle_short_version" (· = .string b.shortVersion)
  path : Document.HasMember ms "path" (· = encodePath b.path) ∨
    (ms.lookup "path" = none ∧ b.path = none)

/-- A document spells a bundle. -/
def Spelled (b : Bundle) (d : Document) : Prop := ∃ ms, d.Holds names ms ∧ b.SpelledBy ms

/-- **A bundle** is read from the documents that spell it. -/
theorem decode_iff_spelled (hsource : source = .value ∨ source = .buffer) (b : Bundle)
    (d : Document) (hsound : d.sound = true) : decode source d = .ok b ↔ b.Spelled d := by
  have hnodup : (shape source).names.Nodup := show names.Nodup by decide
  refine Shape.decode_sound_iff hsource hnodup ⟨_, List.mem_cons_self, rfl⟩ ?_ d hsound
  intro ms hms
  have htext (name s : String) := Document.get_iff_hasMember name hms fun d _ =>
    @Decode.text_eq_ok_iff source d s
  have hpath : getD ms "path" none (Decode.path? source) = .ok b.path ↔
      Document.HasMember ms "path" (· = encodePath b.path) ∨
        (ms.lookup "path" = none ∧ b.path = none) := by
    simp only [getD_eq_ok_iff, Decode.path?_eq_ok_iff, Document.HasMember, eq_comm (a := none)]
  refine (decode_object_iff source ms b).trans (and_congr_right fun _ => ?_)
  rw [htext, htext, htext, hpath]
  constructor
  · rintro ⟨hidentifier, hversion, hshort, hpath⟩
    exact ⟨hidentifier, hversion, hshort, hpath⟩
  · rintro ⟨hidentifier, hversion, hshort, hpath⟩
    exact ⟨hidentifier, hversion, hshort, hpath⟩

end Bundle

/-! ### Results and failures -/

namespace Completion

/-- A document spells a result: by its name, or by its code behind the name of the results without
    a name. -/
def Spelled (source : Source) (d : Document) : Completion → Prop
  | .completed => d.Spells source "Completed"
  | .afterReboot => d.Spells source "WillCompleteAfterReboot"
  | .other code => ∃ n, d = .object [("Other", n)] ∧ n.SpellsCode code

/-- **A result** is read from the documents that spell it. -/
theorem decode_iff_spelled (hsource : source = .value ∨ source = .buffer) (result : Completion)
    (d : Document) : decode source d = .ok result ↔ result.Spelled source d := by
  rw [decode_eq_ok_iff hsource]
  cases result with
  | completed => rfl
  | afterReboot => rfl
  | other code => simp [Spelled, Document.spellsCode_iff]

/-- What spells a result by itself spells it within an event. -/
theorem Spelled.buffered {result : Completion} {d : Document} (h : result.Spelled .value d) :
    result.Spelled .buffer d := by
  cases result with
  | completed => exact Document.Spells.buffered h
  | afterReboot => exact Document.Spells.buffered h
  | other code => exact h

end Completion

namespace Failure

/-- The names of the members of a written failure, in order. -/
def names : List String := ["domain", "code", "description"]

/-- Members spell a failure. -/
structure SpelledBy (ms : Members) (f : Failure) : Prop where
  domain : Document.HasMember ms "domain" (· = .string f.domain)
  code : Document.HasMember ms "code" (·.SpellsCode f.code)
  description : Document.HasMember ms "description" (· = .string f.description)

/-- A document spells a failure. -/
def Spelled (f : Failure) (d : Document) : Prop := ∃ ms, d.Holds names ms ∧ f.SpelledBy ms

/-- **A failure** is read from the documents that spell it. -/
theorem decode_iff_spelled (hsource : source = .value ∨ source = .buffer) (f : Failure)
    (d : Document) (hsound : d.sound = true) : decode source d = .ok f ↔ f.Spelled d := by
  have hnodup : (shape source).names.Nodup := show names.Nodup by decide
  refine Shape.decode_sound_iff hsource hnodup ⟨_, List.mem_cons_self, rfl⟩ ?_ d hsound
  intro ms hms
  have htext (name s : String) := Document.get_iff_hasMember name hms fun d _ =>
    @Decode.text_eq_ok_iff source d s
  have hcode := Document.get_iff_hasMember "code" hms fun d _ =>
    (@Decode.integer64_eq_ok_iff source d f.code).trans (d.spellsCode_iff f.code).symm
  refine (decode_object_iff source ms f).trans (and_congr_right fun _ => ?_)
  rw [htext, hcode, htext]
  constructor
  · rintro ⟨hdomain, hcode, hdescription⟩
    exact ⟨hdomain, hcode, hdescription⟩
  · rintro ⟨hdomain, hcode, hdescription⟩
    exact ⟨hdomain, hcode, hdescription⟩

end Failure

/-! ### Events -/

namespace Event

/-- Members besides the tag spell the parts of an event. -/
def SpelledBy (source : Source) (ms : Members) : Event → Prop
  | .replacementNeeded r existing replacement action =>
    Document.HasMember ms "request" (r.Spelled source) ∧
      Document.HasMember ms "existing" existing.Spelled ∧
      Document.HasMember ms "replacement" replacement.Spelled ∧
      Document.HasMember ms "action" (·.Spells source action.name)
  | .approvalNeeded r => Document.HasMember ms "request" (r.Spelled source)
  | .finished r result =>
    Document.HasMember ms "request" (r.Spelled source) ∧
      Document.HasMember ms "result" (Completion.Spelled source · result)
  | .failed r failure =>
    Document.HasMember ms "request" (r.Spelled source) ∧
      Document.HasMember ms "failure" failure.Spelled

/-- A document spells an event: it holds the declared members, none of them repeated, the tag of the
    event and its parts, spelled as they may be within an event. -/
def Spelled (e : Event) (d : Document) : Prop :=
  ∃ ms, d.Holds e.tag.names ms ∧ ms.lookup "type" = some (.string e.tag.written) ∧
    e.SpelledBy .buffer ms

/-- The parts of an event are read from the members that spell them. -/
theorem readFrom_iff_spelledBy (hsource : source = .value ∨ source = .buffer) (e : Event)
    (ms : Members) (hsound : (Document.object ms).sound = true) :
    e.ReadFrom source ms ↔ e.SpelledBy source ms := by
  have hrequest (r : Request) := Document.get_iff_hasMember "request" hsound
    (r.decode_iff_spelled hsource)
  have hbundle (name : String) (b : Bundle) := Document.get_iff_hasMember name hsound
    (b.decode_iff_spelled hsource)
  have haction (a : ReplacementAction) := Document.get_iff_hasMember "action" hsound
    fun d _ => ReplacementAction.decode_eq_ok_iff hsource d a
  have hresult (result : Completion) := Document.get_iff_hasMember "result" hsound
    fun d _ => result.decode_iff_spelled hsource d
  have hfailure (f : Failure) := Document.get_iff_hasMember "failure" hsound
    (f.decode_iff_spelled hsource)
  cases e with
  | replacementNeeded r existing replacement action =>
    simp only [ReadFrom, SpelledBy, hrequest, hbundle, haction]
  | approvalNeeded r => simp only [ReadFrom, SpelledBy, hrequest]
  | finished r result => simp only [ReadFrom, SpelledBy, hrequest, hresult]
  | failed r failure => simp only [ReadFrom, SpelledBy, hrequest, hfailure]

/-- **An event** is read from the documents that spell it. -/
theorem decode_iff_spelled (e : Event) (d : Document) (hsound : d.sound = true)
    (hdepth : source = .text → d.depth ≤ Decode.nestingLimit) :
    decode source d = .ok e ↔ e.Spelled d := by
  rw [decode_sound_iff d e hsound hdepth]
  refine exists_congr fun ms => and_congr_right fun hholds => and_congr_right fun _ => ?_
  exact e.readFrom_iff_spelledBy (.inr rfl) ms (Document.sound_of_members? hholds.eq hsound)

/-- What spells the parts of an event by themselves spells them within it. -/
theorem SpelledBy.buffered {ms : Members} {e : Event} (h : e.SpelledBy .value ms) :
    e.SpelledBy .buffer ms := by
  cases e with
  | replacementNeeded r existing replacement action =>
    obtain ⟨hr, hexisting, hreplacement, haction⟩ := h
    exact ⟨hr.imp fun _ => .buffered, hexisting, hreplacement, haction.imp fun _ => .buffered⟩
  | approvalNeeded r => exact h.imp fun _ => .buffered
  | finished r result =>
    obtain ⟨hr, hresult⟩ := h
    exact ⟨hr.imp fun _ => .buffered, hresult.imp fun _ => .buffered⟩
  | failed r failure =>
    obtain ⟨hr, hfailure⟩ := h
    exact ⟨hr.imp fun _ => .buffered, hfailure⟩

end Event

end DriverExtension
