import DriverExtension.Document.Reader
import DriverExtension.Proofs.Wire.Spelling

namespace DriverExtension

open Document (Members HasMember)

/-!
# The format of events

An event is read from exactly the documents that spell it.  Neither the order of the members counts
nor what else an object holds, in the event and in the records among its parts; no declared name may
be repeated.

* `Document.AlikeRecord` — two documents hold the same declared members;
* `Event.PartAlike`, `Event.Spelled.of_alike` — documents that differ in nothing that counts spell
  the same event;
* `Event.Spelled.holds_parts` — no record among the parts repeats a declared name;
* `event_format` — the decoder accepts the format, and what does not count makes no difference;
* `event_format_exceptions` — what an event takes for a part that would not do by itself, and what a
  text is refused for though nobody asks for it.
-/

/-! ### Records -/

/-- Two documents hold the same declared members, in whatever order and among whatever others. -/
def Document.AlikeRecord (names : List String) (d d' : Document) : Prop :=
  d.Alike names (fun _ => Eq) d'

namespace Document

variable {names : List String} {d d' : Document} {ms ms' : Members} {name : String}
  {p : Document → Prop}

/-- In documents that hold the same members, the same documents are found. -/
theorem Holds.exists_of_alikeRecord (h : Holds names d ms) (halike : AlikeRecord names d d') :
    ∃ ms', Holds names d' ms' ∧ ∀ name ∈ names, ms'.lookup name = ms.lookup name := by
  have heq {found found' : Option Document} (h : Option.Rel Eq found found') : found' = found := by
    cases h with
    | some h => rw [h]
    | none => rfl
  obtain ⟨ms', hholds, hrel⟩ := h.exists_of_alike (fun _ _ => rfl) halike
  exact ⟨ms', hholds, fun name hname => heq (hrel name hname)⟩

/-- A member is as required if the same document is found. -/
theorem HasMember.of_lookup_eq (h : HasMember ms name p) (heq : ms'.lookup name = ms.lookup name) :
    HasMember ms' name p := by
  rwa [HasMember, heq]

/-- A member is as required if what is found is like a document that is so. -/
theorem HasMember.of_rel {part : Document → Document → Prop} (h : HasMember ms name p)
    (hrel : Option.Rel part (ms.lookup name) (ms'.lookup name))
    (hpart : ∀ d d', part d d' → p d → p d') : HasMember ms' name p := by
  obtain ⟨d, hlookup, hd⟩ := h
  unfold HasMember
  rw [hlookup] at hrel
  generalize ms'.lookup name = found at hrel ⊢
  cases hrel with
  | some hdd' => exact ⟨_, rfl, hpart _ _ hdd' hd⟩

end Document

variable {source : Source} {d d' : Document}

/-- Alike records spell the same request. -/
theorem Request.Spelled.of_alike {r : Request} (h : r.Spelled source d)
    (halike : d.AlikeRecord Request.names d') : r.Spelled source d' := by
  obtain ⟨ms, hholds, hspelled⟩ := h
  obtain ⟨ms', hholds', hlookup⟩ := hholds.exists_of_alikeRecord halike
  exact ⟨ms', hholds', hspelled.id.of_lookup_eq (hlookup "id" (by decide)),
    hspelled.kind.of_lookup_eq (hlookup "kind" (by decide)),
    hspelled.identifier.of_lookup_eq (hlookup "identifier" (by decide))⟩

/-- Alike records spell the same bundle. -/
theorem Bundle.Spelled.of_alike {b : Bundle} (h : b.Spelled d)
    (halike : d.AlikeRecord Bundle.names d') : b.Spelled d' := by
  obtain ⟨ms, hholds, hspelled⟩ := h
  obtain ⟨ms', hholds', hlookup⟩ := hholds.exists_of_alikeRecord halike
  refine ⟨ms', hholds', hspelled.identifier.of_lookup_eq (hlookup "bundle_identifier" (by decide)),
    hspelled.version.of_lookup_eq (hlookup "bundle_version" (by decide)),
    hspelled.shortVersion.of_lookup_eq (hlookup "bundle_short_version" (by decide)), ?_⟩
  have hsame := hlookup "path" (by decide)
  rcases hspelled.path with hpath | ⟨hnone, hpath⟩
  · exact .inl (hpath.of_lookup_eq hsame)
  · exact .inr ⟨hsame.trans hnone, hpath⟩

/-- Alike records spell the same failure. -/
theorem Failure.Spelled.of_alike {f : Failure} (h : f.Spelled d)
    (halike : d.AlikeRecord Failure.names d') : f.Spelled d' := by
  obtain ⟨ms, hholds, hspelled⟩ := h
  obtain ⟨ms', hholds', hlookup⟩ := hholds.exists_of_alikeRecord halike
  exact ⟨ms', hholds', hspelled.domain.of_lookup_eq (hlookup "domain" (by decide)),
    hspelled.code.of_lookup_eq (hlookup "code" (by decide)),
    hspelled.description.of_lookup_eq (hlookup "description" (by decide))⟩

/-! ### Events -/

namespace Event

/-- The names that the record behind a name of an event declares, if a record stands there. -/
def recordNames? : String → Option (List String)
  | "request" => some Request.names
  | "existing" | "replacement" => some Bundle.names
  | "failure" => some Failure.names
  | _ => none

/-- Two documents behind a name of an event differ in nothing that counts: records hold the same
    declared members, and anything else is the same. -/
def PartAlike (name : String) (d d' : Document) : Prop :=
  match recordNames? name with
  | some names => d.AlikeRecord names d'
  | none => d = d'

theorem PartAlike.refl (name : String) (d : Document) : PartAlike name d d := by
  unfold PartAlike
  split
  · exact .inl rfl
  · rfl

theorem PartAlike.symm (name : String) (d d' : Document) (h : PartAlike name d d') :
    PartAlike name d' d := by
  unfold PartAlike at h ⊢
  split
  · rename_i names hnames
    rw [hnames] at h
    exact Document.Alike.symm (fun _ _ _ => Eq.symm) h
  · rename_i hnone
    rw [hnone] at h
    exact h.symm

/-- **Alike documents** spell the same event. -/
theorem Spelled.of_alike {e : Event} (h : e.Spelled d) (halike : d.Alike e.tag.names PartAlike d') :
    e.Spelled d' := by
  obtain ⟨ms, hholds, htype, hspelled⟩ := h
  obtain ⟨ms', hholds', hrel⟩ := hholds.exists_of_alike PartAlike.refl halike
  have htag : HasMember ms' "type" (· = .string e.tag.written) := by
    refine HasMember.of_rel ⟨_, htype, rfl⟩ (hrel "type" ?_) ?_
    · rw [e.tag.names_eq]
      exact List.mem_cons_self
    · rintro d d' rfl hd
      exact hd
  have hname : "request" ∈ e.tag.names := by
    cases e <;> simp [tag, EventTag.names]
  have hrequest (r : Request) (hr : HasMember ms "request" (r.Spelled .buffer)) :
      HasMember ms' "request" (r.Spelled .buffer) :=
    hr.of_rel (hrel "request" hname) fun _ _ hdd' hd => hd.of_alike hdd'
  obtain ⟨_, htype', rfl⟩ := htag
  refine ⟨ms', hholds', htype', ?_⟩
  -- records may differ in what does not count; answers and results are the same documents
  cases e with
  | replacementNeeded r existing replacement action =>
    obtain ⟨hr, hexisting, hreplacement, haction⟩ := hspelled
    simp only [tag, EventTag.names, List.forall_mem_cons] at hrel
    obtain ⟨-, -, hrelExisting, hrelReplacement, hrelAction, -⟩ := hrel
    exact ⟨hrequest r hr, hexisting.of_rel hrelExisting fun _ _ hdd' hd => hd.of_alike hdd',
      hreplacement.of_rel hrelReplacement fun _ _ hdd' hd => hd.of_alike hdd',
      haction.of_rel hrelAction fun _ _ hdd' hd => hdd' ▸ hd⟩
  | approvalNeeded r => exact hrequest r hspelled
  | finished r result =>
    obtain ⟨hr, hresult⟩ := hspelled
    simp only [tag, EventTag.names, List.forall_mem_cons] at hrel
    obtain ⟨-, -, hrelResult, -⟩ := hrel
    exact ⟨hrequest r hr, hresult.of_rel hrelResult fun _ _ hdd' hd => hdd' ▸ hd⟩
  | failed r failure =>
    obtain ⟨hr, hfailure⟩ := hspelled
    simp only [tag, EventTag.names, List.forall_mem_cons] at hrel
    obtain ⟨-, -, hrelFailure, -⟩ := hrel
    exact ⟨hrequest r hr, hfailure.of_rel hrelFailure fun _ _ hdd' hd => hd.of_alike hdd'⟩

-- the tag may stand last, behind members that nobody asks for
example :
    let request : Document :=
      .object [("id", .int 1), ("kind", .string "activate"), ("identifier", .string "a.b")]
    Event.decode .text (.object [("request", request), ("note", .null),
        ("type", .string "approval_needed")])
      = Event.decode .text (.object [("type", .string "approval_needed"), ("request", request)]) := by
  rfl

/-- What an event is spelled by repeats no declared name, nor does a record among its parts. -/
theorem Spelled.holds_parts {e : Event} (h : e.Spelled d) :
    ∃ ms, d.Holds e.tag.names ms ∧ ∀ name ∈ e.tag.names, ∀ names, recordNames? name = some names →
      ∀ part, ms.lookup name = some part → ∃ fields, part.Holds names fields := by
  obtain ⟨ms, hholds, -, hspelled⟩ := h
  refine ⟨ms, hholds, ?_⟩
  have hfound {name : String} {p : Document → Prop} {names : List String}
      (h : HasMember ms name p) (hp : ∀ part, p part → ∃ fields, part.Holds names fields)
      (names' : List String) (hnames : some names = some names') (part : Document)
      (hpart : ms.lookup name = some part) : ∃ fields, part.Holds names' fields := by
    obtain ⟨d, hd, hpd⟩ := h
    obtain rfl := Option.some.inj hnames
    obtain rfl : d = part := Option.some.inj (hd.symm.trans hpart)
    exact hp d hpd
  have hrequest (r : Request) (hr : HasMember ms "request" (r.Spelled .buffer)) :=
    hfound hr fun _ ⟨fields, hfields, _⟩ => ⟨fields, hfields⟩
  have hbundle {name : String} (b : Bundle) (hb : HasMember ms name b.Spelled) :=
    hfound hb fun _ ⟨fields, hfields, _⟩ => ⟨fields, hfields⟩
  have hfailure (f : Failure) (hf : HasMember ms "failure" f.Spelled) :=
    hfound hf fun _ ⟨fields, hfields, _⟩ => ⟨fields, hfields⟩
  -- the tag, answers and results are no records
  have hother {name : String} {P : List String → Prop} (h : recordNames? name = none)
      (names : List String) (hnames : recordNames? name = some names) : P names := by
    rw [h] at hnames
    cases hnames
  cases e with
  | replacementNeeded r existing replacement action =>
    obtain ⟨hr, hexisting, hreplacement, -⟩ := hspelled
    simp only [tag, EventTag.names, List.forall_mem_cons]
    exact ⟨hother rfl, hrequest r hr, hbundle existing hexisting, hbundle replacement hreplacement,
      hother rfl, List.forall_mem_nil _⟩
  | approvalNeeded r =>
    simp only [tag, EventTag.names, List.forall_mem_cons]
    exact ⟨hother rfl, hrequest r hspelled, List.forall_mem_nil _⟩
  | finished r result =>
    simp only [tag, EventTag.names, List.forall_mem_cons]
    exact ⟨hother rfl, hrequest r hspelled.1, hother rfl, List.forall_mem_nil _⟩
  | failed r failure =>
    obtain ⟨hr, hf⟩ := hspelled
    simp only [tag, EventTag.names, List.forall_mem_cons]
    exact ⟨hother rfl, hrequest r hr, hfailure failure hf, List.forall_mem_nil _⟩

end Event

/-! ### The format -/

/-- **The format of events.**

* An event is read from the sound documents that spell it, a text within the limit of nesting; the
  tag is one of four and every declared member is spelled as its own type asks.
* By themselves the parts are read from the documents that spell them, and what spells a part by
  itself does so within an event.
* Documents that differ in the order of members or in members that are not declared, in the event
  and in the records among its parts, are read as the same event or not at all.
* A text that is read repeats no declared name, neither in the event nor in such a record. -/
theorem event_format :
    (∀ (source : Source) (d : Document) (e : Event), d.sound = true →
      (source = .text → d.depth ≤ Decode.nestingLimit) →
      (Event.decode source d = .ok e ↔ e.Spelled d)) ∧
    (∀ d : Document, d.sound = true →
      (∀ r, Request.decode .value d = .ok r ↔ r.Spelled .value d) ∧
      (∀ b, Bundle.decode .value d = .ok b ↔ b.Spelled d) ∧
      (∀ a, ReplacementAction.decode .value d = .ok a ↔ d.Spells .value a.name) ∧
      (∀ c, Completion.decode .value d = .ok c ↔ c.Spelled .value d) ∧
      (∀ f, Failure.decode .value d = .ok f ↔ f.Spelled d)) ∧
    (∀ (e : Event) (ms : Members), e.SpelledBy .value ms → e.SpelledBy .buffer ms) ∧
    (∀ (source : Source) (d d' : Document) (e : Event), d.sound = true → d'.sound = true →
      (source = .text → d.depth ≤ Decode.nestingLimit ∧ d'.depth ≤ Decode.nestingLimit) →
      d.Alike e.tag.names Event.PartAlike d' →
      (Event.decode source d = .ok e ↔ Event.decode source d' = .ok e)) ∧
    (∀ (d : Document) (e : Event), Event.decode .text d = .ok e →
      ∃ ms, d.Holds e.tag.names ms ∧
        ∀ name ∈ e.tag.names, ∀ names, Event.recordNames? name = some names →
          ∀ part, ms.lookup name = some part → ∃ fields, part.Holds names fields) := by
  refine ⟨?_, ?_, ?_, ?_, ?_⟩
  · intro source d e hsound hdepth
    exact e.decode_iff_spelled d hsound hdepth
  · intro d hsound
    exact ⟨fun r => r.decode_iff_spelled (.inl rfl) d hsound,
      fun b => b.decode_iff_spelled (.inl rfl) d hsound,
      fun a => ReplacementAction.decode_eq_ok_iff (.inl rfl) d a,
      fun c => c.decode_iff_spelled (.inl rfl) d,
      fun f => f.decode_iff_spelled (.inl rfl) d hsound⟩
  · intro e ms h
    exact h.buffered
  · intro source d d' e hsound hsound' hdepth halike
    rw [e.decode_iff_spelled d hsound fun htext => (hdepth htext).1,
      e.decode_iff_spelled d' hsound' fun htext => (hdepth htext).2]
    constructor
    · intro h
      exact h.of_alike halike
    · intro h
      exact h.of_alike (Document.Alike.symm Event.PartAlike.symm halike)
  · intro d e h
    obtain ⟨hsound, hdepth⟩ := Event.sound_of_decode_text d e h
    have hspelled := (e.decode_iff_spelled d hsound fun _ => hdepth).mp h
    exact hspelled.holds_parts

/-- An event takes a result without payload with an empty object behind its name, which is no result
    by itself.  And a text is refused for a number that nobody asks for, if it is out of range. -/
theorem event_format_exceptions :
    (Event.decode .value (.object [("request", .object [("id", .int 1),
        ("identifier", .string "a.b"), ("kind", .string "activate")]),
      ("result", .object [("Completed", .object [])]), ("type", .string "finished")])).isOk = true ∧
    (Completion.decode .value (.object [("Completed", .object [])])).isOk = false ∧
    (Event.decode .text (Document.ofJson ("\x7b\"type\":\"approval_needed\",\"request\":" ++
      "\x7b\"id\":1,\"kind\":\"activate\",\"identifier\":\"a.b\"\x7d\x7d")).1).isOk = true ∧
    (Event.decode .text (Document.ofJson ("\x7b\"type\":\"approval_needed\",\"request\":" ++
      "\x7b\"id\":1,\"kind\":\"activate\",\"identifier\":\"a.b\"\x7d," ++
      "\"x\":1e999\x7d")).1).isOk = false := by
  refine ⟨?_, ?_, ?_, ?_⟩ <;> decide +kernel

end DriverExtension
