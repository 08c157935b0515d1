import DriverExtension.Proofs.Wire.Objects

namespace DriverExtension

open Document (Members Once among)
open Found.Members (get get_among)

/-!
# Objects that write events

The tag of an event may stand anywhere among the members.  The others are set aside and read when
the tag is known.

* `EventTag.names` — the names that an event of a tag declares, its tag included;
* `Event.ReadFrom` — every declared member is there and reads as the part of the event;
* `Event.splitTag_eq_ok_iff` — what finding the tag takes;
* `Event.decode_object_iff` — an event is decoded from an object exactly if its tag is there once,
  the other members can be set aside and fit, and it can be read from them;
* `Event.decode_sound_iff` — an event is decoded from a sound document exactly if that holds its tag
  and its members.
-/

/-! ### The tag -/

namespace EventTag

/-- The members besides the tag, by tag. -/
theorem shape_members (tag : EventTag) :
    tag.shape.members
      = ⟨"request", false, Decode.checked (Request.decode .buffer)⟩ ::
        match tag with
        | .replacementNeeded =>
          [⟨"existing", false, Decode.checked (Bundle.decode .buffer)⟩,
           ⟨"replacement", false, Decode.checked (Bundle.decode .buffer)⟩,
           ⟨"action", false, Decode.checked (ReplacementAction.decode .buffer)⟩]
        | .approvalNeeded => []
        | .finished => [⟨"result", false, Decode.checked (Completion.decode .buffer)⟩]
        | .failed => [⟨"failure", false, Decode.checked (Failure.decode .buffer)⟩] := rfl

/-- The names of the members of a written event, in order. -/
def names : EventTag → List String
  | .replacementNeeded => ["type", "request", "existing", "replacement", "action"]
  | .approvalNeeded => ["type", "request"]
  | .finished => ["type", "request", "result"]
  | .failed => ["type", "request", "failure"]

/-- The tag comes before the other members. -/
theorem names_eq (tag : EventTag) : tag.names = "type" :: tag.shape.names := by
  cases tag <;> rfl

/-- The names of the members are distinct. -/
theorem nodup_names (tag : EventTag) : tag.names.Nodup := by
  cases tag <;> decide

/-- A name is that of the tag or declared by the shape. -/
theorem contains_names (tag : EventTag) (name : String) :
    tag.names.contains name = (name == "type" || tag.shape.declares name) := by
  rw [tag.names_eq, List.contains_cons, tag.shape.declares_eq]

/-- The tag is not declared a second time. -/
theorem shape_declares_type (tag : EventTag) : tag.shape.declares "type" = false := by
  cases tag <;> rfl

/-- The names of the members besides the tag are distinct. -/
theorem nodup_shape (tag : EventTag) : (tag.shape.members.map Member.name).Nodup := by
  cases tag <;> decide

/-- A tag is found by its name. -/
theorem find?_written (tag : EventTag) (s : String) :
    all.find? (·.written = s) = some tag ↔ tag.written = s := by
  constructor
  · intro h
    simpa using List.find?_some h
  · rintro rfl
    cases tag <;> rfl

/-- A tag is read from its name. -/
theorem decode_eq_ok_iff (source : Source) (d : Document) (tag : EventTag) :
    decode source d = .ok tag ↔ d = .string tag.written := by
  unfold decode
  split
  · rename_i s
    have hfind := find?_written tag s
    cases h : all.find? (·.written = s) with
    | some t =>
      rw [h, Option.some.injEq] at hfind
      rw [Except.ok.injEq, hfind, Document.string.injEq, eq_comm]
    | none =>
      rw [h] at hfind
      simp_all [eq_comm]
  · rename_i hne
    exact iff_of_false (Decode.mistyped_ne_ok _ _ _ _) (hne _)

end EventTag

namespace Event

/-- Every member that the event declares is there, and reads as the part of the event. -/
def ReadFrom (source : Source) (ms : Members) : Event → Prop
  | .replacementNeeded r existing replacement action =>
    get ms "request" (Request.decode source) = .ok r ∧
      get ms "existing" (Bundle.decode source) = .ok existing ∧
      get ms "replacement" (Bundle.decode source) = .ok replacement ∧
      get ms "action" (ReplacementAction.decode source) = .ok action
  | .approvalNeeded r => get ms "request" (Request.decode source) = .ok r
  | .finished r result =>
    get ms "request" (Request.decode source) = .ok r ∧
      get ms "result" (Completion.decode source) = .ok result
  | .failed r failure =>
    get ms "request" (Request.decode source) = .ok r ∧
      get ms "failure" (Failure.decode source) = .ok failure

/-- Reading depends on the members that are looked up alone. -/
theorem readFrom_congr (source : Source) (e : Event) (ms ms' : Members)
    (h : ∀ name, e.tag.shape.declares name = true → ms'.lookup name = ms.lookup name) :
    e.ReadFrom source ms' ↔ e.ReadFrom source ms := by
  have hget {α : Type} (name : String) (decode : Document → Decoded α)
      (hname : e.tag.shape.declares name = true) :
      get ms' name decode = get ms name decode := by
    rw [Found.Members.get, Found.Members.get, h name hname]
  cases e with
  | replacementNeeded r existing replacement action =>
    simp only [ReadFrom]
    rw [hget "request" _ rfl, hget "existing" _ rfl, hget "replacement" _ rfl, hget "action" _ rfl]
  | approvalNeeded r =>
    simp only [ReadFrom]
    rw [hget "request" _ rfl]
  | finished r result =>
    simp only [ReadFrom]
    rw [hget "request" _ rfl, hget "result" _ rfl]
  | failed r failure =>
    simp only [ReadFrom]
    rw [hget "request" _ rfl, hget "failure" _ rfl]

/-- The members after the tag are decoded exactly if they fit and the event reads from them. -/
theorem decodePayload_object_iff (tag : EventTag) (ms : Members) (e : Event) :
    decodePayload tag (.object ms) = .ok e ↔
      tag = e.tag ∧ tag.shape.Fits ms ∧ e.ReadFrom .buffer ms := by
  have hget {α : Type} (name : String) (decode : Document → Decoded α)
      (hname : tag.shape.declares name = true) :
      get (among tag.shape.declares ms) name decode = get ms name decode := get_among _ ms hname
  rw [decodePayload, Shape.decode_object_eq_ok_iff tag.nodup_shape, tag.shape_members,
    bind_eq_ok_iff, hget "request" _ (by cases tag <;> rfl)]
  cases tag with
  | replacementNeeded =>
    simp only [bind_eq_ok_iff, hget "existing" _ rfl, hget "replacement" _ rfl,
      hget "action" _ rfl, List.forall_mem_cons, Member.passes_required]
    constructor
    · rintro ⟨hfits, -, r, hr, existing, hexisting, replacement, hreplacement, action, haction, he⟩
      obtain rfl := Except.ok.inj he
      exact ⟨rfl, hfits, hr, hexisting, hreplacement, haction⟩
    · rintro ⟨htag, hfits, hread⟩
      cases e with
      | replacementNeeded r existing replacement action =>
        obtain ⟨hr, hexisting, hreplacement, haction⟩ := hread
        refine ⟨hfits, ?_, _, hr, _, hexisting, _, hreplacement, _, haction, rfl⟩
        exact ⟨⟨_, hr⟩, ⟨_, hexisting⟩, ⟨_, hreplacement⟩, ⟨_, haction⟩, by simp⟩
      | _ => cases htag
  | approvalNeeded =>
    simp only [List.forall_mem_cons, Member.passes_required]
    constructor
    · rintro ⟨hfits, -, r, hr, he⟩
      obtain rfl := Except.ok.inj he
      exact ⟨rfl, hfits, hr⟩
    · rintro ⟨htag, hfits, hread⟩
      cases e with
      | approvalNeeded r => exact ⟨hfits, ⟨⟨_, hread⟩, by simp⟩, _, hread, rfl⟩
      | _ => cases htag
  | finished =>
    simp only [bind_eq_ok_iff, hget "result" _ rfl, List.forall_mem_cons, Member.passes_required]
    constructor
    · rintro ⟨hfits, -, r, hr, result, hresult, he⟩
      obtain rfl := Except.ok.inj he
      exact ⟨rfl, hfits, hr, hresult⟩
    · rintro ⟨htag, hfits, hread⟩
      cases e with
      | finished r result =>
        obtain ⟨hr, hresult⟩ := hread
        exact ⟨hfits, ⟨⟨_, hr⟩, ⟨_, hresult⟩, by simp⟩, _, hr, _, hresult, rfl⟩
      | _ => cases htag
  | failed =>
    simp only [bind_eq_ok_iff, hget "failure" _ rfl, List.forall_mem_cons, Member.passes_required]
    constructor
    · rintro ⟨hfits, -, r, hr, failure, hfailure, he⟩
      obtain rfl := Except.ok.inj he
      exact ⟨rfl, hfits, hr, hfailure⟩
    · rintro ⟨htag, hfits, hread⟩
      cases e with
      | failed r failure =>
        obtain ⟨hr, hfailure⟩ := hread
        exact ⟨hfits, ⟨⟨_, hr⟩, ⟨_, hfailure⟩, by simp⟩, _, hr, _, hfailure, rfl⟩
      | _ => cases htag

/-! ### Finding the tag -/

/-- Whether a name is that of the tag. -/
def isTag (name : String) : Bool := name = "type"

/-- The members besides the tag. -/
def others (ms : Members) : Members := among (!isTag ·) ms

variable {source : Source}

/-- The search stops at a member whose name cannot be read. -/
theorem splitTag_cons_of_isBadKey (name : String) (d : Document) (rest : Members)
    (tag : Option EventTag) (h : d.isBadKey = true) :
    splitTag source ((name, d) :: rest) tag = .error .malformed := by
  cases d with
  | badKey key value => rfl
  | _ => cases h

/-- The search takes the tag and sets every other member aside. -/
theorem splitTag_cons (name : String) (d : Document) (rest : Members) (tag : Option EventTag)
    (h : d.isBadKey = false) :
    splitTag source ((name, d) :: rest) tag =
      if name = "type" then
        if tag.isSome then .error (.duplicateField "type")
        else (do splitTag source rest (some (← EventTag.decode source d)))
      else (do
        Decode.setAside source 1 d
        let (tag, others) ← splitTag source rest tag
        return (tag, (name, d) :: others)) := by
  cases d with
  | badKey key value => cases h
  | _ => rfl

/-- What the search for the tag asks of a member: its name is readable and, unless it is the tag, it
    can be set aside. -/
def CanSplit (source : Source) (m : String × Document) : Prop :=
  m.2.isBadKey = false ∧ (m.1 ≠ "type" → Decode.setAside source 1 m.2 = .ok ())

/-- The search goes on behind a member that is not the tag. -/
theorem splitTag_cons_of_ne (name : String) (d : Document) (rest : Members)
    (found : Option EventTag) (tag : EventTag) (left : Members) (h : d.isBadKey = false)
    (hname : name ≠ "type") :
    splitTag source ((name, d) :: rest) found = .ok (tag, left) ↔
      Decode.setAside source 1 d = .ok () ∧
        ∃ left', splitTag source rest found = .ok (tag, left') ∧ left = (name, d) :: left' := by
  rw [splitTag_cons name d rest found h, if_neg hname, bind_unit_eq_ok_iff, bind_eq_ok_iff]
  refine and_congr_right fun _ => ?_
  constructor
  · rintro ⟨⟨tag', left'⟩, hsplit, hout⟩
    obtain ⟨rfl, rfl⟩ : tag' = tag ∧ (name, d) :: left' = left := by
      simpa [pure, Except.pure] using hout
    exact ⟨left', hsplit, rfl⟩
  · rintro ⟨left', hsplit, rfl⟩
    exact ⟨_, hsplit, rfl⟩

/-- Which members must have the name of the tag: none if it has been found before, else the one that
    spells it. -/
def TagStands (found : Option EventTag) (tag : EventTag) (tags : Members) : Prop :=
  match found with
  | some t => tags = [] ∧ t = tag
  | none => tags = [("type", .string tag.written)]

/-- **Finding the tag** succeeds exactly if every member allows it and the tag stands once. -/
theorem splitTag_eq_ok_iff (ms : Members) (found : Option EventTag) (tag : EventTag)
    (left : Members) :
    splitTag source ms found = .ok (tag, left) ↔
      (∀ m ∈ ms, CanSplit source m) ∧ TagStands found tag (among isTag ms) ∧ left = others ms := by
  induction ms generalizing found left with
  | nil =>
    cases found with
    | none => simp [splitTag, TagStands, among]
    | some t => simp [splitTag, TagStands, among, others, eq_comm]
  | cons m rest ih =>
    obtain ⟨name, d⟩ := m
    cases hbad : d.isBadKey with
    | true =>
      rw [splitTag_cons_of_isBadKey name d rest found hbad]
      simp [CanSplit, hbad]
    | false =>
      by_cases hname : name = "type"
      · -- the tag: it must not have been found before, nor be found again
        subst hname
        have htags : among isTag (("type", d) :: rest) = ("type", d) :: among isTag rest := by
          simp [among, isTag]
        have hothers : others (("type", d) :: rest) = others rest := by
          simp [others, among, isTag]
        rw [splitTag_cons "type" d rest found hbad, if_pos rfl, htags, hothers]
        cases found with
        | some t => simp [TagStands]
        | none =>
          rw [if_neg (by simp), bind_eq_ok_iff]
          have hcan : CanSplit source ("type", d) := ⟨hbad, fun h => absurd rfl h⟩
          constructor
          · rintro ⟨t, ht, hsplit⟩
            obtain ⟨hrest, ⟨hnone, rfl⟩, rfl⟩ := (ih _ _).mp hsplit
            obtain rfl := (EventTag.decode_eq_ok_iff source d t).mp ht
            exact ⟨List.forall_mem_cons.mpr ⟨hcan, hrest⟩, by simp [TagStands, hnone], rfl⟩
          · rintro ⟨hall, htag, rfl⟩
            obtain ⟨rfl, hnone⟩ : d = .string tag.written ∧ among isTag rest = [] := by
              simpa [TagStands] using htag
            have hrest := (List.forall_mem_cons.mp hall).2
            exact ⟨tag, (EventTag.decode_eq_ok_iff source _ tag).mpr rfl,
              (ih _ _).mpr ⟨hrest, ⟨hnone, rfl⟩, rfl⟩⟩
      · -- any other member is set aside
        have htags : among isTag ((name, d) :: rest) = among isTag rest := by
          simp [among, isTag, hname]
        have hothers : others ((name, d) :: rest) = (name, d) :: others rest := by
          simp [others, among, isTag, hname]
        rw [splitTag_cons_of_ne name d rest found tag left hbad hname, htags, hothers]
        simp [ih, CanSplit, hbad, hname, and_assoc]

/-- **Decoding an event** from an object succeeds exactly if every member can be passed, the tag
    stands once, and the other members fit and read as the parts of the event. -/
theorem decode_object_iff (ms : Members) (e : Event) :
    decode source (.object ms) = .ok e ↔
      (∀ m ∈ ms, CanSplit source m) ∧ among isTag ms = [("type", .string e.tag.written)] ∧
        e.tag.shape.Fits (others ms) ∧ e.ReadFrom .buffer (others ms) := by
  have hdecode : decode source (.object ms)
      = (do
        let (tag, left) ← splitTag source ms none
        decodePayload tag (.object left)) := rfl
  rw [hdecode, bind_eq_ok_iff]
  constructor
  · rintro ⟨⟨tag, left⟩, hsplit, hpayload⟩
    obtain ⟨hall, htag, rfl⟩ := (splitTag_eq_ok_iff ms none tag left).mp hsplit
    obtain ⟨rfl, hfits, hread⟩ := (decodePayload_object_iff tag _ e).mp hpayload
    exact ⟨hall, htag, hfits, hread⟩
  · rintro ⟨hall, htag, hfits, hread⟩
    exact ⟨(e.tag, others ms), (splitTag_eq_ok_iff ms none _ _).mpr ⟨hall, htag, rfl⟩,
      (decodePayload_object_iff _ _ e).mpr ⟨rfl, hfits, hread⟩⟩

/-- What the shape of an event declares is not the tag. -/
theorem ne_type_of_declares (tag : EventTag) (name : String)
    (h : tag.shape.declares name = true) : isTag name = false := by
  refine decide_eq_false ?_
  rintro rfl
  rw [tag.shape_declares_type] at h
  cases h

/-- A name that is declared is the tag or declared by the shape, so none is repeated exactly if none
    of either kind is. -/
theorem once_names_iff (tag : EventTag) (ms : Members) :
    Once (tag.names.contains ·) ms ↔ Once isTag ms ∧ Once tag.shape.declares ms := by
  simp only [Document.once_iff_count, tag.contains_names]
  constructor
  · intro h
    exact ⟨fun name hname => h name (by simp_all [isTag]),
      fun name hname => h name (by simp [hname])⟩
  · rintro ⟨htag, hshape⟩ name hname
    rcases (Bool.or_eq_true _ _).mp hname with h | h
    · exact htag name (by simpa [isTag] using h)
    · exact hshape name h

/-- A declared name is found among the others as in the object. -/
theorem lookup_others (tag : EventTag) (ms : Members) (name : String)
    (h : tag.shape.declares name = true) : (others ms).lookup name = ms.lookup name :=
  Document.lookup_among _ ms (by simp [ne_type_of_declares tag name h])

/-- Setting the tag apart does not make a declared name repeat. -/
theorem once_others_iff (tag : EventTag) (ms : Members) :
    Once tag.shape.declares (others ms) ↔ Once tag.shape.declares ms := by
  have hfilter : ((others ms).map Prod.fst).filter tag.shape.declares
      = (ms.map Prod.fst).filter tag.shape.declares := by
    rw [others, Document.map_fst_among, List.filter_filter]
    refine List.filter_congr fun name _ => ?_
    cases h : tag.shape.declares name with
    | true => simp [ne_type_of_declares tag name h]
    | false => rfl
  rw [Once, Once, hfilter]

/-- **Decoding a sound event**, from a value or from a text within the limit of nesting: no declared
    name is repeated, the tag is that of the event, and the declared members read as its parts. -/
theorem decode_sound_object_iff (ms : Members) (e : Event)
    (hsound : (Document.object ms).sound = true)
    (hdepth : source = .text → (Document.object ms).depth ≤ Decode.nestingLimit) :
    decode source (.object ms) = .ok e ↔
      Once (e.tag.names.contains ·) ms ∧ ms.lookup "type" = some (.string e.tag.written) ∧
        e.ReadFrom .buffer ms := by
  have hmember := (Document.sound_object_iff ms).mp hsound
  have hcan : ∀ m ∈ ms, CanSplit source m := by
    intro m hm
    refine ⟨Document.isBadKey_of_sound m.2 (hmember m hm), fun _ => ?_⟩
    -- only in a text setting aside can fail, and a member is one level less deep than its object
    by_cases htext : source = .text
    · have hlevel := (Document.depth_object_le_iff ms 126).mp (hdepth htext) m hm
      have hlimit : m.2.depth + 1 ≤ Decode.nestingLimit := by
        rw [Decode.nestingLimit]
        omega
      simp [Decode.setAside, hmember m hm, hlimit]
    · simp [Decode.setAside, htext]
  have hothers : (Document.object (others ms)).sound = true := by
    refine (Document.sound_object_iff _).mpr fun m hm => hmember m ?_
    exact (List.mem_filter.mp hm).1
  have htag : among isTag ms = [("type", .string e.tag.written)] ↔
      Once isTag ms ∧ ms.lookup "type" = some (.string e.tag.written) :=
    Document.among_eq_singleton_iff "type" _ ms
  rw [decode_object_iff, once_names_iff, Shape.fits_iff_of_sound _ _ hothers, once_others_iff,
    readFrom_congr .buffer e ms (others ms) (lookup_others e.tag ms), htag]
  constructor
  · rintro ⟨-, ⟨honce, htype⟩, hshape, hread⟩
    exact ⟨⟨honce, hshape⟩, htype, hread⟩
  · rintro ⟨⟨honce, hshape⟩, htype, hread⟩
    exact ⟨hcan, ⟨honce, htype⟩, hshape, hread⟩

/-! ### Any sound document -/

/-- The members after the tag may stand in an array, in order. -/
theorem decodePayload_array_iff (tag : EventTag) (items : List Document) (e : Event)
    (hsound : (Document.array items).sound = true) :
    decodePayload tag (.array items) = .ok e ↔
      tag = e.tag ∧ items.length ≤ tag.shape.names.length ∧
        e.ReadFrom .buffer (tag.shape.names.zip items) := by
  have hrequired : ∃ member ∈ tag.shape.members, member.optional = false :=
    ⟨_, List.mem_cons_self, rfl⟩
  have hholds : decodePayload tag (.array items) = .ok e ↔
      ∃ ms, (Document.array items).Holds tag.shape.names ms ∧ tag = e.tag ∧ e.ReadFrom .buffer ms :=
    Shape.decode_sound_iff (.inr rfl) tag.nodup_shape hrequired
      (fun ms _ => (decodePayload_object_iff tag ms e).trans and_left_comm) _ hsound
  have hnodup : tag.shape.names.Nodup := tag.nodup_shape
  rw [hholds]
  simp only [Document.holds_array_iff hnodup]
  constructor
  · rintro ⟨ms, ⟨hle, rfl⟩, htag, hread⟩
    exact ⟨htag, hle, hread⟩
  · rintro ⟨htag, hle, hread⟩
    exact ⟨_, ⟨hle, rfl⟩, htag, hread⟩

/-- An event in an array has its tag first. -/
theorem decode_sound_array_iff (items : List Document) (e : Event)
    (hsound : (Document.array items).sound = true)
    (hdepth : source = .text → (Document.array items).depth ≤ Decode.nestingLimit) :
    decode source (.array items) = .ok e ↔
      ∃ ms, (Document.array items).Holds e.tag.names ms ∧
        ms.lookup "type" = some (.string e.tag.written) ∧ e.ReadFrom .buffer ms := by
  have hnodup : ("type" :: e.tag.shape.names).Nodup := e.tag.names_eq ▸ e.tag.nodup_names
  simp only [e.tag.names_eq, Document.holds_array_iff hnodup]
  cases items with
  | nil =>
    refine iff_of_false (fun h => by cases h) ?_
    rintro ⟨ms, ⟨-, rfl⟩, htype, -⟩
    cases htype
  | cons first others =>
    obtain ⟨-, hothers⟩ := (Bool.and_eq_true _ _).mp hsound
    have haside : Decode.setAside source 0 (.array others) = .ok () := by
      by_cases htext : source = .text
      · have hlevel := hdepth htext
        simp only [Document.depth, Document.depthItems] at hlevel
        have hlimit : (Document.array others).depth ≤ Decode.nestingLimit := by
          rw [Document.depth]
          omega
        have hsound' : (Document.array others).sound = true := hothers
        simp [Decode.setAside, hsound', hlimit]
      · simp [Decode.setAside, htext]
    have hdecode : decode source (.array (first :: others)) = .ok e ↔
        first = .string e.tag.written ∧ decodePayload e.tag (.array others) = .ok e := by
      have hsteps : decode source (.array (first :: others)) = (do
          let tag ← EventTag.decode source first
          Decode.setAside source 0 (.array others)
          decodePayload tag (.array others)) := rfl
      rw [hsteps, bind_eq_ok_iff]
      constructor
      · rintro ⟨tag, htag, hrest⟩
        have hpayload := ((bind_unit_eq_ok_iff _ _ _).mp hrest).2
        obtain rfl : tag = e.tag := ((decodePayload_array_iff tag others e hothers).mp hpayload).1
        exact ⟨(EventTag.decode_eq_ok_iff source first e.tag).mp htag, hpayload⟩
      · rintro ⟨hfirst, hpayload⟩
        exact ⟨e.tag, (EventTag.decode_eq_ok_iff source first e.tag).mpr hfirst,
          (bind_unit_eq_ok_iff _ _ _).mpr ⟨haside, hpayload⟩⟩
    -- behind the tag every declared name is found as among the other items
    have hread := readFrom_congr .buffer e (e.tag.shape.names.zip others)
      (("type", first) :: e.tag.shape.names.zip others) fun name hname => by
        have hne : (name == "type") = false := by
          simpa [isTag] using ne_type_of_declares e.tag name hname
        rw [List.lookup_cons, hne]
    rw [hdecode, decodePayload_array_iff e.tag others e hothers]
    constructor
    · rintro ⟨rfl, -, hle, hothers⟩
      exact ⟨_, ⟨Nat.succ_le_succ hle, rfl⟩, rfl, hread.mpr hothers⟩
    · rintro ⟨ms, ⟨hle, rfl⟩, htype, hall⟩
      obtain rfl : first = .string e.tag.written := Option.some.inj htype
      exact ⟨rfl, rfl, Nat.le_of_succ_le_succ hle, hread.mp hall⟩

/-- **Decoding a sound event** from any document: it holds the members of the event, none of them
    repeated, its tag and parts that read as those of the event. -/
theorem decode_sound_iff (d : Document) (e : Event) (hsound : d.sound = true)
    (hdepth : source = .text → d.depth ≤ Decode.nestingLimit) :
    decode source d = .ok e ↔
      ∃ ms, d.Holds e.tag.names ms ∧ ms.lookup "type" = some (.string e.tag.written) ∧
        e.ReadFrom .buffer ms := by
  cases d with
  | object ms =>
    rw [decode_sound_object_iff ms e hsound hdepth]
    simp only [Document.holds_object_iff]
    constructor
    · rintro ⟨honce, htype, hread⟩
      exact ⟨ms, ⟨rfl, honce⟩, htype, hread⟩
    · rintro ⟨ms', ⟨rfl, honce⟩, htype, hread⟩
      exact ⟨honce, htype, hread⟩
  | array items => exact decode_sound_array_iff items e hsound hdepth
  | _ =>
    refine iff_of_false (Decode.mistyped_ne_ok _ _ _ _) ?_
    rintro ⟨ms, hholds, -⟩
    cases hholds.eq

/-- A text is decoded only if it is sound and within the limit of nesting. -/
theorem sound_of_decode_text (d : Document) (e : Event) (h : decode .text d = .ok e) :
    d.sound = true ∧ d.depth ≤ Decode.nestingLimit := by
  have haside (outer : Nat) (d : Document) (h : Decode.setAside .text outer d = .ok ()) :
      d.sound = true ∧ d.depth + outer ≤ Decode.nestingLimit := by
    simpa [Decode.setAside] using h
  cases d with
  | object ms =>
    obtain ⟨hcan, htag, -⟩ := (decode_object_iff ms e).mp h
    have hmember : ∀ m ∈ ms, m.2.sound = true ∧ m.2.depth ≤ 126 := by
      intro m hm
      by_cases hname : m.1 = "type"
      · have hmem : m ∈ among isTag ms := by simp [among, isTag, hm, hname]
        rw [htag, List.mem_singleton] at hmem
        rw [hmem]
        exact ⟨rfl, Nat.zero_le _⟩
      · obtain ⟨hsound, hlevel⟩ := haside 1 m.2 ((hcan m hm).2 hname)
        rw [Decode.nestingLimit] at hlevel
        exact ⟨hsound, by omega⟩
    exact ⟨(Document.sound_object_iff ms).mpr fun m hm => (hmember m hm).1,
      (Document.depth_object_le_iff ms 126).mpr fun m hm => (hmember m hm).2⟩
  | array items =>
    cases items with
    | nil => cases h
    | cons first others =>
      obtain ⟨tag, htag, hrest⟩ := (bind_eq_ok_iff _ _ _).mp h
      obtain rfl := (EventTag.decode_eq_ok_iff .text first tag).mp htag
      obtain ⟨hsound, hlevel⟩ := haside 0 _ ((bind_unit_eq_ok_iff _ _ _).mp hrest).1
      refine ⟨by simpa [Document.sound, Document.soundItems] using hsound, ?_⟩
      simpa [Document.depth, Document.depthItems] using hlevel
  | _ => exact absurd h (Decode.mistyped_ne_ok _ _ _ _)

end Event
end DriverExtension
