import DriverExtension.Document.Decode
import DriverExtension.Proofs.Document.Alike
import DriverExtension.Proofs.Except

namespace DriverExtension

open Document (Members Once among)

/-!
# Reading records

When a record can be read from an object, and what is found then.  Almost all statements are about
success, so they hold for every source of documents.

* `Shape.Admits` — what a single member of the object must be;
* `Shape.scanMembers_eq_ok_iff` — scanning succeeds if every member is admitted and no declared name
  is repeated;
* `Shape.read_object_of_check` — where reading an object stops, and with which fault;
* `Shape.Fits`, `Member.Passes`, `Shape.read_object_eq_ok_iff` — an object is read exactly if it has
  a form that fits and each declared member passes its check;
* `Shape.fits_iff_of_sound` — for a sound object the form is a matter of repeated names alone;
* `Found.Members.get_eq_ok_iff`, `Found.Members.get_among` — members are got from what was found as
  from the object itself;
* `Shape.read_array_eq_ok_iff`, `Shape.decode_sound_iff` — an array is read as the object of its
  items under the declared names, so a sound record is decoded by what its document holds.
-/

/-! ### Success -/

/-- Telling where a fault is does not make one. -/
theorem Source.within_eq_ok_iff {α : Type} (source : Source) (step : Step) (r : Decoded α) (a : α) :
    source.within step r = .ok a ↔ r = .ok a := by
  unfold within
  split
  · cases r with
    | ok b => rfl
    | error fault => exact iff_of_false (fun h => by cases h) (fun h => by cases h)
  · rfl

/-- A check passes if the decoder behind it succeeds. -/
theorem Decode.checked_eq_ok_iff {α : Type} (decode : Document → Decoded α) (d : Document) :
    checked decode d = .ok () ↔ ∃ a, decode d = .ok a := by
  unfold checked
  cases decode d <;> simp [Except.map]

/-- A document of the wrong type is never read. -/
theorem Decode.mistyped_ne_ok {α : Type} (source : Source) (d : Document) (expected : String)
    (a : α) : mistyped source d expected ≠ .ok a := by
  intro h
  obtain ⟨found, -, hthrow⟩ := (bind_eq_ok_iff _ _ _).mp h
  cases hthrow

/-! ### Scanning -/

/-- Whether the document stands for a member whose name cannot be read. -/
def Document.isBadKey : Document → Bool
  | .badKey _ _ => true
  | _ => false

/-- The name of a sound member is readable. -/
theorem Document.isBadKey_of_sound (d : Document) (h : d.sound = true) : d.isBadKey = false := by
  cases d with
  | badKey key value => cases h
  | _ => rfl

namespace Shape

/-- Whether a name is declared. -/
def declares (shape : Shape) (name : String) : Bool :=
  (shape.members.find? (·.name = name)).isSome

/-- What a member of an object must be: its name is readable, and it passes the check of its name,
    or can be skipped if there is none. -/
def Admits (shape : Shape) (m : String × Document) : Prop :=
  m.2.isBadKey = false ∧
    match shape.members.find? (·.name = m.1) with
    | none => m.2.complete = true
    | some member => member.check m.2 = .ok ()

variable {source : Source} {shape : Shape}

/-- Scanning stops at a member whose name cannot be read. -/
theorem scanMembers_cons_of_isBadKey (name : String) (d : Document) (rest : Members)
    (found : Found.Members) (h : d.isBadKey = true) :
    scanMembers source shape ((name, d) :: rest) found = .error .malformed := by
  cases d with
  | badKey key value => rfl
  | _ => cases h

/-- Scanning passes over a member that is not declared. -/
theorem scanMembers_cons_of_none (name : String) (d : Document) (rest : Members)
    (found : Found.Members) (h : d.isBadKey = false)
    (hfind : shape.members.find? (·.name = name) = none) :
    scanMembers source shape ((name, d) :: rest) found
      = (do Decode.skip d; scanMembers source shape rest found) := by
  cases d with
  | badKey key value => cases h
  | _ => simp only [scanMembers, hfind]

/-- Scanning checks and keeps a member that is declared. -/
theorem scanMembers_cons_of_some (name : String) (d : Document) (rest : Members)
    (found : Found.Members) (h : d.isBadKey = false) (member : Member)
    (hfind : shape.members.find? (·.name = name) = some member) :
    scanMembers source shape ((name, d) :: rest) found
      = if (found.lookup name).isSome then .error (.duplicateField name)
        else (do
          source.within (.member name) (member.check d)
          scanMembers source shape rest (found ++ [(name, d)])) := by
  cases d with
  | badKey key value => cases h
  | _ => simp only [scanMembers, hfind]

/-- **Scanning** succeeds if every member is admitted and no declared name is repeated; it finds the
    declared members in their order. -/
theorem scanMembers_eq_ok_iff (ms : Members) (found out : Found.Members)
    (hfound : (found.map Prod.fst).Nodup) :
    scanMembers source shape ms found = .ok out ↔
      (∀ m ∈ ms, shape.Admits m) ∧ ((found ++ among shape.declares ms).map Prod.fst).Nodup ∧
        out = found ++ among shape.declares ms := by
  induction ms generalizing found with
  | nil => simp [scanMembers, among, hfound, eq_comm]
  | cons m rest ih =>
    obtain ⟨name, d⟩ := m
    cases hbad : d.isBadKey with
    | true =>
      rw [scanMembers_cons_of_isBadKey name d rest found hbad]
      simp [Admits, hbad]
    | false =>
      cases hfind : shape.members.find? (·.name = name) with
      | none =>
        -- what is not declared is passed over and does not count as found
        have hadmits : shape.Admits (name, d) ↔ d.complete = true := by simp [Admits, hbad, hfind]
        have hamong : among shape.declares ((name, d) :: rest) = among shape.declares rest := by
          simp [among, declares, hfind]
        have hskip : Decode.skip d = .ok () ↔ d.complete = true := by
          simp [Decode.skip]
        rw [scanMembers_cons_of_none name d rest found hbad hfind, bind_unit_eq_ok_iff, hamong]
        simp [ih found hfound, hskip, hadmits, and_assoc]
      | some member =>
        -- what is declared moves from the members ahead to the end of what was found
        have hadmits : shape.Admits (name, d) ↔ member.check d = .ok () := by
          simp [Admits, hbad, hfind]
        have hamong : found ++ among shape.declares ((name, d) :: rest)
            = (found ++ [(name, d)]) ++ among shape.declares rest := by
          simp [among, declares, hfind]
        rw [scanMembers_cons_of_some name d rest found hbad member hfind, hamong]
        by_cases hnew : name ∈ found.map Prod.fst
        · -- the name stands among what was found, so it would be repeated
          have hsome : (found.lookup name).isSome = true := by
            rw [Option.isSome_iff_ne_none, ne_eq, Document.lookup_eq_none_iff]
            exact fun h => h hnew
          rw [if_pos hsome]
          have hrepeated : ¬ ((found ++ [(name, d)] ++ among shape.declares rest).map
              Prod.fst).Nodup := by
            intro hnodup
            rw [List.map_append, List.map_append] at hnodup
            have hfirst := (List.nodup_append.mp hnodup).1
            exact (List.nodup_append.mp hfirst).2.2 name hnew name (by simp) rfl
          exact iff_of_false (by simp) fun h => hrepeated h.2.1
        · have hnone : (found.lookup name).isSome = false := by
            rw [Document.lookup_eq_none_iff.mpr hnew]
            rfl
          have hnext : ((found ++ [(name, d)]).map Prod.fst).Nodup := by
            rw [List.map_append, List.nodup_append]
            refine ⟨hfound, by simp, ?_⟩
            rintro n hn m hm rfl
            obtain rfl : n = name := by simpa using hm
            exact hnew hn
          rw [if_neg (by simp [hnone]), bind_unit_eq_ok_iff]
          simp [ih _ hnext, Source.within_eq_ok_iff, hadmits, and_assoc]

/-- Members in two parts are scanned one part after the other. -/
theorem scanMembers_append (before rest : Members) (found : Found.Members) :
    scanMembers source shape (before ++ rest) found
      = (scanMembers source shape before found >>= scanMembers source shape rest) := by
  induction before generalizing found with
  | nil => rfl
  | cons m before ih =>
    obtain ⟨name, d⟩ := m
    rw [List.cons_append]
    cases hbad : d.isBadKey with
    | true =>
      rw [scanMembers_cons_of_isBadKey name d _ found hbad,
        scanMembers_cons_of_isBadKey name d _ found hbad]
      rfl
    | false =>
      cases hfind : shape.members.find? (·.name = name) with
      | none =>
        rw [scanMembers_cons_of_none name d _ found hbad hfind,
          scanMembers_cons_of_none name d _ found hbad hfind]
        cases Decode.skip d with
        | ok => exact ih found
        | error e => rfl
      | some member =>
        rw [scanMembers_cons_of_some name d _ found hbad member hfind,
          scanMembers_cons_of_some name d _ found hbad member hfind]
        split
        · rfl
        · cases source.within (.member name) (member.check d) with
          | ok => exact ih _
          | error e => rfl

/-- Reading an object stops at the first member that fails its check, if what stands before it is
    scanned and does not bear its name. -/
theorem read_object_of_check {before rest : Members} {name : String} {d : Document}
    {member : Member} {found : Found.Members} {e : DecodeError}
    (hbefore : scanMembers source shape before [] = .ok found) (hbad : d.isBadKey = false)
    (hfind : shape.members.find? (·.name = name) = some member)
    (hnew : found.lookup name = none) (hcheck : member.check d = .error e) :
    shape.read source (.object (before ++ (name, d) :: rest))
      = source.within (.member name) (.error e) := by
  have hstop : scanMembers source shape ((name, d) :: rest) found
      = source.within (.member name) (.error e) := by
    rw [scanMembers_cons_of_some name d rest found hbad member hfind, hnew, hcheck]
    unfold Source.within
    cases source <;> rfl
  have hscan : scanMembers source shape (before ++ (name, d) :: rest) []
      = source.within (.member name) (.error e) := by
    rw [scanMembers_append, hbefore]
    exact hstop
  rw [read, hscan]
  unfold Source.within
  cases source <;> rfl

/-! ### Reading an object -/

/-- The form that an object must have: names are readable, what is not declared can be skipped, and
    no declared name is repeated. -/
structure Fits (shape : Shape) (ms : Members) : Prop where
  readable : ∀ m ∈ ms, m.2.isBadKey = false
  skipped : ∀ m ∈ ms, shape.declares m.1 = false → m.2.complete = true
  once : Once shape.declares ms

end Shape

/-- A declared member passes if it is there and passes its check, or is not there and need not
    be. -/
def Member.Passes (member : Member) (ms : Members) : Prop :=
  match ms.lookup member.name with
  | some d => member.check d = .ok ()
  | none => member.optional = true

namespace Shape

variable {source : Source} {shape : Shape}

/-- Of members with distinct names, the one that is found by its name is the member itself. -/
theorem find?_of_mem (hnames : (shape.members.map Member.name).Nodup) (member : Member)
    (h : member ∈ shape.members) :
    shape.members.find? (·.name = member.name) = some member := by
  obtain ⟨pre, post, heq⟩ := List.append_of_mem h
  rw [heq] at hnames ⊢
  refine List.find?_eq_some_iff_append.mpr ⟨by simp, pre, post, rfl, ?_⟩
  intro other hother
  rw [List.map_append, List.map_cons] at hnames
  have hne : other.name ≠ member.name :=
    (List.nodup_append.mp hnames).2.2 _ (List.mem_map_of_mem hother) _ List.mem_cons_self
  simpa using hne

/-- A member of the shape is declared. -/
theorem declares_of_mem (member : Member) (h : member ∈ shape.members) :
    shape.declares member.name = true := by
  simpa [declares] using ⟨member, h, rfl⟩

/-- Nothing is missing if every member that must be there is. -/
theorem missing_eq_none_iff (found : Found.Members) :
    shape.missing found = none ↔
      ∀ member ∈ shape.members, found.lookup member.name = none → member.optional = true := by
  simp only [missing, Option.map_eq_none_iff, List.find?_eq_none]
  refine forall_congr' fun member => forall_congr' fun _ => ?_
  cases found.lookup member.name <;> simp

/-- Where no declared name is repeated, every member is admitted and nothing is missing exactly if
    the form fits and every declared member passes. -/
theorem admits_iff_passes (hnames : (shape.members.map Member.name).Nodup) (ms : Members)
    (honce : Once shape.declares ms) :
    ((∀ m ∈ ms, shape.Admits m) ∧
      ∀ member ∈ shape.members, ms.lookup member.name = none → member.optional = true) ↔
    shape.Fits ms ∧ ∀ member ∈ shape.members, member.Passes ms := by
  constructor
  · rintro ⟨hadmits, hmissing⟩
    refine ⟨⟨fun m hm => (hadmits m hm).1, ?_, honce⟩, ?_⟩
    · intro m hm hdeclared
      have hnone : shape.members.find? (·.name = m.1) = none := by simpa [declares] using hdeclared
      have hadmit := (hadmits m hm).2
      rwa [hnone] at hadmit
    · intro member hmember
      unfold Member.Passes
      cases hlookup : ms.lookup member.name with
      | none => exact hmissing member hmember hlookup
      | some d =>
        have hadmit := (hadmits _ (Document.mem_of_lookup hlookup)).2
        rwa [find?_of_mem hnames member hmember] at hadmit
  · rintro ⟨hfits, hpasses⟩
    refine ⟨?_, ?_⟩
    · intro m hm
      refine ⟨hfits.readable m hm, ?_⟩
      cases hfind : shape.members.find? (·.name = m.1) with
      | none => exact hfits.skipped m hm (by simp [declares, hfind])
      | some member =>
        obtain ⟨hmember, hname⟩ : member ∈ shape.members ∧ member.name = m.1 :=
          ⟨List.mem_of_find?_eq_some hfind, by simpa using List.find?_some hfind⟩
        -- the look-up finds this very member, since its name is not repeated
        have hlookup : ms.lookup member.name = some m.2 :=
          (honce.lookup_eq_some_iff (declares_of_mem member hmember)).mpr (hname ▸ hm)
        have hpass := hpasses member hmember
        rwa [Member.Passes, hlookup] at hpass
    · intro member hmember hnone
      have hpass := hpasses member hmember
      rwa [Member.Passes, hnone] at hpass

/-- **Reading an object** succeeds exactly if it has a form that fits and every declared member
    passes; it finds the declared members. -/
theorem read_object_eq_ok_iff (hnames : (shape.members.map Member.name).Nodup) (ms : Members)
    (found : Found.Members) :
    shape.read source (.object ms) = .ok found ↔
      shape.Fits ms ∧ (∀ member ∈ shape.members, member.Passes ms) ∧
        found = among shape.declares ms := by
  -- whether a member is missing can be told from the object, since all of them are declared
  have hmissing : shape.missing (among shape.declares ms) = none ↔
      ∀ member ∈ shape.members, ms.lookup member.name = none → member.optional = true := by
    rw [missing_eq_none_iff]
    refine forall_congr' fun member => forall_congr' fun hmember => ?_
    rw [Document.lookup_among _ ms (declares_of_mem member hmember)]
  have hread : shape.read source (.object ms) = .ok found ↔
      scanMembers source shape ms [] = .ok found ∧ shape.missing found = none := by
    simp only [read, bind_eq_ok_iff]
    constructor
    · rintro ⟨out, hscan, hout⟩
      cases hm : shape.missing out with
      | some name => simp [hm, throw, throwThe, MonadExceptOf.throw] at hout
      | none =>
        obtain rfl : out = found := by simpa [hm, pure, Except.pure] using hout
        exact ⟨hscan, hm⟩
    · rintro ⟨hscan, hm⟩
      refine ⟨found, hscan, ?_⟩
      simp only [hm]
      rfl
  rw [hread, scanMembers_eq_ok_iff ms [] found (by simp)]
  constructor
  · rintro ⟨⟨hadmits, hnodup, rfl⟩, hm⟩
    have honce : Once shape.declares ms := by
      rwa [List.nil_append, Document.map_fst_among] at hnodup
    obtain ⟨hfits, hpasses⟩ := (admits_iff_passes hnames ms honce).mp ⟨hadmits, hmissing.mp hm⟩
    exact ⟨hfits, hpasses, rfl⟩
  · rintro ⟨hfits, hpasses, rfl⟩
    obtain ⟨hadmits, hm⟩ := (admits_iff_passes hnames ms hfits.once).mpr ⟨hfits, hpasses⟩
    refine ⟨⟨hadmits, ?_, rfl⟩, hmissing.mpr hm⟩
    rw [List.nil_append, Document.map_fst_among]
    exact hfits.once

/-- Whether a form fits does not depend on the order of the members. -/
theorem Fits.perm {ms ms' : Members} (h : shape.Fits ms') (hperm : ms.Perm ms') : shape.Fits ms where
  readable := fun m hm => h.readable m (hperm.mem_iff.mp hm)
  skipped := fun m hm => h.skipped m (hperm.mem_iff.mp hm)
  once := ((hperm.map Prod.fst).filter shape.declares).nodup_iff.mpr h.once

/-- A sound object has a form that fits unless a declared name is repeated. -/
theorem fits_iff_of_sound (shape : Shape) (ms : Members)
    (h : (Document.object ms).sound = true) : shape.Fits ms ↔ Once shape.declares ms := by
  refine ⟨Fits.once, ?_⟩
  intro honce
  have hsound := (Document.sound_object_iff ms).mp h
  refine ⟨?_, ?_, honce⟩
  · intro m hm
    exact Document.isBadKey_of_sound m.2 (hsound m hm)
  · intro m hm _
    exact Document.complete_of_sound m.2 (hsound m hm)

end Shape

/-! ### Getting members -/

namespace Found.Members

variable {α : Type} {found : Found.Members} {name : String} {decode : Document → Decoded α}

/-- A member is got if it is there and its document decodes. -/
theorem get_eq_ok_iff (a : α) :
    found.get name decode = .ok a ↔ ∃ d, found.lookup name = some d ∧ decode d = .ok a := by
  unfold get
  cases found.lookup name <;> simp

/-- A member with a default is got if its document decodes, or it is not there. -/
theorem getD_eq_ok_iff (default a : α) :
    found.getD name default decode = .ok a ↔
      (∃ d, found.lookup name = some d ∧ decode d = .ok a) ∨
        (found.lookup name = none ∧ default = a) := by
  unfold getD
  cases found.lookup name <;> simp

/-- A declared member is got from what was found as from the object. -/
theorem get_among (p : String → Bool) (ms : Members) (hp : p name = true) :
    get (among p ms) name decode = get ms name decode := by
  simp only [get, Document.lookup_among p ms hp]

/-- So is a member that has a default. -/
theorem getD_among (p : String → Bool) (ms : Members) (hp : p name = true) (default : α) :
    getD (among p ms) name default decode = getD ms name default decode := by
  simp only [getD, Document.lookup_among p ms hp]

end Found.Members

/-- A member that must be there passes if it can be got. -/
theorem Member.passes_required {α : Type} (name : String) (decode : Document → Decoded α)
    (ms : Members) :
    Passes ⟨name, false, Decode.checked decode⟩ ms ↔
      ∃ a, Found.Members.get ms name decode = .ok a := by
  unfold Passes Found.Members.get
  cases ms.lookup name <;> simp [Decode.checked_eq_ok_iff]

/-- A member with a default passes if it can be got. -/
theorem Member.passes_optional {α : Type} (name : String) (default : α)
    (decode : Document → Decoded α) (ms : Members) :
    Passes ⟨name, true, Decode.checked decode⟩ ms ↔
      ∃ a, Found.Members.getD ms name default decode = .ok a := by
  unfold Passes Found.Members.getD
  cases ms.lookup name <;> simp [Decode.checked_eq_ok_iff]

/-- **Decoding an object** succeeds exactly if it has a form that fits, every declared member
    passes, and the record is built from what the object holds. -/
theorem Shape.decode_object_eq_ok_iff {α : Type} {source : Source} {shape : Shape}
    (hnames : (shape.members.map Member.name).Nodup) (ms : Members)
    (build : Found.Members → Decoded α) (a : α) :
    (shape.read source (.object ms) >>= build) = .ok a ↔
      shape.Fits ms ∧ (∀ member ∈ shape.members, member.Passes ms) ∧
        build (among shape.declares ms) = .ok a := by
  rw [bind_eq_ok_iff]
  constructor
  · rintro ⟨found, hread, hbuild⟩
    obtain ⟨hfits, hpasses, rfl⟩ := (read_object_eq_ok_iff hnames ms found).mp hread
    exact ⟨hfits, hpasses, hbuild⟩
  · rintro ⟨hfits, hpasses, hbuild⟩
    exact ⟨_, (read_object_eq_ok_iff hnames ms _).mpr ⟨hfits, hpasses, rfl⟩, hbuild⟩

/-! ### Reading an array -/

/-- Telling in which item a fault is does not make one. -/
theorem Source.withinItem_eq_ok_iff {α : Type} (source : Source) (n : Nat) (r : Decoded α) (a : α) :
    source.withinItem n r = .ok a ↔ r = .ok a := by
  unfold withinItem
  split
  · rfl
  · exact source.within_eq_ok_iff _ r a

/-- Without members a declared member passes if it need not be there. -/
theorem Member.passes_nil (member : Member) : member.Passes [] ↔ member.optional = true := .rfl

/-- A member that comes first passes if it passes its check. -/
theorem Member.passes_cons_self (member : Member) (d : Document) (ms : Members) :
    member.Passes ((member.name, d) :: ms) ↔ member.check d = .ok () := by
  rw [Passes, List.lookup_cons_self]

/-- Whether a member passes does not depend on members of other names. -/
theorem Member.passes_cons_of_ne (member : Member) (name : String) (d : Document) (ms : Members)
    (h : member.name ≠ name) : member.Passes ((name, d) :: ms) ↔ member.Passes ms := by
  rw [Passes, Passes, List.lookup_cons, beq_eq_false_iff_ne.mpr h]

namespace Shape

/-- The names of the declared members, in order. -/
def names (shape : Shape) : List String := shape.members.map Member.name

variable {source : Source} {shape : Shape}

/-- The names of the members are those that are declared. -/
theorem declares_eq (shape : Shape) : shape.declares = (shape.names.contains ·) := by
  funext name
  rw [Bool.eq_iff_iff]
  simp [declares, names]

/-- Without items scanning succeeds if no member must be there. -/
theorem scanItems_nil (members : List Member) (n : Nat) (found : Found.Members) :
    scanItems source shape n members [] = .ok found ↔
      (∀ member ∈ members, member.optional = true) ∧ found = [] := by
  induction members with
  | nil =>
    show Except.ok [] = Except.ok found ↔ _
    rw [Except.ok.injEq, eq_comm]
    simp
  | cons member members ih =>
    unfold scanItems
    cases hoptional : member.optional <;> simp [ih, hoptional]

/-- **Scanning items** succeeds exactly if there are not too many and every declared member passes,
    found under its name in order. -/
theorem scanItems_eq_ok_iff (hsource : source = .value ∨ source = .buffer) (members : List Member)
    (hnames : (members.map Member.name).Nodup) (items : List Document) (n : Nat)
    (found : Found.Members) :
    scanItems source shape n members items = .ok found ↔
      items.length ≤ members.length ∧
        (∀ member ∈ members, member.Passes ((members.map Member.name).zip items)) ∧
        found = (members.map Member.name).zip items := by
  induction members generalizing items n found with
  | nil =>
    cases items with
    | nil => simp [scanItems, eq_comm]
    | cons d rest => rcases hsource with rfl | rfl <;> simp [scanItems]
  | cons member members ih =>
    obtain ⟨hnew, hrest⟩ := List.nodup_cons.mp hnames
    cases items with
    | nil =>
      rw [scanItems_nil, List.zip_nil_right]
      simp [Member.passes_nil]
    | cons d rest =>
      -- the first item is for the first member alone
      have hpasses : ∀ other ∈ members,
          (other.Passes ((member.name, d) :: (members.map Member.name).zip rest) ↔
            other.Passes ((members.map Member.name).zip rest)) := by
        intro other hother
        refine other.passes_cons_of_ne member.name d _ ?_
        intro heq
        exact hnew (heq ▸ List.mem_map_of_mem hother)
      have hscan : scanItems source shape n (member :: members) (d :: rest) = .ok found ↔
          member.check d = .ok () ∧ ∃ found',
            scanItems source shape (n + 1) members rest = .ok found' ∧
              found = (member.name, d) :: found' := by
        rw [scanItems, bind_unit_eq_ok_iff, Source.withinItem_eq_ok_iff, bind_eq_ok_iff]
        simp [pure, Except.pure, eq_comm]
      have hall : (∀ other ∈ members,
          other.Passes ((member.name, d) :: (members.map Member.name).zip rest)) ↔
            ∀ other ∈ members, other.Passes ((members.map Member.name).zip rest) :=
        forall_congr' fun other => forall_congr' fun hother => hpasses other hother
      rw [hscan, List.map_cons, List.zip_cons_cons, List.forall_mem_cons, member.passes_cons_self,
        hall]
      simp only [ih hrest, List.length_cons, Nat.add_le_add_iff_right]
      constructor
      · rintro ⟨hcheck, found', ⟨hle, hall, rfl⟩, rfl⟩
        exact ⟨hle, ⟨hcheck, hall⟩, rfl⟩
      · rintro ⟨hle, ⟨hcheck, hall⟩, rfl⟩
        exact ⟨hcheck, _, ⟨hle, hall, rfl⟩, rfl⟩

/-- **Reading an array** is reading the object that has its items as members, in order. -/
theorem read_array_eq_ok_iff (hsource : source = .value ∨ source = .buffer)
    (hnames : shape.names.Nodup) (items : List Document)
    (hsound : (Document.array items).sound = true) (found : Found.Members) :
    shape.read source (.array items) = .ok found ↔
      items.length ≤ shape.names.length ∧
        shape.read source (.object (shape.names.zip items)) = .ok found := by
  have hnodup : ((shape.names.zip items).map Prod.fst).Nodup :=
    hnames.sublist (Document.map_fst_zip_sublist _ items)
  have hobject : (Document.object (shape.names.zip items)).sound = true := by
    refine (Document.sound_object_iff _).mpr fun m hm => ?_
    exact (Document.sound_array_iff items).mp hsound m.2 (List.of_mem_zip hm).2
  have hfits : shape.Fits (shape.names.zip items) :=
    (fits_iff_of_sound shape _ hobject).mpr (Once.of_nodup _ hnodup)
  have hamong : among shape.declares (shape.names.zip items) = shape.names.zip items := by
    refine List.filter_eq_self.mpr fun m hm => ?_
    rw [declares_eq]
    simpa using (List.of_mem_zip hm).1
  have hlength : shape.names.length = shape.members.length := List.length_map ..
  rw [read_object_eq_ok_iff hnames, hamong, hlength]
  show scanItems source shape 0 shape.members items = .ok found ↔ _
  rw [scanItems_eq_ok_iff hsource shape.members hnames]
  constructor
  · rintro ⟨hle, hpasses, hfound⟩
    exact ⟨hle, hfits, hpasses, hfound⟩
  · rintro ⟨hle, -, hpasses, hfound⟩
    exact ⟨hle, hpasses, hfound⟩

/-- A record with a member that must be there is read from an object or an array only. -/
theorem object_or_array_of_read (hrequired : ∃ member ∈ shape.members, member.optional = false)
    (d : Document) (found : Found.Members) (h : shape.read source d = .ok found) :
    (∃ ms, d = .object ms) ∨ ∃ items, d = .array items := by
  cases d with
  | object ms => exact .inl ⟨ms, rfl⟩
  | array items => exact .inr ⟨items, rfl⟩
  | date =>
    have hmissing : shape.missing [] ≠ none := by
      obtain ⟨member, hmember, hoptional⟩ := hrequired
      intro hnone
      have hall := (missing_eq_none_iff []).mp hnone member hmember rfl
      rw [hoptional] at hall
      cases hall
    cases hm : shape.missing [] with
    | none => exact absurd hm hmissing
    | some name => simp [read, hm, throw, throwThe, MonadExceptOf.throw] at h
  | _ => exact absurd h (Decode.mistyped_ne_ok _ _ _ _)

/-- Members that a sound document holds have a form that fits. -/
theorem fits_of_holds {d : Document} {ms : Members} (h : d.Holds shape.names ms)
    (hsound : d.sound = true) : shape.Fits ms := by
  rw [fits_iff_of_sound _ _ (Document.sound_of_members? h.eq hsound), declares_eq]
  exact h.once

/-- **Decoding a sound record**: what its members must be in an object, the members that the
    document holds must be. -/
theorem decode_sound_iff {α : Type} {build : Found.Members → Decoded α} {a : α}
    {P : Members → Prop} (hsource : source = .value ∨ source = .buffer)
    (hnames : shape.names.Nodup) (hrequired : ∃ member ∈ shape.members, member.optional = false)
    (hobject : ∀ ms, (Document.object ms).sound = true →
      ((shape.read source (.object ms) >>= build) = .ok a ↔ shape.Fits ms ∧ P ms))
    (d : Document) (hsound : d.sound = true) :
    (shape.read source d >>= build) = .ok a ↔ ∃ ms, d.Holds shape.names ms ∧ P ms := by
  constructor
  · intro h
    obtain ⟨found, hread, hbuild⟩ := (bind_eq_ok_iff _ _ _).mp h
    obtain ⟨ms, rfl⟩ | ⟨items, rfl⟩ := object_or_array_of_read hrequired d found hread
    · obtain ⟨hfits, hP⟩ := (hobject ms hsound).mp h
      refine ⟨ms, (Document.holds_object_iff _ ms ms).mpr ⟨rfl, ?_⟩, hP⟩
      rw [← declares_eq]
      exact hfits.once
    · obtain ⟨hle, hread⟩ := (read_array_eq_ok_iff hsource hnames items hsound found).mp hread
      have hholds := (Document.holds_array_iff hnames items _).mpr ⟨hle, rfl⟩
      have hms := Document.sound_of_members? hholds.eq hsound
      have hdecode := (bind_eq_ok_iff _ _ _).mpr ⟨found, hread, hbuild⟩
      exact ⟨_, hholds, ((hobject _ hms).mp hdecode).2⟩
  · rintro ⟨ms, hholds, hP⟩
    have hms := Document.sound_of_members? hholds.eq hsound
    have h := (hobject ms hms).mpr ⟨fits_of_holds hholds hsound, hP⟩
    obtain ⟨found, hread, hbuild⟩ := (bind_eq_ok_iff _ _ _).mp h
    cases d with
    | object ms' =>
      obtain ⟨rfl, -⟩ := (Document.holds_object_iff _ _ _).mp hholds
      exact h
    | array items =>
      obtain ⟨hle, rfl⟩ := (Document.holds_array_iff hnames items ms).mp hholds
      exact (bind_eq_ok_iff _ _ _).mpr
        ⟨found, (read_array_eq_ok_iff hsource hnames items hsound found).mpr ⟨hle, hread⟩, hbuild⟩
    | _ => cases hholds.eq

end Shape

end DriverExtension
