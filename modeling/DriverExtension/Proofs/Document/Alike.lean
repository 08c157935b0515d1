import DriverExtension.Proofs.Document.Members

namespace DriverExtension.Document

/-!
# Documents that hold alike members

A record stands in a document as an object or as an array.  The object may have its members in any
order and others among them; the array has the members in the order of declaration, without names.

* `members?`, `Holds` — the members that a document holds under the declared names, none repeated;
* `Alike` — the declared members of one document are those of the other, up to their order, each
  with a part that is like the part of the other;
* `Holds.exists_of_alike` — alike documents hold members that are found alike.
-/

/-- The members that a document holds: those of an object, or the items of an array under the
    declared names in order. -/
def members? (names : List String) : Document → Option Members
  | .object ms => some ms
  | .array items => if items.length ≤ names.length then some (names.zip items) else none
  | _ => none

/-- A document holds members, and repeats none of the declared names. -/
structure Holds (names : List String) (d : Document) (ms : Members) : Prop where
  eq : d.members? names = some ms
  once : Once (names.contains ·) ms

/-- The declared members of two lists can be paired by name, each with a part like the other. -/
def MembersAlike (names : List String) (part : String → Document → Document → Prop)
    (ms ms' : Members) : Prop :=
  ∃ pairs : List (String × Document × Document),
    (among (names.contains ·) ms).Perm (pairs.map fun p => (p.1, p.2.1)) ∧
    (among (names.contains ·) ms').Perm (pairs.map fun p => (p.1, p.2.2)) ∧
    ∀ p ∈ pairs, part p.1 p.2.1 p.2.2

/-- Two documents are alike if they are the same, or hold declared members that are alike, in
    whatever order and among whatever others. -/
def Alike (names : List String) (part : String → Document → Document → Prop) (d d' : Document) :
    Prop :=
  d = d' ∨ ∃ ms ms', d.members? names = some ms ∧ d'.members? names = some ms' ∧
    MembersAlike names part ms ms'

variable {names : List String} {part : String → Document → Document → Prop} {d d' : Document}
  {ms ms' : Members}

/-! ### What a document holds -/

/-- The names of the items of an array are the first of the declared names. -/
theorem map_fst_zip_sublist (names : List String) (items : List Document) :
    ((names.zip items).map Prod.fst).Sublist names := by
  induction names generalizing items with
  | nil => simp
  | cons name rest ih =>
    cases items with
    | nil => simp
    | cons d items => exact (ih items).cons_cons name

/-- The items of an array are sound exactly if the array is. -/
theorem sound_array_iff (items : List Document) :
    (array items).sound = true ↔ ∀ d ∈ items, d.sound = true := by
  have hitems : soundItems items = true ↔ ∀ d ∈ items, d.sound = true := by
    induction items with
    | nil => simp [soundItems]
    | cons d rest ih => simp [soundItems, ih]
  exact hitems

/-- What a sound document holds is sound. -/
theorem sound_of_members? (h : d.members? names = some ms) (hd : d.sound = true) :
    (object ms).sound = true := by
  unfold members? at h
  split at h
  · rename_i ms'
    obtain rfl := Option.some.inj h
    exact hd
  · rename_i items
    split at h
    · obtain rfl := Option.some.inj h
      refine (sound_object_iff _).mpr fun m hm => ?_
      exact (sound_array_iff items).mp hd m.2 (List.of_mem_zip hm).2
    · cases h
  · cases h

/-- An object holds its members unless it repeats a declared name. -/
theorem holds_object_iff (names : List String) (ms ms' : Members) :
    Holds names (object ms) ms' ↔ ms' = ms ∧ Once (names.contains ·) ms := by
  constructor
  · rintro ⟨heq, honce⟩
    obtain rfl := Option.some.inj heq
    exact ⟨rfl, honce⟩
  · rintro ⟨rfl, honce⟩
    exact ⟨rfl, honce⟩

/-- An array that is not too long holds its items under the declared names. -/
theorem holds_array_iff (hnames : names.Nodup) (items : List Document) (ms : Members) :
    Holds names (array items) ms ↔ items.length ≤ names.length ∧ ms = names.zip items := by
  constructor
  · rintro ⟨heq, -⟩
    rw [members?] at heq
    split at heq
    · rename_i hle
      exact ⟨hle, (Option.some.inj heq).symm⟩
    · cases heq
  · rintro ⟨hle, rfl⟩
    refine ⟨if_pos hle, Once.of_nodup _ ?_⟩
    exact hnames.sublist (map_fst_zip_sublist names items)

/-! ### Likeness -/

/-- It does not matter which of the two lists is which. -/
theorem MembersAlike.symm (hpart : ∀ name d d', part name d d' → part name d' d)
    (h : MembersAlike names part ms ms') : MembersAlike names part ms' ms := by
  obtain ⟨pairs, hperm, hperm', hpairs⟩ := h
  refine ⟨pairs.map fun p => (p.1, p.2.2, p.2.1), ?_, ?_, ?_⟩
  · rw [List.map_map]
    exact hperm'
  · rw [List.map_map]
    exact hperm
  intro p hp
  obtain ⟨q, hq, rfl⟩ := List.mem_map.mp hp
  exact hpart _ _ _ (hpairs q hq)

/-- It does not matter which of the two documents is which. -/
theorem Alike.symm (hpart : ∀ name d d', part name d d' → part name d' d)
    (h : Alike names part d d') : Alike names part d' d := by
  rcases h with rfl | ⟨ms, ms', hms, hms', halike⟩
  · exact .inl rfl
  · exact .inr ⟨ms', ms, hms', hms, halike.symm hpart⟩

/-- Alike members repeat the same names. -/
theorem MembersAlike.once (h : MembersAlike names part ms ms')
    (honce : Once (names.contains ·) ms) : Once (names.contains ·) ms' := by
  obtain ⟨pairs, hperm, hperm', -⟩ := h
  have hnames := hperm.map Prod.fst
  have hnames' := hperm'.map Prod.fst
  rw [List.map_map, map_fst_among] at hnames hnames'
  exact (hnames.trans hnames'.symm).nodup_iff.mp honce

/-- Alike members are found alike, unless a declared name is repeated. -/
theorem MembersAlike.lookup (h : MembersAlike names part ms ms')
    (honce : Once (names.contains ·) ms) (name : String) (hname : name ∈ names) :
    Option.Rel (part name) (ms.lookup name) (ms'.lookup name) := by
  have honce' := h.once honce
  have hp : names.contains name = true := by simpa using hname
  obtain ⟨pairs, hperm, hperm', hpairs⟩ := h
  have hmem (d : Document) : ms.lookup name = some d ↔ ∃ p ∈ pairs, (p.1, p.2.1) = (name, d) := by
    rw [← lookup_among _ ms hp, lookup_eq_some_iff_mem (map_fst_among _ ms ▸ honce),
      hperm.mem_iff, List.mem_map]
  have hmem' (d : Document) : ms'.lookup name = some d ↔ ∃ p ∈ pairs, (p.1, p.2.2) = (name, d) := by
    rw [← lookup_among _ ms' hp, lookup_eq_some_iff_mem (map_fst_among _ ms' ▸ honce'),
      hperm'.mem_iff, List.mem_map]
  cases hlookup : ms.lookup name with
  | some d =>
    obtain ⟨⟨n, e, e'⟩, hpair, heq⟩ := (hmem d).mp hlookup
    obtain ⟨rfl, rfl⟩ : n = name ∧ e = d := by simpa using heq
    rw [(hmem' e').mpr ⟨_, hpair, rfl⟩]
    exact .some (hpairs _ hpair)
  | none =>
    cases hlookup' : ms'.lookup name with
    | none => exact .none
    | some d' =>
      -- the pair that was found on one side would have been found on the other
      obtain ⟨⟨n, e, e'⟩, hpair, heq⟩ := (hmem' d').mp hlookup'
      obtain ⟨rfl, -⟩ : n = name ∧ e' = d' := by simpa using heq
      rw [(hmem e).mpr ⟨_, hpair, rfl⟩] at hlookup
      cases hlookup

/-- **Alike documents** hold members that are found alike. -/
theorem Holds.exists_of_alike (hrefl : ∀ name d, part name d d) (h : Holds names d ms)
    (halike : Alike names part d d') :
    ∃ ms', Holds names d' ms' ∧
      ∀ name ∈ names, Option.Rel (part name) (ms.lookup name) (ms'.lookup name) := by
  rcases halike with rfl | ⟨ms₁, ms', hms, hms', hmembers⟩
  · refine ⟨ms, h, fun name _ => ?_⟩
    cases ms.lookup name with
    | none => exact .none
    | some d => exact .some (hrefl name d)
  · obtain rfl : ms₁ = ms := Option.some.inj (hms.symm.trans h.eq)
    exact ⟨ms', ⟨hms', hmembers.once h.once⟩, hmembers.lookup h.once⟩

end DriverExtension.Document
