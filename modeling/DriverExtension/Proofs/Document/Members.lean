import DriverExtension.Document.Basic

namespace DriverExtension.Document

/-!
# Members by name

The members of an object form a list in which names may repeat.  Where a name that is asked for
occurs once, the order of the list does not matter.

* `Once` — none of the names that are asked for is repeated;
* `Once.lookup_eq_some_iff`, `lookup_eq_some_iff_mem`, `lookup_of_perm` — a look-up finds the only
  member of a name, in whatever order the members stand;
* `sortedMembers_perm` — sorting by name only reorders members whose names are distinct;
* `sound_object_iff`, `depth_object_le_iff` — soundness and depth, member by member;
* `Reorders`, `Reorders.exists_reordered` — what sorting and leaving alone have in common, and what
  it leaves of an object.
-/

/-- The members of an object, in order. -/
abbrev Members := List (String × Document)

/-- No name that satisfies `p` is repeated. -/
def Once (p : String → Bool) (ms : Members) : Prop := ((ms.map Prod.fst).filter p).Nodup

/-- The members whose names satisfy `p`. -/
def among (p : String → Bool) (ms : Members) : Members := ms.filter fun m => p m.1

variable {p : String → Bool} {ms ms' : Members} {name : String} {d : Document}

/-! ### Looking up -/

/-- A look-up that finds nothing has no member to find. -/
theorem lookup_eq_none_iff : ms.lookup name = none ↔ name ∉ ms.map Prod.fst := by
  rw [List.lookup_eq_none_iff]
  constructor
  · intro h hmem
    obtain ⟨m, hm, rfl⟩ := List.mem_map.mp hmem
    simpa using h m hm
  · intro h m hm
    have hne : name ≠ m.1 := by
      rintro rfl
      exact h (List.mem_map_of_mem hm)
    simpa using hne

/-- What a look-up finds is a member. -/
theorem mem_of_lookup {β : Type} {l : List (String × β)} {b : β} (h : l.lookup name = some b) :
    (name, b) ∈ l := by
  obtain ⟨pre, post, rfl, -⟩ := List.lookup_eq_some_iff.mp h
  simp

/-- Where names are distinct, a look-up finds every member. -/
theorem lookup_eq_some_iff_mem {β : Type} {l : List (String × β)} (h : (l.map Prod.fst).Nodup)
    (name : String) (b : β) : l.lookup name = some b ↔ (name, b) ∈ l := by
  refine ⟨mem_of_lookup, ?_⟩
  intro hmem
  obtain ⟨pre, post, rfl⟩ := List.append_of_mem hmem
  refine List.lookup_eq_some_iff.mpr ⟨pre, post, rfl, ?_⟩
  -- an earlier member of that name would repeat it
  intro m hm
  rw [List.map_append, List.map_cons] at h
  have hne : m.1 ≠ name :=
    (List.nodup_append.mp h).2.2 _ (List.mem_map_of_mem hm) _ List.mem_cons_self
  simpa using hne.symm

/-- Where names are distinct, reordering does not change what is found. -/
theorem lookup_of_perm (hperm : ms.Perm ms') (h : (ms'.map Prod.fst).Nodup) (name : String) :
    ms.lookup name = ms'.lookup name := by
  have h' : (ms.map Prod.fst).Nodup := (hperm.map Prod.fst).nodup_iff.mpr h
  refine Option.ext fun d => ?_
  rw [lookup_eq_some_iff_mem h', lookup_eq_some_iff_mem h]
  exact hperm.mem_iff

/-- Leaving out other members does not change what is found. -/
theorem lookup_among (p : String → Bool) (ms : Members) (hp : p name = true) :
    (among p ms).lookup name = ms.lookup name := by
  induction ms with
  | nil => rfl
  | cons m rest ih =>
    obtain ⟨n, e⟩ := m
    unfold among at ih ⊢
    by_cases hn : name = n
    · subst hn
      simp [hp]
    · have hbeq : (name == n) = false := by simpa using hn
      cases hpn : p n <;> simp [List.lookup_cons, hpn, hbeq, ih]

/-- The names of the members that satisfy `p`. -/
theorem map_fst_among (p : String → Bool) (ms : Members) :
    (among p ms).map Prod.fst = (ms.map Prod.fst).filter p := by
  rw [among, List.filter_map]
  rfl

/-- A look-up finds the member of a name that is not repeated. -/
theorem Once.lookup_eq_some_iff (h : Once p ms) (hp : p name = true) :
    ms.lookup name = some d ↔ (name, d) ∈ ms := by
  have hnodup : ((among p ms).map Prod.fst).Nodup := by rwa [map_fst_among]
  rw [← lookup_among p ms hp, lookup_eq_some_iff_mem hnodup]
  simp [among, hp]

/-- A name that is not repeated occurs at most once. -/
theorem once_iff_count : Once p ms ↔ ∀ name, p name = true → (ms.map Prod.fst).count name ≤ 1 := by
  rw [Once, List.nodup_iff_count]
  refine forall_congr' fun name => ?_
  cases hp : p name with
  | true => simp [List.count_filter, hp]
  | false =>
    have hnone : name ∉ (ms.map Prod.fst).filter p := by simp [hp]
    simp [List.count_eq_zero.mpr hnone]

/-- Distinct names are not repeated. -/
theorem Once.of_nodup (p : String → Bool) (h : (ms.map Prod.fst).Nodup) : Once p ms :=
  h.sublist List.filter_sublist

/-- A member stands alone under its name if the name is not repeated and the member is found. -/
theorem among_eq_singleton_iff (name : String) (d : Document) (ms : Members) :
    among (· = name) ms = [(name, d)] ↔ Once (· = name) ms ∧ ms.lookup name = some d := by
  have hp : decide (name = name) = true := decide_eq_true rfl
  constructor
  · intro h
    refine ⟨?_, ?_⟩
    · rw [Once, ← map_fst_among, h]
      simp
    · rw [← lookup_among (· = name) ms hp, h]
      simp
  · rintro ⟨honce, hlookup⟩
    have hmem : (name, d) ∈ among (· = name) ms := by
      rw [← lookup_among (· = name) ms hp] at hlookup
      exact mem_of_lookup hlookup
    have hname : ∀ m ∈ among (· = name) ms, m.1 = name := by simp [among]
    rw [Once, ← map_fst_among] at honce
    match h : among (· = name) ms with
    | [] => simp [h] at hmem
    | [m] =>
      rw [h] at hmem
      rw [List.mem_singleton.mp hmem]
    | m :: m' :: rest =>
      -- two members of one name would repeat it
      have hm := hname m (by simp [h])
      have hm' := hname m' (by simp [h])
      simp [h, hm, hm'] at honce

/-! ### Sorting -/

/-- Putting in a member of a new name adds it. -/
theorem insertMember_perm (name : String) (d : Document) (ms : Members)
    (h : name ∉ ms.map Prod.fst) : (insertMember name d ms).Perm ((name, d) :: ms) := by
  induction ms with
  | nil => exact .refl _
  | cons m rest ih =>
    obtain ⟨n, e⟩ := m
    obtain ⟨hne, hrest⟩ : name ≠ n ∧ name ∉ rest.map Prod.fst := by simpa using h
    unfold insertMember
    rw [if_neg hne]
    split
    · exact .refl _
    · exact ((ih hrest).cons (n, e)).trans (.swap _ _ _)

/-- **Sorting** reorders members whose names are distinct, each with its value sorted. -/
theorem sortedMembers_perm (ms done : Members) (h : ((ms ++ done).map Prod.fst).Nodup) :
    (sortedMembers ms done).Perm (ms.map (fun m => (m.1, m.2.sorted)) ++ done) := by
  induction ms generalizing done with
  | nil => exact .refl _
  | cons m rest ih =>
    obtain ⟨n, e⟩ := m
    obtain ⟨hnew, hnodup⟩ : n ∉ (rest ++ done).map Prod.fst ∧ ((rest ++ done).map Prod.fst).Nodup :=
      List.nodup_cons.mp h
    have hdone : n ∉ done.map Prod.fst := by
      intro hmem
      exact hnew (by simp_all)
    have hinsert := insertMember_perm n e.sorted done hdone
    -- the names ahead and those put in stay the same altogether
    have hnext : ((rest ++ insertMember n e.sorted done).map Prod.fst).Nodup := by
      have hperm : ((rest ++ insertMember n e.sorted done).map Prod.fst).Perm
          (((n, e) :: (rest ++ done)).map Prod.fst) := by
        have hmove := ((hinsert.append_left rest).trans List.perm_middle).map Prod.fst
        simpa using hmove
      exact hperm.nodup_iff.mpr h
    unfold sortedMembers
    refine (ih _ hnext).trans ?_
    refine (hinsert.append_left _).trans ?_
    exact List.perm_middle

/-! ### Soundness and depth -/

mutual

/-- A sound document is complete. -/
theorem complete_of_sound (d : Document) (h : d.sound = true) : d.complete = true := by
  cases d with
  | array items => exact completeItems_of_sound items h
  | object ms => exact completeMembers_of_sound ms h
  | broken => cases h
  | unreadable => cases h
  | badKey key value => cases h
  | _ => rfl

/-- Sound items are complete. -/
theorem completeItems_of_sound (items : List Document) (h : soundItems items = true) :
    completeItems items = true := by
  cases items with
  | nil => rfl
  | cons d rest =>
    obtain ⟨hd, hrest⟩ := (Bool.and_eq_true _ _).mp h
    simp [completeItems, complete_of_sound d hd, completeItems_of_sound rest hrest]

/-- Sound members are complete. -/
theorem completeMembers_of_sound (ms : Members) (h : soundMembers ms = true) :
    completeMembers ms = true := by
  cases ms with
  | nil => rfl
  | cons m rest =>
    obtain ⟨name, d⟩ := m
    obtain ⟨hd, hrest⟩ := (Bool.and_eq_true _ _).mp h
    simp [completeMembers, complete_of_sound d hd, completeMembers_of_sound rest hrest]

end

/-- An object is sound exactly if each of its members is. -/
theorem sound_object_iff (ms : Members) :
    (object ms).sound = true ↔ ∀ m ∈ ms, m.2.sound = true := by
  have hmembers : soundMembers ms = true ↔ ∀ m ∈ ms, m.2.sound = true := by
    induction ms with
    | nil => simp [soundMembers]
    | cons m rest ih => simp [soundMembers, ih]
  exact hmembers

/-- An object is one level deeper than the deepest of its members. -/
theorem depth_object_le_iff (ms : Members) (n : Nat) :
    (object ms).depth ≤ n + 1 ↔ ∀ m ∈ ms, m.2.depth ≤ n := by
  have hmembers : depthMembers ms ≤ n ↔ ∀ m ∈ ms, m.2.depth ≤ n := by
    induction ms with
    | nil => simp [depthMembers]
    | cons m rest ih =>
      rw [depthMembers, Nat.max_le, ih]
      simp
  rw [depth, Nat.add_le_add_iff_right]
  exact hmembers

/-! ### Writing in another order -/

/-- What writes a document in some order of its members: scalars stay, and objects whose names are
    distinct keep their members, each of them reordered. -/
structure Reorders (f : Document → Document) : Prop where
  null : f .null = .null
  int (n : Int) : f (.int n) = .int n
  string (s : String) : f (.string s) = .string s
  object (ms : Members) (h : (ms.map Prod.fst).Nodup) :
    ∃ ms', f (.object ms) = .object ms' ∧ ms'.Perm (ms.map fun m => (m.1, f m.2))

/-- Leaving the order alone is one way. -/
theorem reorders_id : Reorders id where
  null := rfl
  int _ := rfl
  string _ := rfl
  object ms _ := ⟨ms, rfl, by simp⟩

/-- Sorting by name is another. -/
theorem reorders_sorted : Reorders sorted where
  null := rfl
  int _ := rfl
  string _ := rfl
  object ms h := by
    refine ⟨sortedMembers ms [], rfl, ?_⟩
    have hperm := sortedMembers_perm ms [] (by simpa using h)
    rwa [List.append_nil] at hperm

/-- A document that is sound and at most `n` levels deep. -/
structure Neat (n : Nat) (d : Document) : Prop where
  sound : d.sound = true
  depth_le : d.depth ≤ n

/-- What an object with distinct names becomes in another order: its members are found by their
    names as before, each in another order itself. -/
structure Reordered (f : Document → Document) (ms ms' : Members) : Prop where
  nodup : (ms'.map Prod.fst).Nodup
  lookup : ∀ name, ms'.lookup name = (ms.lookup name).map f
  mem : ∀ m ∈ ms', ∃ d, (m.1, d) ∈ ms ∧ m.2 = f d

variable {f : Document → Document}

/-- Looking up in a list whose values were all changed. -/
theorem lookup_map_snd (f : Document → Document) (ms : Members) (name : String) :
    (ms.map fun m => (m.1, f m.2)).lookup name = (ms.lookup name).map f := by
  induction ms with
  | nil => rfl
  | cons m rest ih =>
    rw [List.map_cons, List.lookup_cons, List.lookup_cons, ih]
    cases name == m.1 <;> rfl

/-- An object with distinct names keeps its members. -/
theorem Reorders.exists_reordered (hf : Reorders f) (ms : Members)
    (h : (ms.map Prod.fst).Nodup) : ∃ ms', f (.object ms) = .object ms' ∧ Reordered f ms ms' := by
  obtain ⟨ms', heq, hperm⟩ := hf.object ms h
  have hnames : (ms.map fun m => (m.1, f m.2)).map Prod.fst = ms.map Prod.fst := by simp
  have hnodup : (ms'.map Prod.fst).Nodup :=
    (hperm.map Prod.fst).nodup_iff.mpr (hnames ▸ h)
  refine ⟨ms', heq, hnodup, ?_, ?_⟩
  · intro name
    rw [← lookup_map_snd]
    refine Option.ext fun d => ?_
    rw [lookup_eq_some_iff_mem hnodup, lookup_eq_some_iff_mem (hnames ▸ h), hperm.mem_iff]
  · intro m hm
    obtain ⟨m', hm', rfl⟩ := List.mem_map.mp (hperm.mem_iff.mp hm)
    exact ⟨m'.2, hm', rfl⟩

/-- An object is neat if its members are. -/
theorem Reordered.neat {n : Nat} (h : Reordered f ms ms') (hms : ∀ m ∈ ms, Neat n (f m.2)) :
    Neat (n + 1) (.object ms') := by
  have hneat : ∀ m ∈ ms', Neat n m.2 := by
    intro m hm
    obtain ⟨d, hd, heq⟩ := h.mem m hm
    exact heq ▸ hms _ hd
  exact ⟨(sound_object_iff ms').mpr fun m hm => (hneat m hm).sound,
    (depth_object_le_iff ms' n).mpr fun m hm => (hneat m hm).depth_le⟩

end DriverExtension.Document
