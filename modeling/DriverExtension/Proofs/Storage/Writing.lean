import DriverExtension.Proofs.Except
import DriverExtension.Proofs.Text.Utf8
import DriverExtension.Storage.Files

namespace DriverExtension.Storage

open Text

/-!
# Files that were written

A text that was written to a file is read from it.  The path leads to the same place afterwards,
since no directory is lost when something that is none is replaced.

* `FileNode.get?_put_self` — what was put at a place lies there;
* `FileNode.hasDirectory_put` — the directories are still there;
* `FileTree.follow_of_hasDirectory`, `FileTree.locate_put` — so paths lead where they led;
* `FileTree.alter_eq_ok` — what writing does;
* `FileTree.readText_of_writeText` — the round trip.
-/

namespace FileNode

/-- Whether there is a directory at a place. -/
def HasDirectory (here : FileNode) (p : Place) : Prop :=
  ∃ entries, here.get? p = some (.directory entries)

/-! ### Entries -/

/-- The first entry of a name is the one that is found. -/
theorem lookup_cons_eq (n m : String) (y : FileNode) (rest : List (String × FileNode)) :
    ((m, y) :: rest).lookup n = if n = m then some y else rest.lookup n := by
  rw [List.lookup_cons]
  by_cases h : n = m
  · rw [beq_iff_eq.mpr h, if_pos h]
  · rw [beq_false_of_ne h, if_neg h]

/-- Replacing or adding an entry changes what is found under its name. -/
theorem lookup_putEntry (name n : String) (x : FileNode) (entries : List (String × FileNode)) :
    (putEntry name x entries).lookup n = if n = name then some x else entries.lookup n := by
  induction entries with
  | nil => rw [putEntry, lookup_cons_eq]
  | cons entry rest ih =>
    obtain ⟨m, y⟩ := entry
    rw [putEntry]
    by_cases hm : m = name
    · -- the entry is here, and those after it are not asked
      rw [if_pos hm, lookup_cons_eq, lookup_cons_eq, hm]
      by_cases hn : n = name
      · rw [if_pos hn, if_pos hn]
      · rw [if_neg hn, if_neg hn, if_neg hn]
    · rw [if_neg hm, lookup_cons_eq, lookup_cons_eq, ih]
      by_cases hn : n = name
      · rw [if_pos hn, if_pos hn, if_neg fun h => hm (h.symm.trans hn)]
      · rw [if_neg hn, if_neg hn]

/-- What lies further inside lies in the entry of the first name. -/
theorem get?_cons (entries : List (String × FileNode)) (name : String) (rest : Place) :
    (directory entries).get? (name :: rest) = (entries.lookup name).bind (·.get? rest) := by
  rw [get?]
  cases entries.lookup name <;> rfl

/-- Only a directory has something inside. -/
theorem exists_of_get?_cons {here x : FileNode} {name : String} {rest : Place}
    (h : here.get? (name :: rest) = some x) :
    ∃ entries inner, here = directory entries ∧ entries.lookup name = some inner ∧
      inner.get? rest = some x := by
  cases here with
  | file bytes => cases h
  | device hasRoom => cases h
  | directory entries =>
    rw [get?_cons, Option.bind_eq_some_iff] at h
    obtain ⟨inner, hlookup, hinner⟩ := h
    exact ⟨entries, inner, rfl, hlookup, hinner⟩

/-- Putting something inside a directory changes no entry but the one of the first name, and inside
    this one it puts the same. -/
theorem exists_put_cons (entries : List (String × FileNode)) (name : String) (rest : Place)
    (x : FileNode) :
    ∃ entries', (directory entries).put (name :: rest) x = directory entries' ∧
      (∀ n, n ≠ name → entries'.lookup n = entries.lookup n) ∧
      (∀ inner, entries.lookup name = some inner →
        entries'.lookup name = some (inner.put rest x)) := by
  have hput : ∀ (y : FileNode) (n : String), n ≠ name →
      (putEntry name y entries).lookup n = entries.lookup n :=
    fun y n hn => by rw [lookup_putEntry, if_neg hn]
  cases rest with
  | nil =>
    refine ⟨putEntry name x entries, by rw [put], hput x, fun inner _ => ?_⟩
    rw [lookup_putEntry, if_pos rfl, put]
  | cons a rest =>
    cases hlookup : entries.lookup name with
    | none =>
      have hstep : (directory entries).put (name :: a :: rest) x = directory entries := by
        simp only [put, hlookup]
      exact ⟨entries, hstep, fun _ _ => rfl, fun inner h => by cases h⟩
    | some inner =>
      have hstep : (directory entries).put (name :: a :: rest) x
          = directory (putEntry name (inner.put (a :: rest) x) entries) := by
        simp only [put, hlookup]
      refine ⟨_, hstep, hput _, fun inner' h => ?_⟩
      rw [lookup_putEntry, if_pos rfl, Option.some.inj h]

/-! ### Places -/

/-- What was put into a directory lies there. -/
theorem get?_put_self {here : FileNode} {p : Place} (h : here.HasDirectory p) (name : String)
    (x : FileNode) : (here.put (p ++ [name]) x).get? (p ++ [name]) = some x := by
  obtain ⟨entries, hentries⟩ := h
  induction p generalizing here with
  | nil =>
    obtain rfl : here = directory entries := Option.some.inj hentries
    rw [List.nil_append, put, get?_cons, lookup_putEntry, if_pos rfl]
    rfl
  | cons a p ih =>
    obtain ⟨es, inner, rfl, hlookup, hinner⟩ := exists_of_get?_cons hentries
    obtain ⟨es', hput, -, hsame⟩ := exists_put_cons es a (p ++ [name]) x
    rw [List.cons_append, hput, get?_cons, hsame inner hlookup]
    exact ih hinner

/-- Where something is put that was no directory, every directory is still there: it was neither at
    that place nor further inside. -/
theorem hasDirectory_put {here : FileNode} {p : Place} (hp : ¬ here.HasDirectory p) (x : FileNode)
    {q : Place} (hq : here.HasDirectory q) : (here.put p x).HasDirectory q := by
  obtain ⟨entries, hentries⟩ := hq
  induction p generalizing here q with
  | nil =>
    cases q with
    | nil => exact absurd ⟨entries, hentries⟩ hp
    | cons a q =>
      obtain ⟨es, -, rfl, -⟩ := exists_of_get?_cons hentries
      exact absurd ⟨es, rfl⟩ hp
  | cons name p ih =>
    cases here with
    | file bytes => exact ⟨entries, hentries⟩
    | device hasRoom => exact ⟨entries, hentries⟩
    | directory es =>
      obtain ⟨es', hput, hothers, hsame⟩ := exists_put_cons es name p x
      rw [hput]
      cases q with
      | nil => exact ⟨es', rfl⟩
      | cons a q =>
        obtain ⟨_, inner, hes, hlookup, hinner⟩ := exists_of_get?_cons hentries
        cases hes
        by_cases ha : a = name
        · subst ha
          -- there is no directory at the rest of the place inside the entry either
          have hrest : ¬ inner.HasDirectory p := by
            rintro ⟨es'', hdir⟩
            refine hp ⟨es'', ?_⟩
            rw [get?_cons, hlookup]
            exact hdir
          obtain ⟨es'', hdir⟩ := ih hrest hinner
          refine ⟨es'', ?_⟩
          rw [get?_cons, hsame inner hlookup]
          exact hdir
        · refine ⟨entries, ?_⟩
          rw [get?_cons, hothers a ha, hlookup]
          exact hinner

end FileNode

namespace FileTree

/-- Whether there is a directory at a place. -/
def HasDirectory (t : FileTree) (p : Place) : Prop := t.root.HasDirectory p

/-! ### Paths -/

/-- Names lead on only through directories. -/
theorem follow_cons_eq_ok {t : FileTree} {p q : Place} {name : String} {rest : List String}
    (h : t.follow p (name :: rest) = .ok q) :
    t.HasDirectory p ∧ ¬ 255 < name.utf8ByteSize ∧
      t.follow (if name = ".." then p.dropLast else p ++ [name]) rest = .ok q := by
  rw [follow] at h
  split at h
  · cases h
  · cases h
  · cases h
  · rename_i entries hdir
    split at h
    · cases h
    · rename_i hlength
      refine ⟨⟨entries, hdir⟩, hlength, ?_⟩
      split at h
      · rename_i hup
        rw [if_pos hup]
        exact h
      · rename_i hdown
        rw [if_neg hdown]
        exact h

/-- Names lead to the same place wherever the same directories are. -/
theorem follow_of_hasDirectory {t t' : FileTree} (h : ∀ p, t.HasDirectory p → t'.HasDirectory p)
    {p q : Place} {ns : List String} (hfollow : t.follow p ns = .ok q) :
    t'.follow p ns = .ok q := by
  induction ns generalizing p with
  | nil => exact hfollow
  | cons name rest ih =>
    obtain ⟨hdir, hlength, hrest⟩ := follow_cons_eq_ok hfollow
    obtain ⟨entries, hentries⟩ := h p hdir
    have hget : t'.get? p = some (.directory entries) := hentries
    rw [follow, hget]
    show (if 255 < name.utf8ByteSize then _ else if name = ".." then _ else _) = _
    rw [if_neg hlength]
    by_cases hup : name = ".."
    · rw [if_pos hup] at hrest ⊢
      exact ih hrest
    · rw [if_neg hup] at hrest ⊢
      exact ih hrest

/-- A last name that leads down leads into a directory. -/
theorem exists_hasDirectory_of_follow {t : FileTree} {p q : Place} {ns : List String} {name : String}
    (hname : name ≠ "..") (h : t.follow p (ns ++ [name]) = .ok q) :
    ∃ r, t.HasDirectory r ∧ q = r ++ [name] := by
  induction ns generalizing p with
  | nil =>
    obtain ⟨hdir, -, hlast⟩ := follow_cons_eq_ok h
    rw [if_neg hname] at hlast
    exact ⟨p, hdir, (Except.ok.inj hlast).symm⟩
  | cons a ns ih =>
    obtain ⟨-, -, hrest⟩ := follow_cons_eq_ok h
    exact ih hrest

end FileTree

/-- A path that need not name a directory has a last name that leads down. -/
theorem exists_names_eq {path : String} (h : isDirectoryLike path = false) :
    ∃ ns name, names path = ns ++ [name] ∧ name ≠ ".." := by
  rw [isDirectoryLike] at h
  split at h
  · rename_i s hlast
    obtain ⟨init, hpieces⟩ := List.getLast?_eq_some_iff.mp hlast
    simp only [Bool.or_eq_false_iff, decide_eq_false_iff_not, List.isEmpty_eq_false_iff] at h
    obtain ⟨⟨hempty, hdot⟩, hdots⟩ := h
    have hsays : (!s.isEmpty && decide (s ≠ ['.'])) = true := by
      rw [Bool.and_eq_true, Bool.not_eq_true', List.isEmpty_eq_false_iff, decide_eq_true_eq]
      exact ⟨hempty, hdot⟩
    refine ⟨(init.filter fun s => !s.isEmpty && s ≠ ['.']).map String.ofList, String.ofList s, ?_, ?_⟩
    · rw [names, hpieces, List.filter_append, List.map_append, List.filter_cons, hsays, if_pos rfl]
      rfl
    · intro h
      exact hdots (String.ofList_injective h)
  · cases h

namespace FileTree

/-! ### Writing and reading -/

/-- What is done after the checks of a path is done if they let it pass, and then the path may name
    a file. -/
theorem checked_eq_ok {t t' : FileTree} {path : String} {last : Except FileError FileTree}
    (h : (do
      if endsInDots path then discard (t.find path)
      if isDirectoryLike path then throw FileError.isDirectory
      last : Except FileError FileTree) = .ok t') :
    isDirectoryLike path = false ∧ last = .ok t' := by
  have hkind : (if isDirectoryLike path then (throw .isDirectory >>= fun _ : Unit => last) else last
      : Except FileError FileTree) = .ok t' := by
    dsimp only at h
    split at h
    · obtain ⟨_, -, h⟩ := (bind_eq_ok_iff _ _ _).mp h
      exact h
    · exact h
  split at hkind
  · cases hkind
  · rename_i hfile
    exact ⟨Bool.eq_false_iff.mpr hfile, hkind⟩

/-- Writing changes what lies at a place, which is a file or is made one; only a device stays as it
    is. -/
theorem alter_eq_ok {t t' : FileTree} {path : String} {f : List UInt8 → List UInt8}
    (h : t.alter path f = .ok t') :
    ∃ p, t.locate path = .ok p ∧ isDirectoryLike path = false ∧
      ((∃ bytes, t.get? p = some (.file bytes) ∧ t' = t.put p (.file (f bytes))) ∨
        (t.get? p = none ∧ t' = t.put p (.file (f []))) ∨
        (∃ hasRoom, t.get? p = some (.device hasRoom) ∧ t' = t)) := by
  unfold alter at h
  obtain ⟨p, hp, h⟩ := (bind_eq_ok_iff _ _ _).mp h
  refine ⟨p, hp, ?_⟩
  cases hget : t.get? p with
  | none =>
    rw [hget] at h
    obtain ⟨hfile, hdone⟩ := checked_eq_ok h
    exact ⟨hfile, .inr (.inl ⟨rfl, (Except.ok.inj hdone).symm⟩)⟩
  | some node =>
    rw [hget] at h
    cases node with
    | directory entries => cases (checked_eq_ok h).2
    | file bytes =>
      obtain ⟨hfile, hdone⟩ := checked_eq_ok h
      exact ⟨hfile, .inl ⟨bytes, rfl, (Except.ok.inj hdone).symm⟩⟩
    | device hasRoom =>
      obtain ⟨hfile, hdone⟩ := checked_eq_ok h
      have hroom : (if hasRoom || (f []).isEmpty then Except.ok t else .error FileError.noSpace)
          = .ok t' := hdone
      split at hroom
      · exact ⟨hfile, .inr (.inr ⟨hasRoom, rfl, (Except.ok.inj hroom).symm⟩)⟩
      · cases hroom

/-- Where something is put in the place of a file or of nothing, paths lead where they led. -/
theorem locate_put {t : FileTree} {p q : Place} {path : String} (hp : ¬ t.HasDirectory p)
    (x : FileNode) (h : t.locate path = .ok q) : (t.put p x).locate path = .ok q := by
  rw [locate] at h ⊢
  split at h
  · cases h
  split at h
  · cases h
  split at h
  · cases h
  rename_i hzero hempty hlong
  rw [if_neg hzero, if_neg hempty, if_neg hlong]
  have hkeeps : ∀ r, t.HasDirectory r → (t.put p x).HasDirectory r :=
    fun _ hdir => FileNode.hasDirectory_put hp x hdir
  exact follow_of_hasDirectory hkeeps h

/-- What a path leads to that need not name a directory lies inside a directory. -/
theorem exists_hasDirectory_of_locate {t : FileTree} {p : Place} {path : String}
    (hfile : isDirectoryLike path = false) (h : t.locate path = .ok p) :
    ∃ r name, t.HasDirectory r ∧ p = r ++ [name] := by
  obtain ⟨ns, name, hnames, hdown⟩ := exists_names_eq hfile
  rw [locate] at h
  split at h
  · cases h
  split at h
  · cases h
  split at h
  · cases h
  rw [hnames] at h
  obtain ⟨r, hdir, hr⟩ := exists_hasDirectory_of_follow hdown h
  exact ⟨r, name, hdir, hr⟩

/-- A path that need not name a directory leads to what lies at its place. -/
theorem find_of_get? {t : FileTree} {p : Place} {path : String} {x : FileNode}
    (hfile : isDirectoryLike path = false) (hlocate : t.locate path = .ok p)
    (hget : t.get? p = some x) : t.find path = .ok x := by
  simp only [find, hlocate, bind, Except.bind, hget, hfile]
  cases x <;> rfl

/-- A file that was put where a path leads is found there. -/
theorem find_put {t : FileTree} {p : Place} {path : String} (bytes : List UInt8)
    (hfile : isDirectoryLike path = false) (hlocate : t.locate path = .ok p)
    (hp : ¬ t.HasDirectory p) : (t.put p (.file bytes)).find path = .ok (.file bytes) := by
  obtain ⟨r, name, hdir, rfl⟩ := exists_hasDirectory_of_locate hfile hlocate
  exact find_of_get? hfile (locate_put hp _ hlocate) (FileNode.get?_put_self hdir name _)

/-- Where a text was written there is a file with it, or a device. -/
theorem find_of_writeText {t t' : FileTree} {path text : String}
    (h : t.writeText path text = .ok t') :
    t'.find path = .ok (.file (encodeUtf8 text)) ∨
      ∃ hasRoom, t'.find path = .ok (.device hasRoom) := by
  obtain ⟨p, hlocate, hfile, ⟨bytes, hget, rfl⟩ | ⟨hget, rfl⟩ | ⟨hasRoom, hget, rfl⟩⟩ := alter_eq_ok h
  · refine .inl (find_put _ hfile hlocate ?_)
    rintro ⟨entries, hdir⟩
    cases hget.symm.trans hdir
  · refine .inl (find_put _ hfile hlocate ?_)
    rintro ⟨entries, hdir⟩
    cases hget.symm.trans hdir
  · exact .inr ⟨hasRoom, find_of_get? hfile hlocate hget⟩

/-- The text of a file is what its bytes spell. -/
theorem readText_of_find {t : FileTree} {path text : String}
    (h : t.find path = .ok (.file (encodeUtf8 text))) : t.readText path = .ok text := by
  have hbytes : t.readBytes path = .ok (encodeUtf8 text) := by
    rw [readBytes, h]
    rfl
  simp only [readText, hbytes, bind, Except.bind, decodeUtf8?_encodeUtf8]
  rfl

/-- **Round trip.**  A text that was written is read, unless a device swallowed it. -/
theorem readText_of_writeText {t t' : FileTree} {path text : String}
    (h : t.writeText path text = .ok t')
    (hdevice : ∀ hasRoom, t'.find path ≠ .ok (.device hasRoom)) : t'.readText path = .ok text := by
  rcases find_of_writeText h with hfind | ⟨hasRoom, hfind⟩
  · exact readText_of_find hfind
  · exact absurd hfind (hdevice hasRoom)

end FileTree
end DriverExtension.Storage
