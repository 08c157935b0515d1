import DriverExtension.Proofs.Toml.Strings
import DriverExtension.Toml.Building
import Mathlib.Data.List.TakeDrop

namespace DriverExtension.Toml

/-!
# Texts of sections

A text of sections, each with a header and lines that give texts to names, says just these members.

* `Section`, `written` — sections and their text;
* `key_bare`, `value_quoteChars`, `keyed_quoteChars` — reading bare names, written strings, and both
  in a line;
* `Building.Says` — what has been said so far, with the open table last;
* `Building.openTable_says`, `Building.assign_says` — what headers and lines add to it;
* `Building.Leads` — performing some statements, whatever the fuel;
* `parse_written` — a text of sections is read as the object of its sections.
-/

/-! ### Bare names -/

/-- A bare character is none that is not. -/
theorem ne_of_isBare {c d : Char} (hc : isBare c = true) (hd : isBare d = false) : c ≠ d := by
  rintro rfl
  rw [hc] at hd
  cases hd

/-- A bare character is no blank. -/
theorem isBlank_of_isBare {c : Char} (hc : isBare c = true) : isBlank c = false := by
  rw [isBlank, Bool.or_eq_false_iff]
  exact ⟨decide_eq_false (ne_of_isBare hc rfl), decide_eq_false (ne_of_isBare hc rfl)⟩

/-- Blanks are skipped up to the first character that is none. -/
theorem skipBlanks_of_isBlank {c : Char} (hc : isBlank c = false) (s : List Char) :
    skipBlanks (c :: s) = c :: s := by
  rw [skipBlanks, List.dropWhile_cons_of_neg]
  rw [hc]
  exact Bool.false_ne_true

/-- A bare name is read up to the first character that is not bare. -/
theorem name_bare {c : Char} {n : List Char} (hbare : ∀ x ∈ c :: n, isBare x = true) {d : Char}
    (hd : isBare d = false) (rest : List Char) :
    ∃ span, name (c :: n ++ d :: rest) = .ok (⟨String.ofList (c :: n), span⟩, d :: rest) := by
  have hspan : (c :: n ++ d :: rest).span isBare = (c :: n, d :: rest) := by
    rw [List.span_eq_takeWhile_dropWhile, List.takeWhile_append_of_pos hbare,
      List.dropWhile_append_of_pos hbare, List.takeWhile_cons, List.dropWhile_cons, hd]
    simp
  have hc : isBare c = true := hbare c List.mem_cons_self
  refine ⟨.between (c :: n ++ d :: rest) (d :: rest), ?_⟩
  unfold name
  split
  · rename_i more hquote
    exact absurd (List.cons.inj hquote).1 (ne_of_isBare hc rfl)
  · rename_i more hquote
    exact absurd (List.cons.inj hquote).1 (ne_of_isBare hc rfl)
  · rw [hspan]

/-- No more names follow where there is no dot. -/
theorem moreNames_of_head? (fuel : Nat) {s : List Char} (h : s.head? ≠ some '.') :
    moreNames fuel s = .ok ([], s) := by
  unfold moreNames
  split
  · exact absurd rfl h
  · rfl

/-- A bare name is a key if no dot follows. -/
theorem key_bare {c : Char} {n : List Char} (hbare : ∀ x ∈ c :: n, isBare x = true) {d : Char}
    (hd : isBare d = false) {rest : List Char} (hdot : (skipBlanks (d :: rest)).head? ≠ some '.') :
    ∃ span, key (c :: n ++ d :: rest)
      = .ok (⟨[], ⟨String.ofList (c :: n), span⟩⟩, skipBlanks (d :: rest)) := by
  obtain ⟨span, hname⟩ := name_bare hbare hd rest
  have hblank := isBlank_of_isBare (hbare c List.mem_cons_self)
  have hspaced : spacedName (c :: n ++ d :: rest)
      = .ok (⟨String.ofList (c :: n), span⟩, skipBlanks (d :: rest)) := by
    rw [spacedName, List.cons_append, skipBlanks_of_isBlank hblank, ← List.cons_append, hname]
    rfl
  refine ⟨span, ?_⟩
  simp only [key, hspaced, labelled, bind, Except.bind, Except.mapError, moreNames_of_head? _ hdot]
  rfl

/-! ### Values -/

/-- A written string begins with a quote. -/
theorem exists_quoteChars_eq (s : List Char) :
    ∃ quote more, quoteChars s = quote :: more ∧ (quote = '"' ∨ quote = '\x27') := by
  unfold quoteChars
  dsimp only
  split
  · exact ⟨_, _, rfl, .inl rfl⟩
  split
  · exact ⟨_, _, rfl, .inr rfl⟩
  split
  · exact ⟨_, _, rfl, .inl rfl⟩
  split
  · exact ⟨_, _, rfl, .inr rfl⟩
  split
  · exact ⟨_, _, rfl, .inl rfl⟩
  · exact ⟨_, _, rfl, .inl rfl⟩

/-- What begins with a quote is a string. -/
theorem value_of_quote (depth : Nat) {quote : Char} (hquote : quote = '"' ∨ quote = '\x27')
    (more : List Char) :
    value depth (quote :: more)
      = (anyString (quote :: more)).map fun read =>
          (.scalar (.string (String.ofList read.1)) (.between (quote :: more) read.2), read.2) := by
  have hvalue : value depth (quote :: more)
      = (scalar (quote :: more)).map fun read =>
          (.scalar read.1 (.between (quote :: more) read.2), read.2) := by
    unfold value
    split <;> simp_all
  have hscalar : scalar (quote :: more)
      = become (fun t => .string (String.ofList t)) (anyString (quote :: more)) := by
    rcases hquote with rfl | rfl <;> rfl
  rw [hvalue, hscalar]
  cases anyString (quote :: more) <;> rfl

/-- A written string is read as a value at the end of a line. -/
theorem value_quoteChars (depth : Nat) (s rest : List Char) :
    ∃ span, value depth (quoteChars s ++ '\n' :: rest)
      = .ok (.scalar (.string (String.ofList s)) span, '\n' :: rest) := by
  have hread : anyString (quoteChars s ++ '\n' :: rest) = .ok (s, '\n' :: rest) :=
    anyString_quoteChars s (by simp) (by simp)
  obtain ⟨quote, more, hquote, hform⟩ := exists_quoteChars_eq s
  rw [hquote, List.cons_append] at hread ⊢
  rw [value_of_quote depth hform, hread]
  exact ⟨_, rfl⟩

/-- A bare name and a written string are read as a key and its value at the end of a line. -/
theorem keyed_quoteChars (depth : Nat) {c : Char} {n : List Char}
    (hbare : ∀ x ∈ c :: n, isBare x = true) (text rest : List Char) :
    ∃ span span', keyed (value depth)
        (c :: n ++ ' ' :: '=' :: ' ' :: (quoteChars text ++ '\n' :: rest))
      = .ok ((⟨[], ⟨String.ofList (c :: n), span⟩⟩, .scalar (.string (String.ofList text)) span'),
          '\n' :: rest) := by
  have hdot : (skipBlanks (' ' :: '=' :: ' ' :: (quoteChars text ++ '\n' :: rest))).head?
      ≠ some '.' := by
    intro h
    cases h
  obtain ⟨span, hkey⟩ := key_bare hbare rfl hdot
  have hequals : skipBlanks (' ' :: '=' :: ' ' :: (quoteChars text ++ '\n' :: rest))
      = '=' :: ' ' :: (quoteChars text ++ '\n' :: rest) := rfl
  have hbegin : skipBlanks (' ' :: (quoteChars text ++ '\n' :: rest))
      = quoteChars text ++ '\n' :: rest := by
    obtain ⟨quote, inner, hform, hquote⟩ := exists_quoteChars_eq text
    rw [hform]
    rcases hquote with rfl | rfl <;> rfl
  obtain ⟨span', hvalue⟩ := value_quoteChars depth text rest
  refine ⟨span, span', ?_⟩
  rw [hequals] at hkey
  simp only [keyed, hkey, symbol, if_true, hard, expecting, bind, Except.bind, Except.mapError,
    hbegin, hvalue]
  rfl

/-! ### Tables -/

/-- The documents of members in two parts. -/
theorem memberDocuments_append (ms ns : List (Name × Node)) :
    memberDocuments (ms ++ ns) = memberDocuments ms ++ memberDocuments ns := by
  induction ms with
  | nil => rw [List.nil_append, memberDocuments, List.nil_append]
  | cons m ms ih => rw [List.cons_append, memberDocuments, memberDocuments, ih, List.cons_append]

/-- Members keep their names as documents. -/
theorem map_fst_memberDocuments (ms : List (Name × Node)) :
    (memberDocuments ms).map Prod.fst = ms.map fun m => m.1.text := by
  induction ms with
  | nil => rw [memberDocuments, List.map_nil, List.map_nil]
  | cons m ms ih => rw [memberDocuments, List.map_cons, List.map_cons, ih]

/-- What has been said: the members of the root before the open table, which is its last member, and
    the name and the members of this one. -/
def Building.Says (b : Building) (before : List (String × Document)) (name : String)
    (here : List (String × Document)) : Prop :=
  ∃ ms n u p, b.root.members = ms ++ [(n, .table u)] ∧ b.path = [p] ∧ memberDocuments ms = before ∧
    n.text = name ∧ p.text = name ∧ name ∉ before.map Prod.fst ∧ u.kind = .explicit ∧
    memberDocuments u.members = here

namespace Table

/-- No member of a name is found where no document bears it. -/
theorem find?_eq_none {t : Table Node} {name : String}
    (h : name ∉ (memberDocuments t.members).map Prod.fst) : t.find? name = none := by
  rw [map_fst_memberDocuments] at h
  rw [find?, Option.map_eq_none_iff, List.find?_eq_none]
  intro m hm hname
  exact h (List.mem_map.mpr ⟨m, hm, of_decide_eq_true hname⟩)

/-- The last member is found if no other one has its name. -/
theorem find?_of_last {t : Table Node} {ms : List (Name × Node)} {n : Name} {x : Node}
    (ht : t.members = ms ++ [(n, x)]) (h : n.text ∉ (memberDocuments ms).map Prod.fst) :
    t.find? n.text = some x := by
  have hnone := find?_eq_none (t := ⟨t.kind, t.span, ms⟩) h
  rw [find?, Option.map_eq_none_iff] at hnone
  rw [find?, ht, List.find?_append, hnone, Option.none_or, List.find?_cons, decide_eq_true rfl]
  rfl

/-- Putting something in its place changes nothing else. -/
theorem members_put_last {t : Table Node} {ms : List (Name × Node)} {n p : Name} {x : Node}
    (ht : t.members = ms ++ [(n, x)]) (hp : p.text = n.text)
    (h : n.text ∉ (memberDocuments ms).map Prod.fst) (y : Node) :
    (t.put p y).members = ms ++ [(n, y)] := by
  have hothers : ms.map (fun m => (m.1, if m.1.text = n.text then y else m.2)) = ms := by
    rw [map_fst_memberDocuments] at h
    conv => rhs; rw [← List.map_id ms]
    refine List.map_congr_left fun m hm => ?_
    rw [if_neg fun hname => h (List.mem_map.mpr ⟨m, hm, hname⟩)]
    rfl
  rw [put, hp, find?_of_last ht h, Option.isSome_some, if_pos rfl]
  show t.members.map (fun m => (m.1, if m.1.text = n.text then y else m.2)) = _
  rw [ht, List.map_append, hothers, List.map_singleton, if_pos rfl]

/-- Making a table end later changes neither its kind nor its members. -/
@[simp] theorem upTo_kind (t : Table Node) (x : Node) : (t.upTo x).kind = t.kind := by
  unfold upTo
  split <;> rfl

@[simp] theorem upTo_members (t : Table Node) (x : Node) : (t.upTo x).members = t.members := by
  unfold upTo
  split <;> rfl

/-- A value for a new name is added to a table that was opened. -/
theorem assign_bare {t : Table Node} (hkind : t.kind = .explicit) {k : Name}
    (hk : k.text ∉ (memberDocuments t.members).map Prod.fst) (way : Way)
    (table : Option (List String)) (x : Node) :
    t.assign way table ⟨[], k⟩ x = .ok (t.add k x) := by
  rw [assign, update, give, hkind, find?_eq_none hk]
  rfl

/-- What changes the table of a name changes the table that a header's way leads to. -/
theorem update_header {f : Table Node → Except Conflict (Table Node)} {t u u' : Table Node}
    {p : Name} (hfind : t.find? p.text = some (.table u)) (hf : f u = .ok u') :
    t.update .header f [] [p] = .ok (t.put p (.table u')) := by
  have hway : decide (Way.header = Way.key) = false := rfl
  simp only [update, hfind, Option.getD_some, hway, Bool.false_and, Bool.false_eq_true, if_false, hf]
  rfl

end Table

namespace Building

/-- A header of a new name opens an empty table. -/
theorem openTable_says (b : Building) (k : Name) (span : Span)
    (hk : k.text ∉ (memberDocuments b.root.members).map Prod.fst) :
    ∃ b', b.openTable false ⟨[], k⟩ span = .ok b' ∧
      b'.Says (memberDocuments b.root.members) k.text [] := by
  have hopened : opened ⟨[], k⟩ span b.root
      = .ok (b.root.add k (.table ⟨.explicit, some span, []⟩)) := by
    rw [opened, Table.find?_eq_none hk]
  refine ⟨⟨b.root.add k (.table ⟨.explicit, some span, []⟩), [k]⟩, ?_, ?_⟩
  · simp only [openTable, Table.update, Bool.false_eq_true, if_false, hopened]
    rfl
  · exact ⟨b.root.members, k, ⟨.explicit, some span, []⟩, k, rfl, rfl, rfl, rfl, rfl, hk, rfl,
      by rw [memberDocuments]⟩

variable {b : Building} {before here : List (String × Document)} {name : String}

/-- What was said of the root. -/
theorem Says.root (h : b.Says before name here) :
    memberDocuments b.root.members = before ++ [(name, .object here)] := by
  obtain ⟨ms, n, ⟨kind, span, us⟩, p, hmembers, -, hbefore, hn, -, -, -, hhere⟩ := h
  rw [hmembers, memberDocuments_append, hbefore, memberDocuments, memberDocuments, hn, Node.document,
    Table.document, hhere]

/-- A value for a new name is added to the open table. -/
theorem assign_says (h : b.Says before name here) (k : Name) (x : Node)
    (hk : k.text ∉ here.map Prod.fst) :
    ∃ b', b.assign ⟨[], k⟩ x = .ok b' ∧ b'.Says before name (here ++ [(k.text, x.document)]) := by
  obtain ⟨ms, n, u, p, hmembers, hpath, rfl, rfl, hp, hname, hkind, rfl⟩ := h
  have hfind : b.root.find? p.text = some (.table u) := by
    rw [hp]
    exact Table.find?_of_last hmembers hname
  have hroot : b.root.update .header
      (fun t => (t.upTo x).assign .key (some ([p].map (·.text))) ⟨[], k⟩ x) [] [p]
        = .ok (b.root.put p (.table ((u.upTo x).add k x))) := by
    refine Table.update_header hfind (Table.assign_bare ((u.upTo_kind x).trans hkind) ?_ _ _ _)
    rwa [u.upTo_members x]
  refine ⟨⟨b.root.put p (.table ((u.upTo x).add k x)), b.path⟩, ?_, ?_⟩
  · simp only [assign, hpath, hroot]
    rfl
  · refine ⟨ms, n, (u.upTo x).add k x, p, ?_, hpath, rfl, rfl, hp, hname, ?_, ?_⟩
    · exact Table.members_put_last hmembers hp hname _
    · exact (u.upTo_kind x).trans hkind
    · show memberDocuments ((u.upTo x).members ++ [(k, x)]) = _
      rw [u.upTo_members x, memberDocuments_append, memberDocuments, memberDocuments]

/-! ### Statements -/

/-- Performing the statements of a text leads to a building and the text after them, with whatever
    fuel is enough for the text. -/
def Leads (b : Building) (s : List Char) (b' : Building) (rest : List Char) : Prop :=
  ∀ fuel, s.length < fuel →
    ∃ fuel', rest.length < fuel' ∧ statements fuel b s = statements fuel' b' rest

/-- Statements are performed one after the other. -/
theorem Leads.trans {b₁ b₂ b₃ : Building} {s₁ s₂ s₃ : List Char} (h : b₁.Leads s₁ b₂ s₂)
    (h' : b₂.Leads s₂ b₃ s₃) : b₁.Leads s₁ b₃ s₃ := by
  intro fuel hfuel
  obtain ⟨fuel', hfuel', heq⟩ := h fuel hfuel
  obtain ⟨fuel'', hfuel'', heq'⟩ := h' fuel' hfuel'
  exact ⟨fuel'', hfuel'', heq.trans heq'⟩

/-- No statement is no step. -/
theorem Leads.refl (b : Building) (s : List Char) : b.Leads s b s :=
  fun fuel hfuel => ⟨fuel, hfuel, rfl⟩

/-- A text is performed if its statements lead to its end. -/
theorem Leads.statements_eq {b b' : Building} {s : List Char} (h : b.Leads s b' []) :
    statements (s.length + 1) b s = .ok b' := by
  obtain ⟨fuel, hfuel, heq⟩ := h _ (Nat.lt_succ_self _)
  rw [heq]
  cases fuel with
  | zero => cases hfuel
  | succ fuel => rfl

/-- An empty line says nothing. -/
theorem leads_lineBreak (b : Building) (rest : List Char) : b.Leads ('\n' :: rest) b rest := by
  intro fuel hfuel
  cases fuel with
  | zero => cases hfuel
  | succ fuel => exact ⟨fuel, Nat.lt_of_succ_lt_succ hfuel, rfl⟩

/-- A statement is performed where a character stands that neither ends a line nor begins a
    comment. -/
theorem leads_of_statement {b b' : Building} {c : Char} {s rest : List Char}
    (hc : isBlank c = false ∧ c ≠ '\n' ∧ c ≠ '\r' ∧ c ≠ '#')
    (hstatement : statement b (c :: s) = .ok (b', rest)) (hrest : rest.length ≤ s.length) :
    b.Leads (c :: s) b' rest := by
  obtain ⟨hblank, hbreak, hreturn, hcomment⟩ := hc
  intro fuel hfuel
  cases fuel with
  | zero => cases hfuel
  | succ fuel =>
    refine ⟨fuel, Nat.lt_of_le_of_lt hrest (Nat.lt_of_succ_lt_succ hfuel), ?_⟩
    rw [statements, skipBlanks_of_isBlank hblank]
    split <;> simp_all [bind, Except.bind]

/-- What does not begin with a bracket gives a value to a name. -/
theorem statement_of_ne (b : Building) {c : Char} (hc : c ≠ '[') (s : List Char) :
    statement b (c :: s) = assignment b (c :: s) := by
  unfold statement
  split <;> simp_all

end Building

/-- The end of a line. -/
theorem endLine_lineBreak (rest : List Char) : endLine ('\n' :: rest) = .ok rest := rfl

/-- A name that needs no quotes. -/
def IsBareName (n : String) : Prop := n.toList ≠ [] ∧ ∀ c ∈ n.toList, isBare c = true

instance : DecidablePred IsBareName := fun n =>
  decidable_of_iff (n.toList ≠ [] ∧ n.toList.all isBare = true)
    (and_congr_right fun _ => List.all_eq_true)

/-- A bare name has a first character. -/
theorem IsBareName.exists_toList {n : String} (h : IsBareName n) :
    ∃ c more, n.toList = c :: more ∧ ∀ x ∈ c :: more, isBare x = true := by
  obtain ⟨c, more, hlist⟩ := List.exists_cons_of_ne_nil h.1
  exact ⟨c, more, hlist, hlist ▸ h.2⟩

namespace Building

variable {b : Building} {before here : List (String × Document)} {name : String}

/-- The header of a section. -/
theorem leads_header (b : Building) {n : String} (hn : IsBareName n)
    (hnew : n ∉ (memberDocuments b.root.members).map Prod.fst) (rest : List Char) :
    ∃ b', b.Leads ('[' :: (n.toList ++ ']' :: '\n' :: rest)) b' rest ∧
      b'.Says (memberDocuments b.root.members) n [] := by
  obtain ⟨c, more, hlist, hbare⟩ := hn.exists_toList
  have htext : String.ofList (c :: more) = n := by rw [← hlist, String.ofList_toList]
  have hdot : (skipBlanks (']' :: '\n' :: rest)).head? ≠ some '.' := by
    intro h
    cases h
  obtain ⟨span, hkey⟩ := key_bare hbare rfl hdot
  rw [htext] at hkey
  have hc : c ≠ '[' := ne_of_isBare (hbare c List.mem_cons_self) rfl
  -- the place of the header is all that is not known of it
  obtain ⟨b', hopen, hsays⟩ := b.openTable_says ⟨n, span⟩
    (.between ('[' :: (c :: more ++ ']' :: '\n' :: rest)) ('\n' :: rest)) hnew
  have hheader : header false b ('[' :: (c :: more ++ ']' :: '\n' :: rest))
      (c :: more ++ ']' :: '\n' :: rest) = .ok (b', rest) := by
    have hblanks : skipBlanks (']' :: '\n' :: rest) = ']' :: '\n' :: rest := rfl
    simp only [header, hkey, hblanks, closeHeader, endLine_lineBreak, hopen, bind, Except.bind,
      Except.mapError]
    rfl
  have hstatement : statement b ('[' :: (c :: more ++ ']' :: '\n' :: rest)) = .ok (b', rest) := by
    rw [List.cons_append] at hheader ⊢
    rw [statement, hheader]
    · rfl
    · intro h
      cases h
    · intro more' h
      exact hc (List.cons.inj h).1
  rw [hlist]
  refine ⟨b', leads_of_statement (by decide) hstatement ?_, hsays⟩
  simp only [List.length_append, List.length_cons]
  omega

/-! ### Lines -/

/-- The line that gives a text to a name. -/
def line (n text : String) : List Char :=
  n.toList ++ ' ' :: '=' :: ' ' :: quoteChars text.toList ++ ['\n']

/-- A line for a new name. -/
theorem leads_line (h : b.Says before name here) {n : String} (hn : IsBareName n)
    (hnew : n ∉ here.map Prod.fst) (text : String) (rest : List Char) :
    ∃ b', b.Leads (line n text ++ rest) b' rest ∧
      b'.Says before name (here ++ [(n, .string text)]) := by
  obtain ⟨c, more, hlist, hbare⟩ := hn.exists_toList
  obtain ⟨span, span', hkeyed⟩ := keyed_quoteChars (nestingLimit - 1) hbare text.toList rest
  rw [← hlist, String.ofList_toList, String.ofList_toList, hlist, List.cons_append] at hkeyed
  obtain ⟨b', hassign, hsays⟩ := assign_says h ⟨n, span⟩ (.scalar (.string text) span') hnew
  have hline : line n text ++ rest
      = c :: (more ++ ' ' :: '=' :: ' ' :: (quoteChars text.toList ++ '\n' :: rest)) := by
    rw [line, hlist]
    simp
  have hc : isBare c = true := hbare c List.mem_cons_self
  have hstatement : statement b
      (c :: (more ++ ' ' :: '=' :: ' ' :: (quoteChars text.toList ++ '\n' :: rest)))
        = .ok (b', rest) := by
    rw [statement_of_ne b (ne_of_isBare hc rfl)]
    simp only [assignment, hkeyed, endLine_lineBreak, hassign, bind, Except.bind, Except.mapError]
    rfl
  rw [hline]
  refine ⟨b', leads_of_statement ?_ hstatement ?_, hsays⟩
  · exact ⟨isBlank_of_isBare hc, ne_of_isBare hc rfl, ne_of_isBare hc rfl, ne_of_isBare hc rfl⟩
  · simp only [List.length_append, List.length_cons]
    omega

/-- Lines for new names. -/
theorem leads_lines (h : b.Says before name here) {entries : List (String × String)}
    (hbare : ∀ e ∈ entries, IsBareName e.1)
    (hnodup : (here.map Prod.fst ++ entries.map Prod.fst).Nodup) (rest : List Char) :
    ∃ b', b.Leads (entries.flatMap (fun e => line e.1 e.2) ++ rest) b' rest ∧
      b'.Says before name (here ++ entries.map fun e => (e.1, .string e.2)) := by
  induction entries generalizing b here with
  | nil =>
    refine ⟨b, Leads.refl b rest, ?_⟩
    rwa [List.map_nil, List.append_nil]
  | cons e entries ih =>
    rw [List.forall_mem_cons] at hbare
    have hnew : e.1 ∉ here.map Prod.fst := by
      intro hmem
      exact (List.nodup_append.mp hnodup).2.2 _ hmem _ List.mem_cons_self rfl
    obtain ⟨b₁, hfirst, hsays⟩ := leads_line h hbare.1 hnew e.2
      (entries.flatMap (fun e => line e.1 e.2) ++ rest)
    have hrest : ((here ++ [(e.1, Document.string e.2)]).map Prod.fst
        ++ entries.map Prod.fst).Nodup := by
      rw [List.map_append, List.append_assoc]
      exact hnodup
    obtain ⟨b', hothers, hall⟩ := ih hsays hbare.2 hrest
    rw [List.flatMap_cons, List.append_assoc]
    refine ⟨b', hfirst.trans hothers, ?_⟩
    rw [List.append_assoc] at hall
    exact hall

end Building

/-! ### Sections -/

/-- A section: its name, and the texts that its lines give to names. -/
structure Section where
  name : String
  entries : List (String × String)

namespace Section

/-- The text of a section. -/
def chars (s : Section) : List Char :=
  '[' :: (s.name.toList ++ ']' :: '\n' :: s.entries.flatMap fun e => Building.line e.1 e.2)

/-- What a section says. -/
def member (s : Section) : String × Document :=
  (s.name, .object (s.entries.map fun e => (e.1, .string e.2)))

/-- Names need no quotes, and no name is given twice. -/
structure Proper (s : Section) : Prop where
  bare_name : IsBareName s.name
  bare_entries : ∀ e ∈ s.entries, IsBareName e.1
  nodup : (s.entries.map Prod.fst).Nodup

end Section

/-- The text of sections, with an empty line between each and the next one. -/
def written : List Section → List Char
  | [] => []
  | [s] => s.chars
  | s :: rest => s.chars ++ '\n' :: written rest

namespace Building

/-- A section of a new name. -/
theorem leads_section (b : Building) {s : Section} (hs : s.Proper)
    (hnew : s.name ∉ (memberDocuments b.root.members).map Prod.fst) (rest : List Char) :
    ∃ b', b.Leads (s.chars ++ rest) b' rest ∧
      memberDocuments b'.root.members = memberDocuments b.root.members ++ [s.member] := by
  obtain ⟨b₁, hheader, hopen⟩ := b.leads_header hs.bare_name hnew
    (s.entries.flatMap (fun e => line e.1 e.2) ++ rest)
  obtain ⟨b', hlines, hsays⟩ := leads_lines hopen hs.bare_entries (by simpa using hs.nodup) rest
  refine ⟨b', ?_, hsays.root⟩
  rw [Section.chars, List.cons_append, List.append_assoc]
  exact hheader.trans hlines

/-- Sections of new names. -/
theorem leads_written (b : Building) {sections : List Section} (hproper : ∀ s ∈ sections, s.Proper)
    (hnodup : ((memberDocuments b.root.members).map Prod.fst ++ sections.map Section.name).Nodup) :
    ∃ b', b.Leads (written sections) b' [] ∧ memberDocuments b'.root.members
      = memberDocuments b.root.members ++ sections.map Section.member := by
  induction sections generalizing b with
  | nil => exact ⟨b, Leads.refl b [], (List.append_nil _).symm⟩
  | cons s sections ih =>
    rw [List.forall_mem_cons] at hproper
    have hnew : s.name ∉ (memberDocuments b.root.members).map Prod.fst := by
      intro hmem
      exact (List.nodup_append.mp hnodup).2.2 _ hmem _ List.mem_cons_self rfl
    cases sections with
    | nil =>
      obtain ⟨b', hlast, hall⟩ := b.leads_section hproper.1 hnew []
      rw [List.append_nil] at hlast
      exact ⟨b', hlast, hall⟩
    | cons s' sections =>
      obtain ⟨b₁, hfirst, hroot⟩ := b.leads_section hproper.1 hnew ('\n' :: written (s' :: sections))
      have hrest : ((memberDocuments b₁.root.members).map Prod.fst
          ++ (s' :: sections).map Section.name).Nodup := by
        rw [hroot, List.map_append, List.append_assoc]
        exact hnodup
      obtain ⟨b', hothers, hall⟩ := ih b₁ hproper.2 hrest
      refine ⟨b', hfirst.trans ((b₁.leads_lineBreak _).trans hothers), ?_⟩
      rw [hall, hroot, List.append_assoc]
      rfl

end Building

/-- **Sections.**  A text of sections of different names is read as the object of its sections. -/
theorem parse_written {sections : List Section} (hproper : ∀ s ∈ sections, s.Proper)
    (hnodup : (sections.map Section.name).Nodup) {text : String}
    (htext : text.toList = written sections) :
    ∃ t, parse text = .ok t ∧ t.document = .object (sections.map Section.member) := by
  obtain ⟨b, hleads, hroot⟩ := Building.start.leads_written hproper hnodup
  have hmark : dropMark (written sections) = written sections := by
    match sections with
    | [] => rfl
    | [s] => rfl
    | s :: s' :: rest => rfl
  refine ⟨b.root, ?_, ?_⟩
  · simp only [parse, htext, hmark, hleads.statements_eq, bind, Except.bind]
    rfl
  · obtain ⟨⟨kind, span, members⟩, path⟩ := b
    rw [Table.document, hroot]
    rfl

end DriverExtension.Toml
