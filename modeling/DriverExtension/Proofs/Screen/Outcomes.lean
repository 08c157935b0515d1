import DriverExtension.Proofs.Screen.Drawing
import DriverExtension.Proofs.Text.Delimited
import DriverExtension.Proofs.Text.Printable
import DriverExtension.Screen.View
import Mathlib

namespace DriverExtension.Screen

open Text

/-!
# The outcomes on the screen

The pane of the outcomes has a border and room for some rows; the latest outcomes are drawn there,
one row each, each behind a label with its age.

* `latest_suffix`, `length_latest` — which outcomes are drawn;
* `elapsedText_eq_iff`, `label_eq_iff` — a label tells the age in seconds;
* `isPrintable_label` — a label is printable;
* `paintsAt_spanMarks_cons`, `paintsAt_spanMarks` — printable text is drawn one character a cell;
* `paintsAt_rowMarks` — so is printable text at the start of a line, whatever is behind it;
* `paintsAt_outcomesMarks`, `paintsAt_frame` — a cell of the pane is that of one line, or of the
  border;
* `paintsAt_label`, `paintsAt_outcomeLine` — what stands in the line of an outcome;
* `cell?_render_outcomes` — the pane on the screen;
* `newest_outcomes` — the account of the pane.
-/

/-! ### The latest outcomes -/

/-- The outcomes that are drawn are the last ones. -/
theorem latest_suffix (rows : Nat) (outcomes : List Outcome) :
    outcomes.take (outcomes.length - rows) ++ latest rows outcomes = outcomes :=
  List.take_append_drop _ _

theorem length_latest (rows : Nat) (outcomes : List Outcome) :
    (latest rows outcomes).length = min outcomes.length rows := by
  rw [latest, List.length_drop]
  omega

/-- Where there is room for a row the newest outcome is drawn. -/
theorem getLast?_latest {rows : Nat} (h : 0 < rows) (outcomes : List Outcome) :
    (latest rows outcomes).getLast? = outcomes.getLast? := by
  by_cases hempty : outcomes = []
  · simp [latest, hempty]
  · have hlength : 0 < outcomes.length := List.length_pos_iff.mpr hempty
    rw [latest, List.getLast?_drop, if_neg (by omega)]

/-! ### Ages -/

/-- The seconds of an age behind its minutes, in two digits. -/
def secondsText (seconds : Nat) : String :=
  (if seconds < 10 then "0" else "") ++ seconds.repr

/-- An age below a minute. -/
theorem toList_elapsedText_of_lt {milliseconds : Nat} (h : milliseconds / 1000 < 60) :
    (elapsedText milliseconds).toList = (milliseconds / 1000).repr.toList ++ ['s'] := by
  have hminutes : milliseconds / 1000 / 60 = 0 := Nat.div_eq_of_lt h
  have hseconds : milliseconds / 1000 % 60 = milliseconds / 1000 := Nat.mod_eq_of_lt h
  have htext : elapsedText milliseconds = (milliseconds / 1000).repr ++ "s" := by
    rw [elapsedText]
    simp only [hminutes, hseconds]
    rfl
  rw [htext, String.toList_append]
  rfl

/-- An age from a minute on. -/
theorem toList_elapsedText_of_le {milliseconds : Nat} (h : 60 ≤ milliseconds / 1000) :
    (elapsedText milliseconds).toList = (milliseconds / 1000 / 60).repr.toList
      ++ 'm' :: ((secondsText (milliseconds / 1000 % 60)).toList ++ ['s']) := by
  have hminutes : milliseconds / 1000 / 60 ≠ 0 := by omega
  have htext : elapsedText milliseconds = (milliseconds / 1000 / 60).repr ++ "m"
      ++ (if milliseconds / 1000 % 60 < 10 then "0" else "")
      ++ ((milliseconds / 1000 % 60).repr ++ "s") := by
    rw [elapsedText]
    simp only [if_neg hminutes]
    rfl
  rw [htext, secondsText]
  simp

/-- Seconds in two digits are told apart. -/
theorem secondsText_injective {a b : Nat} (ha : a < 60) (hb : b < 60)
    (h : secondsText a = secondsText b) : a = b := by
  have hdistinct : ((List.range 60).map secondsText).Nodup := by decide +kernel
  exact List.inj_on_of_nodup_map hdistinct (List.mem_range.mpr ha) (List.mem_range.mpr hb) h

/-- An age is written in digits and the letters of its units. -/
theorem mem_elapsedText {milliseconds : Nat} {c : Char}
    (h : c ∈ (elapsedText milliseconds).toList) : c.isDigit = true ∨ c = 'm' ∨ c = 's' := by
  by_cases hminute : milliseconds / 1000 < 60
  · rw [toList_elapsedText_of_lt hminute, List.mem_append] at h
    rcases h with hnumber | hunit
    · exact .inl (isDigit_of_mem_repr hnumber)
    · exact .inr (.inr (List.mem_singleton.mp hunit))
  · have hzero : ∀ d ∈ (if milliseconds / 1000 % 60 < 10 then "0" else "").toList,
        d.isDigit = true := by
      split
      · intro d hd
        rw [List.mem_singleton.mp hd]
        rfl
      · intro d hd
        exact absurd hd List.not_mem_nil
    rw [toList_elapsedText_of_le (Nat.not_lt.mp hminute), secondsText, String.toList_append,
      List.mem_append, List.mem_cons, List.mem_append, List.mem_append] at h
    rcases h with hminutes | hunit | (hpad | hseconds) | hunit
    · exact .inl (isDigit_of_mem_repr hminutes)
    · exact .inr (.inl hunit)
    · exact .inl (hzero c hpad)
    · exact .inl (isDigit_of_mem_repr hseconds)
    · exact .inr (.inr (List.mem_singleton.mp hunit))

/-- Ages are told apart by the second: there are minutes in both of them or in none. -/
theorem elapsedText_eq_iff {a b : Nat} :
    elapsedText a = elapsedText b ↔ a / 1000 = b / 1000 := by
  have hno (n : Nat) : 'm' ∉ n.repr.toList := notMem_repr (by decide) n
  have hbelow {a b : Nat} (ha : a / 1000 < 60) (hb : 60 ≤ b / 1000) :
      elapsedText a ≠ elapsedText b := by
    intro h
    have hunit : 'm' ∈ (elapsedText a).toList := by
      rw [h, toList_elapsedText_of_le hb]
      simp
    rw [toList_elapsedText_of_lt ha, List.mem_append] at hunit
    rcases hunit with hnumber | hseconds
    · exact hno _ hnumber
    · exact absurd hseconds (by decide)
  constructor
  · intro h
    rcases Nat.lt_or_ge (a / 1000) 60 with ha | ha <;>
      rcases Nat.lt_or_ge (b / 1000) 60 with hb | hb
    · have hlist := congrArg String.toList h
      rw [toList_elapsedText_of_lt ha, toList_elapsedText_of_lt hb] at hlist
      exact Nat.repr_injective (String.toList_injective (List.append_cancel_right hlist))
    · exact absurd h (hbelow ha hb)
    · exact absurd h.symm (hbelow hb ha)
    · have hlist := congrArg String.toList h
      rw [toList_elapsedText_of_le ha, toList_elapsedText_of_le hb] at hlist
      obtain ⟨hminutes, hseconds⟩ := append_cons_inj_left (hno _) (hno _) hlist
      have hminutes : a / 1000 / 60 = b / 1000 / 60 :=
        Nat.repr_injective (String.toList_injective hminutes)
      have hseconds : a / 1000 % 60 = b / 1000 % 60 :=
        secondsText_injective (Nat.mod_lt _ (by decide)) (Nat.mod_lt _ (by decide))
          (String.toList_injective (List.append_cancel_right hseconds))
      omega
  · intro h
    simp only [elapsedText, h]

/-! ### Labels -/

/-- The label of an outcome. -/
def label (o : Outcome) : String := "[" ++ padLeft 6 (elapsedText o.time) ++ "] "

theorem toList_padLeft (width : Nat) (s : String) :
    (padLeft width s).toList = List.replicate (width - s.length) ' ' ++ s.toList := by
  rw [padLeft, String.toList_append, String.toList_ofList]

theorem toList_label (o : Outcome) :
    (label o).toList = '[' :: ((padLeft 6 (elapsedText o.time)).toList ++ [']', ' ']) := by
  rw [label]
  simp

/-- A label is printable. -/
theorem isPrintable_label (o : Outcome) : ∀ c ∈ (label o).toList, IsPrintable c := by
  intro c hc
  rw [toList_label, toList_padLeft, List.mem_cons, List.mem_append, List.mem_append] at hc
  rcases hc with rfl | (hpad | hage) | hclose
  · decide
  · rw [List.eq_of_mem_replicate hpad]
    decide
  · rcases mem_elapsedText hage with hdigit | rfl | rfl
    · have hrange : 48 ≤ c.toNat ∧ c.toNat ≤ 57 := by
        simpa [Char.isDigit, UInt32.le_iff_toNat_le] using hdigit
      exact ⟨by omega, by omega⟩
    · decide
    · decide
  · rw [List.mem_pair] at hclose
    rcases hclose with rfl | rfl <;> decide

/-- Labels tell the ages apart by the second, since no space stands in an age. -/
theorem label_eq_iff {o o' : Outcome} : label o = label o' ↔ o.time / 1000 = o'.time / 1000 := by
  have hspace (n : Nat) : ∀ c ∈ (elapsedText n).toList, decide (c ≠ ' ') = true := by
    intro c hc
    rw [decide_eq_true_eq]
    rintro rfl
    rcases mem_elapsedText hc with h | h | h <;> exact absurd h (by decide)
  have hage (n : Nat) : (padLeft 6 (elapsedText n)).toList.filter (· ≠ ' ')
      = (elapsedText n).toList := by
    rw [toList_padLeft, List.filter_append, List.filter_eq_self.mpr (hspace n)]
    simp
  constructor
  · intro h
    have hlist := congrArg String.toList h
    rw [toList_label, toList_label] at hlist
    have hpadded := List.append_cancel_right (List.cons.inj hlist).2
    have hages : (elapsedText o.time).toList = (elapsedText o'.time).toList := by
      rw [← hage, hpadded, hage]
    exact elapsedText_eq_iff.mp (String.toList_injective hages)
  · intro h
    rw [label, label, elapsedText_eq_iff.mpr h]

/-! ### Printable text in a row -/

/-- The glyphs of printable text are its characters. -/
theorem glyphs_of_printable {s : Span} (h : ∀ c ∈ s.text.toList, IsPrintable c) :
    s.glyphs = s.text.toList.map fun c => ⟨String.singleton c, 1, s.style⟩ := by
  rw [Span.glyphs, clusters_of_printable h, List.filterMap_map]
  have hglyph : ∀ c ∈ s.text.toList,
      ((fun cluster : List Char => if cluster = ['\n'] then none
          else some (⟨String.ofList cluster, columnsOf cluster, s.style⟩ : Glyph))
        ∘ fun c => [c]) c = some ⟨String.singleton c, 1, s.style⟩ := by
    intro c hc
    have hne : [c] ≠ ['\n'] := by
      intro heq
      exact (h c hc).ne_lineFeed (List.cons.inj heq).1
    have hcolumns : columnsOf [c] = 1 :=
      columnsOf_of_printable (by simpa using h c hc)
    have hsymbol : String.ofList [c] = String.singleton c := rfl
    show (if [c] = ['\n'] then none else _) = _
    rw [if_neg hne, hcolumns, hsymbol]
  rw [List.filterMap_congr hglyph, List.filterMap_eq_map']

/-- Glyphs of one column each are drawn one a cell, as many as there is room for. -/
theorem paintsAt_glyphMarks {left right y x : Nat} {first : Bool} {gs : List Glyph} (hx : left ≤ x)
    (hfirst : first = true ∨ left < x) (hwidth : ∀ g ∈ gs, g.width = 1) (z : Nat) :
    paintsAt (glyphMarks left right y x first gs) z y
      = if x ≤ z ∧ z < right then (gs[z - x]?.map fun g => Paint.put g.symbol g.style).toList
        else [] := by
  induction gs generalizing x first with
  | nil => simp [glyphMarks, paintsAt]
  | cons g rest ih =>
    have hone : g.width = 1 := hwidth g List.mem_cons_self
    have hmark : (if first then (⟨x, y, .put g.symbol g.style⟩ : Mark)
        else if x = left then ⟨x, y, .append g.symbol g.style⟩
        else if g.width = 0 then ⟨x - 1, y, .append g.symbol g.style⟩
        else ⟨x, y, .put g.symbol g.style⟩) = ⟨x, y, .put g.symbol g.style⟩ := by
      rcases hfirst with rfl | hleft
      · rfl
      · have hne : x ≠ left := by omega
        have hnonzero : g.width ≠ 0 := by omega
        rw [if_neg hne, if_neg hnonzero, ite_self]
    have hhidden : hiddenMarks y (x + 1) (x + 1) = [] := by simp [hiddenMarks]
    rw [glyphMarks]
    simp only [hmark]
    simp only [hone, hhidden, List.nil_append]
    by_cases hfits : right < x + 1
    · have hout : ¬(x ≤ z ∧ z < right) := by omega
      rw [if_pos hfits, if_neg hout]
      rfl
    · have hrest : ∀ g ∈ rest, g.width = 1 := fun g hg => hwidth g (List.mem_cons_of_mem _ hg)
      rw [if_neg hfits, ← List.singleton_append, paintsAt_append,
        ih (Nat.le_succ_of_le hx) (.inr (Nat.lt_succ_of_le hx)) hrest]
      by_cases hz : z = x
      · -- the cell of this glyph; the others are behind it
        subst hz
        have hbehind : ¬(z + 1 ≤ z ∧ z < right) := by omega
        rw [if_neg hbehind, if_pos ⟨Nat.le_refl z, by omega⟩]
        simp [paintsAt]
      · have hother : paintsAt [(⟨x, y, .put g.symbol g.style⟩ : Mark)] z y = [] :=
          paintsAt_eq_nil fun m hm hx _ => hz (by rw [← hx, List.mem_singleton.mp hm])
        rw [hother, List.nil_append]
        by_cases hin : x + 1 ≤ z ∧ z < right
        · have hplace : z - x = z - (x + 1) + 1 := by omega
          rw [if_pos hin, if_pos ⟨by omega, hin.2⟩, hplace, List.getElem?_cons_succ]
        · have hout : ¬(x ≤ z ∧ z < right) := by omega
          rw [if_neg hin, if_neg hout]

/-- An area with a row and a column is not empty. -/
theorem isEmpty_eq_false {area : Rect} (hheight : 0 < area.height) (hwidth : 0 < area.width) :
    area.isEmpty = false := by
  simp [Rect.isEmpty]
  omega

/-- A printable span is drawn one character a cell as far as the area goes; on the cells behind it
    the other spans are drawn. -/
theorem paintsAt_spanMarks_cons {area : Rect} (hheight : 0 < area.height) {s : Span}
    (rest : List Span) (h : ∀ c ∈ s.text.toList, IsPrintable c) {j : Nat} (hj : j < area.width) :
    paintsAt (spanMarks area (s :: rest)) (area.x + j) area.y
      = if hch : j < s.text.toList.length then [.put (String.singleton s.text.toList[j]) s.style]
        else paintsAt (spanMarks (area.indent s.text.toList.length) rest) (area.x + j) area.y := by
  have hcolumns : columns s.text = s.text.toList.length := columnsOf_of_printable h
  rw [spanMarks]
  simp only [hcolumns, isEmpty_eq_false hheight (Nat.zero_lt_of_lt hj)]
  by_cases hnone : s.text.toList.length = 0
  · -- a span without text takes nothing of the area
    have hindent : area.indent s.text.toList.length = area := by simp [Rect.indent, hnone]
    rw [if_pos hnone, dif_neg (by omega), hindent]
  · have hwidth : ∀ g ∈ s.glyphs, g.width = 1 := by
      intro g hg
      rw [glyphs_of_printable h] at hg
      obtain ⟨c, -, rfl⟩ := List.mem_map.mp hg
      rfl
    have hplace : area.x ≤ area.x + j ∧ area.x + j < area.right :=
      ⟨Nat.le_add_right _ _, Nat.add_lt_add_left hj _⟩
    rw [if_neg hnone, if_neg Bool.false_ne_true, paintsAt_append,
      paintsAt_glyphMarks (Nat.le_refl _) (.inl rfl) hwidth, if_pos hplace, Nat.add_sub_cancel_left,
      glyphs_of_printable h, List.getElem?_map]
    by_cases hch : j < s.text.toList.length
    · have hbehind : paintsAt (spanMarks (area.indent s.text.toList.length) rest) (area.x + j)
          area.y = [] := by
        apply paintsAt_eq_nil
        intro m hm hx _
        have hindent : area.x + min s.text.toList.length area.width ≤ m.x := (mem_spanMarks hm).2.1
        omega
      rw [dif_pos hch, hbehind, List.getElem?_eq_getElem hch]
      rfl
    · rw [dif_neg hch, List.getElem?_eq_none (Nat.not_lt.mp hch)]
      rfl

/-- **Labels on the screen.**  Printable text at the start of a line is drawn one character a cell,
    whatever is behind it, as far as the area goes. -/
theorem paintsAt_rowMarks {area : Rect} (hheight : 0 < area.height) (s : Span) (rest : List Span)
    (h : ∀ c ∈ s.text.toList, IsPrintable c) {j : Nat} (hj : j < area.width) {ch : Char}
    (hch : s.text.toList[j]? = some ch) :
    paintsAt (rowMarks area (s :: rest)) (area.x + j) area.y
      = [.put (String.singleton ch) s.style] := by
  obtain ⟨hlength, rfl⟩ := List.getElem?_eq_some_iff.mp hch
  rw [rowMarks, isEmpty_eq_false hheight (Nat.zero_lt_of_lt hj), if_neg Bool.false_ne_true,
    paintsAt_spanMarks_cons hheight rest h hj, dif_pos hlength]

/-- Printable spans are drawn one character a cell, each in its style, as far as the area goes. -/
theorem paintsAt_spanMarks {area : Rect} (hheight : 0 < area.height) {line : List Span}
    (h : ∀ s ∈ line, ∀ c ∈ s.text.toList, IsPrintable c) {j : Nat} (hj : j < area.width) :
    paintsAt (spanMarks area line) (area.x + j) area.y
      = (line.flatMap fun s => s.text.toList.map fun c =>
          Paint.put (String.singleton c) s.style)[j]?.toList := by
  induction line generalizing area j with
  | nil => rfl
  | cons s rest ih =>
    have hs := h s List.mem_cons_self
    have hrest : ∀ s ∈ rest, ∀ c ∈ s.text.toList, IsPrintable c :=
      fun s hmem => h s (List.mem_cons_of_mem _ hmem)
    rw [paintsAt_spanMarks_cons hheight rest hs hj, List.flatMap_cons]
    by_cases hch : j < s.text.toList.length
    · rw [dif_pos hch, List.getElem?_append_left (by rwa [List.length_map]), List.getElem?_map,
        List.getElem?_eq_getElem hch]
      rfl
    · -- the place is the same, seen from the area that is left
      have hplace : area.x + j = (area.indent s.text.toList.length).x
          + (j - s.text.toList.length) := by
        simp only [Rect.indent]
        omega
      have hheight : 0 < (area.indent s.text.toList.length).height := hheight
      have hroom : j - s.text.toList.length < (area.indent s.text.toList.length).width := by
        simp only [Rect.indent]
        omega
      rw [dif_neg hch, List.getElem?_append_right (by simpa using Nat.not_lt.mp hch),
        List.length_map, hplace]
      exact ih hheight hrest hroom

/-! ### The pane -/

/-- The row of a pane for its line `i`. -/
def paneRow (r : Rect) (i : Nat) : Rect := ⟨r.x + 1, r.y + 1 + i, r.width - 2, 1⟩

/-- Inside its border, a cell of the pane is drawn as the line of its row is, if there is one. -/
theorem paintsAt_outcomesMarks (p : Panel) {r : Rect} {i j : Nat} (hi : i < r.height - 2)
    (hj : j < r.width - 2) :
    paintsAt (outcomesMarks p r) (r.x + 1 + j) (r.y + 1 + i)
      = ((latest (r.height - 2) p.outcomes)[i]?.map fun o => paintsAt
          (rowMarks (paneRow r i) (outcomeLine o)) (r.x + 1 + j) (r.y + 1 + i)).getD [] := by
  have hinside : r.inner.contains (r.x + 1 + j) (r.y + 1 + i) = true := by
    rw [Rect.contains_inner_iff]
    omega
  have hborder : paintsAt (borderMarks r (.colored .blue)) (r.x + 1 + j) (r.y + 1 + i) = [] := by
    apply paintsAt_eq_nil
    intro m hm hx hy
    have hout := mem_borderMarks hm
    rw [hx, hy, hinside] at hout
    cases hout
  have htitle : paintsAt (titleMarks r " Outcomes " .left) (r.x + 1 + j) (r.y + 1 + i) = [] := by
    apply paintsAt_eq_nil
    intro m hm _ hy
    have htop := mem_titleMarks hm
    omega
  have hinner : r.inner = ⟨r.x + 1, r.y + 1, r.width - 2, r.height - 2⟩ := by
    simp only [Rect.inner, Rect.right, Rect.bottom, Rect.mk.injEq, and_true]
    omega
  rw [outcomesMarks, paintsAt_append, paintsAt_append, hborder, htitle, hinner, linesMarks]
  show paintsAt (List.mapIdx (fun i line => rowMarks (paneRow r i) line) _).flatten _ _ = _
  rw [paintsAt_rows _ _ (r.y + 1) (fun i line m hm => (mem_rowMarks hm).1), List.getElem?_map,
    Option.map_map]
  rfl

/-- Lines are drawn inside the area that has a row for each of them. -/
theorem mem_linesMarks {area : Rect} {lines : List (List Span)}
    (hlines : lines.length ≤ area.height) {m : Mark} (h : m ∈ linesMarks area lines) :
    area.contains m.x m.y = true := by
  obtain ⟨marks, hmarks, hm⟩ := List.mem_flatten.mp h
  obtain ⟨i, hi, rfl⟩ := List.mem_mapIdx.mp hmarks
  obtain ⟨hy, hleft, hright⟩ := mem_rowMarks hm
  simp only [Rect.right] at hy hleft hright
  rw [Rect.contains_iff]
  omega

/-- The border of the pane, with its title, is drawn as if there were no outcomes. -/
theorem paintsAt_frame (p : Panel) {r : Rect} {x y : Nat} (h : r.inner.contains x y = false) :
    paintsAt (outcomesMarks p r) x y
      = paintsAt (borderMarks r (.colored .blue) ++ titleMarks r " Outcomes " .left) x y := by
  have hlines : paintsAt
      (linesMarks r.inner ((latest (r.height - 2) p.outcomes).map outcomeLine)) x y = [] := by
    apply paintsAt_eq_nil
    rintro m hm rfl rfl
    have hlength :
        ((latest (r.height - 2) p.outcomes).map outcomeLine).length ≤ r.inner.height := by
      rw [List.length_map, length_latest]
      exact Nat.min_le_right _ _
    rw [mem_linesMarks hlength hm] at h
    cases h
  rw [outcomesMarks, paintsAt_append, hlines, List.append_nil]

/-- The line of an outcome is its label, and its text in the colour of its severity. -/
theorem outcomeLine_eq (o : Outcome) : outcomeLine o
    = [⟨label o, .colored .darkGray⟩, ⟨o.text, .colored (severityColor o.severity)⟩] := rfl

/-- A row of the pane begins with the label of its outcome. -/
theorem paintsAt_label (r : Rect) (o : Outcome) (i : Nat) {j : Nat} (hj : j < r.width - 2)
    {ch : Char} (hch : (label o).toList[j]? = some ch) :
    paintsAt (rowMarks (paneRow r i) (outcomeLine o)) (r.x + 1 + j) (r.y + 1 + i)
      = [.put (String.singleton ch) (.colored .darkGray)] := by
  have hheight : 0 < (paneRow r i).height := Nat.one_pos
  rw [outcomeLine_eq]
  exact paintsAt_rowMarks hheight ⟨label o, .colored .darkGray⟩ _ (isPrintable_label o) hj hch

/-- Where its text is printable, a row of the pane is the label and the text of its outcome, one
    character a cell. -/
theorem paintsAt_outcomeLine (r : Rect) {o : Outcome} (i : Nat)
    (h : ∀ c ∈ o.text.toList, IsPrintable c) {j : Nat} (hj : j < r.width - 2) :
    paintsAt (rowMarks (paneRow r i) (outcomeLine o)) (r.x + 1 + j) (r.y + 1 + i)
      = ((label o).toList.map (fun c => Paint.put (String.singleton c) (.colored .darkGray))
          ++ o.text.toList.map fun c =>
            Paint.put (String.singleton c) (.colored (severityColor o.severity)))[j]?.toList := by
  have hheight : 0 < (paneRow r i).height := Nat.one_pos
  have hprintable : ∀ s ∈ outcomeLine o, ∀ c ∈ s.text.toList, IsPrintable c := by
    intro s hs
    rw [outcomeLine_eq, List.mem_pair] at hs
    rcases hs with rfl | rfl
    · exact isPrintable_label o
    · exact h
  rw [rowMarks, isEmpty_eq_false hheight (Nat.zero_lt_of_lt hj), if_neg Bool.false_ne_true]
  refine (paintsAt_spanMarks hheight hprintable hj).trans ?_
  rw [outcomeLine_eq, List.flatMap_cons, List.flatMap_singleton]

/-- The parts of the screen stand below each other: no cell of the pane belongs to another part. -/
theorem not_contains_of_pane {width height x y : Nat}
    (h : (Layout.ofFrame ⟨0, 0, width, height⟩).outcomes.contains x y = true) :
    (Layout.ofFrame ⟨0, 0, width, height⟩).status.contains x y = false ∧
    (Layout.ofFrame ⟨0, 0, width, height⟩).install.contains x y = false ∧
    (Layout.ofFrame ⟨0, 0, width, height⟩).uninstall.contains x y = false ∧
    (Layout.ofFrame ⟨0, 0, width, height⟩).bar.contains x y = false := by
  rw [Rect.contains_iff] at h
  simp only [Layout.ofFrame, Layout.buttonRow, column, centeredRow, portion] at h
  simp only [Bool.eq_false_iff, ne_eq, Rect.contains_iff, Layout.ofFrame, Layout.buttonRow, column,
    centeredRow, portion]
  omega

/-- On the screen, the pane is drawn on blank cells, and nothing is drawn on it but the dialog. -/
theorem cell?_render_outcomes (p : Panel) {width height x y : Nat}
    (h : (Layout.ofFrame ⟨0, 0, width, height⟩).outcomes.contains x y = true)
    (hdialog : p.help = true →
      (Layout.ofFrame ⟨0, 0, width, height⟩).dialog.contains x y = false) :
    (render p width height).cell? x y
      = ((Canvas.blank width height).draw (Layout.ofFrame ⟨0, 0, width, height⟩).outcomes
          (outcomesMarks p (Layout.ofFrame ⟨0, 0, width, height⟩).outcomes)).cell? x y := by
  obtain ⟨hstatus, hinstall, huninstall, hbar⟩ := not_contains_of_pane h
  have hrender : (render p width height).cell? x y = (renderPanel p width height).cell? x y := by
    cases hhelp : p.help with
    | false => simp [render, hhelp]
    | true =>
      simp only [render, hhelp, if_true]
      exact Canvas.cell?_draw_of_not_contains _ _ _ (hdialog hhelp)
  rw [hrender, renderPanel]
  rw [Canvas.cell?_draw_of_not_contains _ _ _ hbar, Canvas.cell?_draw, if_pos h,
    Canvas.cell?_draw_of_not_contains _ _ _ huninstall,
    Canvas.cell?_draw_of_not_contains _ _ _ hinstall,
    Canvas.cell?_draw_of_not_contains _ _ _ hstatus, Canvas.cell?_draw, if_pos h]

/-- **The newest outcomes.**  A pane of any size shows the last outcomes, as many as it has rows
    inside its border, or all if there are fewer; the newest one is among them if there is a row.
    If the clock never goes back, none of those left out is newer than one that is shown.

    They are drawn from the first of these rows on, one a row, oldest first.  Whatever the texts
    hold, a row is the line of a label and the text, in the colour of the severity, as if its
    outcome was the only one; the rows that are left stay as they are, and so does the border.  The
    label is the age of the outcome in brackets, one character a cell as far as the row goes, filled
    up with spaces on the left to six characters, and it tells the age in seconds.  Behind it
    printable text stands one character a cell too, and the cells behind the text stay as they are.

    On a screen of any size the pane of the outcomes looks so on blank cells, except where the help
    dialog covers it. -/
theorem newest_outcomes (p : Panel) (r : Rect) (c : Canvas) :
    let shown := latest (r.height - 2) p.outcomes
    let drawn := c.draw r (outcomesMarks p r)
    (∃ hidden, p.outcomes = hidden ++ shown ∧
      ((p.outcomes.map Outcome.time).Pairwise (· ≤ ·) →
        ∀ o ∈ hidden, ∀ o' ∈ shown, o.time ≤ o'.time)) ∧
    shown.length = min p.outcomes.length (r.height - 2) ∧
    (3 ≤ r.height → shown.getLast? = p.outcomes.getLast?) ∧
    (∀ i o, shown[i]? = some o → ∀ j < r.width - 2,
      drawn.cell? (r.x + 1 + j) (r.y + 1 + i)
        = (c.draw (paneRow r i) (rowMarks (paneRow r i) [⟨label o, .colored .darkGray⟩,
            ⟨o.text, .colored (severityColor o.severity)⟩])).cell?
              (r.x + 1 + j) (r.y + 1 + i)) ∧
    (∀ i < r.height - 2, shown.length ≤ i → ∀ j < r.width - 2,
      drawn.cell? (r.x + 1 + j) (r.y + 1 + i) = c.cell? (r.x + 1 + j) (r.y + 1 + i)) ∧
    (∀ x y, r.inner.contains x y = false →
      drawn.cell? x y = (c.draw r (borderMarks r (.colored .blue)
        ++ titleMarks r " Outcomes " .left)).cell? x y) ∧
    (∀ i o, shown[i]? = some o → ∀ j < r.width - 2, ∀ ch, (label o).toList[j]? = some ch →
      drawn.cell? (r.x + 1 + j) (r.y + 1 + i)
        = (c.cell? (r.x + 1 + j) (r.y + 1 + i)).map
            (Paint.put (String.singleton ch) (.colored .darkGray)).apply) ∧
    (∀ i o, shown[i]? = some o → (∀ ch ∈ o.text.toList, IsPrintable ch) →
      let behind := (label o).length
      (∀ k ch, o.text.toList[k]? = some ch → behind + k < r.width - 2 →
        drawn.cell? (r.x + 1 + (behind + k)) (r.y + 1 + i)
          = (c.cell? (r.x + 1 + (behind + k)) (r.y + 1 + i)).map
              (Paint.put (String.singleton ch) (.colored (severityColor o.severity))).apply) ∧
      ∀ j < r.width - 2, behind + o.text.length ≤ j →
        drawn.cell? (r.x + 1 + j) (r.y + 1 + i) = c.cell? (r.x + 1 + j) (r.y + 1 + i)) ∧
    (∀ o : Outcome, ∃ spaces,
      label o = "[" ++ (String.ofList (List.replicate spaces ' ') ++ elapsedText o.time) ++ "] " ∧
      spaces + (elapsedText o.time).length = max 6 (elapsedText o.time).length) ∧
    (∀ o o' : Outcome, label o = label o' ↔ o.time / 1000 = o'.time / 1000) ∧
    (∀ width height x y,
      let layout := Layout.ofFrame ⟨0, 0, width, height⟩
      layout.outcomes.contains x y = true →
      (p.help = true → layout.dialog.contains x y = false) →
      (render p width height).cell? x y
        = ((Canvas.blank width height).draw layout.outcomes
            (outcomesMarks p layout.outcomes)).cell? x y) := by
  intro shown drawn
  have hlength : shown.length = min p.outcomes.length (r.height - 2) := length_latest _ _
  have hroom {i : Nat} {o : Outcome} (ho : shown[i]? = some o) : i < r.height - 2 := by
    have hi : i < shown.length := (List.getElem?_eq_some_iff.mp ho).1
    omega
  have hpane {i j : Nat} (hi : i < r.height - 2) (hj : j < r.width - 2) :
      r.contains (r.x + 1 + j) (r.y + 1 + i) = true := by
    rw [Rect.contains_iff]
    omega
  have hcell {i j : Nat} {o : Outcome} (ho : shown[i]? = some o) (hj : j < r.width - 2) :
      drawn.cell? (r.x + 1 + j) (r.y + 1 + i)
        = (c.cell? (r.x + 1 + j) (r.y + 1 + i)).map fun cell => cell.painted
            (paintsAt (rowMarks (paneRow r i) (outcomeLine o)) (r.x + 1 + j) (r.y + 1 + i)) := by
    rw [Canvas.cell?_draw, if_pos (hpane (hroom ho) hj), paintsAt_outcomesMarks p (hroom ho) hj, ho]
    rfl
  refine ⟨⟨_, (latest_suffix _ _).symm, ?_⟩, hlength, ?_, ?_, ?_, ?_, ?_, ?_, ?_, ?_, ?_⟩
  · intro hclock o ho o' ho'
    rw [← latest_suffix (r.height - 2) p.outcomes, List.map_append, List.pairwise_append] at hclock
    exact hclock.2.2 _ (List.mem_map_of_mem ho) _ (List.mem_map_of_mem ho')
  · intro hheight
    exact getLast?_latest (by omega) _
  · intro i o ho j hj
    have hrow : (paneRow r i).contains (r.x + 1 + j) (r.y + 1 + i) = true := by
      rw [Rect.contains_iff]
      simp only [paneRow]
      omega
    rw [hcell ho hj, Canvas.cell?_draw, if_pos hrow]
    rfl
  · intro i hi hlast j hj
    rw [Canvas.cell?_draw, if_pos (hpane hi hj), paintsAt_outcomesMarks p hi hj,
      List.getElem?_eq_none hlast]
    exact Option.map_id'
  · intro x y hframe
    rw [Canvas.cell?_draw, Canvas.cell?_draw, paintsAt_frame p hframe]
  · intro i o ho j hj ch hch
    rw [hcell ho hj, paintsAt_label r o i hj hch]
    rfl
  · intro i o ho hprintable behind
    refine ⟨?_, ?_⟩
    · intro k ch hch hk
      have hlabel : ((label o).toList.map fun c =>
          Paint.put (String.singleton c) (.colored .darkGray)).length = behind := by
        rw [List.length_map, String.length_toList]
      rw [hcell ho hk, paintsAt_outcomeLine r i hprintable hk,
        List.getElem?_append_right (by omega), hlabel, Nat.add_sub_cancel_left, List.getElem?_map,
        hch]
      rfl
    · intro j hj hbehind
      rw [hcell ho hj, paintsAt_outcomeLine r i hprintable hj, List.getElem?_eq_none]
      · exact Option.map_id'
      · simpa [String.length_toList] using hbehind
  · intro o
    refine ⟨6 - (elapsedText o.time).length, rfl, ?_⟩
    omega
  · intro o o'
    exact label_eq_iff
  · intro width height x y layout hpane hdialog
    exact cell?_render_outcomes p hpane hdialog

/-- Three outcomes, one with a line break in its text, in a pane with two rows and in one with
    four. -/
theorem newest_outcomes_two_panes :
    let first : Outcome := ⟨4000, .info, "#0: submitted"⟩
    let second : Outcome := ⟨5999, .warning, "#0: approval\nneeded"⟩
    let third : Outcome := ⟨65000, .error, "#0: failed"⟩
    let p : Panel :=
      { Panel.new default "None" .replace with outcomes := [first, second, third] }
    let low : Rect := ⟨0, 0, 14, 4⟩
    let high : Rect := ⟨0, 0, 14, 6⟩
    let c := Canvas.blank 14 6
    latest 2 p.outcomes = [second, third] ∧
    (latest 2 p.outcomes).getLast? = some third ∧
    label third = "[ 1m05s] " ∧
    (c.draw low (outcomesMarks p low)).cell? 3 2 = some ⟨"1", .darkGray, .reset, false⟩ ∧
    (c.draw low (outcomesMarks p low)).cell? 3 1
      = (c.draw (paneRow low 0) (rowMarks (paneRow low 0) [⟨label second, .colored .darkGray⟩,
          ⟨second.text, .colored .yellow⟩])).cell? 3 1 ∧
    (c.draw low (outcomesMarks p low)).cell? 11 2 = some ⟨"0", .red, .reset, false⟩ ∧
    (c.draw high (outcomesMarks p high)).cell? 3 4 = some .blank ∧
    ((c.draw low (outcomesMarks p low)).cell? 13 2).map Cell.symbol = some "│" ∧
    (∃ hidden, p.outcomes = hidden ++ latest 2 p.outcomes ∧
      ∀ o ∈ hidden, ∀ o' ∈ latest 2 p.outcomes, o.time ≤ o'.time) := by
  intro first second third p low high c
  obtain ⟨⟨hidden, hsplit, htimes⟩, -, hlast, hrows, -, hframe, hlabels, htexts, -, -, -⟩ :=
    newest_outcomes p low c
  obtain ⟨-, -, -, -, hfree, -, -, -, -, -, -⟩ := newest_outcomes p high c
  have hcell := hlabels 1 third rfl 2 (by decide) '1' (by decide +kernel)
  have hprintable : ∀ ch ∈ third.text.toList, IsPrintable ch := by simp [third, IsPrintable]
  have hbehind : (label third).length = 9 := by decide +kernel
  have htext := (htexts 1 third rfl hprintable).1 1 '0' (by decide +kernel) (by decide +kernel)
  rw [hbehind] at htext
  have hblank := hfree 3 (by decide) (by decide) 2 (by decide)
  have hborder : ((c.draw low (outcomesMarks p low)).cell? 13 2).map Cell.symbol = some "│" := by
    rw [hframe 13 2 (by decide)]
    decide +kernel
  exact ⟨rfl, hlast (by decide), by decide +kernel, hcell, hrows 0 second rfl 2 (by decide), htext,
    hblank, hborder, hidden, hsplit, htimes (by decide)⟩

end DriverExtension.Screen
