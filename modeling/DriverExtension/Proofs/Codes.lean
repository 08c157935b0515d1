import DriverExtension.Completion
import DriverExtension.Proofs.Text.Delimited
import Mathlib

namespace DriverExtension

open Text

/-!
# Codes and their names

A result is a raw code, two of which have names.  A failure is labelled by the name of its code or by
the code itself.  A name stands for one code, and no name looks like a code, so the label tells the
code.

* `Completion.raw_ofRaw`, `Completion.ofRaw_raw_iff` — a result keeps its raw code, and is made from
  it unless it hides a code that has a name;
* `FailureKind.mem_table_or_other` — a kind has a name in the table, or a code;
* `FailureKind.label_injective` — different kinds have different labels;
* `FailureKind.ofCode_named`, `FailureKind.ofCode_unnamed` — the kind of a code;
* `Failure.code_eq_of_kind_eq`, `Failure.code_eq_of_label_eq` — kinds, and already their labels, tell
  the codes of failures apart;
* `Failure.label_mem_names_iff` — which failures are labelled by a name.
-/

/-! ### Results -/

namespace Completion

/-- A raw code is kept by the result that is made from it. -/
@[simp]
theorem raw_ofRaw (n : Int64) : (ofRaw n).raw = n := by
  unfold ofRaw
  split
  case isTrue h => exact h.symm
  case isFalse =>
    split
    case isTrue h => exact h.symm
    case isFalse => rfl

/-- A code without a name is kept as it is. -/
theorem ofRaw_eq_other_iff (n : Int64) : ofRaw n = .other n ↔ n ≠ 0 ∧ n ≠ 1 := by
  unfold ofRaw
  split
  case isTrue h => simp [h]
  case isFalse h => split <;> simp_all

/-- **Results.**  A result is made from its own raw code unless it hides a code with a name. -/
theorem ofRaw_raw_iff (c : Completion) : ofRaw c.raw = c ↔ c ≠ .other 0 ∧ c ≠ .other 1 := by
  cases c with
  | completed => exact ⟨fun _ => ⟨nofun, nofun⟩, fun _ => rfl⟩
  | afterReboot => exact ⟨fun _ => ⟨nofun, nofun⟩, fun _ => rfl⟩
  | other code =>
    rw [raw, ofRaw_eq_other_iff]
    simp

end Completion

namespace FailureKind

/-! ### Labels -/

/-- A kind stands in the table, with its label, or it has no name. -/
theorem mem_table_or_other (k : FailureKind) :
    (∃ e ∈ table, e.1 = k ∧ toString k = e.2.2) ∨ ∃ code, k = .other code := by
  have hlabels : ∀ e ∈ table, toString e.1 = e.2.2 := by decide
  by_cases hk : k ∈ table.map Prod.fst
  · obtain ⟨e, he, rfl⟩ := List.mem_map.mp hk
    exact .inl ⟨e, he, rfl, hlabels e he⟩
  · cases k with
    | other code => exact .inr ⟨code, rfl⟩
    | _ => exact absurd (by decide) hk

/-- The label of a kind without a name. -/
theorem toList_label_other (code : Int64) :
    (toString (other code)).toList = "code ".toList ++ code.toInt.repr.toList := by
  have h : toString (other code) = "code " ++ code.toInt.repr := rfl
  rw [h, String.toList_append]

/-- No name in the table reads as a code. -/
theorem label_ne_code {e : FailureKind × String × String} (he : e ∈ table) (code : Int64) :
    e.2.2 ≠ toString (other code) := by
  -- the sixth character of every name is a letter; in a code the number begins there
  have hletter : ∀ e ∈ table,
      e.2.2.toList[5]?.any (fun c => !c.isDigit && c ≠ '-') = true := by decide
  intro heq
  have hsixth : e.2.2.toList[5]? = code.toInt.repr.toList[0]? := by
    rw [heq, toList_label_other]
    rfl
  have hany := hletter e he
  rw [hsixth, Option.any_eq_true] at hany
  obtain ⟨c, hc, hnumber⟩ := hany
  obtain ⟨hdigit, hminus⟩ : c.isDigit = false ∧ c ≠ '-' := by simpa using hnumber
  exact notMem_repr_int hdigit hminus _ (List.mem_of_getElem? hc)

/-- Codes are labelled differently. -/
theorem other_eq_of_label_eq {code code' : Int64}
    (h : toString (other code) = toString (other code')) : code = code' := by
  have hlist := congrArg String.toList h
  rw [toList_label_other, toList_label_other, List.append_cancel_left_eq] at hlist
  exact Int64.toInt_inj.mp (Int.repr_injective (String.toList_injective hlist))

/-- **Labels.**  Different kinds have different labels. -/
theorem label_injective {k k' : FailureKind} (h : toString k = toString k') : k = k' := by
  have hdistinct : ∀ e ∈ table, ∀ e' ∈ table, e.2.2 = e'.2.2 → e.1 = e'.1 := by decide
  rcases mem_table_or_other k with ⟨e, he, rfl, hlabel⟩ | ⟨code, rfl⟩ <;>
    rcases mem_table_or_other k' with ⟨e', he', rfl, hlabel'⟩ | ⟨code', rfl⟩
  · exact hdistinct e he e' he' (hlabel.symm.trans (h.trans hlabel'))
  · exact absurd (hlabel.symm.trans h) (label_ne_code he code')
  · exact absurd (hlabel'.symm.trans h.symm) (label_ne_code he' code)
  · rw [other_eq_of_label_eq h]

/-- The labels of the kinds that have names. -/
def names : List String := table.map (·.2.2)

/-- Thirteen kinds have names, each its own. -/
theorem names_distinct : names.length = 13 ∧ names.Nodup := by decide

/-- A label is a name unless it shows a code. -/
theorem label_mem_names_iff (k : FailureKind) :
    toString k ∈ names ↔ ∀ code, k ≠ .other code := by
  constructor
  · rintro hmem code rfl
    obtain ⟨e, he, hlabel⟩ := List.mem_map.mp hmem
    exact label_ne_code he code hlabel
  · intro hk
    rcases mem_table_or_other k with ⟨e, he, -, hlabel⟩ | ⟨code, rfl⟩
    · rw [hlabel]
      exact List.mem_map.mpr ⟨e, he, rfl⟩
    · exact absurd rfl (hk code)

/-- A bracket does not stand in a label. -/
theorem bracket_notMem_label (k : FailureKind) : '[' ∉ (toString k).toList := by
  have htable : ∀ e ∈ table, '[' ∉ e.2.2.toList := by decide
  rcases mem_table_or_other k with ⟨e, he, rfl, hlabel⟩ | ⟨code, rfl⟩
  · rw [hlabel]
    exact htable e he
  · rw [toList_label_other, List.mem_append]
    rintro (hmem | hmem)
    · exact absurd hmem (by decide)
    · exact notMem_repr_int (by decide) (by decide) _ hmem

/-! ### Kinds of codes -/

/-- Whether a code has a name. -/
def IsNamed (code : Int64) : Prop := 1 ≤ code.toInt ∧ code.toInt ≤ table.length

/-- A code with a name has the kind at its place in the table. -/
theorem ofCode_named {code : Int64} (h : IsNamed code) :
    ∃ hi : code.toInt.toNat - 1 < (table.map Prod.fst).length,
      ofCode code = (table.map Prod.fst)[code.toInt.toNat - 1] := by
  obtain ⟨hlow, hhigh⟩ := h
  have hi : code.toInt.toNat - 1 < table.length := by omega
  refine ⟨by rwa [List.length_map], ?_⟩
  rw [ofCode, if_pos ⟨hlow, hhigh⟩, List.getElem?_eq_getElem hi, List.getElem_map]

/-- A code without a name is a kind of its own. -/
theorem ofCode_unnamed {code : Int64} (h : ¬ IsNamed code) : ofCode code = .other code :=
  if_neg h

/-- A code with a name is no kind without one. -/
theorem ofCode_ne_other {code : Int64} (hnamed : IsNamed code) (code' : Int64) :
    ofCode code ≠ .other code' := by
  have htable : ∀ k ∈ table.map Prod.fst, k ≠ .other code' := by
    rintro k hk rfl
    simp [table] at hk
  obtain ⟨hi, hkind⟩ := ofCode_named hnamed
  exact hkind ▸ htable _ (List.getElem_mem hi)

/-- A kind without a name is only that of its own code. -/
theorem eq_of_ofCode_eq_other {code code' : Int64} (h : ofCode code = .other code') :
    code = code' := by
  by_cases hnamed : IsNamed code
  · exact absurd h (ofCode_ne_other hnamed code')
  · rw [ofCode_unnamed hnamed] at h
    exact other.inj h

/-- Different codes have different kinds. -/
theorem ofCode_injective {code code' : Int64} (h : ofCode code = ofCode code') : code = code' := by
  have hdistinct : (table.map Prod.fst).Nodup := by decide
  by_cases hnamed : IsNamed code
  · by_cases hnamed' : IsNamed code'
    · obtain ⟨hi, hkind⟩ := ofCode_named hnamed
      obtain ⟨hi', hkind'⟩ := ofCode_named hnamed'
      have hplace : code.toInt.toNat - 1 = code'.toInt.toNat - 1 :=
        hdistinct.getElem_inj_iff.mp (hkind.symm.trans (h.trans hkind'))
      have hlow := hnamed.1
      have hlow' := hnamed'.1
      exact Int64.toInt_inj.mp (by omega)
    · rw [ofCode_unnamed hnamed'] at h
      exact eq_of_ofCode_eq_other h
  · rw [ofCode_unnamed hnamed] at h
    exact (eq_of_ofCode_eq_other h.symm).symm

end FailureKind

/-! ### Failures -/

namespace Failure

/-- The kind of a failure is that of its code, or the code itself. -/
theorem kind_cases (f : Failure) : f.kind = .ofCode f.code ∨ f.kind = .other f.code := by
  unfold kind
  split
  · exact .inl rfl
  · exact .inr rfl

/-- Failures of one kind have one code, whatever their domains. -/
theorem code_eq_of_kind_eq {f g : Failure} (h : f.kind = g.kind) : f.code = g.code := by
  rcases f.kind_cases with hf | hf <;> rcases g.kind_cases with hg | hg
  · exact FailureKind.ofCode_injective (hf.symm.trans (h.trans hg))
  · exact FailureKind.eq_of_ofCode_eq_other (hf.symm.trans (h.trans hg))
  · exact (FailureKind.eq_of_ofCode_eq_other (hg.symm.trans (h.symm.trans hf))).symm
  · exact FailureKind.other.inj (hf.symm.trans (h.trans hg))

/-- **Codes.**  Failures with one label have one code. -/
theorem code_eq_of_label_eq {f g : Failure} (h : toString f.kind = toString g.kind) :
    f.code = g.code :=
  code_eq_of_kind_eq (FailureKind.label_injective h)

/-- **Names.**  A failure is labelled by a name if it is one of the system's with a named code. -/
theorem label_mem_names_iff (f : Failure) : toString f.kind ∈ FailureKind.names ↔
    f.domain = systemDomain ∧ 1 ≤ f.code.toInt ∧ f.code.toInt ≤ 13 := by
  rw [FailureKind.label_mem_names_iff, kind]
  split
  case isTrue hdomain =>
    rw [and_iff_right hdomain]
    by_cases hnamed : FailureKind.IsNamed f.code
    · exact iff_of_true (FailureKind.ofCode_ne_other hnamed) hnamed
    · refine iff_of_false (fun h => ?_) hnamed
      exact h f.code (FailureKind.ofCode_unnamed hnamed)
  case isFalse hdomain =>
    exact iff_of_false (fun h => h f.code rfl) (fun h => hdomain h.1)

end Failure
end DriverExtension
