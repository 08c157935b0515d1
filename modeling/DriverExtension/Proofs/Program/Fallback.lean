import DriverExtension.Proofs.Program.Settings
import DriverExtension.Proofs.Settings.Saving

namespace DriverExtension

open CommandLine Log Storage
open Document (Members)

/-!
# Falling back to the standard settings

Where no settings file is asked for, settings never fail.  The standard ones are in force where no
file is found, and also where one is found that cannot be used.  So what a file says about the policy
counts only if all the rest of the file is in order.

* `Settings.Fallback`, `Settings.loadOrStandard_eq_standard_iff` — why the standard settings are in
  force;
* `Settings.loadOrStandard_eq_loaded_iff` — when those of a file are;
* `Settings.Asks`, `Settings.Asks.replacement_eq` — the policy that a text asks for;
* `Settings.fallback_account` — the account of the settings in force where no file is asked for.
-/

namespace Settings

/-! ### The fault behind a fallback -/

/-- Why the standard settings are in force: there is no file at a standard place, or the first one
    that is there cannot be used. -/
inductive Fallback (env : Surroundings) (files : FileTree) : SettingsError → Prop
  | absent (hfirst : files.contains env.settingsPath = false)
      (hsecond : files.contains systemSettingsPath = false) : Fallback env files .missing
  | unusable (path : String) (e : SettingsError) (hpath : deciding? env files none = some path)
      (hunusable : Unusable path files e) : Fallback env files e

variable {env : Surroundings} {files : FileTree} {path : String} {e : SettingsError}

/-- No file decides if there is none at the standard places. -/
theorem deciding?_eq_none_iff :
    deciding? env files none = none ↔
      files.contains env.settingsPath = false ∧ files.contains systemSettingsPath = false := by
  unfold deciding?
  cases files.contains env.settingsPath <;> cases files.contains systemSettingsPath <;> simp

/-- The fault of a file is never told as if there were no file. -/
theorem Unusable.ne_missing (h : Unusable path files e) : e ≠ .missing := by
  rintro rfl
  cases h with
  | unparsed text _ _ hparse =>
    unfold ofToml at hparse
    split at hparse
    · cases hparse
    · obtain ⟨_, -, hfault⟩ := (mapError_eq_error_iff _ _ _).mp hparse
      cases hfault

/-- A file that can be used is not one that cannot. -/
theorem Unusable.loadFrom_ne_ok (h : Unusable path files e) (settings : Settings) :
    loadFrom path files ≠ .ok settings := by
  rw [(loadFrom_eq_error_iff path files e).mpr h]
  exact fun h => by cases h

/-- The standard settings are in force, for a reason that is told. -/
theorem loadOrStandard_eq_standard_iff :
    loadOrStandard env files = (standard, none, some e) ↔ Fallback env files e := by
  rw [loadOrStandard_eq]
  constructor
  · intro h
    split at h
    · rename_i hnone
      obtain rfl : SettingsError.missing = e := by simpa using h
      obtain ⟨hfirst, hsecond⟩ := deciding?_eq_none_iff.mp hnone
      exact .absent hfirst hsecond
    · rename_i path hpath
      split at h
      · cases h
      · rename_i e' hload
        obtain rfl : e' = e := by simpa using h
        exact .unusable path e' hpath ((loadFrom_eq_error_iff path files e').mp hload)
  · intro h
    cases h with
    | absent hfirst hsecond => rw [deciding?_eq_none_iff.mpr ⟨hfirst, hsecond⟩]
    | unusable path e hpath hunusable =>
      have hload := (loadFrom_eq_error_iff path files e).mpr hunusable
      simp only [hpath, hload]

/-- A run that falls back goes on with the standard settings. -/
theorem Fallback.prepare_eq (h : Fallback env files e) {a : Arguments} (hconfig : a.config = none) :
    Setup.prepare env files a = .ok (Setup.combine a standard none (some e)) := by
  rw [Setup.prepare, hconfig]
  dsimp only
  rw [loadOrStandard_eq_standard_iff.mpr h]

/-- The settings of a file are in force. -/
theorem loadOrStandard_eq_loaded_iff (settings : Settings) :
    loadOrStandard env files = (settings, some path, none) ↔
      deciding? env files none = some path ∧ loadFrom path files = .ok settings := by
  rw [loadOrStandard_eq]
  constructor
  · intro h
    split at h
    · cases h
    · rename_i path' hpath
      split at h
      · rename_i settings' hload
        obtain ⟨rfl, rfl⟩ : settings' = settings ∧ path' = path := by simpa using h
        exact ⟨hpath, hload⟩
      · cases h
  · rintro ⟨hpath, hload⟩
    simp only [hpath, hload]

/-- There is no third case. -/
theorem loadOrStandard_cases (env : Surroundings) (files : FileTree) :
    (∃ e, loadOrStandard env files = (standard, none, some e)) ∨
      ∃ settings path, loadOrStandard env files = (settings, some path, none) := by
  rw [loadOrStandard_eq]
  split
  · exact .inl ⟨_, rfl⟩
  · split
    · exact .inr ⟨_, _, rfl⟩
    · exact .inl ⟨_, rfl⟩

/-- Absence is told exactly if there is no file. -/
theorem missing_iff :
    (loadOrStandard env files).2.2 = some .missing ↔ deciding? env files none = none := by
  constructor
  · intro hwarning
    rcases loadOrStandard_cases env files with ⟨e, h⟩ | ⟨settings, path, h⟩
    · obtain rfl : e = .missing := by simpa only [h, Option.some.injEq] using hwarning
      cases loadOrStandard_eq_standard_iff.mp h with
      | absent hfirst hsecond => exact deciding?_eq_none_iff.mpr ⟨hfirst, hsecond⟩
      | unusable path _ _ hunusable => exact absurd rfl hunusable.ne_missing
    · simp only [h, reduceCtorEq] at hwarning
  · intro hnone
    obtain ⟨hfirst, hsecond⟩ := deciding?_eq_none_iff.mp hnone
    rw [loadOrStandard_eq_standard_iff.mpr (.absent hfirst hsecond)]

/-! ### The policy that a text asks for -/

/-- A text asks for a policy: it is TOML, and its section for the extension names the policy.
    Nothing is said about the rest of the text. -/
def Asks (text : String) (policy : ReplacementPolicy) : Prop :=
  ∃ (table : Toml.Table Toml.Node) (ms lines : Members) (d : Document),
    Toml.parse text = .ok table ∧ table.document = .object ms ∧
      ms.lookup "extension" = some (.object lines) ∧ lines.lookup "replacement" = some d ∧
      ReplacementPolicy.decode .toml d = .ok policy

/-- Settings that are read from a text have the policy that it asks for. -/
theorem Asks.replacement_eq {text : String} {policy : ReplacementPolicy} {settings : Settings}
    (h : Asks text policy) (hparse : ofToml path text = .ok settings) :
    settings.extension.replacement = policy := by
  obtain ⟨table, ms, lines, d, htable, hdocument, hsection, hline, hpolicy⟩ := h
  rw [ofToml, htable] at hparse
  have hdecode : decode .toml (.object ms) = .ok settings := by
    rw [← hdocument]
    exact (mapError_eq_ok_iff _ _ _).mp hparse
  obtain ⟨-, -, hextension⟩ := (decode_object_iff .toml ms settings).mp hdecode
  rw [Found.Members.getD, hsection] at hextension
  obtain ⟨-, -, hreplacement⟩ :=
    (ExtensionSection.decode_object_iff .toml lines settings.extension).mp hextension
  rw [Found.Members.getD, hline] at hreplacement
  exact Except.ok.inj (hreplacement.symm.trans hpolicy)

/-- Settings are written as a text that asks for their policy. -/
theorem asks_toToml (s : Settings) : Asks s.toToml s.extension.replacement := by
  obtain ⟨table, hparse, hdocument⟩ := s.parse_toToml
  have hpolicy : ReplacementPolicy.decode .toml (.string s.extension.replacement.name)
      = .ok s.extension.replacement :=
    Variants.read_string .toml _ _ (by cases s.extension.replacement <;> rfl)
  exact ⟨table, _, _, _, hparse, hdocument, rfl, rfl, hpolicy⟩

/-- The policy that the file in question asks for is in force if it is the standard one, or if the
    file can be used. -/
theorem replacement_eq_iff {text : String} {policy : ReplacementPolicy}
    (hpath : deciding? env files none = some path) (hread : files.readText path = .ok text)
    (hasks : Asks text policy) :
    (loadOrStandard env files).1.extension.replacement = policy ↔
      policy = .replace ∨ ∀ e, ¬Unusable path files e := by
  cases hload : loadFrom path files with
  | ok settings =>
    -- the settings in force were read from this very text
    rw [(loadOrStandard_eq_loaded_iff settings).mpr ⟨hpath, hload⟩]
    obtain ⟨text', hread', hparse, -⟩ := (loadFrom_eq_ok_iff path files settings).mp hload
    obtain rfl : text = text' := Except.ok.inj (hread.symm.trans hread')
    exact iff_of_true (hasks.replacement_eq hparse) (.inr fun e h => h.loadFrom_ne_ok settings hload)
  | error e =>
    -- what the text asks for is passed over, and happens to be in force or not
    have hunusable := (loadFrom_eq_error_iff path files e).mp hload
    rw [loadOrStandard_eq_standard_iff.mpr (.unusable path e hpath hunusable)]
    constructor
    · rintro rfl
      exact .inl rfl
    · rintro (rfl | husable)
      · rfl
      · exact absurd hunusable (husable e)

/-- **Falling back.**  Let no settings file be asked for.
    The standard settings are in force, and come from no file, exactly if there is no file at the
    standard places or if the first file that is there cannot be used, be it that it is not read, not
    TOML, not of the right form, or not valid; the fault is told, and is told as absence only if
    neither file is there.  In all other cases the settings of the first file that is there are in
    force.
    So the policy that this file asks for is in force exactly if it is the standard one or if the
    file can be used: where the file cannot be used the run goes on with the standard policy and a
    warning, although the same file stops a run that asks for it. -/
theorem fallback_account (env : Surroundings) (files : FileTree) :
    let found := deciding? env files none
    let inForce := loadOrStandard env files
    (found = none ↔
      files.contains env.settingsPath = false ∧ files.contains systemSettingsPath = false) ∧
    (∀ e, inForce = (standard, none, some e) ↔ Fallback env files e) ∧
    (∀ settings path, inForce = (settings, some path, none) ↔
      found = some path ∧ loadFrom path files = .ok settings) ∧
    ((∃ e, inForce = (standard, none, some e)) ∨
      ∃ settings path, inForce = (settings, some path, none)) ∧
    (inForce.2.2 = some .missing ↔ found = none) ∧
    (∀ path text policy, found = some path → files.readText path = .ok text → Asks text policy →
      (inForce.1.extension.replacement = policy ↔
        policy = .replace ∨ ∀ e, ¬Unusable path files e)) ∧
    ∀ path e, found = some path → Unusable path files e →
      (∀ a : Arguments, a.config = none →
        ∃ s, Setup.prepare env files a = .ok s ∧ s.policy = .replace ∧
          s.warningText = "Config: " ++ e.message ++ "\n") ∧
      ∀ (a : Arguments) (asked : String), a.config = some asked → env.expand asked = path →
        Setup.prepare env files a = .error e := by
  intro found inForce
  refine ⟨deciding?_eq_none_iff, fun _ => loadOrStandard_eq_standard_iff,
    fun settings _ => loadOrStandard_eq_loaded_iff settings, loadOrStandard_cases env files,
    missing_iff, fun _ _ _ => replacement_eq_iff, ?_⟩
  intro path e hpath hunusable
  have hfallback : Fallback env files e := .unusable path e hpath hunusable
  constructor
  · intro a hconfig
    exact ⟨_, hfallback.prepare_eq hconfig, rfl, rfl⟩
  · rintro a asked hconfig rfl
    rw [Setup.prepare_of_config hconfig, (loadFrom_eq_error_iff _ files e).mpr hunusable]
    rfl

/-- A file that asks for no replacement, and for a level that there is not, is found and told about;
    and still an installed extension is replaced. -/
theorem cancel_overruled :
    let text := "[installer]\nlog_level = \"loud\"\n\n[extension]\n"
      ++ "identifier = \"id.bulwark.VirtualUSBDriver.driver\"\nreplacement = \"cancel\"\n"
    let env : Surroundings := ⟨some "home", none⟩
    let files := FileTree.empty.put ["tmp", "work"]
      (.directory [("home", .directory [(".config", .directory [("virtual-usb",
        .directory [("installer.toml", .file (Text.encodeUtf8 text))])])])])
    let a : Arguments := ⟨none, false, none, none, some .install⟩
    files.contains env.settingsPath = true ∧ files.readText env.settingsPath = .ok text ∧
      Asks text .cancel ∧
      ∃ cause, loadOrStandard env files = (standard, none, some (.invalid cause)) ∧
        ∃ s, Setup.prepare env files a = .ok s ∧ s.path = none ∧ s.policy = .replace ∧
          ∀ existing replacement, s.policy.decide existing replacement = .replace := by
  intro text env files a
  let written : Settings := ⟨⟨"loud", none⟩, ⟨.standard, .cancel⟩⟩
  have htext : text = written.toToml := by decide +kernel
  have hpath : env.settingsPath = "home/.config/virtual-usb/installer.toml" := by decide +kernel
  have hfind : files.find env.settingsPath = .ok (.file (Text.encodeUtf8 text)) := by
    rw [hpath]
    rfl
  have hfound : files.contains env.settingsPath = true := by rw [FileTree.contains, hfind]; rfl
  have hread := FileTree.readText_of_find hfind
  have hdeciding : deciding? env files none = some env.settingsPath := by
    rw [deciding?]
    exact if_pos hfound
  obtain ⟨cause, hcheck⟩ : ∃ cause, written.validate = .error cause := ⟨_, by rfl⟩
  have hunusable : Unusable env.settingsPath files (.invalid cause) :=
    .invalid text written cause hread (by rw [htext]; exact ofToml_toToml _ written) hcheck
  have hfallback : Fallback env files (.invalid cause) := .unusable _ _ hdeciding hunusable
  refine ⟨hfound, hread, ?_, cause, ?_, _, hfallback.prepare_eq rfl, rfl, rfl, fun _ _ => rfl⟩
  · rw [htext]
    exact asks_toToml written
  · exact loadOrStandard_eq_standard_iff.mpr hfallback

end Settings
end DriverExtension
