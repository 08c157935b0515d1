import DriverExtension.Proofs.Except
import DriverExtension.Settings.Store

namespace DriverExtension.Settings

open Log Storage

/-!
# Loading settings

Settings are loaded from one file, and from nothing but its text.

* `Settings.Unusable`, `Settings.loadFrom_eq_error_iff` — why a file cannot be used;
* `Settings.loadFrom_eq_ok_iff` — the settings in a file that can be;
* `Settings.deciding?` — the file that decides about the settings;
* `Settings.load_some`, `Settings.loadOrStandard_eq` — what is loaded from it;
* `Settings.exists_level_of_loadFrom` — loaded settings name one of the levels.
-/

/-- Why the settings in a file cannot be used: it cannot be read, its text describes no settings, or
    these are not valid. -/
inductive Unusable (path : String) (files : FileTree) : SettingsError → Prop
  | unread (cause : FileError) (hread : files.readText path = .error cause) :
      Unusable path files (.unreadable path cause)
  | unparsed (text : String) (e : SettingsError) (hread : files.readText path = .ok text)
      (hparse : ofToml path text = .error e) : Unusable path files e
  | invalid (text : String) (settings : Settings) (cause : Fault)
      (hread : files.readText path = .ok text) (hparse : ofToml path text = .ok settings)
      (hcheck : settings.validate = .error cause) : Unusable path files (.invalid cause)

/-- The file that decides about the settings, if one does: the one that is asked for, or else the
    first standard place where there is a file. -/
def deciding? (env : Surroundings) (files : FileTree) (asked : Option String) : Option String :=
  match asked with
  | some path => some (env.expand path)
  | none =>
    if files.contains env.settingsPath then some env.settingsPath
    else if files.contains systemSettingsPath then some systemSettingsPath
    else none

/-! ### One file -/

/-- Loading from a file succeeds if it is read, parsed and checked. -/
theorem loadFrom_eq_ok_iff (path : String) (files : FileTree) (settings : Settings) :
    loadFrom path files = .ok settings ↔
      ∃ text, files.readText path = .ok text ∧ ofToml path text = .ok settings ∧
        settings.validate = .ok () := by
  unfold loadFrom
  simp only [bind_eq_ok_iff, mapError_eq_ok_iff]
  constructor
  · rintro ⟨text, hread, settings', hparse, _, hcheck, hsettings⟩
    obtain rfl := Except.ok.inj hsettings
    exact ⟨text, hread, hparse, hcheck⟩
  · rintro ⟨text, hread, hparse, hcheck⟩
    exact ⟨text, hread, settings, hparse, (), hcheck, rfl⟩

/-- Loading from a file fails exactly if it cannot be used, and tells why. -/
theorem loadFrom_eq_error_iff (path : String) (files : FileTree) (e : SettingsError) :
    loadFrom path files = .error e ↔ Unusable path files e := by
  unfold loadFrom
  simp only [bind_eq_error_iff, mapError_eq_error_iff, mapError_eq_ok_iff]
  constructor
  · rintro (⟨cause, hread, rfl⟩ | ⟨text, hread, hparse | ⟨settings, hparse, hcheck⟩⟩)
    · exact .unread cause hread
    · exact .unparsed text e hread hparse
    · rcases hcheck with ⟨cause, hcheck, rfl⟩ | ⟨-, -, hnone⟩
      · exact .invalid text settings cause hread hparse hcheck
      · cases hnone
  · intro h
    cases h with
    | unread cause hread => exact .inl ⟨cause, hread, rfl⟩
    | unparsed text e hread hparse => exact .inr ⟨text, hread, .inl hparse⟩
    | invalid text settings cause hread hparse hcheck =>
      exact .inr ⟨text, hread, .inr ⟨settings, hparse, .inl ⟨cause, hcheck, rfl⟩⟩⟩

/-- Two systems with the same text in a file load the same settings from it. -/
theorem loadFrom_congr {path : String} {files files' : FileTree}
    (h : files'.readText path = files.readText path) :
    loadFrom path files' = loadFrom path files := by
  unfold loadFrom
  rw [h]

/-- Settings are valid exactly if they name one of the levels. -/
theorem validate_eq_ok_iff (s : Settings) :
    s.validate = .ok () ↔ ∃ level : Level, s.installer.logLevel = level.word := by
  unfold validate
  rw [map_eq_ok_iff]
  simp only [Level.ofWord_eq_ok_iff, and_true]

/-- Settings that were loaded from a file name one of the levels. -/
theorem exists_level_of_loadFrom {path : String} {files : FileTree} {settings : Settings}
    (h : loadFrom path files = .ok settings) :
    ∃ level : Level, settings.installer.logLevel = level.word := by
  obtain ⟨_, _, _, hcheck⟩ := (loadFrom_eq_ok_iff path files settings).mp h
  exact settings.validate_eq_ok_iff.mp hcheck

/-! ### The file that decides -/

/-- Where no file is asked for, the first standard place where there is a file decides. -/
theorem standardPath?_eq (env : Surroundings) (files : FileTree) :
    standardPath? env files = deciding? env files none := by
  unfold standardPath? deciding?
  cases hfirst : files.contains env.settingsPath <;>
    cases hsecond : files.contains systemSettingsPath <;> simp [List.find?, hfirst, hsecond]

/-- Settings that are asked for are loaded from the file that decides. -/
theorem load_some (env : Surroundings) (files : FileTree) (path : String) :
    load env files (some path) = (loadFrom path files).map fun settings => (settings, path) := rfl

/-- Where no file is asked for, the settings of the file that decides are in force if there is one
    and it can be used, and otherwise the standard ones. -/
theorem loadOrStandard_eq (env : Surroundings) (files : FileTree) :
    loadOrStandard env files
      = match deciding? env files none with
        | none => (standard, none, some .missing)
        | some path =>
          match loadFrom path files with
          | .ok settings => (settings, some path, none)
          | .error e => (standard, none, some e) := by
  unfold loadOrStandard load
  rw [← standardPath?_eq]
  cases standardPath? env files with
  | none => rfl
  | some path =>
    cases hload : loadFrom path files <;> simp [hload, Except.map]

end DriverExtension.Settings
