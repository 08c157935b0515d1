import DriverExtension.Proofs.Settings.Loading
import DriverExtension.Proofs.Storage.Writing
import DriverExtension.Proofs.Toml.Sections
import DriverExtension.Proofs.Wire.Objects

namespace DriverExtension

open Document (Members Once)
open Log Storage Text

/-!
# Saving settings

Settings are written without any check, and checked when they are read.  So what was saved is loaded
again exactly if it would pass that check.

* `Settings.sections`, `Settings.toList_toToml` — the sections that settings are written as;
* `Settings.decode_sections` — these sections are decoded to the settings;
* `Settings.ofToml_toToml` — so settings are read from the text that they are written as;
* `Settings.load_save` — the account of saved and of loaded settings.
-/

namespace Settings

/-! ### The text -/

/-- The sections that settings are written as; what is not set has no line. -/
def sections (s : Settings) : List Toml.Section :=
  [⟨"installer", ("log_level", s.installer.logLevel)
      :: (s.installer.logFile.map fun path => ("log_file", path)).toList⟩,
    ⟨"extension", [("identifier", s.extension.identifier.text),
      ("replacement", s.extension.replacement.name)]⟩]

/-- A line of a text of settings. -/
theorem toList_assignment (name value : String) :
    (assignment name value).toList = Toml.Building.line name value := by
  simp only [assignment, Toml.Building.line, Toml.quote, String.toList_append, String.toList_ofList,
    List.append_assoc]
  rfl

/-- Settings are written as their sections. -/
theorem toList_toToml (s : Settings) : s.toToml.toList = Toml.written s.sections := by
  have hinstaller : "[installer]\n".toList = '[' :: ("installer".toList ++ [']', '\n']) := rfl
  have hextension : "\n[extension]\n".toList = '\n' :: '[' :: ("extension".toList ++ [']', '\n']) :=
    rfl
  have hempty : "".toList = [] := rfl
  unfold toToml
  cases hfile : s.installer.logFile with
  | none =>
    simp only [sections, Toml.written, Toml.Section.chars, hfile, String.toList_append,
      toList_assignment]
    simp only [hinstaller, hextension, hempty, Option.map_none, Option.toList_none,
      List.flatMap_cons, List.flatMap_nil, List.append_assoc, List.cons_append, List.nil_append,
      List.append_nil]
  | some path =>
    simp only [sections, Toml.written, Toml.Section.chars, hfile, String.toList_append,
      toList_assignment]
    simp only [hinstaller, hextension, Option.map_some, Option.toList_some, List.flatMap_cons,
      List.flatMap_nil, List.append_assoc, List.cons_append, List.nil_append, List.append_nil]

/-- The names of settings need no quotes, and none is given twice. -/
theorem proper_sections (s : Settings) : ∀ t ∈ s.sections, t.Proper := by
  have hinstaller : Toml.IsBareName "installer" := by decide
  have hextension : Toml.IsBareName "extension" := by decide
  have hlevel : Toml.IsBareName "log_level" := by decide
  have hfile : Toml.IsBareName "log_file" := by decide
  have hidentifier : Toml.IsBareName "identifier" := by decide
  have hreplacement : Toml.IsBareName "replacement" := by decide
  rw [sections, List.forall_mem_cons, List.forall_mem_cons]
  refine ⟨⟨hinstaller, ?_, ?_⟩, ⟨hextension, ?_, ?_⟩, List.forall_mem_nil _⟩
  · rw [List.forall_mem_cons]
    cases s.installer.logFile with
    | none => exact ⟨hlevel, List.forall_mem_nil _⟩
    | some path => exact ⟨hlevel, List.forall_mem_cons.mpr ⟨hfile, List.forall_mem_nil _⟩⟩
  · cases s.installer.logFile with
    | none => exact (by decide : ["log_level"].Nodup)
    | some path => exact (by decide : ["log_level", "log_file"].Nodup)
  · rw [List.forall_mem_cons, List.forall_mem_cons]
    exact ⟨hidentifier, hreplacement, List.forall_mem_nil _⟩
  · exact (by decide : ["identifier", "replacement"].Nodup)

/-! ### The settings in a text -/

/-- Texts with different names fit every shape. -/
theorem fits_texts (shape : Shape) {entries : List (String × String)}
    (h : (entries.map Prod.fst).Nodup) :
    shape.Fits (entries.map fun e => (e.1, Document.string e.2)) where
  readable := by
    intro m hm
    obtain ⟨e, -, rfl⟩ := List.mem_map.mp hm
    rfl
  skipped := by
    intro m hm _
    obtain ⟨e, -, rfl⟩ := List.mem_map.mp hm
    rfl
  once := by
    refine Once.of_nodup _ ?_
    rwa [List.map_map]

/-- The lines of the installer's section are decoded to it. -/
theorem decode_installer (s : InstallerSection)
    (h : ((("log_level", s.logLevel)
      :: (s.logFile.map fun path => ("log_file", path)).toList).map Prod.fst).Nodup) :
    InstallerSection.decode .toml (.object ((("log_level", s.logLevel)
        :: (s.logFile.map fun path => ("log_file", path)).toList).map
          fun e => (e.1, Document.string e.2))) = .ok s := by
  rw [InstallerSection.decode_object_iff]
  refine ⟨fits_texts _ h, rfl, ?_⟩
  cases s.logFile <;> rfl

/-- The lines of the extension's section are decoded to it. -/
theorem decode_extension (s : ExtensionSection) :
    ExtensionSection.decode .toml (.object ([("identifier", s.identifier.text),
        ("replacement", s.replacement.name)].map fun e => (e.1, Document.string e.2))) = .ok s := by
  rw [ExtensionSection.decode_object_iff]
  have hnames : ["identifier", "replacement"].Nodup := by decide
  refine ⟨fits_texts _ hnames, ?_, ?_⟩
  · exact (Identifier.decode_eq_ok_iff .toml _ s.identifier).mpr rfl
  · exact Variants.read_string .toml s.replacement.name s.replacement
      (by cases s.replacement <;> rfl)

/-- The document that settings are written as is decoded to them. -/
theorem decode_sections (s : Settings) :
    decode .toml (.object (s.sections.map Toml.Section.member)) = .ok s := by
  have hproper := s.proper_sections
  rw [sections, List.forall_mem_cons] at hproper
  have hnames : ["installer", "extension"].Nodup := by decide
  rw [decode_object_iff]
  refine ⟨⟨?_, ?_, Once.of_nodup _ hnames⟩, ?_, ?_⟩
  · exact List.forall_mem_cons.mpr ⟨rfl, List.forall_mem_cons.mpr ⟨rfl, List.forall_mem_nil _⟩⟩
  · -- both names are declared, so nothing is skipped
    have hinstaller : (shape .toml).declares "installer" = true := rfl
    have hextension : (shape .toml).declares "extension" = true := rfl
    refine List.forall_mem_cons.mpr ⟨fun h => ?_,
      List.forall_mem_cons.mpr ⟨fun h => ?_, List.forall_mem_nil _⟩⟩
    · rw [show (Toml.Section.member ⟨"installer", _⟩).1 = "installer" from rfl, hinstaller] at h
      cases h
    · rw [show (Toml.Section.member ⟨"extension", _⟩).1 = "extension" from rfl, hextension] at h
      cases h
  · exact decode_installer s.installer hproper.1.nodup
  · exact decode_extension s.extension

/-- Settings are written as a text that parses to their sections. -/
theorem parse_toToml (s : Settings) :
    ∃ t, Toml.parse s.toToml = .ok t ∧ t.document = .object (s.sections.map Toml.Section.member) := by
  have hnames : (s.sections.map Toml.Section.name).Nodup := by
    show ["installer", "extension"].Nodup
    decide
  exact Toml.parse_written s.proper_sections hnames s.toList_toToml

/-- **Round trip.**  Settings are read from the text that they are written as. -/
theorem ofToml_toToml (path : String) (s : Settings) : ofToml path s.toToml = .ok s := by
  obtain ⟨t, hparse, hdocument⟩ := s.parse_toToml
  rw [ofToml, hparse]
  show (decode .toml t.document).mapError _ = _
  rw [hdocument, decode_sections]
  rfl

/-! ### Saved settings -/

/-- What was saved is the text of the file, unless a device swallowed it. -/
theorem readText_of_save {s : Settings} {path : String} {files files' : FileTree}
    {records : List Record} (hsave : s.save path files = .ok (files', records))
    (hdevice : ∀ hasRoom, files'.find path ≠ .ok (.device hasRoom)) :
    files'.readText path = .ok s.toToml := by
  -- whatever directories were made, the file is written last
  obtain ⟨made, hmade⟩ : ∃ made : FileTree,
      ((made.writeText path s.toToml).mapError (SettingsError.unwritable path) >>= fun files =>
        pure (files, [saved path])) = .ok (files', records) := by
    unfold save at hsave
    dsimp only at hsave
    split at hsave
    · exact ⟨files, hsave⟩
    · obtain ⟨made, -, hmade⟩ := (bind_eq_ok_iff _ _ _).mp hsave
      exact ⟨made, hmade⟩
  obtain ⟨t, hwrite, hdone⟩ := (bind_eq_ok_iff _ _ _).mp hmade
  obtain ⟨rfl, -⟩ := Prod.mk.inj (Except.ok.inj hdone)
  rw [mapError_eq_ok_iff] at hwrite
  exact FileTree.readText_of_writeText hwrite hdevice

/-- Loading what was saved checks it. -/
theorem loadFrom_of_save {s : Settings} {path : String} {files files' : FileTree}
    {records : List Record} (hsave : s.save path files = .ok (files', records))
    (hdevice : ∀ hasRoom, files'.find path ≠ .ok (.device hasRoom)) :
    loadFrom path files' = (s.validate.mapError .invalid).map fun _ => s := by
  have hread := readText_of_save hsave hdevice
  have hparse := ofToml_toToml path s
  cases hcheck : s.validate with
  | ok =>
    exact (loadFrom_eq_ok_iff path files' s).mpr ⟨_, hread, hparse, hcheck⟩
  | error cause =>
    exact (loadFrom_eq_error_iff path files' _).mpr (.invalid _ s cause hread hparse hcheck)

/-- Settings are valid exactly if their word for the level is one of these. -/
theorem validate_eq_ok_iff_mem (s : Settings) :
    s.validate = .ok () ↔
      s.installer.logLevel ∈ ["trace", "debug", "info", "warn", "error"] := by
  rw [validate_eq_ok_iff]
  constructor
  · rintro ⟨level, hlevel⟩
    rw [hlevel]
    cases level <;> decide
  · intro hmem
    simp only [List.mem_cons, List.not_mem_nil, or_false] at hmem
    rcases hmem with h | h | h | h | h
    exacts [⟨.trace, h⟩, ⟨.debug, h⟩, ⟨.info, h⟩, ⟨.warn, h⟩, ⟨.error, h⟩]

/-- **Saving and loading.**  What was saved, and not swallowed by a device, is loaded again exactly
    if it names one of the levels, and is rejected otherwise.  Whatever a file holds, the settings
    loaded from it name one of the levels, and an identifier that its own text spells. -/
theorem load_save :
    (∀ (env : Surroundings) (s : Settings) (path : String) (files files' : FileTree)
        (records : List Record), s.save path files = .ok (files', records) →
        (∀ hasRoom, files'.find path ≠ .ok (.device hasRoom)) →
        (load env files' (some path) = .ok (s, path) ↔
          s.installer.logLevel ∈ ["trace", "debug", "info", "warn", "error"]) ∧
        (s.installer.logLevel ∉ ["trace", "debug", "info", "warn", "error"] →
          ∃ cause, load env files' (some path) = .error (.invalid cause))) ∧
      ∀ (env : Surroundings) (files : FileTree) (asked : Option String) (loaded : Settings)
        (path : String), load env files asked = .ok (loaded, path) →
        loaded.installer.logLevel ∈ ["trace", "debug", "info", "warn", "error"] ∧
        Identifier.ofString? loaded.extension.identifier.text = .ok loaded.extension.identifier := by
  constructor
  · intro env s path files files' records hsave hdevice
    rw [load_some, loadFrom_of_save hsave hdevice, ← validate_eq_ok_iff_mem]
    cases hcheck : s.validate with
    | ok => exact ⟨iff_of_true rfl rfl, fun h => absurd rfl h⟩
    | error cause =>
      exact ⟨iff_of_false (fun h => by cases h) (fun h => by cases h), fun _ => ⟨cause, rfl⟩⟩
  · intro env files asked loaded path hload
    unfold load at hload
    split at hload
    · cases hload
    · rename_i file _
      obtain ⟨settings, hfrom, hpair⟩ := (map_eq_ok_iff _ _ _).mp hload
      obtain ⟨rfl, -⟩ := Prod.mk.inj hpair
      obtain ⟨_, _, _, hcheck⟩ := (loadFrom_eq_ok_iff _ _ _).mp hfrom
      exact ⟨(validate_eq_ok_iff_mem _).mp hcheck, Identifier.ofString?_text _⟩

/-- In an empty working directory settings are saved to a file. -/
theorem save_empty (s : Settings) :
    ∃ files', s.save "installer.toml" .empty = .ok (files', [saved "installer.toml"]) ∧
      ∀ hasRoom, files'.find "installer.toml" ≠ .ok (.device hasRoom) := by
  have hparent : parent "installer.toml" = some "" := by rfl
  have hmake : FileTree.empty.makeDirectories "" = .ok FileTree.empty := by rfl
  let files' := FileTree.empty.put ["tmp", "work", "installer.toml"] (.file (encodeUtf8 s.toToml))
  have hfind : files'.find "installer.toml" = .ok (.file (encodeUtf8 s.toToml)) := by rfl
  refine ⟨files', ?_, fun hasRoom h => ?_⟩
  · simp only [save, hparent, hmake, FileTree.writeText]
    rfl
  · rw [hfind] at h
    cases h

/-- A log file with quotes, a backslash and a line break in its name comes back as it was; with a
    word that is no level the settings do not. -/
theorem load_save_quoted :
    let path := "installer.toml"
    let file := "it's \"C:\\\"\n.log"
    (∃ files' records, save ⟨⟨"debug", some file⟩, .standard⟩ path .empty = .ok (files', records) ∧
      load ⟨none, none⟩ files' (some path) = .ok (⟨⟨"debug", some file⟩, .standard⟩, path) ∧
      Identifier.ofString? Identifier.standard.text = .ok .standard) ∧
    ∃ files' records cause,
      save ⟨⟨"loud", some file⟩, .standard⟩ path .empty = .ok (files', records) ∧
        load ⟨none, none⟩ files' (some path) = .error (.invalid cause) := by
  intro path file
  constructor
  · obtain ⟨files', hsave, hdevice⟩ := save_empty ⟨⟨"debug", some file⟩, .standard⟩
    have hload := (load_save.1 ⟨none, none⟩ _ _ _ _ _ hsave hdevice).1.mpr (by decide)
    exact ⟨files', _, hsave, hload, (load_save.2 _ _ _ _ _ hload).2⟩
  · obtain ⟨files', hsave, hdevice⟩ := save_empty ⟨⟨"loud", some file⟩, .standard⟩
    obtain ⟨cause, h⟩ := (load_save.1 ⟨none, none⟩ _ _ _ _ _ hsave hdevice).2 (by decide)
    exact ⟨files', _, cause, hsave, h⟩

end Settings
end DriverExtension
