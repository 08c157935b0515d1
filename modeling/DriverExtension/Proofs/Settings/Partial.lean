import DriverExtension.Proofs.Settings.Saving

namespace DriverExtension.Settings

open Document (Members Once)
open Log Storage Text

/-!
# Settings in part

A text may set some of the settings and leave out the others, in any order.  Those that are left out
have their standard values, with one exception: a section for the installer must name the level.

* `Choice`, `Choice.settings` — some of the settings, and all that follow from them;
* `Choice.SpelledBy`, `Choice.Arranged` — documents, and sections of a text, that set these and
  nothing else;
* `Choice.SpelledBy.decode_of_level`, `Choice.SpelledBy.decode_of_nameless` — what is decoded from
  such documents;
* `partial_settings` — the account of files that set some of the settings.
-/

/-- Some of the settings. -/
structure Choice where
  level : Option Level
  logFile : Option String
  identifier : Option Identifier
  replacement : Option ReplacementPolicy

namespace Choice

/-- The chosen settings, and the standard ones for what is left out. -/
def settings (c : Choice) : Settings where
  installer :=
    { logLevel := (c.level.map Level.word).getD standard.installer.logLevel
      logFile := c.logFile.or standard.installer.logFile }
  extension :=
    { identifier := c.identifier.getD standard.extension.identifier
      replacement := c.replacement.getD standard.extension.replacement }

/-- The names and texts that a section for the installer holds. -/
def installer (c : Choice) : List (String × String) :=
  (c.level.map fun level => ("log_level", level.word)).toList
    ++ (c.logFile.map fun path => ("log_file", path)).toList

/-- The names and texts that a section for the extension holds. -/
def extension (c : Choice) : List (String × String) :=
  (c.identifier.map fun i => ("identifier", i.text)).toList
    ++ (c.replacement.map fun policy => ("replacement", policy.name)).toList

end Choice

/-! ### Documents that set what is chosen -/

/-- Names and texts as members of a section. -/
def texts (entries : List (String × String)) : Members :=
  entries.map fun e => (e.1, .string e.2)

/-- A section holds just these names and texts, in any order; without any it need not be there. -/
def Gives (ms : Members) (name : String) (entries : List (String × String)) : Prop :=
  match ms.lookup name with
  | some d => ∃ lines : Members, d = .object lines ∧ lines.Perm (texts entries)
  | none => entries = []

/-- The members of a document set what is chosen and nothing else, in any order. -/
structure Choice.SpelledBy (c : Choice) (ms : Members) : Prop where
  known : ∀ name ∈ ms.map Prod.fst, name = "installer" ∨ name = "extension"
  nodup : (ms.map Prod.fst).Nodup
  installer : Gives ms "installer" c.installer
  extension : Gives ms "extension" c.extension

namespace Choice

variable {c : Choice} {ms lines : Members}

/-- The names in a section for the installer are distinct. -/
theorem nodup_installer (c : Choice) : (c.installer.map Prod.fst).Nodup := by
  obtain ⟨level, logFile, _, _⟩ := c
  cases level <;> cases logFile <;> simp [installer]

/-- The names in a section for the extension are distinct. -/
theorem nodup_extension (c : Choice) : (c.extension.map Prod.fst).Nodup := by
  obtain ⟨_, _, identifier, replacement⟩ := c
  cases identifier <;> cases replacement <;> simp [extension]

/-- Members that reorder names and texts fit every shape. -/
theorem fits_of_perm (shape : Shape) {entries : List (String × String)}
    (h : (entries.map Prod.fst).Nodup) (hperm : lines.Perm (texts entries)) : shape.Fits lines :=
  (fits_texts shape h).perm hperm

/-- Members that reorder names and texts are found like these. -/
theorem lookup_of_perm_texts {entries : List (String × String)}
    (h : (entries.map Prod.fst).Nodup) (hperm : lines.Perm (texts entries)) (name : String) :
    lines.lookup name = (texts entries).lookup name := by
  refine Document.lookup_of_perm hperm ?_ name
  rwa [texts, List.map_map]

/-- A section that names the level is decoded to the chosen settings of the installer. -/
theorem decode_installer_of_level (hperm : lines.Perm (texts c.installer)) (hlevel : c.level.isSome) :
    InstallerSection.decode .toml (.object lines) = .ok c.settings.installer := by
  have hlookup := lookup_of_perm_texts c.nodup_installer hperm
  rw [InstallerSection.decode_object_iff]
  refine ⟨fits_of_perm _ c.nodup_installer hperm, ?_, ?_⟩
  · rw [Found.Members.get, hlookup]
    obtain ⟨level, logFile, _, _⟩ := c
    cases level with
    | none => cases hlevel
    | some level => rfl
  · rw [Found.Members.getD, hlookup]
    obtain ⟨level, logFile, _, _⟩ := c
    cases level <;> cases logFile <;> rfl

/-- A section that does not name the level is refused. -/
theorem decode_installer_of_nameless (hperm : lines.Perm (texts c.installer))
    (hlevel : c.level = none) :
    InstallerSection.decode .toml (.object lines) = .error (.missingField "log_level") := by
  -- only the log file can be there
  obtain ⟨level, logFile, _, _⟩ := c
  obtain rfl : level = none := hlevel
  cases logFile with
  | none =>
    obtain rfl := hperm.eq_nil
    rfl
  | some path =>
    obtain rfl := hperm.eq_singleton
    rfl

/-- A section for the extension is decoded to the chosen settings of the extension. -/
theorem decode_extension_of_perm (hperm : lines.Perm (texts c.extension)) :
    ExtensionSection.decode .toml (.object lines) = .ok c.settings.extension := by
  have hlookup := lookup_of_perm_texts c.nodup_extension hperm
  have hpolicy (policy : ReplacementPolicy) :
      ReplacementPolicy.decode .toml (.string policy.name) = .ok policy :=
    Variants.read_string .toml _ _ (by cases policy <;> rfl)
  have hidentifier (i : Identifier) : Identifier.decode .toml (.string i.text) = .ok i :=
    (Identifier.decode_eq_ok_iff .toml _ i).mpr rfl
  rw [ExtensionSection.decode_object_iff]
  refine ⟨fits_of_perm _ c.nodup_extension hperm, ?_, ?_⟩
  · rw [Found.Members.getD, hlookup]
    obtain ⟨_, _, identifier, replacement⟩ := c
    cases identifier with
    | none => cases replacement <;> rfl
    | some i => exact hidentifier i
  · rw [Found.Members.getD, hlookup]
    obtain ⟨_, _, identifier, replacement⟩ := c
    cases replacement with
    | none => cases identifier <;> rfl
    | some policy => cases identifier <;> exact hpolicy policy

/-! ### The settings in such a document -/

/-- A section that gives names and texts holds these, or is not there and gives none. -/
theorem cases_of_gives {name : String} {entries : List (String × String)} (h : Gives ms name entries) :
    (∃ lines : Members, ms.lookup name = some (.object lines) ∧ lines.Perm (texts entries)) ∨
      ms.lookup name = none ∧ entries = [] := by
  unfold Gives at h
  cases hlookup : ms.lookup name with
  | none =>
    rw [hlookup] at h
    exact .inr ⟨rfl, h⟩
  | some d =>
    rw [hlookup] at h
    obtain ⟨lines, rfl, hperm⟩ := h
    exact .inl ⟨lines, rfl, hperm⟩

/-- What stands in a document that sets what is chosen is an object, whichever section it is. -/
theorem SpelledBy.section_of_mem (h : c.SpelledBy ms) {name : String} {d : Document}
    (hmem : (name, d) ∈ ms) : ∃ lines : Members, d = .object lines ∧
      (name = "installer" ∧ lines.Perm (texts c.installer) ∨
        name = "extension" ∧ lines.Perm (texts c.extension)) := by
  have hlookup : ms.lookup name = some d := (Document.lookup_eq_some_iff_mem h.nodup name d).mpr hmem
  rcases h.known name (List.mem_map_of_mem hmem) with rfl | rfl
  · have hgives := h.installer
    rw [Gives, hlookup] at hgives
    obtain ⟨lines, rfl, hperm⟩ := hgives
    exact ⟨lines, rfl, .inl ⟨rfl, hperm⟩⟩
  · have hgives := h.extension
    rw [Gives, hlookup] at hgives
    obtain ⟨lines, rfl, hperm⟩ := hgives
    exact ⟨lines, rfl, .inr ⟨rfl, hperm⟩⟩

/-- A document that sets what is chosen has a form that fits. -/
theorem SpelledBy.fits (h : c.SpelledBy ms) : (Settings.shape .toml).Fits ms where
  readable := by
    rintro ⟨name, d⟩ hm
    obtain ⟨lines, rfl, -⟩ := h.section_of_mem hm
    rfl
  skipped := by
    rintro ⟨name, d⟩ hm hdeclared
    have hdeclares : (Settings.shape .toml).declares name = true := by
      rcases h.known name (List.mem_map_of_mem hm) with rfl | rfl <;> rfl
    rw [hdeclares] at hdeclared
    cases hdeclared
  once := Once.of_nodup _ h.nodup

/-- The sections of a document that sets what is chosen are decoded to the chosen settings if the
    section for the installer names the level or is not there. -/
theorem SpelledBy.decode_of_level (h : c.SpelledBy ms)
    (hlevel : c.level.isSome ∨ "installer" ∉ ms.map Prod.fst) :
    Settings.decode .toml (.object ms) = .ok c.settings := by
  rw [Settings.decode_object_iff]
  refine ⟨h.fits, ?_, ?_⟩
  · rw [Found.Members.getD]
    rcases cases_of_gives h.installer with ⟨lines, hlookup, hperm⟩ | ⟨hlookup, hnone⟩
    · have hmem : "installer" ∈ ms.map Prod.fst :=
        List.mem_map_of_mem (Document.mem_of_lookup hlookup)
      rw [hlookup]
      exact decode_installer_of_level hperm (hlevel.resolve_right fun hnot => hnot hmem)
    · -- nothing is chosen for the installer
      rw [hlookup]
      obtain ⟨level, logFile, _, _⟩ := c
      cases level <;> cases logFile <;> first | rfl | cases hnone
  · rw [Found.Members.getD]
    rcases cases_of_gives h.extension with ⟨lines, hlookup, hperm⟩ | ⟨hlookup, hnone⟩
    · rw [hlookup]
      exact decode_extension_of_perm hperm
    · rw [hlookup]
      obtain ⟨_, _, identifier, replacement⟩ := c
      cases identifier <;> cases replacement <;> first | rfl | cases hnone

/-- They are refused if the section for the installer is there and does not name the level. -/
theorem SpelledBy.decode_of_nameless (h : c.SpelledBy ms) (hlevel : c.level = none)
    (hinstaller : "installer" ∈ ms.map Prod.fst) :
    Settings.decode .toml (.object ms)
      = .error (.within (.member "installer") (.missingField "log_level")) := by
  obtain ⟨⟨_, d⟩, hmem, rfl⟩ := List.mem_map.mp hinstaller
  have hlookup := (Document.lookup_eq_some_iff_mem h.nodup "installer" d).mpr hmem
  obtain ⟨before, rest, rfl, hbefore⟩ := List.lookup_eq_some_iff.mp hlookup
  obtain ⟨lines, rfl, hlines⟩ := h.section_of_mem hmem
  have hperm : lines.Perm (texts c.installer) := by
    rcases hlines with ⟨-, hperm⟩ | ⟨hname, -⟩
    · exact hperm
    · exact absurd hname (by decide)
  -- only the section for the extension can stand before, and it passes
  have hadmits : ∀ m ∈ before, (Settings.shape .toml).Admits m := by
    rintro ⟨name, d⟩ hm
    obtain ⟨lines', rfl, hlines'⟩ := h.section_of_mem (List.mem_append_left _ hm)
    rcases hlines' with ⟨rfl, -⟩ | ⟨rfl, hperm'⟩
    · simpa using hbefore _ hm
    · exact ⟨rfl, (Decode.checked_eq_ok_iff _ _).mpr ⟨_, decode_extension_of_perm hperm'⟩⟩
  have hnodup : (before.map Prod.fst).Nodup := by
    have hall := h.nodup
    rw [List.map_append] at hall
    exact (List.nodup_append.mp hall).1
  have hscan : Shape.scanMembers .toml (Settings.shape .toml) before []
      = .ok (Document.among (Settings.shape .toml).declares before) := by
    refine (Shape.scanMembers_eq_ok_iff before [] _ List.nodup_nil).mpr ⟨hadmits, ?_, rfl⟩
    rw [List.nil_append, Document.map_fst_among]
    exact Once.of_nodup _ hnodup
  have hnew : (Document.among (Settings.shape .toml).declares before).lookup "installer" = none := by
    rw [Document.lookup_among _ _ rfl, List.lookup_eq_none_iff]
    exact hbefore
  have hcheck : Decode.checked (InstallerSection.decode .toml) (.object lines)
      = .error (.missingField "log_level") := by
    rw [Decode.checked, decode_installer_of_nameless hperm hlevel]
    rfl
  rw [Settings.decode, Shape.read_object_of_check hscan rfl rfl hnew hcheck]
  rfl

end Choice

/-! ### Texts and files -/

/-- A text sets what is chosen and nothing else, in whatever notation; `ms` are the members of its
    document. -/
def Choice.SetBy (c : Choice) (text : String) (ms : Members) : Prop :=
  ∃ table, Toml.parse text = .ok table ∧ table.document = .object ms ∧ c.SpelledBy ms

/-- Sections that give each chosen setting a line, in any order; a section without lines may be left
    out or not. -/
structure Choice.Arranged (c : Choice) (sections : List Toml.Section) : Prop where
  nodup : (sections.map Toml.Section.name).Nodup
  lines : ∀ s ∈ sections, s.name = "installer" ∧ s.entries.Perm c.installer ∨
    s.name = "extension" ∧ s.entries.Perm c.extension
  installer : "installer" ∉ sections.map Toml.Section.name → c.installer = []
  extension : "extension" ∉ sections.map Toml.Section.name → c.extension = []

namespace Choice

variable {c : Choice} {sections : List Toml.Section}

/-- Arranged sections can be written as they are. -/
theorem Arranged.proper (h : c.Arranged sections) : ∀ s ∈ sections, s.Proper := by
  have hinstaller : ∀ e ∈ c.installer, Toml.IsBareName e.1 := by
    obtain ⟨level, logFile, _, _⟩ := c
    cases level <;> cases logFile <;> simp [Choice.installer] <;> decide
  have hextension : ∀ e ∈ c.extension, Toml.IsBareName e.1 := by
    obtain ⟨_, _, identifier, replacement⟩ := c
    cases identifier <;> cases replacement <;> simp [Choice.extension] <;> decide
  intro s hs
  rcases h.lines s hs with ⟨hname, hperm⟩ | ⟨hname, hperm⟩
  · refine ⟨by rw [hname]; decide, fun e he => hinstaller e (hperm.mem_iff.mp he), ?_⟩
    exact (hperm.map Prod.fst).nodup_iff.mpr c.nodup_installer
  · refine ⟨by rw [hname]; decide, fun e he => hextension e (hperm.mem_iff.mp he), ?_⟩
    exact (hperm.map Prod.fst).nodup_iff.mpr c.nodup_extension

/-- Sections give a section of their name its lines. -/
theorem gives_of_sections {name : String} {entries : List (String × String)}
    (hlines : ∀ s ∈ sections, s.name = name → s.entries.Perm entries)
    (habsent : name ∉ sections.map Toml.Section.name → entries = []) :
    Gives (sections.map Toml.Section.member) name entries := by
  have hnames : (sections.map Toml.Section.member).map Prod.fst
      = sections.map Toml.Section.name := by
    rw [List.map_map]
    rfl
  unfold Gives
  split
  · rename_i d hlookup
    obtain ⟨s, hs, hmember⟩ := List.mem_map.mp (Document.mem_of_lookup hlookup)
    obtain ⟨hname, rfl⟩ := Prod.mk.inj hmember
    exact ⟨_, rfl, (hlines s hs hname).map _⟩
  · rename_i hlookup
    rw [Document.lookup_eq_none_iff, hnames] at hlookup
    exact habsent hlookup

/-- Arranged sections set what is chosen. -/
theorem Arranged.spelledBy (h : c.Arranged sections) :
    c.SpelledBy (sections.map Toml.Section.member) where
  known := by
    intro name hname
    obtain ⟨_, hmem, rfl⟩ := List.mem_map.mp hname
    obtain ⟨s, hs, rfl⟩ := List.mem_map.mp hmem
    exact (h.lines s hs).imp And.left And.left
  nodup := by
    rw [List.map_map]
    exact h.nodup
  installer := by
    refine gives_of_sections (fun s hs hname => ?_) h.installer
    rcases h.lines s hs with ⟨-, hperm⟩ | ⟨hname', -⟩
    · exact hperm
    · exact absurd (hname.symm.trans hname') (by decide)
  extension := by
    refine gives_of_sections (fun s hs hname => ?_) h.extension
    rcases h.lines s hs with ⟨hname', -⟩ | ⟨-, hperm⟩
    · exact absurd (hname.symm.trans hname') (by decide)
    · exact hperm

/-- So does the text of arranged sections. -/
theorem Arranged.setBy (h : c.Arranged sections) {text : String}
    (htext : text.toList = Toml.written sections) :
    c.SetBy text (sections.map Toml.Section.member) := by
  obtain ⟨table, hparse, hdocument⟩ := Toml.parse_written h.proper h.nodup htext
  exact ⟨table, hparse, hdocument, h.spelledBy⟩

end Choice

variable {env : Surroundings} {files : FileTree} {asked : Option String} {path text : String}

/-- What is loaded is loaded from the file that is asked for, or else from the first standard one. -/
theorem load_of_located (hpath : (asked <|> standardPath? env files) = some path) :
    load env files asked = (loadFrom path files).map fun settings => (settings, path) := by
  unfold load
  rw [hpath]

/-- The chosen settings are loaded from a text that sets them and names the level, or has no section
    for the installer. -/
theorem Choice.SetBy.loadFrom_eq_ok {c : Choice} {ms : Members} (h : c.SetBy text ms)
    (hread : files.readText path = .ok text)
    (hlevel : c.level.isSome ∨ "installer" ∉ ms.map Prod.fst) :
    loadFrom path files = .ok c.settings := by
  obtain ⟨table, hparse, hdocument, hspelled⟩ := h
  rw [loadFrom_eq_ok_iff]
  refine ⟨text, hread, ?_, ?_⟩
  · rw [ofToml, hparse]
    dsimp only
    rw [hdocument, hspelled.decode_of_level hlevel]
    rfl
  · rw [validate_eq_ok_iff]
    obtain ⟨level, _, _, _⟩ := c
    cases level with
    | none => exact ⟨.info, rfl⟩
    | some level => exact ⟨level, rfl⟩

/-- A text with a section for the installer that does not name the level is refused. -/
theorem Choice.SetBy.loadFrom_eq_error {c : Choice} {ms : Members} (h : c.SetBy text ms)
    (hread : files.readText path = .ok text) (hlevel : c.level = none)
    (hinstaller : "installer" ∈ ms.map Prod.fst) :
    ∃ excerpt, loadFrom path files = .error
      (.unsuitable path (.within (.member "installer") (.missingField "log_level")) excerpt) := by
  obtain ⟨table, hparse, hdocument, hspelled⟩ := h
  let fault : DecodeError := .within (.member "installer") (.missingField "log_level")
  refine ⟨.unsuitable text table fault,
    (loadFrom_eq_error_iff path files _).mpr (.unparsed text _ hread ?_)⟩
  rw [ofToml, hparse]
  dsimp only
  rw [hdocument, hspelled.decode_of_nameless hlevel hinstaller]
  rfl

/-- **Settings in part.**  Let the text of the file that decides set some of the settings, in any
    order and notation, and nothing else.  They are loaded together with the standard values of all
    others if the level is among them, or if the text has no section for the installer.  Otherwise
    the text is refused, for the level that this section does not name.
    Every text of sections that give the chosen settings a line each, in any order, with or without
    the sections that have no lines, is such a text. -/
theorem partial_settings (c : Choice) (env : Surroundings) (files : FileTree)
    (asked : Option String) (path text : String)
    (hpath : (asked <|> standardPath? env files) = some path)
    (hread : files.readText path = .ok text) :
    (∀ ms, c.SetBy text ms →
      (c.level.isSome ∨ "installer" ∉ ms.map Prod.fst →
        load env files asked = .ok (c.settings, path)) ∧
      (c.level = none → "installer" ∈ ms.map Prod.fst →
        ∃ excerpt, load env files asked = .error (.unsuitable path
          (.within (.member "installer") (.missingField "log_level")) excerpt))) ∧
    ∀ sections, c.Arranged sections → text.toList = Toml.written sections →
      c.SetBy text (sections.map Toml.Section.member) := by
  refine ⟨fun ms h => ⟨fun hlevel => ?_, fun hlevel hinstaller => ?_⟩, fun sections h => h.setBy⟩
  · rw [load_of_located hpath, h.loadFrom_eq_ok hread hlevel]
    rfl
  · obtain ⟨excerpt, herror⟩ := h.loadFrom_eq_error hread hlevel hinstaller
    refine ⟨excerpt, ?_⟩
    rw [load_of_located hpath, herror]
    rfl

/-- Both sections in the other order, with a level, a log file and a policy but no identifier. -/
theorem partial_settings_reordered :
    let text := "[extension]\nreplacement = \"cancel\"\n\n[installer]\n"
      ++ "log_file = \"logs/a.log\"\nlog_level = \"debug\"\n"
    let files := FileTree.empty.put ["tmp", "work", "installer.toml"] (.file (encodeUtf8 text))
    let c : Choice := ⟨some .debug, some "logs/a.log", none, some .cancel⟩
    files.readText "installer.toml" = .ok text ∧
      c.settings = ⟨⟨"debug", some "logs/a.log"⟩, ⟨.standard, .cancel⟩⟩ ∧
      load ⟨none, none⟩ files (some "installer.toml") = .ok (c.settings, "installer.toml") := by
  intro text files c
  let sections : List Toml.Section :=
    [⟨"extension", [("replacement", "cancel")]⟩,
      ⟨"installer", [("log_file", "logs/a.log"), ("log_level", "debug")]⟩]
  have hread : files.readText "installer.toml" = .ok text :=
    FileTree.readText_of_find (by rfl)
  have harranged : c.Arranged sections := by
    refine ⟨by decide, ?_, fun h => absurd h (by decide), fun h => absurd h (by decide)⟩
    refine List.forall_mem_cons.mpr ⟨.inr ⟨rfl, .refl _⟩, ?_⟩
    refine List.forall_mem_cons.mpr ⟨.inl ⟨rfl, ?_⟩, ?_⟩
    · exact List.Perm.swap _ _ _
    · exact List.forall_mem_nil _
  have hpartial := partial_settings c ⟨none, none⟩ files (some "installer.toml") _ text rfl hread
  have hset := hpartial.2 sections harranged (by decide +kernel)
  exact ⟨hread, rfl, (hpartial.1 _ hset).1 (.inl rfl)⟩

/-- A text that sets the log file alone is refused, although each of its settings is valid. -/
theorem log_file_alone :
    let text := "[installer]\nlog_file = \"logs/a.log\"\n"
    let files := FileTree.empty.put ["tmp", "work", "installer.toml"] (.file (encodeUtf8 text))
    let c : Choice := ⟨none, some "logs/a.log", none, none⟩
    files.readText "installer.toml" = .ok text ∧ (∃ ms, c.SetBy text ms) ∧
      (∃ e, load ⟨none, none⟩ files (some "installer.toml") = .error e ∧
        e.message = "Failed to parse config file: installer.toml") ∧
      load ⟨none, none⟩ files (some "installer.toml") ≠ .ok (c.settings, "installer.toml") := by
  intro text files c
  let sections : List Toml.Section := [⟨"installer", [("log_file", "logs/a.log")]⟩]
  have hread : files.readText "installer.toml" = .ok text :=
    FileTree.readText_of_find (by rfl)
  have harranged : c.Arranged sections := by
    refine ⟨by decide, ?_, fun h => absurd h (by decide), fun _ => rfl⟩
    exact List.forall_mem_cons.mpr ⟨.inl ⟨rfl, .refl _⟩, List.forall_mem_nil _⟩
  have hset : c.SetBy text (sections.map Toml.Section.member) :=
    harranged.setBy (by decide +kernel)
  obtain ⟨excerpt, herror⟩ := hset.loadFrom_eq_error hread rfl (by decide)
  have hload : load ⟨none, none⟩ files (some "installer.toml") = .error
      (.unsuitable "installer.toml" (.within (.member "installer") (.missingField "log_level"))
        excerpt) := by
    rw [load_some, herror]
    rfl
  refine ⟨hread, ⟨_, hset⟩, ⟨_, hload, rfl⟩, ?_⟩
  rw [hload]
  exact fun h => by cases h

end DriverExtension.Settings
