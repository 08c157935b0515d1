import DriverExtension.Program.Run
import DriverExtension.Proofs.CommandLine.Given
import DriverExtension.Proofs.Program.Outcome
import DriverExtension.Proofs.Program.Sitting
import DriverExtension.Proofs.Settings.Loading

namespace DriverExtension

open CommandLine Log Storage

/-!
# The settings in force

The settings of a run come from the command line, from one file, and from the standard settings,
each with its own precedence and its own way to fail.

* `Setup.prepare_of_config`, `Setup.prepare_of_standard` — what is loaded, and what fails;
* `Setup.prepare_congr` — one file decides, and the rest of the system says nothing;
* `Setup.precedence` — what is given goes before what was loaded;
* `Setup.exists_level` — the word for the level in force is one of the five;
* `Ready.openLog_of_request`, `Ready.openLog_of_console` — the filter of a run, and what can still
  fail before it is ready;
* `Program.run_of_request` — a run that is ready makes one attempt;
* `Program.settings_in_force` — the account of all settings of a run.
-/

namespace Setup

variable {env env' : Surroundings} {files files' : FileTree} {a : Arguments}

/-- A settings file that is asked for is loaded or fails. -/
theorem prepare_of_config {path : String} (h : a.config = some path) :
    prepare env files a
      = (Settings.loadFrom (env.expand path) files).map fun settings =>
          combine a settings (some (env.expand path)) none := by
  rw [prepare, h]
  dsimp only
  rw [Settings.load_some]
  cases Settings.loadFrom (env.expand path) files <;> rfl

/-- Where no settings file is asked for, the settings never fail. -/
theorem prepare_of_standard (h : a.config = none) :
    prepare env files a
      = match Settings.deciding? env files none with
        | none => .ok (combine a .standard none (some .missing))
        | some path =>
          match Settings.loadFrom path files with
          | .ok settings => .ok (combine a settings (some path) none)
          | .error e => .ok (combine a .standard none (some e)) := by
  rw [prepare, h]
  dsimp only
  rw [Settings.loadOrStandard_eq]
  cases Settings.deciding? env files none with
  | none => rfl
  | some path => cases hload : Settings.loadFrom path files <;> simp [hload]

/-- **One file decides.**  Where the same file decides and its text is the same, the same settings
    are in force. -/
theorem prepare_congr
    (hfile : Settings.deciding? env' files' a.config = Settings.deciding? env files a.config)
    (hread : ∀ path, Settings.deciding? env files a.config = some path →
      files'.readText path = files.readText path) :
    prepare env' files' a = prepare env files a := by
  cases hconfig : a.config with
  | some path =>
    rw [hconfig] at hfile hread
    have hpath : env'.expand path = env.expand path := Option.some.inj hfile
    rw [prepare_of_config hconfig, prepare_of_config hconfig, hpath,
      Settings.loadFrom_congr (hread _ rfl)]
  | none =>
    rw [hconfig] at hfile hread
    rw [prepare_of_standard hconfig, prepare_of_standard hconfig, hfile]
    cases hpath : Settings.deciding? env files none with
    | none => rfl
    | some path =>
      dsimp only
      rw [Settings.loadFrom_congr (hread path hpath)]

/-- The settings in the file that decides are in force. -/
theorem prepare_of_loaded {path : String} {settings : Settings}
    (hpath : Settings.deciding? env files a.config = some path)
    (hload : Settings.loadFrom path files = .ok settings) :
    prepare env files a = .ok (combine a settings (some path) none) := by
  cases hconfig : a.config with
  | some asked =>
    rw [hconfig] at hpath
    obtain rfl : env.expand asked = path := Option.some.inj hpath
    rw [prepare_of_config hconfig, hload]
    rfl
  | none =>
    rw [hconfig] at hpath
    rw [prepare_of_standard hconfig, hpath]
    dsimp only
    rw [hload]

/-- Settings that are in force were combined from those of the command line and from loaded or
    standard ones, which name one of the levels. -/
theorem exists_combine {s : Setup} (h : prepare env files a = .ok s) :
    ∃ settings path warning, s = combine a settings path warning ∧
      ∃ level : Level, settings.installer.logLevel = level.word := by
  have hstandard : ∃ level : Level, Settings.standard.installer.logLevel = level.word :=
    ⟨.info, rfl⟩
  cases hconfig : a.config with
  | some path =>
    rw [prepare_of_config hconfig, map_eq_ok_iff] at h
    obtain ⟨settings, hload, rfl⟩ := h
    exact ⟨settings, _, _, rfl, Settings.exists_level_of_loadFrom hload⟩
  | none =>
    rw [prepare_of_standard hconfig] at h
    split at h
    · obtain rfl := Except.ok.inj h
      exact ⟨_, _, _, rfl, hstandard⟩
    split at h
    · rename_i settings hload
      obtain rfl := Except.ok.inj h
      exact ⟨_, _, _, rfl, Settings.exists_level_of_loadFrom hload⟩
    · obtain rfl := Except.ok.inj h
      exact ⟨_, _, _, rfl, hstandard⟩

/-- **Precedence.**  What the command line gives goes before what was loaded; the policy is loaded
    only, and the command only given. -/
theorem precedence {s : Setup} (h : prepare env files a = .ok s) :
    s.identifier.text = (a.value .identifier).getD s.settings.extension.identifier.text ∧
    s.policy = s.settings.extension.replacement ∧
    s.level = (a.value .logLevel).getD s.settings.installer.logLevel ∧
    s.command = a.command.getD .console := by
  obtain ⟨settings, path, warning, rfl, -⟩ := exists_combine h
  exact ⟨(Option.getD_map _ _ _).symm, rfl, rfl, rfl⟩

/-- **The level.**  The word for the level in force is one of the five. -/
theorem exists_level {s : Setup} (h : prepare env files a = .ok s) :
    ∃ level : Level, s.level = level.word := by
  obtain ⟨settings, path, warning, rfl, hlevel⟩ := exists_combine h
  cases hasked : a.logLevel with
  | some level => exact ⟨level, by simp [combine, hasked]⟩
  | none =>
    obtain ⟨level, hlevel⟩ := hlevel
    exact ⟨level, by simp [combine, hasked, hlevel]⟩

end Setup

/-! ### The beginning of a run -/

/-- With the word for a level the filter of the environment is chosen, or that of the level. -/
theorem Log.Filter.choose_word (asked : Option String) (level : Level) :
    Filter.choose asked level.word
      = .ok ((asked.bind Filter.ofText?).getD (.atLevel level)) := by
  have hlevel := (Level.ofWord_eq_ok_iff level.word level).mpr rfl
  unfold Filter.choose
  cases asked.bind Filter.ofText? with
  | some filter => rfl
  | none => simp [hlevel, Except.map]

/-- A log file cannot be opened for reasons of the file system only. -/
theorem LogFile.openAt_error {path : String} {files : FileTree} {f : Fault}
    (h : openAt path files = .error f) : ∃ reason, f = .inputOutput reason := by
  have hfault : ∀ r : Except FileError FileTree, r.mapError fault = .error f →
      ∃ reason, f = .inputOutput reason := by
    intro r hr
    obtain ⟨e, -, rfl⟩ := (mapError_eq_error_iff _ _ _).mp hr
    exact ⟨e.message, rfl⟩
  unfold openAt at h
  split at h
  · exact hfault _ h
  · rcases (bind_eq_error_iff _ _ _).mp h with h | ⟨files, -, h⟩
    · exact hfault _ h
    · exact hfault _ h

namespace Ready

section OpenLog

variable {env : Environment} {s : Setup} {level : Level}

/-- A request from the command line is logged to the output, for which nothing is opened. -/
theorem openLog_of_request (hlevel : s.level = level.word) (hcommand : s.command ≠ .console)
    (files : FileTree) :
    openLog env s files
      = .ok ⟨s, (env.logFilter.bind Filter.ofText?).getD (.atLevel level), files⟩ := by
  rw [openLog, hlevel, Filter.choose_word]
  cases hc : s.command with
  | console => exact absurd hc hcommand
  | install => rfl
  | uninstall => rfl

/-- The console opens its log file. -/
theorem openLog_of_console (hlevel : s.level = level.word) (hcommand : s.command = .console)
    (files : FileTree) :
    openLog env s files
      = (LogFile.openAt (s.settings.logFile env.surroundings) files).map fun files' =>
          ⟨s, (env.logFilter.bind Filter.ofText?).getD (.atLevel level), files'⟩ := by
  rw [openLog, hlevel, Filter.choose_word, hcommand]
  cases LogFile.openAt (s.settings.logFile env.surroundings) files <;> rfl

/-- Logging fails for reasons of the file system only. -/
theorem openLog_error (hlevel : s.level = level.word) {files : FileTree} {f : Fault}
    (h : openLog env s files = .error f) : ∃ reason, f = .inputOutput reason := by
  by_cases hcommand : s.command = .console
  · rw [openLog_of_console hlevel hcommand] at h
    cases hopen : LogFile.openAt (s.settings.logFile env.surroundings) files with
    | error e =>
      rw [hopen] at h
      obtain rfl : e = f := Except.error.inj h
      exact LogFile.openAt_error hopen
    | ok files' => rw [hopen] at h; cases h
  · rw [openLog_of_request hlevel hcommand] at h
    cases h

/-- Logging leaves the settings in force as they are, and logs what the level admits unless the
    environment says otherwise. -/
theorem openLog_ok (hlevel : s.level = level.word) {files : FileTree} {ready : Ready}
    (h : openLog env s files = .ok ready) :
    ready.setup = s ∧
      ready.filter = (env.logFilter.bind Filter.ofText?).getD (.atLevel level) := by
  by_cases hcommand : s.command = .console
  · rw [openLog_of_console hlevel hcommand, map_eq_ok_iff] at h
    obtain ⟨files', -, rfl⟩ := h
    exact ⟨rfl, rfl⟩
  · rw [openLog_of_request hlevel hcommand] at h
    obtain rfl := Except.ok.inj h
    exact ⟨rfl, rfl⟩

end OpenLog

/-- A run that does something prepares its settings, and then its log. -/
theorem begin_eq {env : Environment} {files : FileTree} {words : List String} {a : Arguments}
    (hwords : parse words = .ok a) (hsave : a.saveConfig = false) :
    Ready.begin env files words
      = ((Setup.prepare env.surroundings files a).mapError fun e =>
          complain files "" "" (e.complaint "Failed to load configuration")) >>= fun s =>
        (openLog env s files).mapError fun f =>
          complain files "" s.warningText (loggingComplaint f) := by
  obtain ⟨config, saveConfig, logLevel, identifier, command⟩ := a
  obtain rfl : saveConfig = false := hsave
  rw [Ready.begin, hwords]
  rfl

/-- Once the settings are in force only the log is left to be opened. -/
theorem begin_of_prepare {env : Environment} {files : FileTree} {words : List String}
    {a : Arguments} {s : Setup} (hwords : parse words = .ok a) (hsave : a.saveConfig = false)
    (hs : Setup.prepare env.surroundings files a = .ok s) :
    Ready.begin env files words
      = (openLog env s files).mapError fun f =>
          complain files "" s.warningText (loggingComplaint f) := by
  rw [begin_eq hwords hsave, hs]
  rfl

end Ready

namespace Program

/-- A run that does not become ready ends with its report, at a terminal too, whatever manager
    there is. -/
theorem run_of_begin_error {env : Environment} {files : FileTree} {words : List String}
    {report : Report} (h : Ready.begin env files words = .error report) (manager : Manager) :
    run env files manager words = report ∧
      ∀ happenings, runConsole env files manager words happenings = .unused report := by
  refine ⟨?_, ?_⟩
  · rw [run, h]
  · intro happenings
    rw [runConsole, h]

/-- A run that is ready for a request makes one attempt at it, at a terminal too. -/
theorem run_of_request {env : Environment} {files : FileTree} {words : List String} {ready : Ready}
    {kind : RequestKind} (h : Ready.begin env files words = .ok ready)
    (hcommand : ready.setup.command = .install ∧ kind = .activate ∨
      ready.setup.command = .uninstall ∧ kind = .deactivate) (manager : Manager) :
    run env files manager words = attempt ready manager kind ∧
      ∀ happenings, runConsole env files manager words happenings
        = .unused (attempt ready manager kind) := by
  refine ⟨?_, ?_⟩
  · rw [run, h]
    obtain ⟨hc, rfl⟩ | ⟨hc, rfl⟩ := hcommand <;> simp [hc]
  · intro happenings
    rw [runConsole, h]
    obtain ⟨hc, rfl⟩ | ⟨hc, rfl⟩ := hcommand <;> simp [hc]

/-- What a sitting leaves in its log file. -/
theorem files_sit (filter : Filter) (logPath errors : String) (records : List Record)
    (files : FileTree) (c : Console) (happenings : List (Nat × Happening)) :
    (sit filter logPath errors records files c happenings).files
      = LogFile.append logPath
          (filter.write (records ++ ((Sitting.start c).2
            ++ ((Sitting.start c).1.run happenings).2).flatMap Effect.records)) files := by
  rw [sit]
  dsimp only
  split <;> rfl

/-- **The settings in force.**  Let a command line be accepted that does not ask to save, with the
    values that it gives to its options.
    One file decides at most: the one that is asked for, with its tilde expanded, or else the first
    standard place where there is a file; where it is the same and has the same text, the same
    settings are in force.
    If a file is asked for and cannot be used, the run fails with nothing done, whatever else is
    given and whatever manager there is.
    Otherwise the settings come from the file that decides, or from none if that one cannot be used.
    The identifier and the level are those that are given, or else those of these settings, and the
    policy is theirs.  The word for the level is one of the five, so a filter is always chosen, that
    of the level unless the environment asks for another; logging fails for reasons of the file
    system only, and what is logged passes the filter.
    A request from the command line is the first one for that identifier: the manager is handed a
    delegate with it and with that policy, and the run ends with what the manager answers.
    A console begins with a controller for the two, keeps them as long as the sitting lasts, and logs
    to the log file what it does. -/
theorem settings_in_force (env : Environment) (files : FileTree) (words : List String)
    (a : Arguments) (hwords : parse words = .ok a) (hsave : a.saveConfig = false) :
    let value (s : Setting) := (given words).lookup s
    let deciding := Settings.deciding? env.surroundings files (value .config)
    let prepared := Setup.prepare env.surroundings files a
    let ends (manager : Manager) (report : Report) : Prop :=
      run env files manager words = report ∧
        ∀ happenings, runConsole env files manager words happenings = .unused report
    (∀ env' files', Settings.deciding? env' files' (value .config) = deciding →
      (∀ path, deciding = some path → files'.readText path = files.readText path) →
      Setup.prepare env' files' a = prepared) ∧
    (∀ path e, value .config = some path →
      Settings.Unusable (env.surroundings.expand path) files e →
      let report : Report :=
        ⟨Report.failure, "", (e.complaint "Failed to load configuration").message, files⟩
      Ready.begin env files words = .error report ∧ ∀ manager, ends manager report) ∧
    (∀ path settings, deciding = some path → Settings.loadFrom path files = .ok settings →
      ∃ s, prepared = .ok s ∧ s.settings = settings ∧ s.path = some path ∧ s.warning = none) ∧
    (value .config = none →
      (∀ path e, deciding = some path → Settings.Unusable path files e →
        ∃ s, prepared = .ok s ∧ s.settings = .standard ∧ s.path = none ∧ s.warning = some e) ∧
      (deciding = none →
        ∃ s, prepared = .ok s ∧ s.settings = .standard ∧ s.path = none ∧
          s.warning = some .missing)) ∧
    ∀ s, prepared = .ok s →
      s.identifier.text
        = (value .identifier).getD s.settings.extension.identifier.text ∧
      s.policy = s.settings.extension.replacement ∧
      s.level = (value .logLevel).getD s.settings.installer.logLevel ∧
      s.command = a.command.getD .console ∧
      ∃ level : Level, s.level = level.word ∧
        let filter := (env.logFilter.bind Filter.ofText?).getD (.atLevel level)
        Filter.choose env.logFilter s.level = .ok filter ∧
        (env.logFilter.bind Filter.ofText? = none → ∀ record : Record,
          filter.admits record = true ↔ record.level.rank ≤ level.rank) ∧
        (∀ f, Ready.openLog env s files = .error f → (∃ reason, f = .inputOutput reason) ∧
          ∀ manager, ends manager
            ⟨Report.failure, "", s.warningText ++ (loggingComplaint f).message, files⟩) ∧
        (∀ ready, Ready.begin env files words = .ok ready →
          ready.setup = s ∧ ready.filter = filter) ∧
        (∀ kind, s.command = .install ∧ kind = .activate ∨
            s.command = .uninstall ∧ kind = .deactivate →
          ∀ manager : Manager,
            let r : Request := ⟨⟨1⟩, kind, s.identifier⟩
            let (accepted, _, channel, records) := manager.submit ⟨r, s.policy⟩ .new
            let submitting : Record := ⟨.info, lifecycleTarget,
              s!"Submitting {kind} request {r.id} for {s.identifier} via {manager.name}"⟩
            let begun := s.records manager ++ submitting :: records
            (∀ f, accepted = .error f → ends manager
              ⟨Report.failure, filter.write begun,
                s.warningText ++ (refusal kind f).message, files⟩) ∧
            (accepted = .ok () →
              let (verdict, _, seen) := Attempt.look r true channel
              let (exit, last, complaint) := conclude r verdict
              ends manager
                ⟨exit, filter.write (begun ++ Attempt.waiting r :: seen ++ last),
                  s.warningText ++ (complaint.map Complaint.message).getD "", files⟩)) ∧
        (s.command = .console →
          let logFile := s.settings.logFile env.surroundings
          ∀ files', LogFile.openAt logFile files = .ok files' → ∀ manager happenings,
            let console := Console.new s.identifier s.policy manager
            let (start, shown) := Sitting.start console
            let (last, effects) := start.run happenings
            let report := runConsole env files manager words happenings
            report
              = sit filter logFile s.warningText (s.records manager) files' console happenings ∧
            report.files = LogFile.append logFile
              (filter.write (s.records manager ++ (shown ++ effects).flatMap Effect.records))
              files' ∧
            console.controller = ⟨s.identifier, s.policy, ⟨1⟩⟩ ∧ console.manager = manager ∧
            last.console.controller.identifier = s.identifier ∧
            last.console.controller.policy = s.policy) := by
  intro value deciding prepared ends
  have hvalue : ∀ s, a.value s = value s := parse_value words a hwords
  have hconfig : a.config = value .config := hvalue .config
  refine ⟨?_, ?_, ?_, ?_, ?_⟩
  · intro env' files' hfile hread
    refine Setup.prepare_congr ?_ ?_
    · rw [hconfig]
      exact hfile
    · rw [hconfig]
      exact hread
  · intro path e hpath hunusable report
    have hload := (Settings.loadFrom_eq_error_iff _ files e).mpr hunusable
    have hbegin : Ready.begin env files words = .error report := by
      rw [Ready.begin_eq hwords hsave, Setup.prepare_of_config (hconfig.trans hpath), hload]
      show Except.error (Ready.complain files "" "" _) = _
      rw [Ready.complain, String.empty_append]
    exact ⟨hbegin, run_of_begin_error hbegin⟩
  · intro path settings hpath hload
    have hdeciding : Settings.deciding? env.surroundings files a.config = some path := by
      rwa [hconfig]
    exact ⟨_, Setup.prepare_of_loaded hdeciding hload, rfl, rfl, rfl⟩
  · intro hnone
    have hstandard : prepared = _ := Setup.prepare_of_standard (hconfig.trans hnone)
    refine ⟨?_, ?_⟩
    · intro path e hpath hunusable
      have hload := (Settings.loadFrom_eq_error_iff path files e).mpr hunusable
      simp only [deciding, hnone] at hpath
      rw [hpath] at hstandard
      dsimp only at hstandard
      rw [hload] at hstandard
      exact ⟨_, hstandard, rfl, rfl, rfl⟩
    · intro hpath
      simp only [deciding, hnone] at hpath
      rw [hpath] at hstandard
      exact ⟨_, hstandard, rfl, rfl, rfl⟩
  · intro s hs
    obtain ⟨level, hlevel⟩ := Setup.exists_level hs
    obtain ⟨hidentifier, hpolicy, hgiven, hparsed⟩ := Setup.precedence hs
    rw [hvalue] at hidentifier hgiven
    have hbegin := Ready.begin_of_prepare hwords hsave hs
    refine ⟨hidentifier, hpolicy, hgiven, hparsed, level, hlevel, ?_⟩
    intro filter
    refine ⟨?_, ?_, ?_, ?_, ?_, ?_⟩
    · rw [hlevel, Filter.choose_word]
    · intro hnone record
      have hfilter : filter = .atLevel level := by simp only [filter, hnone, Option.getD_none]
      rw [hfilter, Filter.admits_atLevel, Level.admits, decide_eq_true_eq]
    · intro f hf
      rw [hf] at hbegin
      exact ⟨Ready.openLog_error hlevel hf, run_of_begin_error hbegin⟩
    · intro ready hready
      rw [hready] at hbegin
      exact Ready.openLog_ok hlevel ((mapError_eq_ok_iff _ _ _).mp hbegin.symm)
    · intro kind hcommand manager r
      have hne : s.command ≠ .console := by
        obtain ⟨hc, -⟩ | ⟨hc, -⟩ := hcommand <;> simp [hc]
      rw [Ready.openLog_of_request hlevel hne] at hbegin
      have hends : ends manager (attempt ⟨s, filter, files⟩ manager kind) :=
        run_of_request hbegin hcommand manager
      rcases hsubmit : manager.submit ⟨r, s.policy⟩ .new with ⟨accepted, m', channel, records⟩
      refine ⟨?_, ?_⟩
      · rintro f rfl
        rwa [attempt_of_error hsubmit] at hends
      · rintro rfl
        rwa [attempt_of_ok hsubmit] at hends
    · intro hcommand logFile files' hopen manager happenings console
      rw [Ready.openLog_of_console hlevel hcommand, hopen] at hbegin
      have hreport : runConsole env files manager words happenings
          = sit filter logFile s.warningText (s.records manager) files' console happenings := by
        rw [runConsole, hbegin]
        dsimp only [Except.map, Except.mapError]
        rw [hcommand]
      have hfiles := files_sit filter logFile s.warningText (s.records manager) files' console
        happenings
      have hkept := Sitting.controller_run console happenings
      rcases hstart : Sitting.start console with ⟨start, shown⟩
      simp only [hstart] at hfiles hkept
      refine ⟨hreport, ?_, rfl, rfl, hkept⟩
      rw [hreport, hfiles]

/-- A settings file that is missing stops the run, although level and identifier are given. -/
theorem settings_in_force_missing :
    let words := ["--config", "~/x.toml", "-l", "debug", "--identifier", "com.example.Driver",
      "install"]
    let a : Arguments :=
      ⟨some "~/x.toml", false, some .debug, some ⟨"com.example.Driver", by rfl⟩, some .install⟩
    let env : Environment := ⟨⟨some "/home/u", none⟩, none⟩
    parse words = .ok a ∧ a.saveConfig = false ∧
      ∀ manager, run env .empty manager words
        = ⟨Report.failure, "",
            (SettingsError.complaint "Failed to load configuration"
              (.unreadable "/home/u/x.toml" .notFound)).message, .empty⟩ := by
  intro words a env
  have hwords : parse words = .ok a := by rfl
  have hunread : FileTree.empty.readText "/home/u/x.toml" = .error .notFound := by rfl
  refine ⟨hwords, rfl, fun manager => ?_⟩
  obtain ⟨-, hunusable, -⟩ := settings_in_force env .empty words a hwords rfl
  exact ((hunusable "~/x.toml" _ (by rfl) (.unread .notFound hunread)).2 manager).1

end Program
end DriverExtension
