import QueryDoc.CommandLine.Run
import QueryDoc.Proofs.Condition.Assembly

/-!
# Where a run takes its settings and its document from

Settings come from the file that is named, by an option or else by the environment, and this
file must hold some.  Where none is named, the default file counts if it holds settings, and
is as good as not there if it does not.  Options change what was loaded.  A run that is no
session compiles one document under the settings, unless one of the two could not be had:
then it writes nothing.

Main statement: `invoke_of_sources`.
-/

namespace QueryDoc.CommandLine

/-! ## Text in bytes -/

theorem fromUTF8?_eq_some_iff {bytes : ByteArray} {text : String} :
    String.fromUTF8? bytes = some text ↔ text.toUTF8 = bytes := by
  unfold String.fromUTF8?
  split
  · rename_i valid
    constructor
    · rintro ⟨⟩
      rfl
    · rintro rfl
      rfl
  · rename_i invalid
    constructor
    · rintro ⟨⟩
    · rintro rfl
      exact (invalid text.isValidUTF8).elim

theorem Stored.ofBytes_eq_text_iff {bytes : ByteArray} {content : String} :
    Stored.ofBytes bytes = .text content ↔ content.toUTF8 = bytes := by
  rw [← fromUTF8?_eq_some_iff, Stored.ofBytes]
  cases String.fromUTF8? bytes <;> simp

theorem Stored.ofBytes_toUTF8 (content : String) :
    Stored.ofBytes content.toUTF8 = .text content :=
  Stored.ofBytes_eq_text_iff.mpr rfl

theorem Input.ofBytes_eq_text_iff {bytes : ByteArray} {content : String} :
    Input.ofBytes bytes = .text content ↔ content.toUTF8 = bytes := by
  rw [← fromUTF8?_eq_some_iff, Input.ofBytes]
  cases String.fromUTF8? bytes <;> simp

theorem Input.ofBytes_toUTF8 (content : String) :
    Input.ofBytes content.toUTF8 = .text content :=
  Input.ofBytes_eq_text_iff.mpr rfl

/-! ## Accepted options -/

def Options.PathsNamed (options : Options) : Prop :=
  options.file ≠ some "" ∧ options.config ≠ some ""

theorem path?_ne_empty (text : List Char) : path? text ≠ some "" := by
  cases text with
  | nil => simp [path?]
  | cons c text => simp [path?, String.ofList_eq_empty_iff]

theorem first_eq_some_iff {α : Type} {before value after : Option α} :
    first before value = some after ↔ before = none ∧ value = after ∧ after ≠ none := by
  cases before <;> cases value <;> simp +contextual [first, eq_comm]

theorem Options.PathsNamed.choose {options next : Options} (named : options.PathsNamed)
    {choice : Choice} (chosen : options.choose choice = some next) : next.PathsNamed := by
  obtain ⟨file, config⟩ := named
  cases choice with
  | file path =>
      obtain ⟨after, taken, same⟩ := Option.bind_eq_some_iff.mp chosen
      obtain ⟨-, given, -⟩ := first_eq_some_iff.mp taken
      cases same
      exact ⟨given ▸ path?_ne_empty path, config⟩
  | config path =>
      obtain ⟨after, taken, same⟩ := Option.bind_eq_some_iff.mp chosen
      obtain ⟨-, given, -⟩ := first_eq_some_iff.mp taken
      cases same
      exact ⟨file, given ▸ path?_ne_empty path⟩
  | maxDepth text =>
      obtain ⟨after, taken, same⟩ := Option.bind_eq_some_iff.mp chosen
      cases same
      exact ⟨file, config⟩
  | escapeQuotes | interactive | verbose =>
      obtain ⟨after, taken, same⟩ := Option.bind_eq_some_iff.mp chosen
      cases same
      exact ⟨file, config⟩
  | help | unknown => cases chosen

theorem Options.chooseAll_cons_eq_run {options final : Options} {choice : Choice}
    {choices : List Choice} (accepted : options.chooseAll (choice :: choices) = .run final) :
    ∃ next, options.choose choice = some next ∧ next.chooseAll choices = .run final := by
  by_cases asks : choice = .help
  · subst asks
    cases accepted
  · rw [Options.chooseAll] at accepted
    · split at accepted
      · rename_i next chosen
        exact ⟨next, chosen, accepted⟩
      · cases accepted
    · exact asks

theorem Options.PathsNamed.chooseAll {options final : Options} (named : options.PathsNamed)
    {choices : List Choice} (accepted : options.chooseAll choices = .run final) :
    final.PathsNamed := by
  induction choices generalizing options with
  | nil =>
      cases accepted
      exact named
  | cons choice choices ih =>
      obtain ⟨next, chosen, accepted⟩ := Options.chooseAll_cons_eq_run accepted
      exact ih (named.choose chosen) accepted

theorem pathsNamed_of_parse {arguments : List String} {options : Options}
    (accepted : parse arguments = .run options) : options.PathsNamed := by
  have start : ({} : Options).PathsNamed := by
    constructor <;> simp
  exact start.chooseAll accepted

/-! ## Settings -/

def configPath (options : Options) (surroundings : Surroundings) : Option String :=
  options.config <|> surroundings.configVariable

/-- The file holds the settings as UTF-8 text; no file has an empty path. -/
def Holds (surroundings : Surroundings) (path : String) (settings : Settings) : Prop :=
  path ≠ "" ∧ ∃ content, surroundings.find path = .ofBytes content.toUTF8 ∧
    Settings.ofText content = .ok settings

/-- The settings of a run before its options change them. -/
inductive Loads (options : Options) (surroundings : Surroundings) : Settings → Prop where
  | named {path : String} {settings : Settings}
      (given : configPath options surroundings = some path)
      (holds : Holds surroundings path settings) : Loads options surroundings settings
  | standard {settings : Settings} (unnamed : configPath options surroundings = none)
      (holds : Holds surroundings defaultConfig settings) :
      Loads options surroundings settings
  | initial (unnamed : configPath options surroundings = none)
      (unusable : ∀ settings, ¬ Holds surroundings defaultConfig settings) :
      Loads options surroundings {}

variable {options : Options} {surroundings : Surroundings} {settings : Settings}

theorem Holds.settings_eq_ok {path : String} (holds : Holds surroundings path settings) :
    (surroundings.find path).settings = .ok settings := by
  obtain ⟨-, content, found, valid⟩ := holds
  rw [found, Stored.ofBytes_toUTF8]
  exact valid

theorem holds_of_settings {path : String} (given : path ≠ "")
    (loaded : (surroundings.find path).settings = .ok settings) :
    Holds surroundings path settings := by
  refine ⟨given, ?_⟩
  cases found : surroundings.find path with
  | absent reason | unreadable reason =>
      rw [found] at loaded
      cases loaded
  | text content =>
      rw [found] at loaded
      exact ⟨content, (Stored.ofBytes_toUTF8 content).symm, loaded⟩

theorem Loads.loadSettings (loads : Loads options surroundings settings) :
    loadSettings (options.config <|> surroundings.configVariable) surroundings.find =
      .ok settings := by
  change CommandLine.loadSettings (configPath options surroundings) surroundings.find = _
  cases loads with
  | named given holds =>
      rw [given, CommandLine.loadSettings, holds.settings_eq_ok]
      rfl
  | standard unnamed holds => rw [unnamed, CommandLine.loadSettings, holds.settings_eq_ok]
  | initial unnamed unusable =>
      rw [unnamed, CommandLine.loadSettings]
      split
      · rename_i settings loaded
        exact (unusable settings (holds_of_settings (by decide) loaded)).elim
      · rfl

theorem exists_loads (unnamed : configPath options surroundings = none) :
    ∃ settings, Loads options surroundings settings := by
  by_cases usable : ∃ settings, Holds surroundings defaultConfig settings
  · obtain ⟨settings, holds⟩ := usable
    exact ⟨settings, .standard unnamed holds⟩
  · exact ⟨{}, .initial unnamed (not_exists.mp usable)⟩

/-- Options win over the settings that were loaded. -/
structure Effective (options : Options) (loaded settings : Settings) : Prop where
  depth : settings.maxDepth = options.maxDepth.getD loaded.maxDepth
  escaping : settings.escaping = if options.escapeQuotes then .doubled else loaded.escaping

theorem Effective.eq_override {loaded : Settings}
    (effective : Effective options loaded settings) : settings = options.override loaded := by
  obtain ⟨maxDepth, escaping⟩ := settings
  rw [Options.override, ← effective.depth, ← effective.escaping]

/-! ## Documents -/

/-- The bytes of the file that is given, or else of standard input. -/
inductive Document (options : Options) (surroundings : Surroundings) : ByteArray → Prop where
  | file {path : String} {bytes : ByteArray} (given : options.file = some path)
      (found : surroundings.find path = .ofBytes bytes) : Document options surroundings bytes
  | input {bytes : ByteArray} (unnamed : options.file = none)
      (read : surroundings.input = .ofBytes bytes) : Document options surroundings bytes

theorem Document.readDocument {text : String}
    (document : Document options surroundings text.toUTF8) :
    readDocument options.file surroundings = .ok text := by
  cases document with
  | file given found =>
      rw [Stored.ofBytes_toUTF8] at found
      simp only [CommandLine.readDocument, given, found]
  | input unnamed read =>
      rw [Input.ofBytes_toUTF8] at read
      simp only [CommandLine.readDocument, unnamed, read]

theorem document_of_readDocument {text : String}
    (read : readDocument options.file surroundings = .ok text) :
    Document options surroundings text.toUTF8 := by
  unfold readDocument at read
  split at read
  · rename_i path given
    split at read
    · rename_i content found
      cases read
      exact .file given (found.trans (Stored.ofBytes_toUTF8 text).symm)
    · cases read
    · cases read
  · rename_i unnamed
    split at read
    · rename_i content found
      cases read
      exact .input unnamed (found.trans (Input.ofBytes_toUTF8 text).symm)
    · cases read

/-! ## Runs -/

theorem Loads.configVariable (loads : Loads options surroundings settings) :
    ¬(options.config.isNone ∧ surroundings.configVariable = some "") := by
  rintro ⟨absent, empty⟩
  have given : configPath options surroundings = some "" := by
    rw [configPath, Option.isNone_iff_eq_none.mp absent, empty]
    rfl
  cases loads with
  | named named holds =>
      rw [named] at given
      exact holds.1 (Option.some.inj given)
  | standard unnamed _ | initial unnamed _ =>
      rw [unnamed] at given
      cases given

theorem invoke_of_loads {arguments : List String}
    (accepted : parse arguments = .run options) (loads : Loads options surroundings settings)
    (batch : options.interactive = false) :
    invoke arguments surroundings =
      match readDocument options.file surroundings with
      | .error failure => .failed failure ""
      | .ok document => runBatch (options.override settings) document := by
  simp only [invoke, accepted, if_neg loads.configVariable, run, loads.loadSettings, batch]
  rfl

theorem invoke_of_unusable {arguments : List String} {path : String}
    (accepted : parse arguments = .run options)
    (given : configPath options surroundings = some path)
    (unusable : ∀ settings, ¬ Holds surroundings path settings) :
    (invoke arguments surroundings).exitCode = 2 ∧
      (invoke arguments surroundings).output = "" := by
  simp only [invoke, accepted]
  split
  · exact ⟨rfl, rfl⟩
  · rename_i filled
    have nonempty : path ≠ "" := by
      rintro rfl
      rcases options with ⟨file, _ | config, maxDepth⟩
      · exact filled ⟨rfl, given⟩
      · exact (pathsNamed_of_parse accepted).2 given
    obtain ⟨failure, failed⟩ :
        ∃ failure, (surroundings.find path).settings = .error failure := by
      cases loaded : (surroundings.find path).settings with
      | error failure => exact ⟨failure, rfl⟩
      | ok settings => exact (unusable settings (holds_of_settings nonempty loaded)).elim
    have refused : loadSettings (options.config <|> surroundings.configVariable)
        surroundings.find = .error (.settings path failure) := by
      change loadSettings (configPath options surroundings) _ = _
      rw [given, loadSettings, failed]
      rfl
    rw [run, refused]
    exact ⟨rfl, rfl⟩

/--
What accepted arguments come to.  A settings file that is named must hold settings; without
one there always are settings.  A document that is no text cannot be had.  What it compiles
to is written with one line end.
-/
theorem invoke_of_sources {arguments : List String} {options : Options}
    (accepted : parse arguments = .run options) (surroundings : Surroundings) :
    let outcome := invoke arguments surroundings
    (∀ path, configPath options surroundings = some path →
      (∀ settings, ¬ Holds surroundings path settings) →
        outcome.exitCode = 2 ∧ outcome.output = "") ∧
    (configPath options surroundings = none → ∃ loaded, Loads options surroundings loaded) ∧
    ∀ loaded settings, Loads options surroundings loaded → Effective options loaded settings →
      options.interactive = false →
        ((∀ text : String, ¬ Document options surroundings text.toUTF8) →
          outcome.exitCode = 2 ∧ outcome.output = "") ∧
        ∀ text : String, Document options surroundings text.toUTF8 →
          (∀ query, compile settings text = .ok query →
            outcome.exitCode = 0 ∧ outcome.output = query ++ "\n") ∧
          ∀ error, compile settings text = .error error →
            outcome.exitCode = 1 ∧ outcome.output = error.message ++ "\n" := by
  intro outcome
  refine ⟨?_, exists_loads, ?_⟩
  · intro path given unusable
    exact invoke_of_unusable accepted given unusable
  · intro loaded settings loads effective batch
    have result := invoke_of_loads accepted loads batch
    rw [← effective.eq_override] at result
    constructor
    · intro absent
      cases read : readDocument options.file surroundings with
      | ok text => exact (absent text (document_of_readDocument read)).elim
      | error failure =>
          have failed : outcome = .failed failure "" := by
            simp only [outcome, result, read]
          rw [failed]
          exact ⟨rfl, rfl⟩
    · intro text document
      have batched : outcome = runBatch settings text := by
        simp only [outcome, result, document.readDocument]
      rw [batched, runBatch]
      constructor
      · intro query compiled
        rw [compiled]
        exact ⟨rfl, rfl⟩
      · intro error compiled
        rw [compiled]
        exact ⟨rfl, rfl⟩

private def doubling : String :=
  "\x7b\"max_depth\":5,\"quote_escaping\":\"doubled\"\x7d"

private def quoting : String :=
  "\x7b\"from\":\"t\",\"where\":\x7b\"and\":\x7b\"a\":\"it's\"\x7d\x7d\x7d"

private def workplace (configVariable : Option String) (input : ByteArray) : Surroundings :=
  { configVariable
    terminal := none
    find := fun path =>
      if path = "s.json" then
        .ofBytes doubling.toUTF8
      else if path = defaultConfig then
        .ofBytes ⟨#[0x7b, 0xff]⟩
      else
        .absent "No such file or directory (os error 2)"
    input := .ofBytes input }

theorem invoke_of_sources_of_workplace :
    let doubled := invoke ["--max-depth=1"] (workplace (some "s.json") quoting.toUTF8)
    let plain := invoke [] (workplace none quoting.toUTF8)
    let garbled := invoke [] (workplace none ⟨#[0x7b, 0xff]⟩)
    let misled := invoke ["--config", "x"] (workplace (some "s.json") quoting.toUTF8)
    (doubled.exitCode = 0 ∧ doubled.output = "select *\nfrom t\nwhere (a = 'it''s');\n") ∧
      (plain.exitCode = 0 ∧ plain.output = "select *\nfrom t\nwhere (a = 'it's');\n") ∧
      (garbled.exitCode = 2 ∧ garbled.output = "") ∧
      (misled.exitCode = 2 ∧ misled.output = "") := by
  intro doubled plain garbled misled
  have garbage : ∀ text : String, text.toUTF8 ≠ ⟨#[0x7b, 0xff]⟩ := by
    intro text same
    have read := fromUTF8?_eq_some_iff.mpr same
    have invalid : String.fromUTF8? ⟨#[0x7b, 0xff]⟩ = none := by decide +kernel
    rw [invalid] at read
    cases read
  have initial : ∀ input, Loads {} (workplace none input) {} := by
    intro input
    refine .initial rfl ?_
    rintro settings ⟨-, content, found, -⟩
    have unreadable : Stored.ofBytes ⟨#[0x7b, 0xff]⟩ = .ofBytes content.toUTF8 := found
    rw [Stored.ofBytes_toUTF8, Stored.ofBytes_eq_text_iff] at unreadable
    exact garbage content unreadable
  have silent : parse [] = .run {} := rfl
  refine ⟨?_, ?_, ?_, ?_⟩
  · have accepted : parse ["--max-depth=1"] = .run { maxDepth := some 1 } := by decide +kernel
    have loads : Loads { maxDepth := some 1 } (workplace (some "s.json") quoting.toUTF8)
        { maxDepth := 5, escaping := .doubled } := by
      refine .named rfl ⟨by decide, doubling, rfl, ?_⟩
      with_unfolding_all rfl
    have compiled : compile { maxDepth := 1, escaping := .doubled } quoting =
        .ok "select *\nfrom t\nwhere (a = 'it''s');" :=
      Condition.eq_ok_of_toOption (by decide +kernel)
    obtain ⟨-, -, batch⟩ :=
      invoke_of_sources accepted (workplace (some "s.json") quoting.toUTF8)
    obtain ⟨-, documents⟩ :=
      batch _ { maxDepth := 1, escaping := .doubled } loads ⟨rfl, rfl⟩ rfl
    obtain ⟨written, -⟩ := documents quoting (.input rfl rfl)
    exact written _ compiled
  · have compiled : compile {} quoting = .ok "select *\nfrom t\nwhere (a = 'it's');" :=
      Condition.eq_ok_of_toOption (by decide +kernel)
    obtain ⟨-, -, batch⟩ := invoke_of_sources silent (workplace none quoting.toUTF8)
    obtain ⟨-, documents⟩ := batch {} {} (initial _) ⟨rfl, rfl⟩ rfl
    obtain ⟨written, -⟩ := documents quoting (.input rfl rfl)
    exact written _ compiled
  · obtain ⟨-, -, batch⟩ := invoke_of_sources silent (workplace none ⟨#[0x7b, 0xff]⟩)
    obtain ⟨absent, -⟩ := batch {} {} (initial _) ⟨rfl, rfl⟩ rfl
    refine absent fun text document => ?_
    cases document with
    | file given _ => cases given
    | input _ read =>
        have broken : Input.ofBytes ⟨#[0x7b, 0xff]⟩ = .ofBytes text.toUTF8 := read
        rw [Input.ofBytes_toUTF8, Input.ofBytes_eq_text_iff] at broken
        exact garbage text broken
  · have accepted : parse ["--config", "x"] = .run { config := some "x" } := by decide +kernel
    obtain ⟨explicit, -⟩ :=
      invoke_of_sources accepted (workplace (some "s.json") quoting.toUTF8)
    refine explicit "x" rfl ?_
    rintro settings ⟨-, content, found, -⟩
    have absent : Stored.absent "No such file or directory (os error 2)" =
        .ofBytes content.toUTF8 := found
    rw [Stored.ofBytes_toUTF8] at absent
    cases absent

end QueryDoc.CommandLine
