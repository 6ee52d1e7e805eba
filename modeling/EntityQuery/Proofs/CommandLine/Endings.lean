import EntityQuery.Proofs.CommandLine.Steps
import EntityQuery.Proofs.Schema.Rearranged

/-! How a run ends. Its settings, its schema and the file of its filter are looked at in this order, and the first
that is not good ends it with 2. With all of them good it ends with 1 if the filter is not taken for JSON, cannot be
compiled or gives a statement that the check refuses, and with 0 otherwise. A run that fails writes its log and its
message and nothing else. -/

namespace EntityQuery.CommandLine

variable {lib : Libraries}

structure Invocation.Configures (lib : Libraries) (w : World) (i : Invocation) (settings : Settings) (s : Schema) :
    Prop where
  loads : loadSettings lib w i = .ok settings
  builds : loadSchema lib w i settings = .ok s

/-- The first of the settings, the schema and the filter file that is not good. -/
inductive ConfigurationFault (lib : Libraries) (w : World) (i : Invocation) : Failure → Prop
  | settings {f} : loadSettings lib w i = .error f → ConfigurationFault lib w i f
  | schema {settings f} : loadSettings lib w i = .ok settings → loadSchema lib w i settings = .error f →
      ConfigurationFault lib w i f
  | filterFile {settings s path fault} : i.Configures lib w settings s → i.command.filterPath? = some path →
      w.read path = .error fault → ConfigurationFault lib w i (.filterFile path fault)

inductive FilterFault (lib : Libraries) (w : World) (i : Invocation) : Failure → Prop
  | notJson {settings s filter text reason} : i.Configures lib w settings s → i.command.filter? = some filter →
      filterText w filter = .ok text → lib.readJson text = .error reason →
      FilterFault lib w i (.filterSyntax reason)
  | refused {settings s filter raw f} : i.Configures lib w settings s → i.command.filter? = some filter →
      readFilter lib w filter = .ok raw → i.command.Refuses lib s settings.strategy raw f → FilterFault lib w i f

section Run

variable {w : World} {i : Invocation} {settings : Settings} {s : Schema} {f : Failure}

lemma Invocation.result_run (lib : Libraries) (w : World) (i : Invocation) : (i.run lib w).result =
    loadSettings lib w i >>= fun settings => loadSchema lib w i settings >>= fun s =>
      (perform lib w s settings.strategy i.command).result := by
  simp only [run, Traced.result_bind, Traced.result_of, Traced.result_record, Outcome.ok_bind]

lemma Invocation.Configures.result_run (h : i.Configures lib w settings s) :
    (i.run lib w).result = (perform lib w s settings.strategy i.command).result := by
  rw [Invocation.result_run, h.loads, Outcome.ok_bind, h.builds, Outcome.ok_bind]

lemma Invocation.Configures.steps_run (h : i.Configures lib w settings s) :
    (i.run lib w).steps = .start :: .schema s :: (perform lib w s settings.strategy i.command).steps := by
  rw [run, Traced.steps_bind_of_ok rfl, h.loads, Traced.steps_bind_of_ok rfl, h.builds, Traced.steps_bind_of_ok rfl,
    Traced.steps_bind_of_ok rfl]
  rfl

lemma Invocation.run_of_loadSettings_error (h : loadSettings lib w i = .error f) :
    i.run lib w = ⟨[.start], .error f⟩ := by
  rw [run, h]
  rfl

lemma Invocation.run_of_loadSchema_error (h : loadSettings lib w i = .ok settings)
    (hs : loadSchema lib w i settings = .error f) : i.run lib w = ⟨[.start], .error f⟩ := by
  simp only [run, h]
  change Traced.bind _ _ = _
  simp only [Traced.bind, Traced.record, Traced.of, hs, bind]
  rfl

lemma run_eq_error_iff : (i.run lib w).result = .error f ↔ ConfigurationFault lib w i f ∨ FilterFault lib w i f := by
  rw [Invocation.result_run]
  constructor
  · intro h
    -- The stages of a run in their order, each passed before the next can fail.
    rcases Outcome.bind_eq_error_iff.mp h with h | ⟨settings, hsettings, h⟩
    · exact Or.inl (.settings h)
    rcases Outcome.bind_eq_error_iff.mp h with h | ⟨s, hs, h⟩
    · exact Or.inl (.schema hsettings h)
    have hconf : i.Configures lib w settings s := ⟨hsettings, hs⟩
    obtain ⟨filter, hfilter, h | ⟨raw, hraw, hrefuses⟩⟩ := perform_eq_error_iff.mp h
    · rcases readFilter_eq_error_iff.mp h with h | ⟨text, reason, htext, hparse, rfl⟩
      · obtain ⟨path, fault, hpath, hread, rfl⟩ := filterText_eq_error_iff.mp h
        exact Or.inl (.filterFile hconf (Option.bind_eq_some_iff.mpr ⟨filter, hfilter, hpath⟩) hread)
      · exact Or.inr (.notJson hconf hfilter htext hparse)
    · exact Or.inr (.refused hconf hfilter hraw hrefuses)
  · rintro (h | h)
    · cases h with
      | settings h => exact Outcome.bind_eq_error_iff.mpr (Or.inl h)
      | schema hsettings h =>
        exact Outcome.bind_eq_error_iff.mpr (Or.inr ⟨_, hsettings, Outcome.bind_eq_error_iff.mpr (Or.inl h)⟩)
      | filterFile hconf hpath hread =>
        obtain ⟨filter, hfilter, hpath⟩ := Option.bind_eq_some_iff.mp hpath
        have htext := filterText_eq_error_iff.mpr ⟨_, _, hpath, hread, rfl⟩
        rw [← Invocation.result_run, hconf.result_run]
        exact perform_eq_error_iff.mpr ⟨filter, hfilter, Or.inl (readFilter_eq_error_iff.mpr (Or.inl htext))⟩
    · cases h with
      | notJson hconf hfilter htext hparse =>
        rw [← Invocation.result_run, hconf.result_run]
        exact perform_eq_error_iff.mpr
          ⟨_, hfilter, Or.inl (readFilter_eq_error_iff.mpr (Or.inr ⟨_, _, htext, hparse, rfl⟩))⟩
      | refused hconf hfilter hraw hrefuses =>
        rw [← Invocation.result_run, hconf.result_run]
        exact perform_eq_error_iff.mpr ⟨_, hfilter, Or.inr ⟨_, hraw, hrefuses⟩⟩

lemma ConfigurationFault.exitCode (h : ConfigurationFault lib w i f) : f.exitCode = 2 := by
  cases h with
  | settings h =>
    obtain ⟨e, -, rfl⟩ := Outcome.mapError_eq_error_iff.mp h
    rfl
  | schema _ h =>
    rw [loadSchema.eq_def] at h
    cases hregistry : i.registry with
    | some path =>
      rw [hregistry] at h
      obtain ⟨e, -, rfl⟩ := Outcome.mapError_eq_error_iff.mp h
      rfl
    | none =>
      rw [hregistry] at h
      obtain ⟨e, -, rfl⟩ := Outcome.mapError_eq_error_iff.mp h
      rfl
  | filterFile => rfl

lemma FilterFault.exitCode (h : FilterFault lib w i f) : f.exitCode = 1 := by
  cases h with
  | notJson => rfl
  | refused _ _ _ h => exact h.exitCode

lemma exists_configurationFault_iff :
    (∃ f, ConfigurationFault lib w i f) ↔ ∃ f, (i.run lib w).result = .error f ∧ f.exitCode = 2 := by
  constructor
  · rintro ⟨f, hf⟩
    exact ⟨f, run_eq_error_iff.mpr (Or.inl hf), hf.exitCode⟩
  · rintro ⟨f, hrun, hcode⟩
    rcases run_eq_error_iff.mp hrun with hf | hf
    · exact ⟨f, hf⟩
    · exact absurd (hcode.symm.trans hf.exitCode) (by decide)

lemma exists_filterFault_iff :
    (∃ f, FilterFault lib w i f) ↔ ∃ f, (i.run lib w).result = .error f ∧ f.exitCode = 1 := by
  constructor
  · rintro ⟨f, hf⟩
    exact ⟨f, run_eq_error_iff.mpr (Or.inr hf), hf.exitCode⟩
  · rintro ⟨f, hrun, hcode⟩
    rcases run_eq_error_iff.mp hrun with hf | hf
    · exact absurd (hcode.symm.trans hf.exitCode) (by decide)
    · exact ⟨f, hf⟩

lemma Failure.exitCode_ne_zero (f : Failure) : f.exitCode ≠ 0 := by
  cases f <;> simp [exitCode]

namespace Invocation

lemma outcome_of_ok {text : String} (h : (i.run lib w).result = .ok text) :
    i.outcome lib w = ⟨0, text, i.logged lib w⟩ := by
  rw [outcome, h]

lemma outcome_of_error (h : (i.run lib w).result = .error f) :
    i.outcome lib w = ⟨f.exitCode, "", i.logged lib w ++ line f.message⟩ := by
  rw [outcome, h]

lemma exitCode_outcome_iff {n : Nat} (hn : n ≠ 0) :
    (i.outcome lib w).exitCode = n ↔ ∃ f, (i.run lib w).result = .error f ∧ f.exitCode = n := by
  cases h : (i.run lib w).result with
  | ok text => simp [outcome_of_ok h, hn.symm]
  | error f => simp [outcome_of_error h]

lemma exitCode_outcome_eq_zero_iff : (i.outcome lib w).exitCode = 0 ↔ ∀ f, (i.run lib w).result ≠ .error f := by
  cases h : (i.run lib w).result with
  | ok text => simp [outcome_of_ok h]
  | error f => cases f <;> simp [outcome_of_error h, Failure.exitCode]

lemma exists_ok_of_exitCode_eq_zero (h : (i.outcome lib w).exitCode = 0) :
    ∃ text, (i.run lib w).result = .ok text := by
  cases hrun : (i.run lib w).result with
  | ok text => exact ⟨text, rfl⟩
  | error f =>
    rw [outcome_of_error hrun] at h
    exact absurd h f.exitCode_ne_zero

lemma stdout_outcome (h : (i.outcome lib w).exitCode ≠ 0) : (i.outcome lib w).stdout = "" := by
  cases hrun : (i.run lib w).result with
  | ok text => exact absurd (congrArg Outcome.exitCode (outcome_of_ok hrun)) h
  | error f => rw [outcome_of_error hrun]

lemma outcome_eq_of_error {i' : Invocation} (hfilter : i'.logFilter lib w = i.logFilter lib w)
    (hsteps : (i'.run lib w).steps = (i.run lib w).steps) (h : (i.run lib w).result = .error f)
    (h' : (i'.run lib w).result = .error f) : i'.outcome lib w = i.outcome lib w := by
  rw [outcome_of_error h, outcome_of_error h', logged, logged, hfilter, hsteps]

lemma logged_eq_append {i' : Invocation} {step : LogStep} (hfilter : i'.logFilter lib w = i.logFilter lib w)
    (hsteps : (i'.run lib w).steps = (i.run lib w).steps ++ [step]) :
    i'.logged lib w = i.logged lib w ++ lib.log (i.logFilter lib w) step := by
  rw [logged, logged, hfilter, hsteps]
  simp [String.join, List.foldl_append]

lemma outcome_select {entity filter : String} (columns : List String) (limit offset : Option Nat)
    (hcommand : i.command = .compile entity filter none) :
    let select : Invocation := { i with command := .select entity filter columns limit offset false }
    ((∃ f, (i.run lib w).result = .error f) → select.outcome lib w = i.outcome lib w) ∧
    ∀ text, (i.run lib w).result = .ok text → ∃ text' settings s raw sel, (select.run lib w).result = .ok text' ∧
      i.Configures lib w settings s ∧ readFilter lib w filter = .ok raw ∧
      s.selectFor settings.strategy entity raw columns = .ok sel ∧
      select.logged lib w = i.logged lib w ++ lib.log (i.logFilter lib w) (.assembly { sel with limit, offset }) := by
  intro select
  have hresult : ∀ f, (select.run lib w).result = .error f ↔ (i.run lib w).result = .error f := by
    intro f
    simp only [result_run, hcommand, Outcome.bind_eq_error_iff]
    simp only [select, perform_select_eq_error_iff]
    rfl
  have hfilter : select.logFilter lib w = i.logFilter lib w := rfl
  have hstages : ∀ settings s, i.Configures lib w settings s → select.Configures lib w settings s :=
    fun settings s h => ⟨h.loads, h.builds⟩
  constructor
  · rintro ⟨f, hf⟩
    refine outcome_eq_of_error hfilter ?_ hf ((hresult f).mpr hf)
    cases hload : loadSettings lib w i with
    | error e => rw [run_of_loadSettings_error hload, run_of_loadSettings_error (i := select) hload]
    | ok settings =>
      cases hs : loadSchema lib w i settings with
      | error e => rw [run_of_loadSchema_error hload hs, run_of_loadSchema_error (i := select) hload hs]
      | ok s =>
        have hconf : i.Configures lib w settings s := ⟨hload, hs⟩
        rw [hconf.result_run, hcommand] at hf
        rw [hconf.steps_run, (hstages settings s hconf).steps_run, hcommand,
          (steps_perform_select entity filter columns limit offset).1 f hf]
  · intro text htext
    have hok := htext
    rw [result_run] at hok
    obtain ⟨settings, hload, hok⟩ := Outcome.bind_eq_ok_iff.mp hok
    obtain ⟨s, hs, hok⟩ := Outcome.bind_eq_ok_iff.mp hok
    have hconf : i.Configures lib w settings s := ⟨hload, hs⟩
    rw [hcommand] at hok
    obtain ⟨raw, sel, hraw, hsel, hsteps⟩ := (steps_perform_select entity filter columns limit offset).2 text hok
    obtain ⟨text', htext'⟩ : ∃ text', (select.run lib w).result = .ok text' := by
      cases hselect : (select.run lib w).result with
      | ok text' => exact ⟨text', rfl⟩
      | error f =>
        rw [(hresult f).mp hselect] at htext
        cases htext
    refine ⟨text', settings, s, raw, sel, htext', hconf, hraw, hsel, logged_eq_append hfilter ?_⟩
    rw [hconf.steps_run, (hstages settings s hconf).steps_run, hcommand, hsteps]
    rfl

end Invocation

lemma execute_eq {args : List String} (h : lib.readArguments args = .ok i) : execute lib w args = i.outcome lib w := by
  rw [execute, h]

end Run

/-- What a run ends with says what was wrong, if anything was: 2 stands for the configuration, whose faults come
first, and 1 for the filter. Behind the log a failure leaves its message. Compiling by the strategy of the settings and
a SELECT without a check end with the same code, and write the same where they fail; where they do not, the SELECT logs
how it was put together besides. -/
theorem execute_ends {lib : Libraries} {w : World} {args : List String} {i : Invocation}
    (h : lib.readArguments args = .ok i) :
    ((execute lib w args).exitCode ≠ 0 → (execute lib w args).stdout = "") ∧
    ((execute lib w args).exitCode = 2 ↔ ∃ f, ConfigurationFault lib w i f) ∧
    ((execute lib w args).exitCode = 1 ↔ ∃ f, FilterFault lib w i f) ∧
    ((execute lib w args).exitCode = 0 ↔ ∀ f, ¬ ConfigurationFault lib w i f ∧ ¬ FilterFault lib w i f) ∧
    (∀ f, ConfigurationFault lib w i f ∨ FilterFault lib w i f →
      (execute lib w args).stderr = i.logged lib w ++ line f.message) ∧
    ((execute lib w args).exitCode = 0 → (execute lib w args).stderr = i.logged lib w) ∧
    ∀ entity filter columns limit offset args', i.command = .compile entity filter none →
      lib.readArguments args' = .ok { i with command := .select entity filter columns limit offset false } →
      (execute lib w args').exitCode = (execute lib w args).exitCode ∧
      ((execute lib w args).exitCode ≠ 0 → (execute lib w args').stderr = (execute lib w args).stderr) ∧
      ((execute lib w args).exitCode = 0 → ∃ settings s raw sel, i.Configures lib w settings s ∧
        readFilter lib w filter = .ok raw ∧ s.selectFor settings.strategy entity raw columns = .ok sel ∧
        (execute lib w args').stderr = (execute lib w args).stderr ++
          lib.log (i.logFilter lib w) (.assembly { sel with limit, offset })) := by
  rw [execute_eq h, exists_configurationFault_iff, exists_filterFault_iff]
  refine ⟨Invocation.stdout_outcome, Invocation.exitCode_outcome_iff (by decide),
    Invocation.exitCode_outcome_iff (by decide), ?_, fun f hf => ?_, fun hzero => ?_, ?_⟩
  · simp only [Invocation.exitCode_outcome_eq_zero_iff, Ne, run_eq_error_iff, not_or]
  · rw [Invocation.outcome_of_error (run_eq_error_iff.mpr hf)]
  · obtain ⟨text, htext⟩ := Invocation.exists_ok_of_exitCode_eq_zero hzero
    rw [Invocation.outcome_of_ok htext]
  · intro entity filter columns limit offset args' hcommand hargs'
    rw [execute_eq hargs']
    obtain ⟨hfails, hends⟩ := i.outcome_select columns limit offset hcommand
    cases hrun : (i.run lib w).result with
    | error f =>
      rw [hfails ⟨f, hrun⟩, Invocation.outcome_of_error hrun]
      exact ⟨rfl, fun _ => rfl, fun hzero => absurd hzero f.exitCode_ne_zero⟩
    | ok text =>
      obtain ⟨text', settings, s, raw, sel, htext', hconf, hraw, hsel, hlogged⟩ := hends text hrun
      rw [Invocation.outcome_of_ok hrun, Invocation.outcome_of_ok htext']
      exact ⟨rfl, fun hne => absurd rfl hne, fun _ => ⟨settings, s, raw, sel, hconf, hraw, hsel, hlogged⟩⟩

/-- Libraries with the words for an object that is not closed, and with a subscriber that is asked for what statements
log, the time apart. -/
def speaking : Libraries :=
  { Libraries.plain with
    readJson := fun text =>
      match Json.parse text with
      | some raw => .ok raw
      | none => .error (if text = "\x7b" then "EOF while parsing an object at line 1 column 1"
          else "recursion limit exceeded at line 1 column 636")
    log := fun filter step =>
      match filter.given, step with
      | some "domain_filter::sql=debug", .assembly sel =>
          let values := ((sel.filter.map WhereClause.conditions).getD []).flatMap Condition.boundValues
          line ("DEBUG domain_filter::sql::query: assembled select table=" ++ sel.table ++ " values=" ++
            toString values.length)
      | _, _ => "" }

def unclosedFile : World where
  look path := if path = "open.json" then .file (some "\x7b") else .missing
  getVariable name := if name = "RUST_LOG" then some "domain_filter::sql=debug" else none
  configHome := none

theorem unclosed_filter_ends_with_one :
    (execute speaking unclosedFile ["compile", "user", "@open.json"]).exitCode = 1 ∧
    (∃ f, FilterFault speaking unclosedFile ⟨none, none, .compile "user" "@open.json" none⟩ f) ∧
    (execute speaking unclosedFile ["select", "user", "--limit=5", "@open.json"]).exitCode = 1 ∧
    (execute speaking unclosedFile ["select", "user", "--limit=5", "@open.json"]).stderr =
      "Invalid filter JSON: EOF while parsing an object at line 1 column 1\n" ∧
    ∃ f, ConfigurationFault speaking unclosedFile ⟨none, none, .chains "user" "@gone.json"⟩ f := by
  have hcompile : execute speaking unclosedFile ["compile", "user", "@open.json"] =
      ⟨1, "", "Invalid filter JSON: EOF while parsing an object at line 1 column 1\n"⟩ := by decide +kernel
  have hchains : (execute speaking unclosedFile ["chains", "user", "@gone.json"]).exitCode = 2 := by decide +kernel
  obtain ⟨-, -, hone, -, -, -, hselect⟩ := execute_ends (w := unclosedFile)
    (show speaking.readArguments ["compile", "user", "@open.json"] =
      .ok ⟨none, none, .compile "user" "@open.json" none⟩ from rfl)
  obtain ⟨-, htwo, -⟩ := execute_ends (w := unclosedFile)
    (show speaking.readArguments ["chains", "user", "@gone.json"] =
      .ok ⟨none, none, .chains "user" "@gone.json"⟩ from rfl)
  obtain ⟨hcode, hstderr, -⟩ := hselect _ _ [] (some 5) none ["select", "user", "--limit=5", "@open.json"] rfl rfl
  rw [hcompile] at hone hcode hstderr
  exact ⟨by rw [hcompile], hone.mp rfl, hcode, hstderr (by decide), htwo.mp hchains⟩

def ring : Schema := ⟨[⟨"a", "a", [], ["b"]⟩, ⟨"b", "b", [], ["a"]⟩]⟩

def ringText : String :=
  "[entities.a]\ntable = 'a'\nreferences = ['b']\n[entities.b]\ntable = 'b'\nreferences = ['a']\n"

def ringDef (name reference : String) : String × EntityDef :=
  (name, { table := name, references := [reference] })

def ringTable (name reference : String) : Toml.Value :=
  .table [("table", .string name), ("references", .array [.string reference])]

set_option maxRecDepth 20000 in
lemma parse_ringText :
    Toml.parse ringText = some [("entities", .table [("a", ringTable "a" "b"), ("b", ringTable "b" "a")])] := by
  cbv

lemma build_ring : Schema.build [ringDef "a" "b", ringDef "b" "a"] = .ok ring := by
  have hentities : Schema.resolveEntities ["a", "b"] [] [ringDef "a" "b", ringDef "b" "a"] = .ok ring.entities := by
    simp only [ringDef, Schema.resolveEntities, Schema.resolveEntity, Schema.sortFields, List.map_nil,
      List.mergeSort_nil]
    rfl
  rw [Schema.build, show [ringDef "a" "b", ringDef "b" "a"].map Prod.fst = ["a", "b"] from rfl, hentities]
  exact congrArg (fun es => Except.ok (Schema.mk es)) (Schema.sortEntities_of_pairwise (by decide))

lemma ofTomlBy_ringText : Schema.ofTomlBy Toml.reader ringText = .ok ring := by
  have hentities : SchemaFile.members? SchemaFile.entity? (.table [("a", ringTable "a" "b"), ("b", ringTable "b" "a")]) =
      some [ringDef "a" "b", ringDef "b" "a"] :=
    SchemaFile.members?_of_pairwise (by decide) rfl
  have hdefs : SchemaFile.definitions? [("entities", .table [("a", ringTable "a" "b"), ("b", ringTable "b" "a")])] =
      some [ringDef "a" "b", ringDef "b" "a"] := hentities
  simp only [Schema.ofTomlBy, Toml.reader, parse_ringText, Option.bind_some, hdefs]
  exact build_ring

def nested : Nat → Json
  | 0 => .object []
  | n + 1 => .object [("b", .object [("a", nested n)])]

def nestedChars : Nat → List Char
  | 0 => ['\x7b', '\x7d']
  | n + 1 => ['\x7b', '"', 'b', '"', ':', '\x7b', '"', 'a', '"', ':'] ++ nestedChars n ++ ['\x7d', '\x7d']

lemma compact_nested (n : Nat) : (nested n).compact = String.ofList (nestedChars n) := by
  have hquotes : Json.quote "a" = "\"a\"" ∧ Json.quote "b" = "\"b\"" := by
    constructor <;> simp [Json.quote, Json.escapeChar]
  apply String.toList_inj.mp
  induction n with
  | zero => simp [nested, nestedChars, Json.compact, Json.compactMembers]
  | succ n ih =>
    simp only [nested, nestedChars, Json.compact, Json.compactMembers, hquotes, String.toList_append,
      String.toList_intercalate, List.map_cons, List.map_nil, List.intercalate_singleton, ih]
    simp

lemma compact_nested_ne (n : Nat) : (nested n).compact ≠ "\x7b" := by
  rw [compact_nested]
  intro h
  have hchars := String.ofList_inj.mp (h.trans (String.ofList_toList (s := "\x7b")).symm)
  cases n <;> simp [nestedChars] at hchars

lemma parse_compact_nested : Json.parse (nested 64).compact = none := by
  have hvalue : Json.value? Json.maxDepth (2 * (nestedChars 64).length + 2) (nestedChars 64) = none := by
    decide +kernel
  rw [compact_nested, Json.parse, String.toList_ofList]
  exact Option.bind_eq_none_iff.mpr fun v hv => absurd (hvalue.symm.trans hv) nofun

def ringWorld (deep : String) : World where
  look path :=
    if path = "r.toml" then .file (some ringText)
    else if path = "deep.json" then .file (some deep)
    else .missing
  getVariable name := if name = "RUST_LOG" then some "domain_filter::sql=debug" else none
  configHome := none

section RingWorld

variable {deep : String}

lemma ringWorld_configures (c : Command) :
    (⟨none, some "r.toml", c⟩ : Invocation).Configures speaking (ringWorld deep) {} ring := by
  have hread : (ringWorld deep).read "r.toml" = .ok ringText := by simp [World.read, ringWorld]
  have htoml : speaking.toml = Toml.reader := rfl
  constructor
  · simp [loadSettings, Settings.load, Settings.variableName, Settings.searchPaths, World.isFile, ringWorld,
      Except.mapError]
  · simp only [loadSchema, Schema.ofFile, hread, htoml, ofTomlBy_ringText]
    rfl

lemma filterFault_deep (hparse : Json.parse deep = none) (hdeep : deep ≠ "\x7b") :
    FilterFault speaking (ringWorld deep) ⟨none, some "r.toml", .compile "a" "@deep.json" none⟩
      (.filterSyntax "recursion limit exceeded at line 1 column 636") := by
  have hpath : filePath? "@deep.json" = some "deep.json" := by decide
  have htext : filterText (ringWorld deep) "@deep.json" = .ok deep := by
    simp [filterText, hpath, World.read, ringWorld, Except.mapError]
  refine .notJson (ringWorld_configures _) rfl htext ?_
  simp only [speaking, hparse, if_neg hdeep]

lemma execute_compile_deep (hparse : Json.parse deep = none) (hdeep : deep ≠ "\x7b") :
    (execute speaking (ringWorld deep) ["compile", "a", "@deep.json", "--registry", "r.toml"]).exitCode = 1 := by
  rw [execute_eq (i := ⟨none, some "r.toml", .compile "a" "@deep.json" none⟩) rfl,
    Invocation.outcome_of_error (run_eq_error_iff.mpr (Or.inr (filterFault_deep hparse hdeep)))]
  rfl

lemma execute_ring {args : List String} {c : Command} {text : String}
    (hargs : speaking.readArguments args = .ok ⟨none, some "r.toml", c⟩)
    (h : (perform speaking (ringWorld deep) ring .graph c).result = .ok text) :
    execute speaking (ringWorld deep) args = ⟨0, text,
      String.join ((.start :: .schema ring :: (perform speaking (ringWorld deep) ring .graph c).steps).map
        (speaking.log ⟨some "domain_filter::sql=debug", "warn"⟩))⟩ := by
  have hconf : (⟨none, some "r.toml", c⟩ : Invocation).Configures speaking (ringWorld deep) {} ring :=
    ringWorld_configures c
  have hfilter : (⟨none, some "r.toml", c⟩ : Invocation).logFilter speaking (ringWorld deep) =
      ⟨some "domain_filter::sql=debug", "warn"⟩ := by
    rw [Invocation.logFilter, hconf.loads]
    rfl
  rw [execute_eq hargs, Invocation.outcome_of_ok (hconf.result_run.trans h), Invocation.logged, hconf.steps_run, hfilter]

end RingWorld

def deepRing : World :=
  ringWorld (nested 64).compact

/-- A SELECT logs a line that compiling does not, and a filter that is JSON and could be compiled is refused for its
depth alone. -/
theorem assembly_logged_and_depth_refused :
    execute speaking deepRing ["compile", "a", "\x7b\x7d", "--registry", "r.toml"] = ⟨0, "[]\n", ""⟩ ∧
    execute speaking deepRing ["select", "a", "\x7b\x7d", "--registry", "r.toml"] =
      ⟨0, "\x7b\n  \"query\": \"select * from a\",\n  \"values\": []\n\x7d\n",
        "DEBUG domain_filter::sql::query: assembled select table=a values=0\n"⟩ ∧
    (execute speaking deepRing ["compile", "a", "@deep.json", "--registry", "r.toml"]).exitCode = 1 ∧
    deepRing.read "deep.json" = .ok (nested 64).compact ∧ ring.compile .graph "a" (nested 64) = .ok [] := by
  have hcompiled : (perform speaking deepRing ring .graph (.compile "a" "\x7b\x7d" none)).result = .ok "[]\n" := by
    decide +kernel
  have hselected : (perform speaking deepRing ring .graph (.select "a" "\x7b\x7d" [] none none false)).result =
      .ok "\x7b\n  \"query\": \"select * from a\",\n  \"values\": []\n\x7d\n" := by
    decide +kernel
  refine ⟨(execute_ring rfl hcompiled).trans ?_, (execute_ring rfl hselected).trans ?_,
    execute_compile_deep parse_compact_nested (compact_nested_ne 64), ?_, by decide +kernel⟩
  · decide +kernel
  · decide +kernel
  · simp [World.read, deepRing, ringWorld]

end EntityQuery.CommandLine
