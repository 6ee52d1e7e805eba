import EntityQuery.Proofs.CommandLine.Endings
import EntityQuery.Proofs.FileTree
import EntityQuery.Proofs.Settings.Substitution

/-! What a run does not depend on. Settings come from one source, which the arguments, the environment or the
working directory choose, and the sources that it goes before might as well not be there. A schema that the
arguments name goes before all that the settings say of one, and so does a strategy. -/

namespace EntityQuery

/-- The worlds differ at most in where hidden paths lead, in the variable that names the settings file and in the
directory of the user's configuration. -/
structure World.SameBut (hidden : String → Prop) (w w' : World) : Prop where
  look_eq : ∀ path, ¬ hidden path → w.look path = w'.look path
  getVariable_eq : ∀ name, name ≠ Settings.variableName → w.getVariable name = w'.getVariable name

section World

variable {hidden : String → Prop} {w w' : World} {path : String} {settings : Settings} {toml : Toml.Reader}

lemma World.SameBut.read_eq (h : w.SameBut hidden w') (hpath : ¬ hidden path) : w.read path = w'.read path := by
  rw [World.read, World.read, h.look_eq path hpath]

lemma World.SameBut.hasEntry_eq (h : w.SameBut hidden w') (hpath : ¬ hidden path) :
    w.hasEntry path = w'.hasEntry path := by
  rw [World.hasEntry, World.hasEntry, h.look_eq path hpath]

lemma World.SameBut.isFile_eq (h : w.SameBut hidden w') (hpath : ¬ hidden path) :
    w.isFile path = w'.isFile path := by
  rw [World.isFile, World.isFile, h.look_eq path hpath]

lemma World.SameBut.logVariable_eq (h : w.SameBut hidden w') : w.getVariable "RUST_LOG" = w'.getVariable "RUST_LOG" :=
  h.getVariable_eq _ (by decide)

lemma Schema.ofFile_congr (h : w.SameBut hidden w') (hpath : ¬ hidden path) :
    Schema.ofFile toml w path = Schema.ofFile toml w' path := by
  rw [Schema.ofFile, Schema.ofFile, h.read_eq hpath]

lemma Settings.ofFile_congr (h : w.SameBut hidden w') (hpath : ¬ hidden path) :
    Settings.ofFile toml w path = Settings.ofFile toml w' path := by
  rw [Settings.ofFile, Settings.ofFile, h.read_eq hpath]

lemma Settings.resolvedPath_congr (h : w.SameBut hidden w')
    (hpath : ∀ text, settings.path = some text → ¬ Expansion.RefersTo text Settings.variableName) :
    settings.resolvedPath w = settings.resolvedPath w' := by
  rw [Settings.resolvedPath, Settings.resolvedPath]
  cases htext : settings.path with
  | none => rfl
  | some text =>
    have hexpand : expandVariables w.getVariable text = expandVariables w'.getVariable text :=
      Expansion.expandVariables_congr fun name hname =>
        h.getVariable_eq name fun he => hpath text htext (he ▸ hname)
    simp only [hexpand]

lemma Settings.loadSchema_congr (h : w.SameBut hidden w')
    (htext : ∀ text, settings.path = some text → ¬ Expansion.RefersTo text Settings.variableName)
    (hpath : ∀ path, settings.resolvedPath w = .ok (some path) → ¬ hidden path) :
    settings.loadSchema toml w = settings.loadSchema toml w' := by
  rw [Settings.loadSchema, Settings.loadSchema, ← settings.resolvedPath_congr h htext]
  cases hresolved : settings.resolvedPath w with
  | error e => rfl
  | ok resolved =>
    cases resolved with
    | none => rfl
    | some path =>
      change (if _ then _ else _) = if _ then _ else _
      rw [h.hasEntry_eq (hpath path hresolved), Schema.ofFile_congr h (hpath path hresolved)]

end World

lemma FileTree.sameBut_world {t t' : FileTree} {places : List (List String)} (h : SameBeside places t t')
    {environment environment' : List (String × String)}
    (henv : ∀ name, name ≠ Settings.variableName → environment.lookup name = environment'.lookup name)
    (home home' : Option String) :
    (t.world environment home).SameBut (Affects places t) (t'.world environment' home') :=
  ⟨fun _ hpath => h.look_eq hpath, henv⟩

namespace CommandLine

variable {lib : Libraries}

inductive Invocation.Chooses (w : World) (i : Invocation) : String → Prop
  | argument {path} : i.config = some path → Chooses w i path
  | environment {path} : i.config = none → w.getVariable Settings.variableName = some path → Chooses w i path
  | workingDirectory : i.config = none → w.getVariable Settings.variableName = none →
      w.isFile "filterc.toml" = true → Chooses w i "filterc.toml"

def Invocation.schemaPath? (w : World) (i : Invocation) (settings : Settings) : Option String :=
  i.registry.or (settings.resolvedPath w).toOption.join

/-- No file that a run reads beyond its settings is hidden, and none is found through the variable that names the
settings file. -/
structure Invocation.Undisturbed (hidden : String → Prop) (w : World) (i : Invocation) (settings : Settings) :
    Prop where
  schema : ∀ path, i.schemaPath? w settings = some path → ¬ hidden path
  filter : ∀ path, i.command.filterPath? = some path → ¬ hidden path
  unexpanded : ∀ text, i.registry = none → settings.path = some text →
    ¬ Expansion.RefersTo text Settings.variableName

section Run

variable {hidden : String → Prop} {w w' : World} {i i' : Invocation} {settings settings' : Settings} {path : String}

lemma Invocation.Chooses.loadSettings_eq (lib : Libraries) (h : i.Chooses w path) :
    loadSettings lib w i = (Settings.ofFile lib.toml w path).mapError .settings := by
  cases h with
  | argument hconfig => rw [loadSettings, hconfig]
  | environment hconfig hvariable => simp only [loadSettings, hconfig, Settings.load, hvariable]
  | workingDirectory hconfig hvariable hfile =>
    simp only [loadSettings, hconfig, Settings.load, hvariable, Settings.searchPaths, List.find?_cons, hfile]

lemma Invocation.Chooses.of_sameBut (h : i.Chooses w path) (hworlds : w.SameBut hidden w')
    (hvariable : i.config = none → w'.getVariable Settings.variableName = w.getVariable Settings.variableName)
    (hpath : ¬ hidden path) : i.Chooses w' path := by
  cases h with
  | argument hconfig => exact .argument hconfig
  | environment hconfig hset => exact .environment hconfig ((hvariable hconfig).trans hset)
  | workingDirectory hconfig hunset hfile =>
    exact .workingDirectory hconfig ((hvariable hconfig).trans hunset) ((hworlds.isFile_eq hpath).symm.trans hfile)

lemma loadSchema_congr (h : w.SameBut hidden w') (hu : i.Undisturbed hidden w settings) :
    loadSchema lib w i settings = loadSchema lib w' i settings := by
  have hschema := hu.schema
  unfold Invocation.schemaPath? at hschema
  rw [loadSchema.eq_def, loadSchema.eq_def]
  cases hregistry : i.registry with
  | some path =>
    rw [hregistry] at hschema
    have hread : Schema.ofFile lib.toml w path = Schema.ofFile lib.toml w' path :=
      Schema.ofFile_congr h (hschema path rfl)
    simp only [hread]
  | none =>
    rw [hregistry] at hschema
    have hload : settings.loadSchema lib.toml w = settings.loadSchema lib.toml w' :=
      settings.loadSchema_congr h (fun text => hu.unexpanded text hregistry) fun path hpath =>
        hschema path (by rw [hpath]; rfl)
    simp only [hload]

lemma loadSchema_of_registry (h : i.registry.isSome) (settings settings' : Settings) :
    loadSchema lib w i settings = loadSchema lib w i settings' := by
  obtain ⟨path, hpath⟩ := Option.isSome_iff_exists.mp h
  simp only [loadSchema, hpath]

lemma Invocation.undisturbed_of_path_eq_none (hpath : settings.path = none)
    (hregistry : ∀ path, i.registry = some path → ¬ hidden path) (hfilter : i.command.filterPath? = none) :
    i.Undisturbed hidden w settings := by
  have hschema : i.schemaPath? w settings = i.registry := by
    simp [schemaPath?, Settings.resolvedPath, hpath, Except.toOption]
  constructor
  · rwa [hschema]
  · simp [hfilter]
  · simp [hpath]

lemma readFilter_congr {filter : String} (h : w.SameBut hidden w')
    (hpath : ∀ path, filePath? filter = some path → ¬ hidden path) :
    readFilter lib w filter = readFilter lib w' filter := by
  have htext : filterText w filter = filterText w' filter := by
    rw [filterText, filterText]
    cases hfile : filePath? filter with
    | none => rfl
    | some path => simp only [h.read_eq (hpath path hfile)]
  rw [readFilter, readFilter, htext]

lemma perform_congr (lib : Libraries) {c : Command} (h : w.SameBut hidden w')
    (hpath : ∀ path, c.filterPath? = some path → ¬ hidden path) (s : Schema) (strategy : Strategy) :
    perform lib w s strategy c = perform lib w' s strategy c := by
  have hfilter : ∀ filter, c.filter? = some filter → readFilter lib w filter = readFilter lib w' filter :=
    fun filter hc => readFilter_congr h fun path hfile => hpath path (by rw [Command.filterPath?, hc]; exact hfile)
  cases c with
  | entities => rfl
  | _ =>
    simp only [perform]
    rw [hfilter _ rfl]

lemma outcome_congr (hrun : i'.run lib w' = i.run lib w) (hfilter : i'.logFilter lib w' = i.logFilter lib w) :
    i'.outcome lib w' = i.outcome lib w := by
  rw [Invocation.outcome, Invocation.outcome, Invocation.logged, Invocation.logged, hrun, hfilter]

lemma outcome_congr_of_loads (hworlds : w.SameBut hidden w') (h : loadSettings lib w i = .ok settings)
    (h' : loadSettings lib w' i' = .ok settings') (hlogging : settings'.logging = settings.logging)
    (hschema : loadSchema lib w i settings = loadSchema lib w' i' settings')
    (hperform : ∀ s, perform lib w s settings.strategy i.command = perform lib w' s settings'.strategy i'.command) :
    i'.outcome lib w' = i.outcome lib w := by
  apply outcome_congr
  · simp only [Invocation.run, h, h']
    change (Traced.bind _ fun _ => Traced.bind (.of (.ok settings')) fun settings' =>
      Traced.bind (.of (loadSchema lib w' i' settings')) _) = Traced.bind _ _
    simp only [Traced.bind, Traced.of, ← hschema, ← hperform]
    rfl
  · rw [Invocation.logFilter, Invocation.logFilter, h, h', hworlds.logVariable_eq]
    exact congrArg (LogFilter.mk _) hlogging

lemma outcome_congr_of_error {f : Failure} (hworlds : w.SameBut hidden w') (h : loadSettings lib w i = .error f)
    (h' : loadSettings lib w' i' = .error f) : i'.outcome lib w' = i.outcome lib w := by
  apply outcome_congr
  · rw [Invocation.run_of_loadSettings_error h, Invocation.run_of_loadSettings_error h']
  · rw [Invocation.logFilter, Invocation.logFilter, h, h', hworlds.logVariable_eq]

lemma outcome_of_loadSettings_error {f : Failure} (h : loadSettings lib w i = .error f) : i.outcome lib w =
    ⟨f.exitCode, "", lib.log ⟨w.getVariable "RUST_LOG", "warn"⟩ .start ++ line f.message⟩ := by
  have hrun := Invocation.run_of_loadSettings_error h
  have hresult : (i.run lib w).result = .error f := by rw [hrun]
  rw [Invocation.outcome_of_error hresult, Invocation.logged, hrun, Invocation.logFilter, h]
  simp [String.join]

end Run

/-- Sources that a run does not come to have no say in how it ends, or in what it logs. Where the source of its settings
is chosen, two worlds that differ in hidden paths only let it end alike unless it uses one of these, and a chosen file
that is not good is what it fails for. What settings say of the schema makes no difference where the arguments name a
schema file, and what they say of the strategy makes none where the arguments name a strategy. In trees the paths to hide
are those that come to a place where the trees differ. -/
theorem execute_ignores_overridden_sources (lib : Libraries) :
    (∀ (places : List (List String)) (t t' : FileTree) (environment environment' : List (String × String))
      (home home' : Option String), t.SameBeside places t' →
      (∀ name, name ≠ Settings.variableName → environment.lookup name = environment'.lookup name) →
      (t.world environment home).SameBut (FileTree.Affects places t) (t'.world environment' home')) ∧
    ∀ (hidden : String → Prop) (w w' : World) (args : List String) (i : Invocation),
      w.SameBut hidden w' → lib.readArguments args = .ok i →
      (∀ path, i.Chooses w path →
        (i.config = none → w'.getVariable Settings.variableName = w.getVariable Settings.variableName) →
        ¬ hidden path → (∀ settings, loadSettings lib w i = .ok settings → i.Undisturbed hidden w settings) →
        execute lib w' args = execute lib w args ∧ ∀ e, Settings.ofFile lib.toml w path = .error e →
          execute lib w args = ⟨2, "", lib.log ⟨w.getVariable "RUST_LOG", "warn"⟩ .start ++
            line ("Configuration error: " ++ e.message)⟩) ∧
      ∀ args' config settings, lib.readArguments args' = .ok { i with config } →
        loadSettings lib w i = .ok settings → i.Undisturbed hidden w settings →
        (∀ catalog path, i.registry.isSome →
          loadSettings lib w' { i with config } = .ok { settings with catalog, path } →
          execute lib w' args' = execute lib w args) ∧
        ∀ strategy entity filter chosen, i.command = .compile entity filter (some chosen) →
          loadSettings lib w' { i with config } = .ok { settings with strategy } →
          execute lib w' args' = execute lib w args := by
  refine ⟨fun places t t' environment environment' home home' ht henv => FileTree.sameBut_world ht henv home home',
    fun hidden w w' args i hworlds hargs => ⟨fun path hchooses hvariable hpath hu => ?_,
      fun args' config settings hargs' hload hu => ⟨fun catalog path hregistry hload' => ?_,
        fun strategy entity filter chosen hcommand hload' => ?_⟩⟩⟩
  · have hfile := hchooses.loadSettings_eq lib
    have hsame : loadSettings lib w i = loadSettings lib w' i := by
      rw [hfile, (hchooses.of_sameBut hworlds hvariable hpath).loadSettings_eq lib, Settings.ofFile_congr hworlds hpath]
    rw [execute_eq hargs, execute_eq hargs]
    constructor
    · cases hload : loadSettings lib w i with
      | error f => exact outcome_congr_of_error hworlds hload (hsame ▸ hload)
      | ok settings =>
        have hu := hu settings hload
        exact outcome_congr_of_loads hworlds hload (hsame ▸ hload) rfl (loadSchema_congr hworlds hu)
          fun s => perform_congr lib hworlds hu.filter s settings.strategy
    · intro e he
      rw [outcome_of_loadSettings_error (hfile.trans (congrArg _ he))]
      rfl
  · rw [execute_eq hargs, execute_eq hargs']
    refine outcome_congr_of_loads hworlds hload hload' rfl ?_ fun s =>
      perform_congr lib hworlds hu.filter s settings.strategy
    rw [loadSchema_congr hworlds hu]
    exact loadSchema_of_registry hregistry _ _
  · rw [execute_eq hargs, execute_eq hargs']
    refine outcome_congr_of_loads hworlds hload hload' rfl (loadSchema_congr hworlds hu) fun s => ?_
    have hperform := perform_congr lib hworlds hu.filter s settings.strategy
    rw [hcommand] at hperform ⊢
    exact hperform

def tidy : FileTree where
  files := [(["work", "filterc.toml"], ""), (["work", "base.toml"], ""), (["work", "shop.toml"], "[entities.users]")]
  directories := [["work"], ["home"], ["home", "ada"], ["home", "ada", ".config"], ["home", "ada", ".config", "filterc"]]
  workingDirectory := ["work"]

def clutter : List (List String × Option String) :=
  [(["home", "ada", ".config", "filterc", "config.toml"], "="),
    (["work", "moved.toml"], "registry.path = '$NOWHERE'"),
    (["work", "stack.toml"], "compiler.algorithm = 'stack'")]

def cluttered : FileTree :=
  { tidy with files := tidy.files ++ clutter }

lemma tidy_sameBeside_cluttered : tidy.SameBeside (clutter.map Prod.fst) cluttered := by
  refine ⟨rfl, fun place hplace => ?_⟩
  have hlookup : clutter.lookup place = none := by
    rw [List.lookup_eq_none_iff]
    exact fun entry hentry => bne_iff_ne.mpr fun he => hplace (List.mem_map.mpr ⟨entry, hentry, he.symm⟩)
  rw [FileTree.entryAt, FileTree.entryAt, cluttered, List.lookup_append, hlookup, Option.or_none]

/-- The file of the working directory goes before the user's own, wherever that is and whatever is in it. An argument
goes before the environment and before what the settings say. -/
theorem clutter_ignored :
    let home := some "/home/ada/.config"
    let w := tidy.world [] home
    let w' := cluttered.world [("FILTERC_CONFIG", "lost.toml")] home
    execute .plain (cluttered.world [] home) ["entities"] = execute .plain w ["entities"] ∧
    execute .plain w' ["--config", "moved.toml", "--registry", "shop.toml", "entities"] =
      execute .plain w ["--config", "base.toml", "--registry", "shop.toml", "entities"] ∧
    execute .plain w' ["--config", "stack.toml", "compile", "users", "\x7b\x7d", "--algorithm", "graph"] =
      execute .plain w ["--config", "base.toml", "compile", "users", "\x7b\x7d", "--algorithm", "graph"] := by
  intro home w w'
  have hvariables : ∀ name, name ≠ Settings.variableName →
      List.lookup name ([] : List (String × String)) = List.lookup name [("FILTERC_CONFIG", "lost.toml")] := by
    intro name hname
    rw [Settings.variableName, ← beq_eq_false_iff_ne] at hname
    simp [List.lookup_cons, hname]
  obtain ⟨hsame, hruns⟩ := execute_ignores_overridden_sources .plain
  have hhome := hsame _ _ _ [] [] home home tidy_sameBeside_cluttered fun _ _ => rfl
  have hworlds := hsame _ _ _ _ _ home home tidy_sameBeside_cluttered hvariables
  have hfound : Settings.ofFile Toml.reader w "filterc.toml" = .ok {} := by decide +kernel
  have hbase : Settings.ofFile Toml.reader w "base.toml" = .ok {} := by decide +kernel
  have hchooses : Invocation.Chooses w ⟨none, none, .entities⟩ "filterc.toml" :=
    .workingDirectory rfl rfl (by decide +kernel)
  have hlisted : ∀ settings, loadSettings .plain w ⟨none, none, .entities⟩ = .ok settings →
      Invocation.Undisturbed (FileTree.Affects (clutter.map Prod.fst) tidy) w ⟨none, none, .entities⟩ settings := by
    intro settings hload
    rw [hchooses.loadSettings_eq .plain] at hload
    obtain rfl := Except.ok.inj ((congrArg (Except.mapError Failure.settings) hfound).symm.trans hload)
    exact Invocation.undisturbed_of_path_eq_none rfl (by simp) rfl
  have hnofile : filePath? "\x7b\x7d" = none := by decide +kernel
  have hlists := (hruns _ w (cluttered.world [] home) ["entities"] ⟨none, none, .entities⟩ hhome rfl).1
    "filterc.toml" hchooses (fun _ => rfl) (by decide +kernel) hlisted
  have hmoved := (hruns _ w w' ["--config", "base.toml", "--registry", "shop.toml", "entities"]
    ⟨some "base.toml", some "shop.toml", .entities⟩ hworlds (by decide +kernel)).2
    ["--config", "moved.toml", "--registry", "shop.toml", "entities"] (some "moved.toml") {}
    (by decide +kernel) (congrArg _ hbase)
    (Invocation.undisturbed_of_path_eq_none rfl (fun path hpath => Option.some.inj hpath ▸ by decide +kernel) rfl)
  have hstacked := (hruns _ w w' ["--config", "base.toml", "compile", "users", "\x7b\x7d", "--algorithm", "graph"]
    ⟨some "base.toml", none, .compile "users" "\x7b\x7d" (some .graph)⟩ hworlds (by decide +kernel)).2
    ["--config", "stack.toml", "compile", "users", "\x7b\x7d", "--algorithm", "graph"] (some "stack.toml") {}
    (by decide +kernel) (congrArg _ hbase)
    (Invocation.undisturbed_of_path_eq_none rfl (by simp) hnofile)
  exact ⟨hlists.1, hmoved.1 "recruiting" (some "$NOWHERE") rfl (by decide +kernel),
    hstacked.2 .stack _ _ _ rfl (by decide +kernel)⟩

end CommandLine

end EntityQuery
