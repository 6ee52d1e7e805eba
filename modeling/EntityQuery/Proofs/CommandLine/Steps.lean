import EntityQuery.CommandLine.Run
import EntityQuery.Proofs.Lowering.Failure
import EntityQuery.Proofs.Rendering.Verdict

/-! What a command does with its filter: what it is refused for, and which steps it takes. A SELECT is refused for what
compiling is refused for, unless a check is asked for, and takes one step more where it is not refused. -/

namespace EntityQuery

open Outcome (verdict)

namespace Schema

variable {s : Schema} {strategy : Strategy} {entity : String} {raw : Json} {columns : List String}

lemma verdict_selectFor (s : Schema) (strategy : Strategy) (entity : String) (raw : Json) (columns : List String) :
    verdict (s.selectFor strategy entity raw columns) = verdict (s.compile strategy entity raw) := by
  cases hentity : s.isRegistered entity with
  | true =>
    obtain ⟨e, he⟩ := isRegistered_iff.mp hentity
    rw [selectFor, he]
    exact Outcome.verdict_bind_ok _ _
  | false =>
    rw [selectFor, entity_of_not_isRegistered hentity, compile_of_not_isRegistered hentity]
    rfl

lemma selectFor_eq_error_iff {e : FilterError} :
    s.selectFor strategy entity raw columns = .error e ↔ s.compile strategy entity raw = .error e :=
  Outcome.eq_error_iff_of_verdict_eq (s.verdict_selectFor strategy entity raw columns)

lemma exists_build_of_selectFor {sel : Select} (h : s.selectFor strategy entity raw columns = .ok sel)
    (limit offset : Option Nat) : ∃ query, Select.build { sel with limit, offset } = .ok query := by
  obtain ⟨e, -, h⟩ := Outcome.bind_eq_ok_iff.mp h
  obtain ⟨conditions, hconditions, h⟩ := Outcome.bind_eq_ok_iff.mp h
  obtain rfl := Except.ok.inj h
  exact Select.exists_build rfl (s.validate_of_compile hconditions)

end Schema

namespace CommandLine

section Traced

variable {ε α β : Type}

@[simp]
lemma Traced.result_of (x : Except ε α) : (Traced.of x).result = x := rfl

@[simp]
lemma Traced.result_record (steps : List LogStep) : (Traced.record steps : Traced ε Unit).result = .ok () := rfl

@[simp]
lemma Traced.result_pure (a : α) : (pure a : Traced ε α).result = .ok a := rfl

@[simp]
lemma Traced.result_bind (x : Traced ε α) (f : α → Traced ε β) :
    (x >>= f).result = x.result >>= fun a => (f a).result := by
  change (Traced.bind x f).result = _
  rw [Traced.bind]
  cases x.result <;> rfl

lemma Traced.steps_bind_of_ok {x : Traced ε α} {a : α} (h : x.result = .ok a) (f : α → Traced ε β) :
    (x >>= f).steps = x.steps ++ (f a).steps := by
  change (Traced.bind x f).steps = _
  rw [Traced.bind, h]

lemma Traced.steps_bind_of_error {x : Traced ε α} {err : ε} (h : x.result = .error err) (f : α → Traced ε β) :
    (x >>= f).steps = x.steps := by
  change (Traced.bind x f).steps = _
  rw [Traced.bind, h]

lemma Traced.steps_of_bind_pure (x : Except ε α) (g : α → β) : (Traced.of x >>= fun a => pure (g a)).steps = [] := by
  cases x <;> rfl

end Traced

variable {lib : Libraries}

inductive Command.Refuses (lib : Libraries) (s : Schema) (strategy : Strategy) (raw : Json) :
    Command → Failure → Prop
  | compile {entity filter chosen e} : s.compile (chosen.getD strategy) entity raw = .error e →
      Refuses lib s strategy raw (.compile entity filter chosen) (.compilation e)
  | select {entity filter columns limit offset check e} : s.compile strategy entity raw = .error e →
      Refuses lib s strategy raw (.select entity filter columns limit offset check) (.compilation e)
  | check {entity filter columns limit offset sel query reason} :
      s.selectFor strategy entity raw columns = .ok sel → Select.build { sel with limit, offset } = .ok query →
      lib.checkSql query.text = .error reason →
      Refuses lib s strategy raw (.select entity filter columns limit offset true) (.invalidSql reason query.text)
  | chains {entity filter e} : s.readFilter entity raw = .error e →
      Refuses lib s strategy raw (.chains entity filter) (.compilation e)

section Filter

variable {w : World} {s : Schema} {strategy : Strategy} {raw : Json} {c : Command} {f : Failure} {arg : String}

lemma filterText_eq_error_iff : filterText w arg = .error f ↔
    ∃ path fault, filePath? arg = some path ∧ w.read path = .error fault ∧ f = .filterFile path fault := by
  rw [filterText]
  cases filePath? arg with
  | none => simp
  | some path => cases h : w.read path <;> simp [Except.mapError, h, eq_comm]

lemma readFilter_eq_error_iff : readFilter lib w arg = .error f ↔ filterText w arg = .error f ∨
    ∃ text reason, filterText w arg = .ok text ∧ lib.readJson text = .error reason ∧ f = .filterSyntax reason := by
  rw [readFilter, Outcome.bind_eq_error_iff]
  simp only [Outcome.mapError_eq_error_iff, exists_and_left]

lemma Command.Refuses.exitCode (h : c.Refuses lib s strategy raw f) : f.exitCode = 1 := by
  cases h <;> rfl

lemma refuses_compile_iff {entity filter : String} {chosen : Option Strategy} :
    (Command.compile entity filter chosen).Refuses lib s strategy raw f ↔
      ∃ e, s.compile (chosen.getD strategy) entity raw = .error e ∧ f = .compilation e := by
  constructor
  · intro h
    cases h with
    | compile he => exact ⟨_, he, rfl⟩
  · rintro ⟨e, he, rfl⟩
    exact .compile he

lemma refuses_chains_iff {entity filter : String} : (Command.chains entity filter).Refuses lib s strategy raw f ↔
    ∃ e, s.referenceChains entity raw = .error e ∧ f = .compilation e := by
  have hchains : ∀ {e}, s.referenceChains entity raw = .error e ↔ s.readFilter entity raw = .error e :=
    Outcome.eq_error_iff_of_verdict_eq (Outcome.verdict_bind_ok _ _)
  constructor
  · intro h
    cases h with
    | chains he => exact ⟨_, hchains.mpr he, rfl⟩
  · rintro ⟨e, he, rfl⟩
    exact .chains (hchains.mp he)

lemma result_checkQuery_eq_error_iff {check : Bool} {query : Query} : (checkQuery lib check query).result = .error f ↔
    check = true ∧ ∃ reason, lib.checkSql query.text = .error reason ∧ f = .invalidSql reason query.text := by
  cases check with
  | false => simp [checkQuery]
  | true => simp [checkQuery, Outcome.mapError_eq_error_iff]

lemma refuses_select_iff {entity filter : String} {columns : List String} {limit offset : Option Nat}
    {check : Bool} : (Command.select entity filter columns limit offset check).Refuses lib s strategy raw f ↔
      (∃ e, s.selectFor strategy entity raw columns = .error e ∧ f = .compilation e) ∨
      ∃ sel, s.selectFor strategy entity raw columns = .ok sel ∧
        ∃ query, Select.build { sel with limit, offset } = .ok query ∧
          (checkQuery lib check query).result = .error f := by
  simp only [result_checkQuery_eq_error_iff]
  constructor
  · intro h
    cases h with
    | select he => exact Or.inl ⟨_, Schema.selectFor_eq_error_iff.mpr he, rfl⟩
    | check hsel hquery hcheck => exact Or.inr ⟨_, hsel, _, hquery, rfl, _, hcheck, rfl⟩
  · rintro (⟨e, he, rfl⟩ | ⟨sel, hsel, query, hquery, rfl, reason, hcheck, rfl⟩)
    · exact .select (Schema.selectFor_eq_error_iff.mp he)
    · exact .check hsel hquery hcheck

lemma checked_eq_error_iff {entity : String} {columns : List String} {sel : Select} (limit offset : Option Nat)
    (check : Bool) (h : s.selectFor strategy entity raw columns = .ok sel) :
    ((Select.build { sel with limit, offset }).mapError .compilation >>= fun query =>
      (checkQuery lib check query).result >>= fun _ => Except.ok (jsonLine query.toJson)) = .error f ↔
    ∃ query, Select.build { sel with limit, offset } = .ok query ∧ (checkQuery lib check query).result = .error f := by
  obtain ⟨query, hquery⟩ := Schema.exists_build_of_selectFor h limit offset
  simp only [hquery, Except.ok.injEq, exists_eq_left']
  change ((checkQuery lib check query).result >>= fun _ => Except.ok (jsonLine query.toJson)) = .error f ↔ _
  rw [Outcome.bind_ok_eq_map, Outcome.map_eq_error_iff]

lemma perform_eq_error_iff : (perform lib w s strategy c).result = .error f ↔ ∃ filter, c.filter? = some filter ∧
    (readFilter lib w filter = .error f ∨
      ∃ raw, readFilter lib w filter = .ok raw ∧ c.Refuses lib s strategy raw f) := by
  cases c with
  | entities => simp [perform, Command.filter?]
  | compile entity filter chosen =>
    simp only [perform, Command.filter?, Option.some.injEq, exists_eq_left', refuses_compile_iff,
      Traced.result_bind, Traced.result_of, Traced.result_record, Traced.result_pure, Outcome.ok_bind,
      Outcome.bind_eq_error_iff (x := readFilter lib w filter), Outcome.mapError_bind_ok_eq_error_iff]
  | chains entity filter =>
    simp only [perform, Command.filter?, Option.some.injEq, exists_eq_left', refuses_chains_iff,
      Traced.result_bind, Traced.result_of, Traced.result_record, Traced.result_pure, Outcome.ok_bind,
      Outcome.bind_eq_error_iff (x := readFilter lib w filter), Outcome.mapError_bind_ok_eq_error_iff]
  | select entity filter columns limit offset check =>
    simp only [perform, Command.filter?, Option.some.injEq, exists_eq_left', refuses_select_iff,
      Traced.result_bind, Traced.result_of, Traced.result_record, Traced.result_pure, Outcome.ok_bind,
      Outcome.bind_eq_error_iff (x := readFilter lib w filter)]
    refine or_congr_right (exists_congr fun raw => and_congr_right fun _ => ?_)
    rw [Outcome.bind_eq_error_iff, Outcome.mapError_eq_error_iff]
    refine or_congr_right (exists_congr fun sel => ?_)
    rw [Outcome.mapError_eq_ok_iff]
    exact and_congr_right fun hsel => checked_eq_error_iff limit offset check hsel

lemma perform_select_eq_error_iff (entity filter : String) (columns : List String) (limit offset : Option Nat) :
    (perform lib w s strategy (.select entity filter columns limit offset false)).result = .error f ↔
      (perform lib w s strategy (.compile entity filter none)).result = .error f := by
  rw [perform_eq_error_iff, perform_eq_error_iff]
  simp only [Command.filter?, refuses_select_iff, refuses_compile_iff, Schema.selectFor_eq_error_iff,
    Option.getD_none, result_checkQuery_eq_error_iff, Bool.false_eq_true, false_and, and_false, exists_false, or_false]

section Steps

variable {entity filter : String} {columns : List String} {limit offset : Option Nat} {sel : Select}

lemma steps_perform_compile (hread : readFilter lib w filter = .ok raw) :
    (perform lib w s strategy (.compile entity filter none)).steps =
      treeSteps s entity raw (.lowering s strategy) := by
  rw [perform, hread, Traced.steps_bind_of_ok rfl, Traced.steps_bind_of_ok rfl, Traced.steps_of_bind_pure]
  exact List.append_nil _

lemma steps_perform_select_of_error {e : FilterError} (hread : readFilter lib w filter = .ok raw)
    (h : s.selectFor strategy entity raw columns = .error e) :
    (perform lib w s strategy (.select entity filter columns limit offset false)).steps =
      treeSteps s entity raw (.lowering s strategy) := by
  rw [perform, hread, Traced.steps_bind_of_ok rfl, Traced.steps_bind_of_ok rfl, h, Traced.steps_bind_of_error rfl]
  exact List.append_nil _

lemma steps_perform_select_of_ok (hread : readFilter lib w filter = .ok raw)
    (h : s.selectFor strategy entity raw columns = .ok sel) :
    (perform lib w s strategy (.select entity filter columns limit offset false)).steps =
      treeSteps s entity raw (.lowering s strategy) ++ [.assembly { sel with limit, offset }] := by
  obtain ⟨query, hquery⟩ := Schema.exists_build_of_selectFor h limit offset
  rw [perform, hread, Traced.steps_bind_of_ok rfl, Traced.steps_bind_of_ok rfl, h, Traced.steps_bind_of_ok rfl]
  dsimp only
  rw [Traced.steps_bind_of_ok rfl, hquery, Traced.steps_bind_of_ok rfl]
  rfl

end Steps

lemma steps_perform_select (entity filter : String) (columns : List String) (limit offset : Option Nat) :
    let select := perform lib w s strategy (.select entity filter columns limit offset false)
    let compile := perform lib w s strategy (.compile entity filter none)
    (∀ f, compile.result = .error f → select.steps = compile.steps) ∧
    ∀ text, compile.result = .ok text → ∃ raw sel, readFilter lib w filter = .ok raw ∧
      s.selectFor strategy entity raw columns = .ok sel ∧
      select.steps = compile.steps ++ [.assembly { sel with limit, offset }] := by
  intro select compile
  cases hread : readFilter lib w filter with
  | error e =>
    have hcompile : compile = ⟨[], .error e⟩ := by
      simp only [compile, perform, hread]
      rfl
    have hselect : select = ⟨[], .error e⟩ := by
      simp only [select, perform, hread]
      rfl
    rw [hcompile, hselect]
    exact ⟨fun _ _ => rfl, nofun⟩
  | ok raw =>
    have hresult : compile.result = ((s.compile strategy entity raw).mapError .compilation).map fun conditions =>
        jsonLine (.array (conditions.map Condition.toJson)) := by
      simp only [compile, perform, hread, Traced.result_bind, Traced.result_of, Traced.result_record,
        Traced.result_pure, Outcome.ok_bind, Outcome.bind_ok_eq_map, Option.getD_none]
    constructor
    · intro f hf
      rw [hresult, Outcome.map_eq_error_iff, Outcome.mapError_eq_error_iff] at hf
      obtain ⟨e, he, -⟩ := hf
      exact (steps_perform_select_of_error hread (Schema.selectFor_eq_error_iff.mpr he)).trans
        (steps_perform_compile hread).symm
    · intro text htext
      cases hsel : s.selectFor strategy entity raw columns with
      | error e =>
        rw [hresult, Schema.selectFor_eq_error_iff.mp hsel] at htext
        cases htext
      | ok sel =>
        refine ⟨raw, sel, rfl, hsel, ?_⟩
        rw [steps_perform_select_of_ok hread hsel, steps_perform_compile hread]

end Filter

end CommandLine

end EntityQuery
