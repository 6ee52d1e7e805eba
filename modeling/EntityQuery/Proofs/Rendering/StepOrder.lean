import EntityQuery.Statement.Select
import EntityQuery.Statement.Update
import Mathlib.Tactic.Common

/-! The order in which a statement is built up. Each of its clauses is what the steps for that clause make of it:
those that add up are kept in their order, and of those that replace one another the last one counts. Steps for
other clauses in between do not matter. -/

namespace EntityQuery

lemma getLast?_cons_or {α : Type} (a : α) (as : List α) (before : Option α) :
    (a :: as).getLast?.or before = as.getLast?.or (some a) := by
  rw [List.getLast?_cons]
  cases as.getLast? <;> rfl

namespace Select

namespace Step

def columnNames : Step → List String
  | columns names => names
  | _ => []

def join? : Step → Option Join
  | join j => some j
  | _ => none

def filter? : Step → Option WhereClause
  | filter clause => some clause
  | _ => none

def groupBy? : Step → Option ColumnRef
  | groupBy column => some column
  | _ => none

def orderBy? : Step → Option SortKey
  | orderBy key => some key
  | _ => none

def limit? : Step → Option Nat
  | limit n => some n
  | _ => none

def offset? : Step → Option Nat
  | offset n => some n
  | _ => none

end Step

def ofClauses (table : String) (steps : List Step) : Select where
  table
  columns := steps.flatMap Step.columnNames
  joins := steps.filterMap Step.join?
  filter := (steps.filterMap Step.filter?).getLast?
  grouping := steps.filterMap Step.groupBy?
  ordering := steps.filterMap Step.orderBy?
  limit := (steps.filterMap Step.limit?).getLast?
  offset := (steps.filterMap Step.offset?).getLast?

structure SameClauses (steps steps' : List Step) : Prop where
  columns : steps.flatMap Step.columnNames = steps'.flatMap Step.columnNames
  joins : steps.filterMap Step.join? = steps'.filterMap Step.join?
  filter : (steps.filterMap Step.filter?).getLast? = (steps'.filterMap Step.filter?).getLast?
  grouping : steps.filterMap Step.groupBy? = steps'.filterMap Step.groupBy?
  ordering : steps.filterMap Step.orderBy? = steps'.filterMap Step.orderBy?
  limit : (steps.filterMap Step.limit?).getLast? = (steps'.filterMap Step.limit?).getLast?
  offset : (steps.filterMap Step.offset?).getLast? = (steps'.filterMap Step.offset?).getLast?

lemma foldl_step (steps : List Step) (sel : Select) : steps.foldl step sel =
    { table := sel.table
      columns := sel.columns ++ steps.flatMap Step.columnNames
      joins := sel.joins ++ steps.filterMap Step.join?
      filter := (steps.filterMap Step.filter?).getLast?.or sel.filter
      grouping := sel.grouping ++ steps.filterMap Step.groupBy?
      ordering := sel.ordering ++ steps.filterMap Step.orderBy?
      limit := (steps.filterMap Step.limit?).getLast?.or sel.limit
      offset := (steps.filterMap Step.offset?).getLast?.or sel.offset } := by
  induction steps generalizing sel with
  | nil => simp
  | cons st rest ih =>
    rw [List.foldl_cons, ih]
    cases st <;> simp only [step, List.flatMap_cons, List.filterMap_cons, Step.columnNames, Step.join?, Step.filter?,
      Step.groupBy?, Step.orderBy?, Step.limit?, Step.offset?, getLast?_cons_or, List.append_assoc,
      List.nil_append, List.singleton_append]

lemma foldl_step_eq_ofClauses (table : String) (steps : List Step) :
    steps.foldl step { table } = ofClauses table steps := by
  rw [foldl_step]
  simp only [ofClauses, List.nil_append, Option.or_none]

lemma SameClauses.ofClauses_eq {steps steps' : List Step} (h : SameClauses steps steps') (table : String) :
    ofClauses table steps = ofClauses table steps' := by
  simp only [ofClauses, h.columns, h.joins, h.filter, h.grouping, h.ordering, h.limit, h.offset]

end Select

namespace Update

namespace Step

def set? : Step → Option Assignment
  | set a => some a
  | _ => none

def join? : Step → Option Join
  | join j => some j
  | _ => none

def filter? : Step → Option WhereClause
  | filter clause => some clause
  | _ => none

end Step

def ofClauses (table : String) (steps : List Step) : Update where
  table
  assignments := steps.filterMap Step.set?
  joins := steps.filterMap Step.join?
  filter := (steps.filterMap Step.filter?).getLast?

structure SameClauses (steps steps' : List Step) : Prop where
  assignments : steps.filterMap Step.set? = steps'.filterMap Step.set?
  joins : steps.filterMap Step.join? = steps'.filterMap Step.join?
  filter : (steps.filterMap Step.filter?).getLast? = (steps'.filterMap Step.filter?).getLast?

lemma foldl_step (steps : List Step) (u : Update) : steps.foldl step u =
    { table := u.table
      assignments := u.assignments ++ steps.filterMap Step.set?
      joins := u.joins ++ steps.filterMap Step.join?
      filter := (steps.filterMap Step.filter?).getLast?.or u.filter } := by
  induction steps generalizing u with
  | nil => simp
  | cons st rest ih =>
    rw [List.foldl_cons, ih]
    cases st <;> simp only [step, List.filterMap_cons, Step.set?, Step.join?, Step.filter?, getLast?_cons_or,
      List.append_assoc, List.singleton_append]

lemma foldl_step_eq_ofClauses (table : String) (steps : List Step) :
    steps.foldl step { table } = ofClauses table steps := by
  rw [foldl_step]
  simp only [ofClauses, List.nil_append, Option.or_none]

lemma SameClauses.ofClauses_eq {steps steps' : List Step} (h : SameClauses steps steps') (table : String) :
    ofClauses table steps = ofClauses table steps' := by
  simp only [ofClauses, h.assignments, h.joins, h.filter]

end Update

/-- A statement that is built up step by step has in each clause what the steps for that clause put there. So steps
that agree on each clause build the same, its text, its values or its error, in whatever order they come. -/
theorem build_ignores_step_order (table : String) :
    (∀ steps, steps.foldl Select.step { table } = Select.ofClauses table steps) ∧
    (∀ steps steps', Select.SameClauses steps steps' →
      (steps.foldl Select.step { table }).build = (steps'.foldl Select.step { table }).build) ∧
    (∀ steps, steps.foldl Update.step { table } = Update.ofClauses table steps) ∧
    ∀ steps steps', Update.SameClauses steps steps' →
      (steps.foldl Update.step { table }).build = (steps'.foldl Update.step { table }).build := by
  refine ⟨Select.foldl_step_eq_ofClauses table, fun steps steps' h => ?_, Update.foldl_step_eq_ofClauses table,
    fun steps steps' h => ?_⟩
  · rw [Select.foldl_step_eq_ofClauses, Select.foldl_step_eq_ofClauses, h.ofClauses_eq]
  · rw [Update.foldl_step_eq_ofClauses, Update.foldl_step_eq_ofClauses, h.ofClauses_eq]

def adults : WhereClause :=
  .ofConditions [⟨"users", "age", .ge, some (.scalar (.integer 18))⟩]

def homeAddress : Join :=
  ⟨.inner, "users", "address", [("address_id", "id")]⟩

theorem adults_in_any_order :
    ([.limit 9, .columns ["email"], .filter (.ofConditions []), .limit 5, .filter adults, .join homeAddress,
        .columns ["city"]].foldl Select.step { table := "users" }).build =
      ([.join homeAddress, .filter adults, .columns ["email", "city"], .limit 5].foldl Select.step
        { table := "users" }).build ∧
    ([.join homeAddress, .filter adults, .columns ["email", "city"], .limit 5].foldl Select.step
        { table := "users" }).build =
      .ok ⟨"select email, city from users join address on users.address_id = address.id " ++
        "where users.age >= $1 limit 5", [.integer 18]⟩ ∧
    ([.filter adults, .set ⟨"adult", .boolean true⟩, .join homeAddress].foldl Update.step
        { table := "users" }).build =
      ([.join homeAddress, .set ⟨"adult", .boolean true⟩, .filter adults].foldl Update.step
        { table := "users" }).build := by
  obtain ⟨-, hselect, -, hupdate⟩ := build_ignores_step_order "users"
  exact ⟨hselect _ _ ⟨rfl, rfl, rfl, rfl, rfl, rfl, rfl⟩, by decide +kernel, hupdate _ _ ⟨rfl, rfl, rfl⟩⟩

end EntityQuery
