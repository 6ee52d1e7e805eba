import EntityQuery.Schema.Build

/-!
The schemas that come with the library: recruiting, with its applicants, jobs, screening conversations
and requirements.
-/

namespace EntityQuery.Catalog

def names : List String := ["recruiting"]

def recruitingDefs : List (String × EntityDef) := [
  ("address",
    { table := "address"
      fields := [
        ("id", .kind .string), ("address", .kind .string), ("city", .kind .string),
        ("aptNumber", .kind .string), ("state", .kind .string), ("zipCode", .kind .string),
        ("createdAt", .kind .date), ("updatedAt", .kind .date)]
      references := [] }),
  ("user",
    { table := "users"
      fields := [
        ("id", .kind .string), ("firstName", .kind .string), ("lastName", .kind .string),
        ("email", .kind .string), ("passwordHash", .detailed .string none true),
        ("lastLoggedIn", .kind .date), ("createdAt", .kind .date), ("updatedAt", .kind .date)]
      references := ["address"] }),
  ("job",
    { table := "job"
      fields := [
        ("id", .kind .string), ("name", .kind .string), ("description", .kind .string),
        ("paymentType", .kind .string), ("hourlyPay", .kind .number), ("milesPay", .kind .number),
        ("salaryPay", .kind .number), ("isActive", .kind .boolean), ("createdAt", .kind .date),
        ("updatedAt", .kind .date)]
      references := ["address"] }),
  ("application",
    { table := "application"
      fields := [
        ("id", .kind .string), ("userId", .kind .string), ("jobId", .kind .string),
        ("status", .kind .string), ("appliedOn", .kind .date), ("createdAt", .kind .date),
        ("updatedAt", .kind .date)]
      references := ["user", "job"] }),
  ("conversation",
    { table := "conversation"
      fields := [
        ("id", .kind .string), ("appId", .detailed .string (some "app_id") false),
        ("screeningDecision", .kind .string), ("screeningSummary", .kind .string),
        ("isActive", .kind .boolean), ("endedAt", .kind .date), ("createdAt", .kind .date),
        ("updatedAt", .kind .date)]
      references := ["application"] }),
  ("jobRequirementType",
    { table := "job_requirement_type"
      fields := [
        ("id", .kind .number), ("requirementType", .kind .string),
        ("requirementDescription", .kind .string), ("createdAt", .kind .date),
        ("updatedAt", .kind .date)]
      references := [] }),
  ("jobRequirements",
    { table := "job_requirements"
      fields := [
        ("id", .kind .string), ("priority", .kind .number), ("createdAt", .kind .date),
        ("updatedAt", .kind .date)]
      references := ["job", "jobRequirementType"] }),
  ("conversationRequirements",
    { table := "conversation_requirements"
      fields := [
        ("id", .kind .string), ("conversationId", .kind .string), ("requirementId", .kind .string),
        ("messageId", .kind .string), ("status", .kind .string), ("lastUpdated", .kind .date),
        ("createdAt", .kind .date)]
      references := ["conversation", "jobRequirements"] }),
  ("jobFactsType",
    { table := "job_facts_type"
      fields := [
        ("id", .kind .number), ("factType", .kind .string), ("factDescription", .kind .string),
        ("createdAt", .kind .date), ("updatedAt", .kind .date)]
      references := [] }),
  ("jobFacts",
    { table := "job_facts"
      fields := [
        ("id", .kind .string), ("jobId", .kind .string), ("factTypeId", .kind .number),
        ("content", .kind .string), ("createdAt", .kind .date), ("updatedAt", .kind .date)]
      references := ["job", "jobFactsType"] }),
  ("llmEvaluationAudit",
    { table := "llm_evaluation_audit"
      fields := [
        ("id", .kind .string), ("conversationRequirementId", .kind .string),
        ("requirementType", .kind .string), ("llmAssessmentResult", .kind .string),
        ("actualResult", .kind .string), ("confidence", .kind .number),
        ("discrepancy", .kind .boolean), ("modelName", .kind .string), ("createdAt", .kind .date),
        ("updatedAt", .kind .date)]
      references := ["conversationRequirements"] })]

def recruiting : Except SchemaError Schema :=
  Schema.build recruitingDefs

def find (name : String) : Except SchemaError Schema :=
  if name = "recruiting" then recruiting else .error (.unknownCatalog name)

end EntityQuery.Catalog
