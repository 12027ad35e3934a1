import AgenticRag.Core.Plan
import AgenticRag.Core.SkillCard

/-!
# The Evidence that Skills Ask For

The data skill and the retrieval skill of a request declare what evidence they
need, as mappings, and the report skill names types of evidence. All of these are
read as requirements. Of those with one id, the first is kept.

The evidence of an answer is checked against the requirements that were kept. An
item answers a requirement by an id it declares, unless its target or its table
is another. A requirement whose id starts as those of report skills do is also
answered by the type of an item's source.

How a value is written as a text is a parameter, and so is the case folding of
texts.

## Main definitions

* `SkillEvidenceRequirement`: What is asked for.
* `check`: Whether the evidence is all there.
-/

namespace AgenticRag

namespace EvidenceAdapter

open Py Ordered Plan Skills Structured

section Requirements

/-- Evidence that a skill needs. -/
structure SkillEvidenceRequirement where
  evidenceId : String
  evidenceType : String
  sourceTargetId : Option String := none
  tableName : Option String := none
  required : Bool := false
  minDocs : Int := 0
  requiredForSections : List String := []
  deriving DecidableEq

/-- A field that has to be there. -/
def presentField {α : Type} (d : Dict) (key : String) (field : Val → Except Exc α) :
    Except Exc α :=
  match d.lookup key with
  | none => .error .valueError
  | some v => field v

variable (lax : Lax)

/-- A requirement, read from a dictionary. -/
def modelValidate (raw : Dict) : Except Exc SkillEvidenceRequirement := do
  return {
    evidenceId := ← presentField raw "evidence_id" strField
    evidenceType := ← presentField raw "evidence_type" strField
    sourceTargetId := ← argField raw "source_target_id" none optionalText
    tableName := ← argField raw "table_name" none optionalText
    required := ← argField raw "required" false (boolField lax)
    minDocs := ← argField raw "min_docs" 0 (intField lax)
    requiredForSections := ← argField raw "required_for_sections" [] strsField }

/-- What a type of evidence that the report skill names stands for. -/
def reportRequirement (evidenceType : String) : Dict :=
  [("evidence_id", .str s!"report_{evidenceType}_evidence"), ("evidence_type", .str evidenceType),
    ("required", .bool true), ("required_for_sections", .list [])]

/-- The requirements as they are written. -/
def rawRequirements (skillSet : ResolvedSkillSet) : List Dict :=
  skillSet.dataSkill.elim [] (·.evidenceRequirements) ++
    (skillSet.retrievalSkill.elim [] (·.evidenceRequirements) ++
      skillSet.reportSkill.requiredEvidenceTypes.map reportRequirement)

/-- Every requirement that one of the skills declares. -/
def declaredRequirements (skillSet : ResolvedSkillSet) :
    Except Exc (List SkillEvidenceRequirement) :=
  (rawRequirements skillSet).mapM (modelValidate lax)

/-- `requirements.setdefault(requirement.evidence_id, requirement)`. -/
def keepFirst (requirements : List (String × SkillEvidenceRequirement))
    (requirement : SkillEvidenceRequirement) : List (String × SkillEvidenceRequirement) :=
  match requirements.lookup requirement.evidenceId with
  | some _ => requirements
  | none => requirements ++ [(requirement.evidenceId, requirement)]

/-- The first of each id. -/
def firstOfEach (declared : List SkillEvidenceRequirement) : List SkillEvidenceRequirement :=
  (declared.foldl keepFirst []).map Prod.snd

/-- The requirements of a set of skills. -/
def collectRequirements (skillSet : ResolvedSkillSet) :
    Except Exc (List SkillEvidenceRequirement) := do
  return firstOfEach (← declaredRequirements lax skillSet)

end Requirements

section Matching

variable (u : Unicode) (casefold : String → String)

/-- `_evidence_ids`. -/
def evidenceIds (item : Dict) : List String :=
  match pyGet item "evidence_ids" .none with
  | .list identifiers => identifiers.map (Val.toStr u)
  | _ =>
      let identifier := pyGet item "evidence_id" .none
      if identifier.truthy then [identifier.toStr u] else []

/-- What a requirement names, if anything, is not another than what an item has,
    if anything. -/
def agrees (wanted : Option String) (found : Val) : Bool :=
  match wanted with
  | none => true
  | some name => name == "" || !found.truthy || pyEq found (.str name)

/-- `_matches_metadata`. -/
def matchesMetadata (requirement : SkillEvidenceRequirement) (item : Dict) : Bool :=
  agrees requirement.sourceTargetId (pyGet item "source_target_id" .none) &&
    agrees requirement.tableName (pyGet item "table_name" .none)

/-- The names of one type of evidence. -/
def aliases : List (String × List String) :=
  [("db", ["db", "db_rows"]), ("db_rows", ["db", "db_rows"]), ("rag", ["rag", "rag_docs"]),
    ("rag_docs", ["rag", "rag_docs"]), ("graph", ["graph", "graph_rows"]),
    ("graph_rows", ["graph", "graph_rows", "graph_result"])]

/-- `_source_type_matches`. -/
def sourceTypeMatches (evidenceType : String) (sourceType : Val) : Bool :=
  let normalized := casefold ((pyOr sourceType (.str "")).toStr u)
  let expected := casefold evidenceType
  ((aliases.lookup expected).getD [expected]).contains normalized

/-- `_matches_requirement`. -/
def matchesRequirement (requirement : SkillEvidenceRequirement) (item : Dict) : Bool :=
  if (evidenceIds u item).contains requirement.evidenceId then matchesMetadata requirement item
  else
    startsWith requirement.evidenceId "report_" &&
      sourceTypeMatches u casefold requirement.evidenceType (pyGet item "source_type" .none)

end Matching

section Checking

/-- Whether there is enough to answer. -/
structure SkillEvidenceCheckResult where
  answerable : Bool
  publishMode : String
  missingRequiredEvidence : List String := []
  sectionCoverage : List (String × Bool) := []
  reason : String

variable (u : Unicode) (casefold : String → String)

/-- Which requirements some item answers, by their ids. -/
def matchingRequirements (requirements : List SkillEvidenceRequirement) (evidence : List Dict) :
    List (String × Bool) :=
  dictOf (requirements.map (fun requirement =>
    (requirement.evidenceId, evidence.any (matchesRequirement u casefold requirement))))

/-- A requirement is one of those that are answered. -/
def isMatched (matching : List (String × Bool)) (requirement : SkillEvidenceRequirement) : Bool :=
  (matching.lookup requirement.evidenceId).getD false

/-- What the core sections need is there. The order of the sections is that of the
    requirements that name them. -/
def coverageOf (requirements : List SkillEvidenceRequirement) (matching : List (String × Bool)) :
    List (String × Bool) :=
  dictOf ((requirements.flatMap (·.requiredForSections)).map (fun name =>
    (name, (requirements.filter (fun requirement =>
      requirement.required && requirement.requiredForSections.contains name)).all
        (isMatched matching))))

/-- Looks each requirement up in the evidence. -/
def check (requirements : List SkillEvidenceRequirement) (evidence : List Dict) :
    SkillEvidenceCheckResult :=
  let matching := matchingRequirements u casefold requirements evidence
  let missing := (requirements.filter (fun requirement =>
    requirement.required && !isMatched matching requirement)).map (·.evidenceId)
  let coverage := coverageOf requirements matching
  if missing ≠ [] then
    { answerable := false
      publishMode := "summary_only"
      missingRequiredEvidence := missing
      sectionCoverage := coverage
      reason := "缺少必需 Evidence: " ++ join ", " missing }
  else
    { answerable := true
      publishMode := "full"
      sectionCoverage := coverage
      reason := "Skill 声明的必需 Evidence 已满足" }

end Checking

end EvidenceAdapter

end AgenticRag
