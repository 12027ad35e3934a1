import Mathlib.Data.List.MinMax
import Mathlib.Data.Prod.Lex
import AgenticRag.Core.SkillCard

/-!
# Versions and Candidates

A skill that depends on another says which versions of it will do. A constraint
is a list of comparisons, or a version with a caret or a tilde in front of it,
which stands for two comparisons. The highest version that is available and meets
the constraint is taken.

Comparisons are understood by a package, where it is installed. It is a parameter:
what it makes of a text as a version and as a list of comparisons, and the order
of its versions. Where it is not, the first three numbers of a version are
compared. Numbers are of decimal digits, and of any size.

Where there are several skills to depend on, one is selected in five steps. A
constraint narrows them down first.

## Main definitions

* `Semver`, `parseSemver`: The numbers of a version.
* `select`: The candidate that is selected.
-/

namespace AgenticRag

namespace Versions

open Py Ordered Skills

section Numbers

/-- The numbers of a version, compared one after the other. -/
structure Semver where
  major : Nat
  minor : Nat
  patch : Nat
  deriving DecidableEq, Repr

/-- How versions are compared. -/
def Semver.toTuple (v : Semver) : ℕ ×ₗ (ℕ ×ₗ ℕ) := toLex (v.major, toLex (v.minor, v.patch))

theorem Semver.toTuple_injective : Function.Injective Semver.toTuple := by
  intro v w h
  have hmajor : v.major = w.major := congrArg (fun t => (ofLex t).1) h
  have hminor : v.minor = w.minor := congrArg (fun t => (ofLex (ofLex t).2).1) h
  have hpatch : v.patch = w.patch := congrArg (fun t => (ofLex (ofLex t).2).2) h
  cases v
  cases w
  simp_all

instance : LinearOrder Semver := LinearOrder.lift' Semver.toTuple Semver.toTuple_injective

/-- The number at the front of a part, or zero. -/
def leadingNumber (part : String) : Nat := intOfDigits (part.toList.takeWhile isDecimal)

/-- Some numbers, filled up with zeros. -/
def semverOf (nums : List Nat) : Semver :=
  ⟨nums.getD 0 0, nums.getD 1 0, nums.getD 2 0⟩

/-- Reads a version. -/
def parseSemver (version : String) : Semver :=
  semverOf (((split (strip version) ".").take 3).map leadingNumber)

/-- The two comparisons that hold a version between two others. -/
def rangeText (lower upper : Semver) : String :=
  s!">={lower.major}.{lower.minor}.{lower.patch},<{upper.major}.{upper.minor}.{upper.patch}"

/-- A caret as a range. -/
def caretToPep440 (ver : String) : String :=
  let v := parseSemver ver
  let upper : Semver :=
    if 0 < v.major then ⟨v.major + 1, 0, 0⟩
    else if 0 < v.minor then ⟨v.major, v.minor + 1, 0⟩
    else ⟨v.major, v.minor, v.patch + 1⟩
  rangeText v upper

/-- A tilde as a range. -/
def tildeToPep440 (ver : String) : String :=
  let parts := split (strip ver) "."
  let v := parseSemver ver
  let upper : Semver := if 2 ≤ parts.length then ⟨v.major, v.minor + 1, 0⟩ else ⟨v.major + 1, 0, 0⟩
  rangeText v upper

/-- `s[n:]`. -/
def dropFront (s : String) (n : Nat) : String := String.ofList (s.toList.drop n)

/-- A constraint as ranges. -/
def normalizeConstraint (constraint : String) : String :=
  let constraint := strip constraint
  if startsWith constraint "^" then caretToPep440 (dropFront constraint 1)
  else if startsWith constraint "~" then tildeToPep440 (dropFront constraint 1)
  -- Anything else is taken for comparisons as it is.
  else constraint

end Numbers

section Resolving

variable {κ : Type} [LinearOrder κ]

/-- What the package makes of texts: a version, or none if it is invalid, and the
    versions that meet some comparisons, or none if they are. -/
structure Packaging (κ : Type) where
  version : String → Option κ
  specifierSet : String → Option (κ → Bool)

/-- `_max_version`. With the package, the last of the versions in rising order. -/
def maxVersion (packaging : Option (Packaging κ)) (versions : List String) : Option String :=
  match packaging with
  | some p =>
      let valid := versions.filterMap (fun v => (p.version v).map (fun key => (key, v)))
      (valid.insertionSort (fun a b => a.1 ≤ b.1)).getLast?.map Prod.snd
  | none => versions.argmax parseSemver

/-- `_safe_contains`. -/
def safeContains (p : Packaging κ) (spec : κ → Bool) (version : String) : Bool :=
  (p.version version).any spec

/-- `_cmp`. -/
def cmp (a : Semver) (op : String) (b : Semver) : Bool :=
  if op = ">=" then decide (b ≤ a)
  else if op = "<=" then decide (a ≤ b)
  else if op = ">" then decide (b < a)
  else if op = "<" then decide (a < b)
  else if op = "==" then decide (a = b)
  else if op = "!=" then decide (a ≠ b)
  else false

/-- The comparisons. -/
def operators : List String := [">=", "<=", "==", "!=", ">", "<"]

/-- A comparison that starts with one of the operators. -/
def readSpec (s : String) : Option (String × Semver) :=
  (operators.find? (fun op => startsWith s op)).map (fun op =>
    (op, parseSemver (dropFront s op.length)))

/-- The comparisons between commas. -/
def pieces (constraint : String) : List String :=
  ((split constraint ",").map strip).filter (· ≠ "")

/-- The choice without `packaging`. -/
def fallbackResolve (available : List String) (constraint : String) : Option String :=
  -- A comparison without one of the operators is dropped.
  let parsedSpecs := (pieces constraint).filterMap readSpec
  let candidates := available.filter (fun v =>
    parsedSpecs.all (fun spec => cmp (parseSemver v) spec.1 spec.2))
  candidates.argmax parseSemver

/-- The newest version that fits. -/
def resolveVersionConstraint (packaging : Option (Packaging κ)) (available : List String)
    (constraint : String) : Option String :=
  if available = [] then none
  else
    let constraint := strip (if constraint = "" then "*" else constraint)
    if constraint = "" ∨ constraint = "*" then maxVersion packaging available
    else
      match packaging with
      | some p =>
          match p.specifierSet (normalizeConstraint constraint) with
          | some spec => maxVersion packaging (available.filter (safeContains p spec))
          -- What is raised is caught.
          | none => none
      | none => fallbackResolve available (normalizeConstraint constraint)

end Resolving

section Selecting

/-- A card as a candidate. -/
structure SkillManifest where
  card : SkillCard

/-- What is preferred. -/
structure CandidateSelectionContext where
  preferredSkillId : Option String := none
  preferredCostClass : Option CostClass := none
  preferredLatencyClass : Option LatencyClass := none
  preferredVersion : Option String := none

/-- The classes of cost in order. -/
def costRank : CostClass → Nat
  | .low => 0
  | .medium => 1
  | .high => 2

/-- The classes of speed in order. -/
def latencyRank : LatencyClass → Nat
  | .interactive => 0
  | .batch => 1

/-- What `_filter_by_cost` and `_filter_by_latency` share: the candidates of a
    class that is preferred, if there are some, and else those of the lowest
    rank. -/
def filterByClass {γ : Type} [DecidableEq γ] (classOf : SkillManifest → γ) (rank : γ → Nat)
    (pool : List SkillManifest) (preferred : Option γ) : List SkillManifest :=
  let wanted := pool.filter (fun c => decide (preferred = some (classOf c)))
  if wanted ≠ [] then wanted
  else pool.filter (fun c => pool.all (fun d => decide (rank (classOf c) ≤ rank (classOf d))))

/-- Keeps what is cheap enough. -/
def filterByCost : List SkillManifest → Option CostClass → List SkillManifest :=
  filterByClass (·.card.costClass) costRank

/-- Keeps what is fast enough. -/
def filterByLatency : List SkillManifest → Option LatencyClass → List SkillManifest :=
  filterByClass (·.card.latencyClass) latencyRank

variable {κ : Type} [LinearOrder κ] (packaging : Option (Packaging κ))

/-- `_version_key`: a version of the package, or else the numbers. -/
def versionKey (version : String) : κ ⊕ Semver :=
  match packaging.bind (fun p => p.version version) with
  | some key => .inl key
  | none => .inr (parseSemver version)

/-- The comparison of two keys. A version of the package and numbers cannot be
    compared. -/
def keyLt : κ ⊕ Semver → κ ⊕ Semver → Except Exc Bool
  | .inl a, .inl b => .ok (a < b)
  | .inr a, .inr b => .ok (a < b)
  | _, _ => .error .typeError

/-- The built-in `max`, from the first candidate on. -/
def maxByKey (best : SkillManifest) : List SkillManifest → Except Exc SkillManifest
  | [] => .ok best
  | c :: rest => do
      if ← keyLt (versionKey packaging best.card.version) (versionKey packaging c.card.version) then
        maxByKey c rest
      else maxByKey best rest

/-- The newest, or the one preferred. -/
def pickByVersion (pool : List SkillManifest) (preferredVersion : Option String) :
    Except Exc (Option SkillManifest) :=
  match pool with
  | [] => .ok none
  | first :: rest =>
      match (preferredVersion.filter (· ≠ "")).bind (fun version =>
          pool.find? (fun c => decide (c.card.version = version))) with
      | some c => .ok (some c)
      | none => do return some (← maxByKey packaging first rest)

/-- A version fits a constraint. -/
def versionSatisfies (version constraint : String) : Bool :=
  resolveVersionConstraint packaging [version] constraint = some version

/-- The candidates that meet a constraint. If none does, all are kept. -/
def narrow (candidates : List SkillManifest) (constraint : Option String) : List SkillManifest :=
  match constraint.filter (· ≠ "") with
  | some constraint =>
      let filtered := candidates.filter (fun c =>
        versionSatisfies packaging c.card.version constraint)
      if filtered ≠ [] then filtered else candidates
  | none => candidates

/-- `CandidateDependencySelector.select`. -/
def select (candidates : List SkillManifest) (context : CandidateSelectionContext)
    (constraint : Option String) : Except Exc (Option SkillManifest) :=
  if candidates = [] then .ok none
  else
    let pool := narrow packaging candidates constraint
    match (context.preferredSkillId.filter (· ≠ "")).bind (fun skillId =>
        pool.find? (fun c => decide (c.card.skillId = skillId))) with
    | some c => .ok (some c)
    | none =>
        match filterByCost pool context.preferredCostClass with
        | [c] => .ok (some c)
        | pool =>
            match filterByLatency pool context.preferredLatencyClass with
            | [c] => .ok (some c)
            | pool => do
                match ← pickByVersion packaging pool context.preferredVersion with
                | some chosen => return some chosen
                | none => return pool.head?

end Selecting

end Versions

end AgenticRag
