import AgenticRag.Core.PairVerifier
import AgenticRag.Lib.Regex

/-!
# The Fact Checker

The rule layer of verification. Dates, ratios, amounts of money, ranges,
numbers and names are read out of the claim and out of the documents by
regular expressions; each entity of the claim is matched with the closest one
of its kind in the documents; and the claim is contradicted when a match
disagrees, open when an entity has none, and supported otherwise.

A claim without entities is reported as supported, for want of anything to
check. That is the rule layer's way of saying that it cannot decide.

Numbers are read as exact fractions where the source has floats, so which of two
candidates is closer, or whether they tie, is not always what the source finds. What `repr`
writes for one is a parameter, `floatRepr`, and is used only in the
dictionaries that describe the entities.

## Main definitions

* `Entity`, `Normalized`: What is read out of a text.
* `ruleCheckFact`: The verdict on a claim.

## Theorems

* `ruleCheckFact_no_entities`: A claim without entities counts as supported.
* `ruleCheckFact_ruleResult`: The verdict, by the matches of the entities.
-/

namespace AgenticRag

namespace FactChecker

open Py Ordered

/-- The kinds of entity. -/
inductive EntityType where
  | date
  | ratio
  | currency
  | range
  | number
  | properNoun
  deriving DecidableEq, Repr

/-- The name of a type. -/
def EntityType.text : EntityType → String
  | .date => "date"
  | .ratio => "ratio"
  | .currency => "currency"
  | .range => "range"
  | .number => "number"
  | .properNoun => "proper_noun"

/-- A date, as far as the text gives it. A month range that is a quarter is
    kept as that quarter. -/
structure DateNorm where
  year : Nat
  month : Option Nat := none
  day : Option Nat := none
  quarter : Option Nat := none
  months : Option (Nat × Nat) := none
  startMonth : Option Nat := none
  endMonth : Option Nat := none
  deriving DecidableEq, Repr

/-- The comparable form of an entity. -/
inductive Normalized where
  | date (d : DateNorm)
  | ratio (q : ℚ)
  | number (value magnitude : ℚ)
  | range (low high : ℚ)
  | noun (s : String)
  deriving DecidableEq

/-- An entity read out of a text. -/
structure Entity where
  type : EntityType
  value : String
  normalized : Normalized
  span : Nat × Nat
  deriving DecidableEq

section Numerals

/-- What a unit multiplies by. -/
def chineseNumberUnits : List (String × ℚ) :=
  [("千", 1000), ("万", 10000), ("亿", 100000000), ("百万", 1000000), ("千万", 10000000)]

/-- The months of a quarter. -/
def quarterMonths : List (Nat × (Nat × Nat)) :=
  [(1, (1, 3)), (2, (4, 6)), (3, (7, 9)), (4, (10, 12))]

/-- The value of a numeral character. The marks for an unknown digit and for
    the decimal point are negative. -/
def chineseDigits : List (Char × Int) :=
  [('零', 0), ('一', 1), ('二', 2), ('三', 3), ('四', 4), ('五', 5), ('六', 6), ('七', 7),
   ('八', 8), ('九', 9), ('十', 10), ('百', 100), ('千', 1000), ('万', 10000),
   ('亿', 100000000), ('两', 2), ('几', -1), ('点', -2)]

/-- What the loop over a numeral carries: the sum of the closed sections, the
    open section, and the digits not yet placed, the last one first. -/
structure NumeralState where
  total : Int := 0
  section_ : Int := 0
  digits : List Int := []

/-- Read one character of a numeral. The unknown digit ends the reading. -/
def numeralStep (st : NumeralState) (c : Char) : Option NumeralState :=
  match chineseDigits.lookup c with
  | none => some st
  | some val =>
      if val = -1 then none
      else if val < 10 then some { st with digits := val :: st.digits }
      else if val = 10 ∨ val = 100 ∨ val = 1000 then
        match st.digits with
        | [] => some { st with section_ := st.section_ + val }
        | d :: rest => some { st with section_ := st.section_ + d * val, digits := rest }
      else
        -- A large unit closes the section; digits not yet placed are lost with it.
        let open_ := if st.digits.isEmpty then st.section_ + 1 else st.section_
        some { total := st.total + open_ * val, section_ := 0, digits := [] }

/-- Read a numeral without a decimal point. -/
def parseChineseInteger (cs : List Char) : Option ℚ :=
  (cs.foldlM numeralStep {}).map (fun st => ((st.total + st.section_ + st.digits.sum : Int) : ℚ))

/-- The fraction the digits behind the point write. -/
def chineseFraction (cs : List Char) : ℚ :=
  (cs.zipIdx.map (fun p =>
    match chineseDigits.lookup p.1 with
    | some val => if 0 ≤ val then (val : ℚ) / 10 ^ (p.2 + 1) else 0
    | none => 0)).sum

/-- Read a numeral up to the decimal point. The part before the point is read
    by the same function, which then finds no second point. -/
def parseChineseNumber (text : String) : Option ℚ :=
  let cs := ((strip text).toList).filter (· != ' ')
  if cs.isEmpty then none
  else if cs.any isDecimal then none
  else if '点' ∈ cs then
    let whole := cs.takeWhile (· != '点')
    let integer := if (strip (String.ofList whole)).isEmpty then none
      else parseChineseInteger ((strip (String.ofList whole)).toList.filter (· != ' '))
    some (integer.getD 0 + chineseFraction (cs.drop (whole.length + 1)))
  else parseChineseInteger cs

/-- The built-in `float` on the numerals the patterns let through: a sign,
    digits, and a point with further digits. -/
def floatOf (token : String) : Option ℚ :=
  let cs := (strip token).toList
  let sign : ℚ := if cs.head? = some '-' then -1 else 1
  let body := if cs.head? = some '-' ∨ cs.head? = some '+' then cs.drop 1 else cs
  let whole := body.takeWhile isDecimal
  if whole.isEmpty then none
  else
    match body.drop whole.length with
    | [] => some (sign * intOfDigits whole)
    | '.' :: fraction =>
        if fraction.all isDecimal then
          some (sign * (intOfDigits whole + intOfDigits fraction / 10 ^ fraction.length))
        else none
    | _ :: _ => none

/-- The token without a unit at its end, and the unit. Longer units are tried
    first. -/
def stripUnit (token : String) : String × ℚ :=
  let units := sortDesc (fun kv : String × ℚ => kv.1.length) chineseNumberUnits
  match units.find? (fun kv => decide (kv.1.toList <:+ token.toList)) with
  | some (name, value) => (strip (take token (token.length - name.length)), value)
  | none => (token, 1)

/-- A number with a unit. -/
def parseNumber (token : String) : Option ℚ :=
  let token := String.ofList ((strip token).toList.filter (· != ','))
  if token.isEmpty then none
  else
    let cut := stripUnit token
    match floatOf cut.1 with
    | some q => some (q * cut.2)
    | none => (parseChineseNumber cut.1).map (· * cut.2)

/-- A number and its size. -/
def normalizeNumber (value : ℚ) : Normalized :=
  .number value (if value = 0 then 1 else |value|)

end Numerals

section Patterns

/-- What may stand between the parts of a date: a dash, a slash, the word for
    year, a full stop or white space. -/
def dateSep : Regex :=
  .sat (fun c => decide (c ∈ "-/年.".toList) || isSpace c)

/-- Four digits. -/
def year : Regex := .group "year" (.rep digit 4 (some 4))

/-- One or two digits under a name. -/
def monthOrDay (name : String) : Regex := .group name (.rep digit 1 (some 2))

/-- A day. -/
def fullDatePattern : Regex :=
  seqs [year, spaces, dateSep, spaces, monthOrDay "month", spaces,
    .sat (fun c => decide (c ∈ "-/月.".toList) || isSpace c), spaces, monthOrDay "day", spaces,
    opt (oneOf "日")]

/-- A month of a year. -/
def yearMonthPattern : Regex :=
  seqs [year, spaces, dateSep, spaces, monthOrDay "month", spaces, opt (oneOf "月")]

/-- Some months of a year. -/
def monthRangePattern : Regex :=
  seqs [year, spaces, opt dateSep, spaces, monthOrDay "start_month", spaces, oneOf "-~到至～",
    spaces, monthOrDay "end_month", spaces, opt (oneOf "月")]

/-- A quarter of a year. -/
def quarterPattern : Regex :=
  seqs [year, spaces, opt dateSep, spaces,
    .alt
      (seqs [lit "第", .group "quarter_cn" (oneOf "1234一二三四"), spaces, oneOf "季qQ",
        opt (lit "度")])
      (seqs [oneOf "qQ", .group "quarter_q" (oneOf "1234一二三四")])]

/-- A sign, if any. -/
def sign : Regex := opt (oneOf "+-")

/-- The digits after the point, if any. -/
def fraction : Regex := opt (seqs [lit ".", many1 digit])

/-- Digits in groups of three. -/
def groupedNumber : Regex :=
  seqs [sign, .rep digit 1 (some 3), many1 (seqs [lit ",", .rep digit 3 (some 3)]), fraction]

/-- A number in digits. -/
def plainNumber : Regex := seqs [sign, many1 digit, fraction]

/-- A number under a name. The two forms are alternatives of the whole group,
    so that a unit can follow the plain form only. -/
def numericToken (name : String) : Regex :=
  .group name (.alt groupedNumber (seqs [plainNumber, opt (seqs [spaces, oneOf "百千万亿"])]))

/-- A percentage. -/
def percentPattern : Regex :=
  .alt
    (seqs [numericToken "num", spaces, alts (lit "%") [lit "百分之", lit "percent", lit "pct"]])
    (seqs [lit "百分之", .group "cn_num" (many1 (oneOf "零一二三四五六七八九十百千万亿点两几"))])

/-- Two numbers and a dash. -/
def rangePattern : Regex :=
  seqs [numericToken "low", spaces, oneOf "~-到至～", spaces, numericToken "high"]

/-- A sum of money. -/
def currencyPattern : Regex :=
  .alt
    (seqs [alts (oneOf "¥￥") [lit "RMB", lit "CNY", lit "人民币"], spaces,
      numericToken "num_prefix"])
    (seqs [numericToken "num_suffix", spaces, alts (lit "元") [lit "人民币"]])

/-- A number that is nothing else. -/
def numberPattern : Regex :=
  seqs [.notBehind (fun c => decide (c ∈ "¥￥.,".toList) || isDecimal c), spaces,
    numericToken "num",
    .notAhead (seqs [spaces, alts digit [oneOf "元%百分之百", lit "年"]])]

/-- `[A-Z]` -/
def isUpperLetter (c : Char) : Bool := decide ('A' ≤ c ∧ c ≤ 'Z')

/-- `[A-Za-z0-9]` -/
def isLetterOrDigit (c : Char) : Bool :=
  isUpperLetter c || decide ('a' ≤ c ∧ c ≤ 'z') || decide ('0' ≤ c ∧ c ≤ '9')

/-- A capitalised word of two characters or more. -/
def capitalWord : Regex := seqs [.sat isUpperLetter, many1 (.sat isLetterOrDigit)]

/-- A name. -/
def properNounPattern : Regex :=
  .group "noun" (.alt
    (seqs [capitalWord, .rep (seqs [.sat (fun c => isSpace c || c == '+'), capitalWord]) 0 none])
    (seqs [.rep (.sat (fun c => decide (0x4E00 ≤ c.toNat ∧ c.toNat ≤ 0x9FA5))) 2 none,
      alts (lit "科技") [lit "集团", lit "公司", lit "银行", lit "大学", lit "学院", lit "医院",
        lit "研究所", lit "平台", lit "系统", lit "框架", lit "模型", lit "语言", lit "智能", lit "云",
        lit "网"]]))

end Patterns

section Extraction

/-- The number a group of digits writes, if the group took part. -/
def groupInt (m : Match) (name : String) : Option Nat :=
  (m.group name).map (fun ds => intOfDigits ds.toList)

/-- A match as a date. -/
def dateEntityOf (m : Match) (d : DateNorm) : Entity :=
  ⟨.date, m.text, .date d, (m.start, m.stop)⟩

/-- A range of months, which is a quarter when its ends are those of one. -/
def monthRangeNorm (year startMonth endMonth : Nat) : DateNorm :=
  match quarterMonths.find? (fun q => q.2 == (startMonth, endMonth)) with
  | some (quarter, months) => { year := year, quarter := some quarter, months := some months }
  | none => { year := year, startMonth := some startMonth, endMonth := some endMonth }

/-- The ranges of months in a text. -/
def monthRangeEntities (text : String) : List Entity :=
  (finditer monthRangePattern text).filterMap (fun m =>
    match groupInt m "year", groupInt m "start_month", groupInt m "end_month" with
    | some year, some startMonth, some endMonth =>
        if 1 ≤ startMonth ∧ startMonth ≤ 12 ∧ 1 ≤ endMonth ∧ endMonth ≤ 12 ∧
            startMonth < endMonth then
          some (dateEntityOf m (monthRangeNorm year startMonth endMonth))
        else none
    | _, _, _ => none)

/-- The dates of a form in a text. -/
def dateEntities (pattern : Regex) (text : String) : List Entity :=
  (finditer pattern text).filterMap (fun m =>
    (groupInt m "year").map (fun year =>
      dateEntityOf m { year := year, month := groupInt m "month", day := groupInt m "day" }))

/-- The quarters as they are written. -/
def quarterMap : List (String × Nat) :=
  [("1", 1), ("2", 2), ("3", 3), ("4", 4), ("一", 1), ("二", 2), ("三", 3), ("四", 4)]

/-- The quarters in a text. -/
def quarterEntities (text : String) : List Entity :=
  (finditer quarterPattern text).filterMap (fun m =>
    let quarterRaw := (m.group "quarter_cn").or (m.group "quarter_q")
    match groupInt m "year", quarterRaw.bind (fun raw => quarterMap.lookup raw) with
    | some year, some quarter =>
        some (dateEntityOf m
          { year := year, quarter := some quarter, months := quarterMonths.lookup quarter })
    | _, _ => none)

variable (u : Unicode)

/-- Whether the text is written as a percentage. -/
def isPercentSyntax (raw : String) : Bool :=
  contains raw "%" || contains raw "百分之" || contains (u.lower raw) "percent" ||
    contains (u.lower raw) "pct"

/-- The raw text without the percent sign or word at its end. -/
def stripPercent (raw : String) : String :=
  match ["%", "percent", "pct", "百分之"].find? (fun suffix =>
    decide (suffix.toList <:+ (u.lower raw).toList)) with
  | some suffix => take raw (raw.length - suffix.length)
  | none => raw

/-- The ratio a text writes, given the number read out of it if there was
    one. -/
def normalizeRatio (rawValue : String) (parsed : Option ℚ) : Option ℚ :=
  let raw := String.ofList (rawValue.toList.filter (fun c => c != ',' && c != ' '))
  let percent := isPercentSyntax u raw
  let rest := match parsed with
    | some _ => raw
    | none => stripPercent u raw
  match parsed.or (parseNumber rest) with
  | none => none
  | some number =>
      if parsed.isSome ∧ ¬ percent ∧ number < 1 ∧ contains rest "." then some number
      else if percent then some (number / 100)
      else if number < 1 ∧ contains rest "." then some number
      else some (number / 100)

/-- The percentages in a text. -/
def ratioEntities (text : String) : List Entity :=
  (finditer percentPattern text).filterMap (fun m =>
    let parsed := match m.group "cn_num" with
      -- A numeral that reads as zero counts as not read.
      | some cn => (parseChineseNumber cn).filter (· ≠ 0)
      | none => (m.group "num").bind parseNumber
    (normalizeRatio u m.text parsed).map (fun q =>
      ⟨.ratio, m.text, .ratio q, (m.start, m.stop)⟩))

/-- The sums of money in a text. -/
def currencyEntities (text : String) : List Entity :=
  (finditer currencyPattern text).filterMap (fun m =>
    (((m.group "num_prefix").or (m.group "num_suffix")).bind parseNumber).map (fun q =>
      ⟨.currency, m.text, normalizeNumber q, (m.start, m.stop)⟩))

/-- The ranges in a text. -/
def rangeEntities (text : String) : List Entity :=
  (finditer rangePattern text).filterMap (fun m =>
    match (m.group "low").bind parseNumber, (m.group "high").bind parseNumber with
    | some low, some high => some ⟨.range, m.text, .range low high, (m.start, m.stop)⟩
    | _, _ => none)

/-- The numbers in a text. -/
def numberEntities (text : String) : List Entity :=
  (finditer numberPattern text).filterMap (fun m =>
    ((m.group "num").bind parseNumber).map (fun q =>
      ⟨.number, m.text, normalizeNumber q, (m.start, m.stop)⟩))

/-- The names in a text. -/
def properNounEntities (text : String) : List Entity :=
  (finditer properNounPattern text).filterMap (fun m =>
    (m.group "noun").bind (fun raw =>
      let noun := strip raw
      if 2 ≤ noun.length then
        some ⟨.properNoun, noun, .noun (u.lower noun), (m.start, m.stop)⟩
      else none))

/-- Which type goes first at one place. -/
def typePriority : EntityType → Nat
  | .date => 0
  | .ratio => 1
  | .currency => 2
  | .range => 3
  | .number => 4
  | .properNoun => 5

/-- Whether two spans share a character. -/
def overlaps (a b : Nat × Nat) : Bool :=
  !(decide (a.2 ≤ b.1) || decide (b.2 ≤ a.1))

/-- Keep an entity unless it overlaps one that was kept. -/
def dropOverlapping : List Entity → List Entity → List Entity
  | kept, [] => kept
  | kept, e :: rest =>
      if kept.any (fun k => overlaps e.span k.span) then dropOverlapping kept rest
      else dropOverlapping (kept ++ [e]) rest

/-- Everything the patterns read, before overlaps are settled. -/
def candidates (text : String) : List Entity :=
  monthRangeEntities text ++ dateEntities fullDatePattern text ++
    dateEntities yearMonthPattern text ++ quarterEntities text ++ ratioEntities u text ++
    currencyEntities text ++ rangeEntities text ++ numberEntities text ++ properNounEntities u text

/-- The entities of a text. -/
def extractEntities (text : String) : List Entity :=
  if text.isEmpty then []
  else
    dropOverlapping [] ((candidates u text).insertionSort (fun a b =>
      a.span.1 < b.span.1 ∨ a.span.1 = b.span.1 ∧ typePriority a.type ≤ typePriority b.type))

end Extraction

section Comparison

/-- The months a date covers, if it is a range or a quarter. -/
def DateNorm.monthRange (d : DateNorm) : Option (Nat × Nat) :=
  match d.startMonth, d.endMonth with
  | some startMonth, some endMonth => some (startMonth, endMonth)
  | _, _ => if d.quarter.isSome then d.months else none

/-- Whether both values are there and differ. -/
def differ (a b : Option Nat) : Bool :=
  match a, b with
  | some x, some y => x != y
  | _, _ => false

/-- Two dates agree as far as both go. -/
def matchDate (d₁ d₂ : DateNorm) : Bool :=
  if d₁.year ≠ d₂.year then false
  else
    match d₁.quarter, d₂.quarter with
    | some q₁, some q₂ => q₁ == q₂
    | _, _ =>
        match d₁.monthRange, d₂.monthRange with
        | some r₁, some r₂ => r₁ == r₂
        | r₁, r₂ =>
            match r₁, d₂.month, r₂, d₁.month with
            | some r, some month, _, _ => decide (r.1 ≤ month ∧ month ≤ r.2)
            | _, _, some r, some month => decide (r.1 ≤ month ∧ month ≤ r.2)
            | _, _, _, _ => !differ d₁.month d₂.month && !differ d₁.day d₂.day

/-- Whether two dates disagree. Ranges have to meet. -/
def dateContradicted (claim matched : DateNorm) : Bool :=
  if claim.year ≠ matched.year then true
  else
    match claim.monthRange, matched.monthRange with
    | some cr, some mr => !decide (cr.1 ≤ mr.2 ∧ mr.1 ≤ cr.2)
    | cr, mr =>
        match cr, matched.month, mr, claim.month with
        | some r, some month, _, _ => !decide (r.1 ≤ month ∧ month ≤ r.2)
        | _, _, some r, some month => !decide (r.1 ≤ month ∧ month ≤ r.2)
        | _, _, _, _ => differ claim.month matched.month || differ claim.day matched.day

/-- The first of the candidates of least distance. -/
def closest (distance : Entity → ℚ) : List Entity → Option Entity
  | [] => none
  | e :: rest =>
      match closest distance rest with
      | none => some e
      | some best => if distance e ≤ distance best then some e else some best

/-- The value of a numeric entity, the middle of a range. -/
def numericValue : Normalized → ℚ
  | .ratio q => q
  | .range low high => (low + high) / 2
  | .number value _ => value
  | .date _ => 0
  | .noun _ => 0

/-- A date that agrees, or one of that year. -/
def findBestDateMatch (claim : DateNorm) (cands : List (Entity × DateNorm)) : Option Entity :=
  let sameYear := cands.filter (fun p => p.2.year = claim.year)
  ((sameYear.find? (fun p => matchDate claim p.2)).or sameYear.head?).map Prod.fst

/-- The date of an entity, where it is one. -/
def Entity.date? (e : Entity) : Option DateNorm :=
  match e.normalized with
  | .date d => some d
  | _ => none

/-- The entity of the documents that corresponds to one of the claim. -/
def findMatch (claimEntity : Entity) (docEntities : List Entity) : Option Entity :=
  let cands := docEntities.filter (fun e => e.type = claimEntity.type)
  match claimEntity.type with
  | .date =>
      claimEntity.date?.bind (fun d =>
        findBestDateMatch d (cands.filterMap (fun e => e.date?.map (fun d' => (e, d')))))
  | .properNoun => cands.find? (fun e => e.normalized = claimEntity.normalized)
  | _ =>
      closest (fun e => |numericValue e.normalized - numericValue claimEntity.normalized|) cands

/-- Equal up to a thousandth. -/
def numberEqual (a b : ℚ) : Bool :=
  a == b || decide (|a - b| / max (max |a| |b|) 1 ≤ 1 / 1000)

/-- Equal up to half a percent. -/
def ratioEqual (a b : ℚ) : Bool :=
  a == b || decide (|a - b| ≤ 5 / 1000)

/-- The match says something else. -/
def isContradicted (claimEntity matchedEntity : Entity) : Bool :=
  if claimEntity.type ≠ matchedEntity.type then false
  else
    match claimEntity.normalized, matchedEntity.normalized with
    | .date claim, .date matched => dateContradicted claim matched
    | .number claim _, .number matched _ => !numberEqual claim matched
    | .ratio claim, .ratio matched => !ratioEqual claim matched
    | .range low high, .range low' high' => !(numberEqual low low' && numberEqual high high')
    | _, _ => false

end Comparison

section Verdict

variable (u : Unicode) (floatRepr : ℚ → String)

/-- A float as a value. -/
def floatVal (q : ℚ) : Val := .float q (floatRepr q)

/-- A date as a dictionary. -/
def DateNorm.toVal (d : DateNorm) : Val :=
  let entry : String → Option Nat → Dict := fun key v =>
    match v with
    | some n => [(key, .int n)]
    | none => []
  .dict ([("year", .int d.year)] ++ entry "quarter" d.quarter ++
    (match d.months with
      | some (first, last) => [("months", .list [.int first, .int last])]
      | none => []) ++
    entry "start_month" d.startMonth ++ entry "end_month" d.endMonth ++ entry "month" d.month ++
    entry "day" d.day)

/-- A normal form as a value. -/
def Normalized.toVal : Normalized → Val
  | .date d => d.toVal
  | .ratio q => floatVal floatRepr q
  | .number value magnitude =>
      .dict [("value", floatVal floatRepr value), ("magnitude", floatVal floatRepr magnitude)]
  | .range low high => .dict [("low", floatVal floatRepr low), ("high", floatVal floatRepr high)]
  | .noun s => .str s

/-- An entity as a dictionary. -/
def Entity.toDict (e : Entity) : Dict :=
  [("type", .str e.type.text), ("value", .str e.value),
   ("normalized", e.normalized.toVal floatRepr),
   ("span", .list [.int e.span.1, .int e.span.2]), ("metadata", .dict [])]

/-- What the loop over the entities of a claim ends with. The first
    contradiction ends it; an entity without a match is remembered. -/
inductive CheckOutcome where
  | contradicted (matched : Entity)
  | unsupported
  | supported

/-- The entities of a claim, checked in turn. -/
def checkEntities (docEntities : List Entity) : Bool → List Entity → CheckOutcome
  | unsupported, [] => if unsupported then .unsupported else .supported
  | unsupported, ce :: rest =>
      match findMatch ce docEntities with
      | none => checkEntities docEntities true rest
      | some matched =>
          if isContradicted ce matched then .contradicted matched
          else checkEntities docEntities unsupported rest

/-- The verdict of the rule layer on a claim. -/
def ruleCheckFact (claim : String) (retrievedDocs : List String) : RuleCheck :=
  let claimEntities := extractEntities u claim
  let docEntities := (retrievedDocs.filter (· ≠ "")).flatMap (extractEntities u)
  if claimEntities.isEmpty then { ruleResult := "SUPPORTED" }
  else
    let extracted := claimEntities.map (Entity.toDict floatRepr)
    match checkEntities docEntities false claimEntities with
    | .contradicted matched =>
        { ruleResult := "CONTRADICTED"
          matchedEvidence := matched.value
          extractedEntities := extracted }
    | .unsupported => { ruleResult := "NOT_SUPPORTED", extractedEntities := extracted }
    | .supported =>
        let firstMatch := claimEntities.head?.bind (fun ce => findMatch ce docEntities)
        { ruleResult := "SUPPORTED"
          matchedEvidence := (firstMatch.map Entity.value).getD ""
          extractedEntities := extracted }

/-- A claim without entities counts as supported, with none to show. -/
theorem ruleCheckFact_no_entities {claim : String} (h : extractEntities u claim = [])
    (docs : List String) : ruleCheckFact u floatRepr claim docs = { ruleResult := "SUPPORTED" } := by
  rw [ruleCheckFact, h]
  rfl

/-- A claim with entities shows them, whatever the verdict. -/
theorem ruleCheckFact_entities {claim : String} (h : extractEntities u claim ≠ [])
    (docs : List String) :
    (ruleCheckFact u floatRepr claim docs).extractedEntities =
      (extractEntities u claim).map (Entity.toDict floatRepr) := by
  have hne : (extractEntities u claim).isEmpty = false := by simpa using h
  simp only [ruleCheckFact, hne, Bool.false_eq_true, if_false]
  split <;> rfl

/-- Nothing matches where there is nothing. -/
theorem findMatch_nil (ce : Entity) : findMatch ce [] = none := by
  unfold findMatch
  cases ce.type <;> simp [findBestDateMatch, closest]

theorem checkEntities_nil (unsupported : Bool) (entities : List Entity) (hne : entities ≠ []) :
    checkEntities [] unsupported entities = .unsupported := by
  cases entities with
  | nil => exact absurd rfl hne
  | cons ce rest =>
      rw [checkEntities, findMatch_nil]
      clear hne
      -- From the first entity on one is remembered as unmatched.
      induction rest with
      | nil => rfl
      | cons e rest ih =>
          simp only [checkEntities, findMatch_nil]
          exact ih

/-- Without documents a claim with entities is open. -/
theorem ruleCheckFact_no_docs {claim : String} (h : extractEntities u claim ≠ []) :
    (ruleCheckFact u floatRepr claim []).ruleResult = "NOT_SUPPORTED" := by
  have hne : (extractEntities u claim).isEmpty = false := by simpa using h
  simp only [ruleCheckFact, hne, List.filter_nil, List.flatMap_nil,
    checkEntities_nil false _ h, Bool.false_eq_true, if_false]

/-- The match of an entity contradicts it. -/
def Contradicts (ce : Entity) (es : List Entity) : Prop :=
  ∃ e, findMatch ce es = some e ∧ isContradicted ce e = true

/-- The entities of the documents. -/
def docEntities (docs : List String) : List Entity := docs.flatMap (extractEntities u)

/-- The name of an outcome. -/
def CheckOutcome.text : CheckOutcome → String
  | .contradicted _ => "CONTRADICTED"
  | .unsupported => "NOT_SUPPORTED"
  | .supported => "SUPPORTED"

open Classical in
theorem checkEntities_text (es : List Entity) (unsupported : Bool) (claimEntities : List Entity) :
    (checkEntities es unsupported claimEntities).text =
      if ∃ ce ∈ claimEntities, Contradicts ce es then "CONTRADICTED"
      else if unsupported = true ∨ ∃ ce ∈ claimEntities, findMatch ce es = none then
        "NOT_SUPPORTED"
      else "SUPPORTED" := by
  induction claimEntities generalizing unsupported with
  | nil => cases unsupported <;> simp [checkEntities, CheckOutcome.text]
  | cons ce rest ih =>
      rw [checkEntities]
      cases hmatch : findMatch ce es with
      | none =>
          have hnot : ¬ Contradicts ce es := by simp [Contradicts, hmatch]
          simp [ih, hnot, hmatch]
      | some matched =>
          by_cases hcontra : isContradicted ce matched = true
          · have hyes : Contradicts ce es := ⟨matched, hmatch, hcontra⟩
            simp [hcontra, hyes, CheckOutcome.text]
          · have hnot : ¬ Contradicts ce es := by simpa [Contradicts, hmatch] using hcontra
            simp [hcontra, ih, hnot, hmatch]

theorem extractEntities_empty : extractEntities u "" = [] := rfl

theorem docEntities_filter (docs : List String) :
    (docs.filter (· ≠ "")).flatMap (extractEntities u) = docEntities u docs := by
  unfold docEntities
  induction docs with
  | nil => rfl
  | cons d rest ih =>
      by_cases hd : d = ""
      · rw [List.filter_cons_of_neg (by simp [hd]), ih, List.flatMap_cons, hd,
          extractEntities_empty, List.nil_append]
      · rw [List.filter_cons_of_pos (by simp [hd]), List.flatMap_cons, List.flatMap_cons, ih]

open Classical in
/-- The verdict, by the matches of the entities of the claim. -/
theorem ruleCheckFact_ruleResult (claim : String) (docs : List String) :
    (ruleCheckFact u floatRepr claim docs).ruleResult =
      if ∃ ce ∈ extractEntities u claim, Contradicts ce (docEntities u docs) then "CONTRADICTED"
      else if ∃ ce ∈ extractEntities u claim, findMatch ce (docEntities u docs) = none then
        "NOT_SUPPORTED"
      else "SUPPORTED" := by
  have htext : (ruleCheckFact u floatRepr claim docs).ruleResult =
      (checkEntities (docEntities u docs) false (extractEntities u claim)).text := by
    unfold ruleCheckFact
    dsimp only
    rw [docEntities_filter]
    cases hentities : extractEntities u claim with
    | nil => rfl
    | cons ce rest =>
        rw [if_neg (by simp)]
        cases checkEntities (docEntities u docs) false (ce :: rest) <;> rfl
  rw [htext, checkEntities_text]
  simp

theorem ruleResult_contradicted_iff (claim : String) (docs : List String) :
    (ruleCheckFact u floatRepr claim docs).ruleResult = "CONTRADICTED" ↔
      ∃ ce ∈ extractEntities u claim, Contradicts ce (docEntities u docs) := by
  classical
  rw [ruleCheckFact_ruleResult]
  split_ifs with hcontra hnone <;> simp [hcontra]

end Verdict

end FactChecker

end AgenticRag
