import AgenticRag.Core.Plan
import AgenticRag.Lib.RegexFirst
import Mathlib.Algebra.Order.Field.Rat
import Mathlib.Tactic.NormNum

/-!
# The Layers before the Model

Some questions are decided before anything looks at what they mean: one that
carries an attack is refused, one that names its tool is sent there, and a
search of the web, a greeting and an order number are told by their form. The
checks are made in this order, and the first that decides is the last one made.

Case is ignored where the source ignores it. A Latin letter of a pattern then
stands for both its cases, and for the few characters beyond ASCII that the
matcher takes for it.

Before the rules look at a question, its form decides whether they may. A long
question, one of several clauses or several questions, one that asks for
reasons, for two tools at once or for steps in order is complex, and is left to
a model. The gate looks at no more than that. Its signals are compiled from the
configuration once.

A simple question is sent by rules. Words for the world outside and for what is
new send it to the web, and a question of a strong form, a definition or a count
or the like, to the tool that form is for. What is left is judged by the words it
has, and these say little. However many there are, the confidence stays low, and
a model is asked.

## Main definitions

* `PreFilter.filter`: What the checks before routing decide.
* `RuleRouter.route`: What the rules decide.

## Theorems

* `weakScore_nonneg`: Words score something.
-/

namespace AgenticRag

namespace Plan

/-- The name of a target. -/
def Target.name : Target → String
  | .rag => "rag"
  | .database => "database"
  | .web => "web"
  | .rest => "rest"
  | .hybrid => "hybrid"
  | .chitchat => "chitchat"
  | .graph => "graph"

end Plan

namespace PreFilter

open Py Ordered

section Case

/-- The characters a letter of a pattern stands for if case is ignored. The
    pattern has the letter in lower case. -/
def sameLetter (letter c : Char) : Bool :=
  c == letter || c == letter.toUpper ||
    (letter == 'i' && (c.toNat == 0x130 || c.toNat == 0x131)) ||
    (letter == 's' && c.toNat == 0x17F) || (letter == 'k' && c.toNat == 0x212A)

/-- A word in either case. -/
def litIgnoreCase (s : String) : Regex :=
  s.toList.foldr (fun c r => .seq (.sat (sameLetter c)) r) .eps

end Case

section Patterns

variable (u : Unicode)

/-- The pattern `\s+`. -/
def spaces1 : Regex := many1 (.sat isSpace)

/-- The pattern `\w`. -/
def wordChar (c : Char) : Bool := u.isAlnum c || c == '_'

/-- The pattern of a number of tokens with any space in between. -/
def spaced (r s : Regex) : Regex := .seq r (.seq spaces s)

/-- The signs of an injection. -/
def sqlInjectionPatterns : List Regex :=
  [
    -- ['\"]\s*;\s*(DROP|DELETE|UPDATE|INSERT|ALTER|CREATE|TRUNCATE)
    spaced (oneOf "'\"") (spaced (oneOf ";")
      (alts (litIgnoreCase "drop") (["delete", "update", "insert", "alter", "create",
        "truncate"].map litIgnoreCase))),
    -- --\s*$
    .seq (lit "--") (.seq spaces textEnd),
    -- UNION\s+(ALL\s+)?SELECT
    seqs [litIgnoreCase "union", spaces1, opt (.seq (litIgnoreCase "all") spaces1),
      litIgnoreCase "select"],
    -- OR\s+1\s*=\s*1
    seqs [litIgnoreCase "or", spaces1, lit "1", spaces, lit "=", spaces, lit "1"],
    -- AND\s+1\s*=\s*1
    seqs [litIgnoreCase "and", spaces1, lit "1", spaces, lit "=", spaces, lit "1"],
    -- ['\"]\s*OR\s+['\"]
    seqs [oneOf "'\"", spaces, litIgnoreCase "or", spaces1, oneOf "'\""]]

/-- The signs of an attack. -/
def privilegeEscalationKeywords : List String :=
  ["删库", "删除所有", "所有用户密码", "管理员密码", "root密码", "系统密码", "DROP TABLE",
    "DROP DATABASE"]

/-- Words for a search. -/
def actionKeywords : List String :=
  ["搜索", "查一下", "查找", "上网找", "网上搜", "百度一下", "谷歌搜索", "搜一下"]

/-- Words for what lies outside. -/
def externalScopeKeywords : List String :=
  ["网上", "百度", "谷歌", "外部", "全网", "互联网", "外网", "搜索引擎"]

/-- The patterns `^…[！!。.？?]?$`. -/
def greeting (word : Regex) : Regex :=
  seqs [textStart, word, opt (oneOf "！!。.？?"), textEnd]

/-- The forms of a greeting. -/
def greetingPatterns : List Regex :=
  [greeting (lit "你好"), greeting (lit "您好"), greeting (litIgnoreCase "hello"),
    greeting (litIgnoreCase "hi"), greeting (lit "嗨"), greeting (lit "谢谢"), greeting (lit "感谢"),
    greeting (seqs [litIgnoreCase "thank", spaces, litIgnoreCase "you"]),
    greeting (litIgnoreCase "thanks"), greeting (lit "再见"), greeting (litIgnoreCase "bye")]

/-- The patterns `^@(?:…)\s+`. -/
def toolDirective (name : String) (names : List String) : Regex :=
  seqs [textStart, lit "@", alts (litIgnoreCase name) (names.map litIgnoreCase), spaces1]

/-- The directives, with their text, in the order they are tried. -/
def directivePatterns : List (Regex × String × Plan.Target) :=
  [(toolDirective "database" ["db"], "^@(?:database|db)\\s+", .database),
    (toolDirective "rag" ["kb"], "^@(?:rag|kb)\\s+", .rag),
    (toolDirective "web" ["search"], "^@(?:web|search)\\s+", .web),
    (toolDirective "graph" ["neo4j", "图谱", "知识图谱"], "^@(?:graph|neo4j|图谱|知识图谱)\\s+",
      .graph),
    (seqs [textStart, lit "/", alts (litIgnoreCase "help") [litIgnoreCase "status"],
      boundary (wordChar u)], "^/(?:help|status)\\b", .chitchat)]

/-- The formats of orders and products. -/
def entityPatterns : List (Regex × Plan.Target) :=
  [(.seq (litIgnoreCase "sku-") (many1 digit), .database),
    (.seq (litIgnoreCase "ord-") (many1 digit), .database),
    (seqs [lit "工单号", oneOf "：:", spaces, many1 digit], .database),
    (seqs [lit "订单号", oneOf "：:", spaces, many1 digit], .database),
    (seqs [lit "产品编号", oneOf "：:", spaces, many1 (.sat (wordChar u))], .database),
    (seqs [litIgnoreCase "sku", oneOf "：:", spaces, many1 (.sat (wordChar u))], .database)]

end Patterns

section Checks

variable (u : Unicode)

/-- The decisions of the filter are all simple ones of its own. -/
def decided (target : Plan.Target) (confidence : ℚ) (reason : String) (metadata : Dict)
    (hnonneg : 0 ≤ confidence) (hle : confidence ≤ 1) : Plan.RouteDecision :=
  { target := target
    confidence := confidence
    source := .prefilter
    reason := reason
    complexity := .simple
    metadata := metadata
    confidence_nonneg := hnonneg
    confidence_le_one := hle }

theorem zero_le_certain : (0 : ℚ) ≤ 1 := zero_le_one

/-- A decision the filter is certain of. -/
def certain (target : Plan.Target) (reason : String) (metadata : Dict) : Plan.RouteDecision :=
  decided target 1 reason metadata zero_le_certain le_rfl

/-- `_check_security`. -/
def checkSecurity (query : String) : Option Plan.RouteDecision :=
  let queryLower := u.lower query
  if sqlInjectionPatterns.any (fun pattern => found pattern queryLower) then
    some (certain .chitchat "安全拦截：检测到 SQL 注入特征"
      [("blocked", .bool true), ("reason", .str "sql_injection")])
  else
    (privilegeEscalationKeywords.find? (fun keyword => contains queryLower (u.lower keyword))).map
      (fun keyword => certain .chitchat ("安全拦截：检测到越权关键词 '" ++ keyword ++ "'")
        [("blocked", .bool true), ("reason", .str "privilege_escalation")])

/-- `_check_directive`. -/
def checkDirective (query : String) : Option Plan.RouteDecision :=
  ((directivePatterns u).find? (fun entry => found entry.1 query)).map (fun entry =>
    decided entry.2.2 (49 / 50) ("精确指令匹配: " ++ entry.2.1)
      [("directive", .bool true), ("directive_pattern", .str entry.2.1)]
      (by norm_num) (by norm_num))

/-- `_check_external_search`. -/
def checkExternalSearch (query : String) : Option Plan.RouteDecision :=
  let queryLower := u.lower query
  if actionKeywords.any (contains queryLower) && externalScopeKeywords.any (contains queryLower) then
    some (certain .web "命中显式外部搜索指令" [("explicit_external_search", .bool true)])
  else none

/-- `_check_greeting`. -/
def checkGreeting (query : String) : Option Plan.RouteDecision :=
  if greetingPatterns.any (fun pattern => found pattern (u.lower query)) then
    some (certain .chitchat "命中问候语" [("greeting", .bool true)])
  else none

/-- `_check_entity_format`. -/
def checkEntityFormat (query : String) : Option Plan.RouteDecision :=
  (entityPatterns u).findSome? (fun entry => (finditer entry.1 query).head?.map (fun m =>
    certain entry.2 ("命中实体格式: " ++ m.text)
      [("entity_match", .str m.text), ("entity_type", .str entry.2.name)]))

/-- The checks, the first that decides being the last one made. -/
def filter (query : String) : Option Plan.RouteDecision :=
  if strip query = "" then none
  else
    let queryStripped := strip query
    (checkSecurity u queryStripped).or ((checkDirective u queryStripped).or
      ((checkExternalSearch u queryStripped).or ((checkGreeting u queryStripped).or
        (checkEntityFormat u queryStripped))))

end Checks

end PreFilter

open Py

/-- The keywords of the rule router. -/
structure RuleKeywords where
  externalScope : List String := []
  freshnessKeywords : List String := []
  historicalKeywords : List String := []
  dbBias : List String := []
  ragBias : List String := []
  erpBias : List String :=
    ["年假", "请假", "假期", "休假", "考勤", "打卡", "出勤", "采购", "订单", "报销", "差旅", "费用",
      "工资", "薪资", "薪酬", "绩效", "库存", "供应链", "人力", "财务", "员工", "hr", "erp", "审批",
      "入职", "离职", "合同", "发票", "物料", "供应商", "客户信息", "资产", "预算"]
  graphBias : List String :=
    ["图谱", "知识图谱", "关系图谱", "实体", "关系", "关联", "多跳", "图查询", "neo4j", "节点", "边",
      "链路", "上下游", "相关人", "相关人员", "组织架构", "关联方"]

namespace ComplexityGate

section Config

/-- The pattern `.`. -/
def dot : Regex := .sat (· != '\n')

/-- A signal that asks for a number of something. -/
structure CountSignal where
  enabled : Bool := true
  least : Nat

/-- The signals of the gate. -/
structure GateConfig where
  enabled : Bool := true
  longQuery : CountSignal := { least := 50 }
  multiClause : CountSignal := { least := 2 }
  multiQuestion : CountSignal := { least := 2 }
  reasoningEnabled : Bool := true
  reasoningMarkers : List String :=
    ["分析", "对比", "比较", "为什么", "推导", "评估", "综合考虑"]
  multiToolEnabled : Bool := true
  progressiveEnabled : Bool := true
  progressivePatterns : List Regex :=
    [seqs [lit "先", .rep dot 1 (some 20), lit "再"],
      seqs [lit "首先", .rep dot 1 (some 20), lit "然后"], lit "第一步", lit "接着", lit "最后"]

end Config

section Signals

/-- The separators of clauses. -/
def isClauseEnd (c : Char) : Bool := c ∈ "，,；;".toList

/-- A question mark. -/
def isQuestionMark (c : Char) : Bool := c ∈ "？?".toList

/-- A pattern is searched for, unless the signal is switched off. -/
def signal (name : String) (enabled : Bool) (r : Regex) : List (String × (String → Bool)) :=
  if enabled then [(name, found r)] else []

/-- A pattern of alternatives is searched for, unless there are none. -/
def signalOf (name : String) (enabled : Bool) : List Regex → List (String × (String → Bool))
  | [] => []
  | r :: rs => signal name enabled (alts r rs)

/-- `_MultiToolSignal.search`: one of the first words of either kind. -/
def multiTool (dbWords ragWords : List String) (query : String) : Bool :=
  match dbWords.take 15, ragWords.take 15 with
  | db :: dbs, rag :: rags => found (words db dbs) query && found (words rag rags) query
  | _, _ => false

/-- `_compile_signals`. -/
def signals (config : GateConfig) (keywords : RuleKeywords) : List (String × (String → Bool)) :=
  if ¬ config.enabled then []
  else
    signal "long_query" config.longQuery.enabled (.rep dot config.longQuery.least none) ++
      (signal "multi_clause" config.multiClause.enabled
          (counted isClauseEnd config.multiClause.least) ++
        (signal "multi_question" config.multiQuestion.enabled
            (counted isQuestionMark config.multiQuestion.least) ++
          (signalOf "reasoning_markers" config.reasoningEnabled (config.reasoningMarkers.map lit) ++
            ((if config.multiToolEnabled ∧ keywords.dbBias ≠ [] ∧ keywords.ragBias ≠ [] then
                [("multi_tool", multiTool keywords.dbBias keywords.ragBias)]
              else []) ++
              signalOf "progressive" config.progressiveEnabled config.progressivePatterns))))

end Signals

section Check

/-- What the gate finds. -/
structure ComplexityResult where
  isComplex : Bool
  triggeredSignals : List String := []
  confidence : ℚ := 0

/-- The more signals, the surer. -/
def signalConfidence (n : Nat) : ℚ := min (n * (3 / 10)) (9 / 10)

/-- Asks each signal. -/
def check (config : GateConfig) (keywords : RuleKeywords) (query : String) : ComplexityResult :=
  if strip query = "" then { isComplex := false }
  else
    let triggered := ((signals config keywords).filter (fun entry => entry.2 query)).map Prod.fst
    { isComplex := !triggered.isEmpty
      triggeredSignals := triggered
      confidence := if triggered.isEmpty then 0 else signalConfidence triggered.length }

end Check

end ComplexityGate

namespace RuleRouter

open Py ComplexityGate

section Patterns

/-- The strong forms, with their targets and names. -/
def strongPatterns : List (Regex × Plan.Target × String) :=
  [(seqs [textStart, lit "什么是", many1 dot], .rag, "什么是X"),
    (seqs [textStart, many1 dot, lit "是什么", textEnd], .rag, "X是什么"),
    (seqs [textStart, many1 dot, lit "是什么意思", textEnd], .rag, "X是什么意思"),
    (seqs [textStart, lit "什么意思"], .rag, "什么意思"),
    (seqs [textStart, many1 dot, lit "的原理"], .rag, "X的原理"),
    (seqs [textStart, lit "统计", many1 dot, words "数量" ["总数", "人数"], textEnd],
      .database, "统计X数量"),
    (seqs [textStart, lit "查询", many1 dot, words "数量" ["总数", "人数"], textEnd],
      .database, "查询X数量"),
    (seqs [textStart, lit "查询", .rep dot 0 none, words "年假" ["请假", "假期", "休假"]],
      .rest, "ERP年假查询"),
    (seqs [textStart, lit "查询", .rep dot 0 none, words "考勤" ["打卡", "出勤"]],
      .rest, "ERP考勤查询"),
    (seqs [textStart, lit "查询", .rep dot 0 none, words "采购" ["订单", "PO"]],
      .rest, "ERP采购查询"),
    (seqs [textStart, lit "查询", .rep dot 0 none, words "报销" ["费用", "差旅"]],
      .rest, "ERP报销查询"),
    (seqs [textStart, lit "我的", .rep dot 0 none, words "年假" ["考勤", "请假", "假期"]],
      .rest, "ERP个人查询"),
    (seqs [textStart, .rep dot 0 none, words "工资" ["薪资", "薪酬", "绩效"], .rep dot 0 none,
      words "查询" ["多少"]], .rest, "ERP薪酬查询"),
    (words "关系图谱" ["知识图谱", "实体关联", "多跳查询", "图查询", "多跳"], .graph, "图查询")]

/-- `_match_strong_pattern`. -/
def matchStrongPattern (query : String) : Option (Plan.Target × String) :=
  (strongPatterns.find? (fun entry => found entry.1 query)).map Prod.snd

end Patterns

section Words

/-- `_detect_scope`: the question is about the world outside. -/
def externalScope (keywords : RuleKeywords) (queryLower : String) : Bool :=
  keywords.externalScope.any (contains queryLower)

/-- `_detect_freshness`. Words for what is past take it back. -/
def detectFreshness (keywords : RuleKeywords) (queryLower : String) : Bool :=
  keywords.freshnessKeywords.any (contains queryLower) &&
    !keywords.historicalKeywords.any (contains queryLower)

/-- What a number of words scores. -/
def weakScore (n : Nat) : ℚ :=
  if n = 0 then 0 else 9 / 20 + min (((n - 1 : Nat) : ℚ) * (1 / 20)) (1 / 10)

theorem weakScore_nonneg (n : Nat) : 0 ≤ weakScore n := by
  rw [weakScore]
  split_ifs
  · exact le_rfl
  · positivity

/-- A score as it is written down. -/
def scoreVal (n : Nat) : Val :=
  .float (weakScore n)
    (if n = 0 then "0.0" else if n = 1 then "0.45" else if n = 2 then "0.5" else "0.55")

/-- `_match_db_bias` and the three like it: the words of a kind that a question
    has. Their number decides the score. -/
def matchBias (bias : List String) (queryLower : String) : List String :=
  bias.filter (contains queryLower)

end Words

section Decisions

/-- The cap of the confidence that words give. -/
def weakConfidenceCap : ℚ := 11 / 20

/-- The decisions of the rules are all simple ones. -/
def ruled (target : Plan.Target) (confidence : ℚ) (reason : String) (metadata : Dict)
    (hnonneg : 0 ≤ confidence) (hle : confidence ≤ 1) : Plan.RouteDecision :=
  { target := target
    confidence := confidence
    source := .rule
    reason := reason
    complexity := .simple
    metadata := metadata
    confidence_nonneg := hnonneg
    confidence_le_one := hle }

theorem half_nonneg : (0 : ℚ) ≤ 1 / 2 := by norm_num

theorem half_le_one : (1 / 2 : ℚ) ≤ 1 := by norm_num

/-- `_default_decision`. -/
def defaultDecision (reason : String) : Plan.RouteDecision :=
  ruled .chitchat (1 / 2) reason [] half_nonneg half_le_one

theorem min_cap_le_one (q : ℚ) : min q weakConfidenceCap ≤ 1 :=
  (min_le_right _ _).trans (by norm_num [weakConfidenceCap])

theorem min_cap_nonneg {q : ℚ} (h : 0 ≤ q) : 0 ≤ min q weakConfidenceCap :=
  le_min h (by norm_num [weakConfidenceCap])

/-- Words decide, as far as they can. -/
def weakDecision (keywords : RuleKeywords) (queryLower : String) : Plan.RouteDecision :=
  let db := matchBias keywords.dbBias queryLower
  let rag := matchBias keywords.ragBias queryLower
  let erp := matchBias keywords.erpBias queryLower
  let graph := matchBias keywords.graphBias queryLower
  let dbScore := weakScore db.length
  let ragScore := weakScore rag.length
  let erpScore := weakScore erp.length
  let graphScore := weakScore graph.length
  let metadata : Dict :=
    [("db_score", scoreVal db.length), ("rag_score", scoreVal rag.length),
      ("erp_score", scoreVal erp.length), ("graph_score", scoreVal graph.length),
      ("db_keywords", Plan.strsVal db), ("rag_keywords", Plan.strsVal rag),
      ("erp_keywords", Plan.strsVal erp), ("graph_keywords", Plan.strsVal graph),
      ("scope", .str "internal"), ("freshness_required", .bool false)]
  if 0 < dbScore ∧ 0 < ragScore then
    ruled .hybrid (min (max dbScore ragScore) weakConfidenceCap)
      ("混合意图: DB(" ++ join ", " db ++ ") + RAG(" ++ join ", " rag ++ ")") metadata
      (min_cap_nonneg (le_max_of_le_left (weakScore_nonneg _))) (min_cap_le_one _)
  else if dbScore < erpScore ∧ ragScore < erpScore ∧ 0 < erpScore then
    ruled .rest (min erpScore weakConfidenceCap) ("ERP 偏向词: " ++ join ", " erp) metadata
      (min_cap_nonneg (weakScore_nonneg _)) (min_cap_le_one _)
  else if dbScore < graphScore ∧ ragScore < graphScore ∧ 0 < graphScore then
    ruled .graph (min graphScore weakConfidenceCap) ("Graph 偏向词: " ++ join ", " graph) metadata
      (min_cap_nonneg (weakScore_nonneg _)) (min_cap_le_one _)
  else if ragScore < dbScore ∧ 0 < dbScore then
    ruled .database (min dbScore weakConfidenceCap) ("DB 偏向词: " ++ join ", " db) metadata
      (min_cap_nonneg (weakScore_nonneg _)) (min_cap_le_one _)
  else if dbScore < ragScore ∧ 0 < ragScore then
    ruled .rag (min ragScore weakConfidenceCap) ("RAG 偏向词: " ++ join ", " rag) metadata
      (min_cap_nonneg (weakScore_nonneg _)) (min_cap_le_one _)
  else ruled .chitchat (1 / 2) "无明确关键词匹配" metadata half_nonneg half_le_one

variable (u : Unicode)

/-- Routes a question by its words. -/
def route (keywords : RuleKeywords) (query : String) : Plan.RouteDecision :=
  if strip query = "" then defaultDecision "查询为空"
  else
    let queryLower := u.lower query
    let external := externalScope keywords queryLower
    let fresh := detectFreshness keywords queryLower
    if external ∧ fresh then
      ruled .web (17 / 20) "外部范围 + 时效性需求"
        [("scope", .str "external"), ("freshness_required", .bool true)]
        (by norm_num) (by norm_num)
    else if external then
      ruled .web (4 / 5) "外部范围词匹配" [("scope", .str "external")] (by norm_num) (by norm_num)
    else if fresh then
      ruled .web (3 / 4) "时效性关键词匹配" [("freshness_required", .bool true)]
        (by norm_num) (by norm_num)
    else
      match matchStrongPattern query with
      | some (target, name) =>
          ruled target (4 / 5) ("强模式: " ++ name) [("pattern", .str name)]
            (by norm_num) (by norm_num)
      | none => weakDecision keywords queryLower

end Decisions

end RuleRouter

end AgenticRag
