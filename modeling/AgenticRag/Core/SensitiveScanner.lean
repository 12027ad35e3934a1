import AgenticRag.Core.ReportArtifact
import AgenticRag.Lib.Regex

/-!
# The Scan for Sensitive Data

What the verifier looks for in the text of a report: identity and telephone
numbers, addresses, keys, passwords, connection strings and card numbers.
Each pattern has a severity, and a report with a high or critical finding
does not pass.

`scanArtifact` goes through the summary, the text of the sections, the rows
of the tables and the notes of the charts. A row is scanned as one text, its
cells separated by a space.

## Main definitions

* `SensitivePattern`, `sensitivePatterns`: What is looked for.
* `hasCritical`, `hasHigh`: What the verifier asks about them.
-/

namespace AgenticRag

namespace Report

open Py

/-- A kind of sensitive data. -/
structure SensitivePattern where
  code : String
  name : String
  pattern : Regex
  severity : Severity
  description : String

section Patterns

/-- A character of `\w`. The database is asked beyond ASCII only. -/
def isWordChar (u : Unicode) (c : Char) : Bool :=
  if c.toNat < 128 then c.isAlphanum || c == '_' else u.isAlnum c

/-- A character between two others, in the order of the code points. -/
def inRange (lo hi c : Char) : Bool :=
  decide (lo ≤ c ∧ c ≤ hi)

/-- `[0-9]` -/
def isAsciiDigit (c : Char) : Bool := inRange '0' '9' c

/-- `[A-Z]` -/
def isAsciiUpper (c : Char) : Bool := inRange 'A' 'Z' c

/-- `[a-z]` -/
def isAsciiLower (c : Char) : Bool := inRange 'a' 'z' c

/-- A character of `[A-Za-z0-9]` or one of a few others. -/
def asciiWordOr (others : String) (c : Char) : Bool :=
  isAsciiUpper c || isAsciiLower c || isAsciiDigit c || others.toList.contains c

/-- A letter of a pattern under `(?i)`: either case of it. The long s folds
    to the letter s. -/
def anyCase (c : Char) : Regex :=
  .sat (fun x => x == c || x == c.toUpper || (c == 's' && x == 'ſ'))

/-- A text under `(?i)`. -/
def litAnyCase (s : String) : Regex :=
  seqs (s.toList.map anyCase)

/-- The pattern `\S+`. -/
def nonSpaces : Regex :=
  many1 (.sat (fun c => !isSpace c))

/-- The pattern `\d{lo,hi}`. -/
def digits (lo hi : Nat) : Regex :=
  .rep digit lo (some hi)

/-- An identity number. -/
def idCardBody : Regex :=
  .seq (digits 17 17) (.sat (fun c => isDecimal c || c == 'X' || c == 'x'))

/-- The number of a bank card. -/
def bankCardBody : Regex :=
  digits 16 19

/-- A key of a service. -/
def apiKeyPattern : Regex :=
  alts (.seq (lit "sk-") (.rep (.sat (asciiWordOr "_-")) 20 none))
    [.seq (lit "AKIA") (.rep (.sat (fun c => isAsciiDigit c || isAsciiUpper c)) 16 (some 16)),
     .seq (lit "ghp_") (.rep (.sat (asciiWordOr "")) 30 none),
     .seq (lit "xoxb-") (.rep (.sat (asciiWordOr "-")) 20 none),
     .seq (lit "Bearer") (.seq (many1 (.sat isSpace)) (.rep (.sat (asciiWordOr "_.-")) 20 none))]

/-- What comes before the password itself. -/
def passwordHead : Regex :=
  .seq (alts (litAnyCase "password") [litAnyCase "pwd", litAnyCase "passwd"])
    (.seq spaces (.seq (oneOf ":=") spaces))

/-- What comes before the address of a database. -/
def dbConnHead : Regex :=
  .seq (alts (lit "mongodb") [lit "postgresql", lit "mysql", lit "redis", lit "amqp"]) (lit "://")

/-- An address. -/
def emailBody : Regex :=
  seqs [many1 (.sat (asciiWordOr "._%+-")), lit "@", many1 (.sat (asciiWordOr ".-")), lit ".",
    .rep (.sat (fun c => isAsciiUpper c || c == '|' || isAsciiLower c)) 2 none]

/-- A telephone number. -/
def phoneBody : Regex :=
  seqs [lit "1", .sat (inRange '3' '9'), digits 9 9]

/-- The last parts of an address, each with the point before it. -/
def octets (n : Nat) : Regex :=
  seqs (List.replicate n (.seq (lit ".") (digits 1 3)))

/-- An address inside the network. -/
def internalIpBody : Regex :=
  alts (.seq (lit "10") (octets 3))
    [seqs [lit "172.", alts (.seq (lit "1") (.sat (inRange '6' '9')))
        [.seq (lit "2") digit, .seq (lit "3") (.sat (inRange '0' '1'))], octets 2],
     .seq (lit "192.168") (octets 2)]

/-- A pattern between two word boundaries. -/
def bounded (u : Unicode) (r : Regex) : Regex :=
  .seq (boundary (isWordChar u)) (.seq r (boundary (isWordChar u)))

end Patterns

/-- The kinds of sensitive data, in the order they are looked for. -/
def sensitivePatterns (u : Unicode) : List SensitivePattern :=
  [⟨"SENS_ID_CARD", "身份证号", bounded u idCardBody, .high, "18 位身份证号"⟩,
   ⟨"SENS_PHONE", "手机号", bounded u phoneBody, .medium, "11 位中国大陆手机号"⟩,
   ⟨"SENS_EMAIL", "邮箱", bounded u emailBody, .low, "电子邮箱地址"⟩,
   ⟨"SENS_API_KEY", "API Key", apiKeyPattern, .critical, "API Key / Token"⟩,
   ⟨"SENS_PASSWORD", "密码字段", .seq passwordHead nonSpaces, .high, "密码字段赋值"⟩,
   ⟨"SENS_DB_CONN", "数据库连接串", .seq dbConnHead nonSpaces, .critical, "数据库连接串（含凭据）"⟩,
   ⟨"SENS_INTERNAL_IP", "内网 IP", bounded u internalIpBody, .medium, "内网 IP 地址"⟩,
   ⟨"SENS_BANK_CARD", "银行卡号", bounded u bankCardBody, .high,
     "16-19 位连续数字（疑似银行卡号）"⟩]

/-- A match of a pattern in a text. -/
structure Finding where
  code : String
  name : String
  severity : Severity
  description : String
  snippet : String
  start : Nat
  stop : Nat
  location : String := ""

/-- The text of a match as it is shown, cut when it is long. -/
def displaySnippet (snippet : String) : String :=
  if snippet.toList.length ≤ 50 then snippet else take snippet 47 ++ "..."

/-- The finding a match stands for. -/
def findingOf (p : SensitivePattern) (m : Match) : Finding :=
  { code := p.code
    name := p.name
    severity := p.severity
    description := p.description
    snippet := displaySnippet m.text
    start := m.start
    stop := m.stop }

/-- The sensitive data in a text. -/
def scanText (u : Unicode) (text : String) : List Finding :=
  if text = "" then []
  else (sensitivePatterns u).flatMap (fun p => (finditer p.pattern text).map (findingOf p))

/-- The findings in a text, with the place it stands at. -/
def scanAt (u : Unicode) (location text : String) : List Finding :=
  (scanText u text).map (fun finding => { finding with location := location })

/-- A row of a table as it is scanned. -/
def rowText (u : Unicode) (row : List Val) : String :=
  join " " (row.map (Val.toStr u))

/-- The sensitive data in a report. -/
def scanArtifact (u : Unicode) (artifact : ReportArtifact) : List Finding :=
  scanAt u "summary" artifact.summary ++
  artifact.sections.flatMap (fun sec =>
    scanAt u ("section:" ++ sec.sectionId.getD "unknown") sec.content) ++
  artifact.tables.flatMap (fun table => table.rows.flatMap (fun row =>
    scanAt u ("table:" ++ table.tableId.getD "unknown") (rowText u row))) ++
  artifact.charts.flatMap (fun chart =>
    scanAt u ("chart:" ++ chart.chartId.getD "unknown") chart.notes)

/-- Some finding is critical. -/
def hasCritical (findings : List Finding) : Bool :=
  findings.any (fun f => f.severity == .critical)

/-- Some finding blocks. -/
def hasHigh (findings : List Finding) : Bool :=
  findings.any (fun f => f.severity.isBlocking)

end Report

end AgenticRag
