import AgenticRag.Core.DatabaseTool
import AgenticRag.Core.React

/-!
# The Answers of the SQL Agent's Model

The model of the SQL agent answers with an object of JSON, which may stand in a
fenced block or among other text. The block is tried first. Otherwise the text
is scanned for the first opening brace, and from there for the brace that closes
it: braces are counted, and those in strings are not. What lies between is
decoded. Where that is no JSON, or no brace closes it, the scan begins again
behind the opening brace.

Only the failure of the decoder is caught. A text that nests too deeply, or has
an integer with too many digits, raises.

## Main definitions

* `Scan`, `matching`: From an opening brace to the one that closes it.
* `parseAgentAction`: The action the model chose.
-/

namespace AgenticRag

namespace SqlPrompts

open Py

section Extraction

/-- Where the scan is: how many braces are open, and whether it is in a string
    or behind a backslash in one. -/
structure Scan where
  depth : Nat := 0
  inString : Bool := false
  escape : Bool := false
  deriving DecidableEq, Repr

/-- The text up to the brace that closes the first one. The scan starts at an
    opening brace, so the count does not fall below zero. -/
def matching (s : Scan) : List Char → Option (List Char)
  | [] => none
  | ch :: cs =>
      if s.escape then (matching { s with escape := false } cs).map (ch :: ·)
      else if ch = '\\' ∧ s.inString then (matching { s with escape := true } cs).map (ch :: ·)
      else if ch = '"' then (matching { s with inString := !s.inString } cs).map (ch :: ·)
      else if s.inString then (matching s cs).map (ch :: ·)
      else if ch = '\x7b' then (matching { s with depth := s.depth + 1 } cs).map (ch :: ·)
      else if ch = '\x7d' then
        if s.depth - 1 = 0 then some [ch]
        else (matching { s with depth := s.depth - 1 } cs).map (ch :: ·)
      else (matching s cs).map (ch :: ·)

variable (readFloat : String → Option (ℚ × String)) (depth : Nat)

/-- The value of a candidate, if it is JSON. -/
def candidateValue (candidate : List Char) : Except Json.DecodeError (Option Val) :=
  match Json.loads readFloat depth (String.ofList candidate) with
  | .ok v => .ok (some v)
  | .error .decode => .ok none
  | .error e => .error e

/-- The scan from each opening brace on. -/
def scanBlocks : List Char → Except Json.DecodeError (Option Val)
  | [] => .ok none
  | c :: cs =>
      if c = '\x7b' then
        match matching {} (c :: cs) with
        | none => scanBlocks cs
        | some candidate => do
            match ← candidateValue readFloat depth candidate with
            | some v => return some v
            | none => scanBlocks cs
      else scanBlocks cs

/-- The object in an answer. -/
def extractJson (text : String) : Except Json.DecodeError (Option Val) := do
  if text = "" then return none
  else
    match React.fencedJson text.toList with
    | none => scanBlocks readFloat depth text.toList
    | some block => do
        match ← candidateValue readFloat depth block with
        | some v => return some v
        | none => scanBlocks readFloat depth text.toList

end Extraction

section Actions

/-- What the failures of the decoder are that are not caught. -/
def raised : Json.DecodeError → Exc
  | .digits => .valueError
  | .decode => .valueError
  | .recursion => .runtimeError
  | .fuel => .runtimeError

/-- The actions the agent knows. -/
def validActions : List (String × AgentAction) :=
  [("list_databases", .listDatabases), ("list_tables", .listTables),
    ("describe_table", .describeTable), ("execute_sql", .executeSql), ("finish", .finish),
    ("give_up", .giveUp)]

/-- Other names of the actions. -/
def aliasMap : List (String × String) :=
  [("list_database", "list_databases"), ("list_dbs", "list_databases"),
    ("show_tables", "list_tables"), ("describe", "describe_table"), ("query", "execute_sql"),
    ("run_sql", "execute_sql"), ("sql", "execute_sql"), ("done", "finish"), ("stop", "finish")]

/-- The action of this name, or of the name this one stands for. -/
def actionOf (actionType : String) : Option AgentAction :=
  (validActions.lookup actionType).or (validActions.lookup ((aliasMap.lookup actionType).getD ""))

/-- An action and its arguments. -/
structure ParsedAction where
  thought : String
  action : AgentAction
  args : Dict := []

/-- An action from the object of an answer. -/
def actionOfObject (u : Unicode) (parsed : Dict) : Option ParsedAction :=
  match pyGet parsed "action" (.str "") with
  | .str actionType =>
      (actionOf actionType).map (fun action =>
        { thought := (pyOr (pyGet parsed "thought" .none)
            (pyOr (pyGet parsed "thought_summary" .none) (.str ""))).toStr u
          action := action
          args := (asMapping (pyOr (pyGet parsed "args" .none)
            (pyOr (pyGet parsed "arguments" .none) (.dict [])))).toOption.getD [] })
  | _ => none

/-- The action in an answer. -/
def parseAgentAction (u : Unicode) (readFloat : String → Option (ℚ × String)) (depth : Nat)
    (llmOutput : String) : Except Exc (Option ParsedAction) :=
  match extractJson readFloat depth llmOutput with
  | .error e => .error (raised e)
  | .ok none => .ok none
  | .ok (some parsed) => (asMapping parsed).map (actionOfObject u)

end Actions

end SqlPrompts

end AgenticRag
