import AgenticRag.Lib.PyVal

/-!
# Parameters of a Statement

The server takes a statement as one text, so parameters are written into it.
There are three places where this is done: the backend of structured queries,
the matcher of query templates, and the query that goes before a call of a
REST function. All three go through the parameters in their order, and replace
the text `:name` by the value as they write it. They differ in how a value is
written: as an SQL literal, as a quoted text or else as `str` has it, and as
`repr` has it.

## Main definitions

* `renderWith`: Write parameters into a statement.
* `Renderer`: One of the three.
-/

namespace AgenticRag

open Py

/-- A text in quotes, with those in it doubled. -/
def quoteText (s : String) : String :=
  "'" ++ replace s "'" "''" ++ "'"

/-- A float that is no number. -/
def isNonFinite (text : String) : Bool :=
  ["nan", "inf", "-inf"].contains text

/-- A value as the backend of structured queries writes it. -/
def structuredLiteral (u : Unicode) : Val → String
  | .bool b => if b then "TRUE" else "FALSE"
  | .none => "NULL"
  | .int i => toString i
  | .float _ text => text
  | .object text reprText =>
      -- It is a float to the source, and written as `str` has it.
      if isNonFinite text then text else quoteText ((Val.object text reprText).toStr u)
  | v => quoteText (v.toStr u)

/-- A value as the matcher of templates writes it. -/
def templateLiteral (u : Unicode) : Val → String
  | .str s => quoteText s
  | v => v.toStr u

/-- Write parameters into a statement, one after the other. -/
def renderWith (literal : Val → String) (sql : String) (params : Dict) : String :=
  params.foldl (fun text p => replace text (":" ++ p.1) (literal p.2)) sql

/-- `DatabaseToolStructuredBackend._render_sql_parameters`. -/
def renderSqlParameters (u : Unicode) (sql : String) (params : Dict) : String :=
  renderWith (structuredLiteral u) sql params

/-- `TemplateMatcher._substitute_params`. -/
def substituteParams (u : Unicode) (sql : String) (params : Dict) : String :=
  renderWith (templateLiteral u) sql params

/-- The substitution of `RestTool._execute_pre_query`. -/
def preQuerySubstitute (u : Unicode) (sql : String) (params : Dict) : String :=
  renderWith (Val.repr u) sql params

/-- The parameters of a query before a call: those of the function under other
    names. A parameter that is missing is left out. -/
def preQueryParams (functionParams : Dict) : Dict → Except Exc Dict
  | [] => .ok []
  | (sqlParam, fnKey) :: rest => do
      let value ← match fnKey with
        -- A key that is no text is in no mapping of parameters.
        | .str key => Except.ok (pyGet functionParams key .none)
        | .list _ => .error .typeError
        | .dict _ => .error .typeError
        | _ => .ok .none
      let others ← preQueryParams functionParams rest
      match value with
      -- The call goes on without it, and its token stays in the statement.
      | .none => return others
      | value => return (sqlParam, value) :: others

/-- One of the places where parameters are written into a statement. -/
inductive Renderer where
  | structured
  | template
  | preQuery
  deriving DecidableEq, Repr

/-- A value as it is written. -/
def Renderer.literal (u : Unicode) : Renderer → Val → String
  | .structured => structuredLiteral u
  | .template => templateLiteral u
  | .preQuery => Val.repr u

/-- A statement, filled in. -/
def Renderer.render (u : Unicode) : Renderer → String → Dict → String
  | .structured => renderSqlParameters u
  | .template => substituteParams u
  | .preQuery => preQuerySubstitute u

theorem Renderer.render_eq (u : Unicode) (r : Renderer) (sql : String) (params : Dict) :
    r.render u sql params = renderWith (r.literal u) sql params := by
  cases r <;> rfl

end AgenticRag
