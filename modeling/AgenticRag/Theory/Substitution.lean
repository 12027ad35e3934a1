import AgenticRag.Core.SqlParams
import Mathlib.Data.List.TakeWhile

/-!
# Substitution of Parameters

Writing parameters into a statement should be a simultaneous substitution:
each complete token `:name` gives way to one literal for its value, and
nothing else changes. What is done instead is one replacement after the other,
of the text `:name` wherever it stands. It stands in a token that goes on
after the name, and it may stand in a value that was written before.

Where neither happens the replacements do come to the substitution.
`Renderer.clean` says just this: in the statement with the parameters before
it filled in, the text of a parameter begins only where its token does. What
is left is whether a value is written as its literal. The backend of
structured queries does so for all that has one, the matcher of templates not
for `None`, and `repr` not for a text with a quote or a backslash in it.

## Main definitions

* `Piece`, `tokenize`: A statement and its tokens.
* `Renderer.Writes`: A value is written as its literal.

## Theorems

* `isLiteral_iff_writes`: What each of the three writes as its literal.
* `render_fills`: Replacements that are clean fill the tokens.
* `render_substitutes`: The output is the simultaneous substitution.
-/

namespace AgenticRag

open Py Ordered

section Tokens

/-- A character of a name. -/
def isWordChar (u : Unicode) (c : Char) : Bool :=
  u.isAlnum c || c == '_'

/-- A piece of a statement: a character, or a complete token `:name`. -/
inductive Piece where
  | char (c : Char)
  | token (name : List Char)
  deriving DecidableEq, Repr

/-- The text of a piece. -/
def Piece.text : Piece → List Char
  | .char c => [c]
  | .token name => ':' :: name

/-- The pieces of a text. The counter holds how many characters of the last
    token are still to be skipped. -/
def tokenizeFrom (u : Unicode) : Nat → List Char → List Piece
  | _, [] => []
  | skip + 1, _ :: cs => tokenizeFrom u skip cs
  | 0, c :: cs =>
      let name := cs.takeWhile (isWordChar u)
      if c = ':' ∧ name ≠ [] then .token name :: tokenizeFrom u name.length cs
      else .char c :: tokenizeFrom u 0 cs

/-- The pieces of a statement. -/
def tokenize (u : Unicode) (sql : String) : List Piece :=
  tokenizeFrom u 0 sql.toList

/-- The pieces make up the text. -/
theorem text_tokenizeFrom (u : Unicode) (skip : Nat) (cs : List Char) :
    (tokenizeFrom u skip cs).flatMap Piece.text = cs.drop skip := by
  induction cs generalizing skip with
  | nil =>
      rw [List.drop_nil]
      cases skip <;> rfl
  | cons c cs ih =>
      cases skip with
      | succ skip => exact ih skip
      | zero =>
          unfold tokenizeFrom
          dsimp only
          split_ifs with htoken
          · rw [List.flatMap_cons, ih, Piece.text, htoken.1, List.drop_zero, List.cons_append]
            -- The name is skipped after it was taken, and what is behind it is left.
            have hsplit := List.takeWhile_append_dropWhile (p := isWordChar u) (l := cs)
            have hdrop : cs.drop (cs.takeWhile (isWordChar u)).length =
                cs.dropWhile (isWordChar u) := by
              nth_rewrite 2 [← hsplit]
              exact List.drop_left
            rw [hdrop, hsplit]
          · rw [List.flatMap_cons, ih]
            rfl

/-- Fill a token. One without a filling is left as it is. -/
def fillPiece (fill : String → Option String) : Piece → List Char
  | .char c => [c]
  | .token name =>
      match fill (String.ofList name) with
      | some literal => literal.toList
      | none => ':' :: name

/-- The simultaneous substitution. -/
def fillTokens (u : Unicode) (fill : String → Option String) (sql : String) : String :=
  String.ofList ((tokenize u sql).flatMap (fillPiece fill))

end Tokens

section Literals

/-- A character within quotes. -/
def doubled (c : Char) : List Char :=
  if c = '\'' then ['\'', '\''] else [c]

/-- A text in quotes, with those in it doubled. -/
def sqlText (s : String) : String :=
  "'" ++ String.ofList (s.toList.flatMap doubled) ++ "'"

/-- A text is the SQL literal of a value. A value that is no scalar has none.
    Keywords may be in any case, and a value of another class goes by its
    text. -/
def IsLiteral (text : String) : Val → Prop
  | .none => text.toList.map Char.toUpper = "NULL".toList
  | .bool b => text.toList.map Char.toUpper = (if b then "TRUE" else "FALSE").toList
  | .int i => text = toString i
  | .float _ shown => text = shown
  | .str s => text = sqlText s
  | .object shown _ => isNonFinite shown = false ∧ text = sqlText shown
  | .list _ => False
  | .dict _ => False

/-- A character `repr` writes as it is. -/
def isPlain (u : Unicode) (c : Char) : Bool :=
  u.isPrintable c && !(['\'', '\\', '\t', '\n', '\r'].contains c)

/-- A value is written as its literal. -/
def Renderer.Writes (u : Unicode) : Renderer → Val → Prop
  | .structured, v => match v with
      | .list _ => False
      | .dict _ => False
      | .object shown _ => isNonFinite shown = false
      | _ => True
  | .template, v => match v with
      | .bool _ => True
      | .int _ => True
      | .float _ _ => True
      | .str _ => True
      | _ => False
  | .preQuery, v => match v with
      | .bool _ => True
      | .int _ => True
      | .float _ _ => True
      | .str s => s.toList.all (isPlain u) = true
      | .object shown shownByRepr => isNonFinite shown = false ∧ shownByRepr = sqlText shown
      | _ => False

theorem quoteText_eq (s : String) : quoteText s = sqlText s := by
  unfold quoteText sqlText replace
  have hdouble : ∀ (before : Option Char) (cs : List Char),
      reSub (scanText ['\'']) ['\'', '\''] before 0 cs = cs.flatMap doubled := by
    intro before cs
    induction cs generalizing before with
    | nil => rfl
    | cons c cs ih =>
        rw [List.flatMap_cons, ← ih (some c), doubled]
        by_cases hc : c = '\''
        · rw [if_pos hc, hc]
          rfl
        · have hscan : scanText ['\''] before (c :: cs) = none := by
            unfold scanText
            rw [if_neg]
            intro hprefix
            simp only [List.isPrefixOf, Bool.and_true, beq_iff_eq] at hprefix
            exact hc hprefix.symm
          rw [if_neg hc, reSub, hscan]
          rfl
  exact congrArg (fun cs => "'" ++ String.ofList cs ++ "'") (hdouble none s.toList)

theorem length_doubled_le (cs : List Char) : cs.length ≤ (cs.flatMap doubled).length := by
  induction cs with
  | nil => exact Nat.le_refl 0
  | cons c cs ih =>
      rw [List.flatMap_cons, List.length_append, List.length_cons, doubled]
      split
      · simp only [List.length_cons, List.length_nil]
        omega
      · simp only [List.length_cons, List.length_nil]
        omega

theorem sqlText_ne (s : String) : s ≠ sqlText s := by
  intro h
  have hlength := congrArg (fun t => t.toList.length) h
  have hle := length_doubled_le s.toList
  have hquote : ("'" : String).toList.length = 1 := by decide
  simp only [sqlText, String.toList_append, String.toList_ofList, List.length_append] at hlength
  omega

theorem reprChar_plain {u : Unicode} {c quote : Char} (h : isPlain u c = true)
    (hquote : c ≠ quote) : reprChar u quote c = [c] := by
  simp only [isPlain, Bool.and_eq_true, Bool.not_eq_true', List.contains_eq_mem,
    decide_eq_false_iff_not, List.mem_cons, List.not_mem_nil, or_false, not_or] at h
  rcases h with ⟨hprintable, _, hbackslash, htab, hline, hreturn⟩
  unfold reprChar
  rw [if_neg (by simp only [hquote, hbackslash, or_self, not_false_eq_true]), if_neg htab,
    if_neg hline, if_neg hreturn, if_pos hprintable]

/-- How `repr` writes a character that is not plain takes more room than SQL
    needs, but for the quote itself. -/
theorem reprChar_long {u : Unicode} {c : Char} (h : isPlain u c = false) (hquote : c ≠ '\'') :
    2 ≤ (reprChar u '\'' c).length := by
  simp only [isPlain, Bool.and_eq_false_iff, Bool.not_eq_false', List.contains_eq_mem,
    decide_eq_true_eq, List.mem_cons, List.not_mem_nil, or_false, hquote, false_or] at h
  unfold reprChar
  split_ifs with h1 h2 h3 h4 h5 h6 h7
  · exact Nat.le_refl 2
  · exact Nat.le_refl 2
  · exact Nat.le_refl 2
  · exact Nat.le_refl 2
  · rcases h with hnot | hone
    · rw [hnot] at h5
      cases h5
    · simp only [hquote, false_or] at h1
      simp only [h1, h2, h3, h4, or_self] at hone
  · simp only [List.length_append, List.length_cons, List.length_nil]
    omega
  · simp only [List.length_append, List.length_cons, List.length_nil]
    omega
  · simp only [List.length_append, List.length_cons, List.length_nil]
    omega

theorem reprChar_quote (u : Unicode) : reprChar u '\'' '\'' = ['\\', '\''] := by
  unfold reprChar
  rw [if_pos (.inl rfl)]

theorem length_doubled_le_repr (u : Unicode) (cs : List Char) :
    (cs.flatMap doubled).length ≤ (cs.flatMap (reprChar u '\'')).length := by
  induction cs with
  | nil => exact Nat.le_refl 0
  | cons c cs ih =>
      rw [List.flatMap_cons, List.flatMap_cons, List.length_append, List.length_append]
      refine Nat.add_le_add ?_ ih
      unfold doubled
      by_cases hquote : c = '\''
      · rw [if_pos hquote, hquote, reprChar_quote]
        exact Nat.le_refl 2
      · rw [if_neg hquote]
        by_cases hplain : isPlain u c = true
        · rw [reprChar_plain hplain hquote]
        · have hlong := reprChar_long (Bool.eq_false_iff.mpr hplain) hquote
          simp only [List.length_cons, List.length_nil]
          omega

/-- `repr` writes the inside of a literal only where every character is
    plain. -/
theorem plain_of_repr_eq {u : Unicode} {cs : List Char}
    (h : cs.flatMap (reprChar u '\'') = cs.flatMap doubled) : ∀ c ∈ cs, isPlain u c = true := by
  induction cs with
  | nil =>
      intro c hc
      cases hc
  | cons c cs ih =>
      rw [List.flatMap_cons, List.flatMap_cons] at h
      -- A quote is escaped by `repr` and doubled in SQL.
      have hquote : c ≠ '\'' := by
        intro hc
        rw [hc, reprChar_quote, doubled, if_pos rfl] at h
        exact absurd (List.cons.inj h).1 (by decide)
      -- What is not plain takes two characters or more, and the rest no less than SQL needs.
      have hplain : isPlain u c = true := by
        by_contra hnot
        have hlong := reprChar_long (Bool.eq_false_iff.mpr hnot) hquote
        have hrest := length_doubled_le_repr u cs
        have hlength := congrArg List.length h
        simp only [doubled, if_neg hquote, List.length_append, List.length_cons,
          List.length_nil] at hlength
        omega
      rw [reprChar_plain hplain hquote, doubled, if_neg hquote] at h
      intro d hd
      rcases List.mem_cons.mp hd with hdc | hdcs
      · rw [hdc]
        exact hplain
      · exact ih (List.append_cancel_left h) d hdcs

theorem isPlain_ne_quote {u : Unicode} {c : Char} (h : isPlain u c = true) : c ≠ '\'' := by
  intro hc
  rw [hc] at h
  simp only [isPlain, List.contains_cons, beq_self_eq_true, Bool.true_or, Bool.not_true,
    Bool.and_false, Bool.false_eq_true] at h

theorem repr_eq_of_plain {u : Unicode} {cs : List Char} (h : ∀ c ∈ cs, isPlain u c = true) :
    cs.flatMap (reprChar u '\'') = cs.flatMap doubled := by
  induction cs with
  | nil => rfl
  | cons c cs ih =>
      have hc := h c List.mem_cons_self
      have hquote := isPlain_ne_quote hc
      rw [List.flatMap_cons, List.flatMap_cons, ih (fun d hd => h d (List.mem_cons_of_mem c hd)),
        reprChar_plain hc hquote, doubled, if_neg hquote]

/-- `repr` writes a text as its literal if and only if all of it is plain. -/
theorem reprStr_eq_iff (u : Unicode) (s : String) :
    Py.reprStr u s = sqlText s ↔ s.toList.all (isPlain u) = true := by
  rw [List.all_eq_true]
  constructor
  · intro h
    have hlists := congrArg String.toList h
    simp only [Py.reprStr, sqlText, String.toList_ofList, String.toList_append] at hlists
    split at hlists
    next =>
      -- With a single quote in it, `repr` takes the other quotes.
      have hfirst := congrArg List.head? hlists
      exact absurd hfirst (by simp)
    next =>
      have hinner : s.toList.flatMap (reprChar u '\'') = s.toList.flatMap doubled := by
        have hquote : ("'" : String).toList = ['\''] := by decide
        rw [hquote] at hlists
        exact List.append_cancel_left (List.append_cancel_right hlists)
      exact plain_of_repr_eq hinner
  · intro h
    have hnone : ¬ ('\'' ∈ s.toList ∧ '"' ∉ s.toList) := by
      intro hin
      exact isPlain_ne_quote (h _ hin.1) rfl
    rw [← String.toList_inj]
    simp only [Py.reprStr, sqlText, if_neg hnone, String.toList_ofList, String.toList_append,
      repr_eq_of_plain h]
    rfl

theorem isLiteral_bool (b : Bool) :
    IsLiteral (if b then "TRUE" else "FALSE") (.bool b) ∧
      IsLiteral (if b then "True" else "False") (.bool b) := by
  have hupper : "TRUE".toList.map Char.toUpper = "TRUE".toList ∧
      "FALSE".toList.map Char.toUpper = "FALSE".toList ∧
      "True".toList.map Char.toUpper = "TRUE".toList ∧
      "False".toList.map Char.toUpper = "FALSE".toList := by decide
  cases b with
  | false => exact ⟨hupper.2.1, hupper.2.2.2⟩
  | true => exact ⟨hupper.1, hupper.2.2.1⟩

theorem isLiteral_null : IsLiteral "NULL" .none ∧ ¬ IsLiteral "None" .none := by
  have hnull : "NULL".toList.map Char.toUpper = "NULL".toList := by decide
  have hnone : "None".toList.map Char.toUpper ≠ "NULL".toList := by decide
  exact ⟨hnull, hnone⟩

/-- What each of the three writes as its literal. -/
theorem isLiteral_iff_writes (u : Unicode) (r : Renderer) (v : Val) :
    IsLiteral (r.literal u v) v ↔ r.Writes u v := by
  cases r with
  | structured =>
      cases v with
      | none => exact ⟨fun _ => trivial, fun _ => isLiteral_null.1⟩
      | bool b => exact ⟨fun _ => trivial, fun _ => (isLiteral_bool b).1⟩
      | int i => exact ⟨fun _ => trivial, fun _ => rfl⟩
      | float q shown => exact ⟨fun _ => trivial, fun _ => rfl⟩
      | str s => exact ⟨fun _ => trivial, fun _ => quoteText_eq s⟩
      | list xs => exact Iff.rfl
      | dict kvs => exact Iff.rfl
      | object shown shownByRepr =>
          constructor
          · intro h
            exact h.1
          · intro h
            have hfinite : isNonFinite shown = false := h
            refine ⟨hfinite, ?_⟩
            show (if isNonFinite shown then shown else quoteText shown) = sqlText shown
            rw [hfinite]
            exact quoteText_eq shown
  | template =>
      cases v with
      | none => exact ⟨fun h => absurd h isLiteral_null.2, False.elim⟩
      | bool b => exact ⟨fun _ => trivial, fun _ => (isLiteral_bool b).2⟩
      | int i => exact ⟨fun _ => trivial, fun _ => rfl⟩
      | float q shown => exact ⟨fun _ => trivial, fun _ => rfl⟩
      | str s => exact ⟨fun _ => trivial, fun _ => quoteText_eq s⟩
      | list xs => exact Iff.rfl
      | dict kvs => exact Iff.rfl
      | object shown shownByRepr => exact ⟨fun h => absurd h.2 (sqlText_ne shown), False.elim⟩
  | preQuery =>
      cases v with
      | none => exact ⟨fun h => absurd h isLiteral_null.2, False.elim⟩
      | bool b => exact ⟨fun _ => trivial, fun _ => (isLiteral_bool b).2⟩
      | int i => exact ⟨fun _ => trivial, fun _ => rfl⟩
      | float q shown => exact ⟨fun _ => trivial, fun _ => rfl⟩
      | str s => exact reprStr_eq_iff u s
      | list xs => exact Iff.rfl
      | dict kvs => exact Iff.rfl
      | object shown shownByRepr => exact Iff.rfl

end Literals

section Render

variable {u : Unicode}

/-- What a parameter that was filled in is filled by. -/
def fillWith (literal : Val → String) (filled : Dict) (name : String) : Option String :=
  (filled.lookup name).map literal

/-- The pieces of a statement as a text in segments, with some parameters
    filled in. Those of one more are marked. -/
def segments (literal : Val → String) (filled : Dict) (name : String) (pieces : List Piece) :
    List (Bool × List Char) :=
  pieces.map (fun p => (decide (p = .token name.toList), fillPiece (fillWith literal filled) p))

/-- In the statement with the parameters before it filled in, the text of a
    parameter begins only where its token does. -/
def cleanFrom (literal : Val → String) (pieces : List Piece) : Dict → Dict → Bool
  | _, [] => true
  | filled, (name, v) :: rest =>
      noStray (':' :: name.toList) (segments literal filled name pieces) &&
        cleanFrom literal pieces (filled ++ [(name, v)]) rest

/-- No parameter stands but for itself. -/
def Renderer.clean (u : Unicode) (r : Renderer) (sql : String) (params : Dict) : Bool :=
  cleanFrom (r.literal u) (tokenize u sql) [] params

/-- Every value that is used is written as its literal. -/
def Renderer.WritesAll (u : Unicode) (r : Renderer) (sql : String) (params : Dict) : Prop :=
  ∀ p ∈ params, .token p.1.toList ∈ tokenize u sql → r.Writes u p.2

/-- An output is the simultaneous substitution: the complete tokens of the
    parameters give way to literals for their values. -/
def Substitutes (u : Unicode) (sql : String) (params : Dict) (output : String) : Prop :=
  ∃ literal : String → String,
    (∀ p ∈ params, .token p.1.toList ∈ tokenize u sql → IsLiteral (literal p.1) p.2) ∧
      output = fillTokens u
        (fun name => if name ∈ params.map Prod.fst then some (literal name) else none) sql

theorem fillWith_append {literal : Val → String} {filled : Dict} {name : String} {v : Val}
    (hname : name ∉ filled.map Prod.fst) (other : String) :
    fillWith literal (filled ++ [(name, v)]) other =
      if other = name then some (literal v) else fillWith literal filled other := by
  unfold fillWith
  rw [List.lookup_append]
  by_cases hother : other = name
  · rw [if_pos hother, hother, lookup_eq_none_of_not_mem hname]
    simp only [List.lookup_cons_self, Option.none_or, Option.map_some]
  · rw [if_neg hother]
    have hnone : List.lookup other [(name, v)] = none := by
      rw [List.lookup_cons, beq_eq_false_iff_ne.mpr hother, List.lookup_nil]
    rw [hnone, Option.or_none]

/-- Filling one more parameter in is filling its tokens. -/
theorem fillPiece_append {literal : Val → String} {filled : Dict} {name : String} {v : Val}
    (hname : name ∉ filled.map Prod.fst) (p : Piece) :
    fillPiece (fillWith literal (filled ++ [(name, v)])) p =
      if p = .token name.toList then (literal v).toList
      else fillPiece (fillWith literal filled) p := by
  cases p with
  | char c => rw [if_neg (by simp only [reduceCtorEq, not_false_eq_true])]; rfl
  | token w =>
      unfold fillPiece
      dsimp only
      rw [fillWith_append hname]
      by_cases hw : w = name.toList
      · rw [hw, String.ofList_toList, if_pos rfl, if_pos rfl]
      · have hne : String.ofList w ≠ name := by
          intro heq
          apply hw
          rw [← heq, String.toList_ofList]
        rw [if_neg hne, if_neg (fun heq => hw (Piece.token.inj heq))]

/-- One clean replacement fills the tokens of one more parameter. -/
theorem replace_fills {literal : Val → String} {filled : Dict} {name : String} {v : Val}
    {pieces : List Piece} (hname : name ∉ filled.map Prod.fst)
    (hclean : noStray (':' :: name.toList) (segments literal filled name pieces) = true) :
    replace (String.ofList (pieces.flatMap (fillPiece (fillWith literal filled)))) (":" ++ name)
        (literal v) =
      String.ofList (pieces.flatMap (fillPiece (fillWith literal (filled ++ [(name, v)])))) := by
  have hcolon : (":" ++ name).toList = ':' :: name.toList := by
    rw [String.toList_append]
    rfl
  -- The marked segments are the tokens of the parameter, still in their place.
  have hmarked : ∀ s ∈ segments literal filled name pieces, s.1 = true →
      s.2 = ':' :: name.toList := by
    intro s hs hmark
    rcases List.mem_map.mp hs with ⟨p, _, hp⟩
    rw [← hp] at hmark ⊢
    have hp' : p = .token name.toList := of_decide_eq_true hmark
    rw [hp']
    have hunfilled : fillWith literal filled name = none := by
      unfold fillWith
      rw [lookup_eq_none_of_not_mem hname]
      rfl
    simp only [fillPiece, String.ofList_toList, hunfilled]
  have hsegments := reSub_segments (literal v).toList (List.cons_ne_nil ':' name.toList)
    (segments literal filled name pieces) hmarked hclean none
  unfold replace
  rw [hcolon, String.toList_ofList]
  congr 1
  have htext : pieces.flatMap (fillPiece (fillWith literal filled)) =
      (segments literal filled name pieces).flatMap Prod.snd := by
    rw [segments, List.flatMap_map]
  rw [htext, hsegments, segments, List.flatMap_map]
  refine List.flatMap_congr ?_
  intro p _
  rw [fillPiece_append hname]
  simp only [decide_eq_true_eq]

/-- Replacements that are clean fill the tokens. -/
theorem render_fills {literal : Val → String} {pieces : List Piece} (params filled : Dict)
    (hnames : ((filled ++ params).map Prod.fst).Nodup)
    (hclean : cleanFrom literal pieces filled params = true) :
    renderWith literal (String.ofList (pieces.flatMap (fillPiece (fillWith literal filled))))
        params =
      String.ofList (pieces.flatMap (fillPiece (fillWith literal (filled ++ params)))) := by
  induction params generalizing filled with
  | nil =>
      rw [List.append_nil]
      rfl
  | cons param rest ih =>
      rcases param with ⟨name, v⟩
      simp only [cleanFrom, Bool.and_eq_true] at hclean
      have hname : name ∉ filled.map Prod.fst := by
        intro hin
        rw [List.map_append, List.map_cons] at hnames
        exact (List.nodup_append.mp hnames).2.2 name hin name List.mem_cons_self rfl
      -- The parameter moves over to those that are filled in.
      have hsplit : filled ++ (name, v) :: rest = filled ++ [(name, v)] ++ rest := by
        rw [List.append_assoc]
        rfl
      rw [hsplit] at hnames
      rw [hsplit, ← ih (filled ++ [(name, v)]) hnames hclean.2, ← replace_fills hname hclean.1]
      rfl

/-- Where no parameter stands but for itself, and every value that is used is
    written as its literal, the output is the simultaneous substitution. -/
theorem render_substitutes (u : Unicode) (r : Renderer) (sql : String) (params : Dict)
    (hnames : (params.map Prod.fst).Nodup) (hclean : r.clean u sql params = true)
    (hwrites : r.WritesAll u sql params) : Substitutes u sql params (r.render u sql params) := by
  refine ⟨fun name => (fillWith (r.literal u) params name).getD "", ?_, ?_⟩
  · intro p hp hused
    have hlookup : params.lookup p.1 = some p.2 := lookup_of_mem params hnames hp
    have hfill : fillWith (r.literal u) params p.1 = some (r.literal u p.2) := by
      unfold fillWith
      rw [hlookup]
      rfl
    dsimp only
    rw [hfill]
    exact (isLiteral_iff_writes u r p.2).mpr (hwrites p hp hused)
  · have hempty : String.ofList ((tokenize u sql).flatMap
        (fillPiece (fillWith (r.literal u) []))) = sql := by
      have htext : fillPiece (fillWith (r.literal u) []) = Piece.text := by
        funext p
        cases p <;> rfl
      rw [htext, tokenize, text_tokenizeFrom, List.drop_zero, String.ofList_toList]
    have hfills := render_fills params [] hnames hclean
    rw [hempty, List.nil_append] at hfills
    rw [Renderer.render_eq, hfills]
    -- Filling from the mapping is filling the names it has.
    have hfill : fillWith (r.literal u) params = fun name =>
        if name ∈ params.map Prod.fst then
          some ((fillWith (r.literal u) params name).getD "") else none := by
      funext name
      split_ifs with hin
      · rcases List.mem_map.mp hin with ⟨p, hp, hname⟩
        have hlookup := lookup_of_mem params hnames hp
        rw [← hname, fillWith, hlookup]
        rfl
      · rw [fillWith, lookup_eq_none_of_not_mem hin]
        rfl
    rw [fillTokens, ← hfill]

/-- Two parameters, the second with a colon and a quote in it. -/
theorem render_substitutes_shop :
    Substitutes default "x = :a AND y = :b" [("a", .int 1), ("b", .str "it's :c")]
      (renderSqlParameters default "x = :a AND y = :b" [("a", .int 1), ("b", .str "it's :c")]) := by
  refine render_substitutes default .structured _ _ ?_ (by decide) ?_
  · decide
  · intro p hp _
    rcases List.mem_cons.mp hp with h | h
    · rw [h]
      trivial
    · rw [List.mem_singleton.mp h]
      trivial

/-- A name that another one begins with, and the value `:ab` should have. -/
def prefixParams : Dict := [("a", .int 1), ("ab", .int 2)]

/-- All three write the shorter parameter into the token of the longer. -/
theorem render_shorter_first (r : Renderer) : r.render default ":ab" prefixParams = "1b" := by
  cases r <;> decide

/-- None of the three substitutes simultaneously. -/
theorem prefix_not_substituted :
    ¬ Substitutes default ":ab" prefixParams (renderSqlParameters default ":ab" prefixParams) ∧
      ¬ Substitutes default ":ab" prefixParams (substituteParams default ":ab" prefixParams) ∧
      ¬ Substitutes default ":ab" prefixParams (preQuerySubstitute default ":ab" prefixParams) := by
  have hnot : ∀ r : Renderer, ¬ Substitutes default ":ab" prefixParams
      (r.render default ":ab" prefixParams) := by
    intro r hsub
    rw [render_shorter_first] at hsub
    rcases hsub with ⟨literal, hliteral, houtput⟩
    have hpieces : tokenize default ":ab" = [.token ['a', 'b']] := by decide
    have htwo : literal "ab" = toString (2 : Int) := by
      refine hliteral ("ab", .int 2) (by simp [prefixParams]) ?_
      rw [hpieces]
      decide
    have hfilled : fillTokens default (fun name =>
        if name ∈ prefixParams.map Prod.fst then some (literal name) else none) ":ab" =
          literal "ab" := by
      have hname : String.ofList ['a', 'b'] = "ab" := by decide
      have hin : "ab" ∈ prefixParams.map Prod.fst := by decide
      rw [fillTokens, hpieces, List.flatMap_singleton, fillPiece, hname, if_pos hin]
      exact String.ofList_toList
    rw [hfilled, htwo] at houtput
    exact absurd houtput (by decide)
  exact ⟨hnot .structured, hnot .template, hnot .preQuery⟩

end Render

end AgenticRag
