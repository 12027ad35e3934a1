import AgenticRag.Core.AnswerAst
import AgenticRag.Lib.Pieces

/-!
# Pruned Answers

The renderer decides at every node whether to write it, and joins what it has
written on three levels, each of which leaves out what is empty. Two things are
to be said about the text at the end. It is the text of the tree from which
everything unsupported was cut off beforehand, so a claim that is not supported
leaves no trace, not even a separator. And every supported claim is in it, with
its citation marks, in the order of the document.

The second is said by taking the text apart into pieces. `Written` holds when a
text has pieces of which those that were given are exactly the given claims, in
order. It passes through a join, whether or not the empty parts are dropped:
an empty part can only have held empty claims, which are written anywhere.

## Main definitions

* `pruneContent`, `AnswerAst.pruned`: The tree without what is not supported.
* `Written`: The given claims stand in a text, in order.

## Theorems

* `renderContents_pruned`: What is cut off was not written.
* `written_renderContent`: What is supported is written, in order.
* `render_pruned_and_written`: Both, for the whole answer.
-/

namespace AgenticRag

open Py

section Pruning

/-- A claim stays if it is supported, a connecting text always. -/
def keepsChild : ParagraphChild → Bool
  | .claim node => decide (node.finalStatus = statusSupported)
  | .narrative _ => true

/-- The row is supported. -/
def keepsRow (row : RowClaim) : Bool := decide (row.finalStatus = statusSupported)

mutual

/-- Cut off what is not supported, and a table that is left without rows. -/
def pruneContent : SectionContent → Option SectionContent
  | .paragraph children => some (.paragraph (children.filter keepsChild))
  | .table headers rowClaims =>
      if rowClaims.filter keepsRow = [] then none
      else some (.table headers (rowClaims.filter keepsRow))
  | .section title level content => some (.section title level (pruneContents content))

/-- What is left of nodes. -/
def pruneContents : List SectionContent → List SectionContent
  | [] => []
  | node :: rest => (pruneContent node).toList ++ pruneContents rest

end

/-- The answer without what is not supported. -/
def AnswerAst.pruned (ast : AnswerAst) : AnswerAst :=
  { ast with content := pruneContents ast.content }

theorem renderParagraph_pruned (children : List ParagraphChild) :
    renderParagraph (children.filter keepsChild) = renderParagraph children := by
  have hchildren : (children.filter keepsChild).filterMap renderChild =
      children.filterMap renderChild := by
    -- A child that is not kept is rendered as nothing.
    rw [List.filterMap_filter]
    refine List.filterMap_congr fun child _ => ?_
    cases child with
    | narrative text => rfl
    | claim node =>
        by_cases hstatus : node.finalStatus = statusSupported
        · simp [keepsChild, hstatus]
        · simp [keepsChild, renderChild, hstatus]
  rw [renderParagraph, renderParagraph, hchildren]

/-- A table without a supported row is written as nothing. -/
theorem renderTable_of_empty (headers : List String) {rowClaims : List RowClaim}
    (h : rowClaims.filter keepsRow = []) : renderTable headers rowClaims = "" := by
  unfold keepsRow at h
  unfold renderTable
  rw [h]
  rfl

theorem renderTable_pruned (headers : List String) (rowClaims : List RowClaim) :
    renderTable headers (rowClaims.filter keepsRow) = renderTable headers rowClaims := by
  unfold renderTable keepsRow
  rw [List.filter_filter]
  simp only [Bool.and_self]

/-- Parts that are empty make no difference to the parts that are joined. -/
theorem joinParts_congr {parts parts' : List String}
    (h : parts.filter (· ≠ "") = parts'.filter (· ≠ "")) : joinParts parts = joinParts parts' := by
  rw [joinParts, joinParts, h]

mutual

/-- What is left of a node is written as the node, and a node that is cut off
    was written as nothing. -/
theorem renderContent_pruned : (node : SectionContent) →
    (renderContents (pruneContent node).toList).filter (· ≠ "") =
      [renderContent node].filter (· ≠ "")
  | .paragraph children => by
      rw [pruneContent, Option.toList_some, renderContents, renderContents, renderContent,
        renderContent, renderParagraph_pruned]
  | .table headers rowClaims => by
      by_cases hrows : rowClaims.filter keepsRow = []
      · rw [pruneContent, if_pos hrows, Option.toList_none, renderContents, renderContent,
          renderTable_of_empty headers hrows]
        rfl
      · rw [pruneContent, if_neg hrows, Option.toList_some, renderContents, renderContents,
          renderContent, renderContent, renderTable_pruned]
  | .section title level content => by
      -- Below the heading the parts are the same but for empty ones.
      have hjoin : joinParts (renderHeading title level ++ renderContents (pruneContents content)) =
          joinParts (renderHeading title level ++ renderContents content) := by
        refine joinParts_congr ?_
        rw [List.filter_append, List.filter_append, renderContents_pruned content]
      rw [pruneContent, Option.toList_some, renderContents, renderContents, renderContent,
        renderContent, hjoin]

theorem renderContents_pruned : (content : List SectionContent) →
    (renderContents (pruneContents content)).filter (· ≠ "") =
      (renderContents content).filter (· ≠ "")
  | [] => rfl
  | node :: rest => by
      have happend : ∀ xs ys : List SectionContent,
          renderContents (xs ++ ys) = renderContents xs ++ renderContents ys := by
        intro xs ys
        induction xs with
        | nil => rfl
        | cons x xs ih =>
            rw [List.cons_append, renderContents, renderContents, ih, List.cons_append]
      rw [pruneContents, happend, List.filter_append, renderContent_pruned node,
        renderContents_pruned rest, ← List.filter_append, renderContents, List.singleton_append]

end

/-- The renderer writes the tree as if what is not supported had never been
    there. -/
theorem render_pruned (ast : AnswerAst) : ast.pruned.render = ast.render := by
  have hjoin : joinParts (renderHeading ast.title ast.level ++
      renderContents (pruneContents ast.content)) =
      joinParts (renderHeading ast.title ast.level ++ renderContents ast.content) := by
    refine joinParts_congr ?_
    rw [List.filter_append, List.filter_append, renderContents_pruned]
  rw [AnswerAst.render, AnswerAst.render, AnswerAst.pruned, renderContent, renderContent, hjoin]

end Pruning

section Claims

/-- The marks behind a claim: each number it cites, in brackets. -/
def marks : List Int → String
  | [] => ""
  | i :: rest => "[" ++ toString i ++ "]" ++ marks rest

/-- A row of a table with its marks: under each heading its cell, or nothing
    where it has none. -/
def markedRow (headers : List String) (row : RowClaim) : String :=
  "| " ++ join " | " (headers.map (fun h => (row.rowValues.lookup h).getD "")) ++ " |" ++
    marks row.citationIndices

/-- A supported claim with its marks, under its id. -/
def childClaim : ParagraphChild → Option (String × String)
  | .claim node =>
      if node.finalStatus = statusSupported then
        some (node.claimId, node.text ++ marks node.citationIndices)
      else none
  | .narrative _ => none

mutual

/-- The supported claims and rows below a node, in the order of the document. -/
def contentClaims : SectionContent → List (String × String)
  | .paragraph children => children.filterMap childClaim
  | .table headers rowClaims =>
      (rowClaims.filter keepsRow).map (fun row => (row.claimId, markedRow headers row))
  | .section _ _ content => contentsClaims content

/-- The claims in nodes. -/
def contentsClaims : List SectionContent → List (String × String)
  | [] => []
  | node :: rest => contentClaims node ++ contentsClaims rest

end

/-- The claims that are written. -/
def AnswerAst.supportedClaims (ast : AnswerAst) : List (String × String) :=
  contentsClaims ast.content

/-- A text has pieces of which the given ones are the claims, in order. -/
def Written (claims : List (String × String)) (text : String) : Prop :=
  ∃ ps : List (Piece String), flat ps = text ∧ given ps = claims

theorem written_own (text : String) : Written [] text :=
  ⟨[.own text], by rw [flat_own, flat_nil, String.append_empty], rfl⟩

theorem written_one (claimId text : String) : Written [(claimId, text)] text :=
  ⟨[.user claimId text], by rw [flat_user, flat_nil, String.append_empty], rfl⟩

theorem Written.append {claims claims' : List (String × String)} {text text' : String}
    (h : Written claims text) (h' : Written claims' text') :
    Written (claims ++ claims') (text ++ text') := by
  rcases h with ⟨ps, rfl, rfl⟩
  rcases h' with ⟨qs, rfl, rfl⟩
  exact ⟨ps ++ qs, flat_append ps qs, List.filterMap_append⟩

/-- Claims that stand in the parts stand in the joined text. -/
theorem written_join (sep : String) {claims : List (List (String × String))}
    {parts : List String} (h : List.Forall₂ Written claims parts) :
    Written claims.flatten (join sep parts) := by
  induction h with
  | nil => exact written_own ""
  | @cons cs part claims parts hpart hrest ih =>
      -- The separator stands between two parts and holds no claim.
      cases hrest with
      | nil =>
          rw [List.flatten_cons, List.flatten_nil, List.append_nil]
          exact hpart
      | cons hnext hrest =>
          have hsep := (hpart.append (written_own sep)).append ih
          rwa [List.append_nil] at hsep

/-- And so they do if the empty parts are dropped. -/
theorem written_joinParts {claims : List (List (String × String))} {parts : List String}
    (h : List.Forall₂ Written claims parts) : Written claims.flatten (joinParts parts) := by
  induction h with
  | nil => exact written_own ""
  | @cons cs part claims parts hpart hrest ih =>
      rw [joinParts] at ih
      rw [joinParts, List.flatten_cons]
      by_cases hempty : part = ""
      · -- The claims of an empty part are empty, and stand before the rest.
        rw [List.filter_cons_of_neg (by simp [hempty])]
        have hbefore := hpart.append ih
        rwa [hempty, String.empty_append] at hbefore
      · rw [List.filter_cons_of_pos (by simp [hempty])]
        cases hkept : parts.filter (· ≠ "") with
        | nil =>
            rw [hkept] at ih
            have hlast := hpart.append ih
            rwa [join, String.append_empty] at hlast
        | cons next kept =>
            rw [hkept] at ih
            have hsep := (hpart.append (written_own "\n\n")).append ih
            rwa [List.append_nil] at hsep

end Claims

section Rendering

/-- The marks the renderer writes are those of the numbers cited. -/
theorem citationText_eq (indices : List Int) : citationText indices = marks indices := by
  induction indices with
  | nil => rfl
  | cons i rest ih =>
      rw [citationText] at ih ⊢
      rw [List.map_cons, String.join_cons, ih, marks]

theorem renderRow_eq (headers : List String) (row : RowClaim) :
    renderRow headers row = markedRow headers row := by
  rw [renderRow, citationText_eq, markedRow]

theorem written_renderParagraph (children : List ParagraphChild) :
    Written (children.filterMap childClaim) (renderParagraph children) := by
  have hparts : ∃ claims : List (List (String × String)),
      List.Forall₂ Written claims (children.filterMap renderChild) ∧
        claims.flatten = children.filterMap childClaim := by
    induction children with
    | nil => exact ⟨[], .nil, rfl⟩
    | cons child rest ih =>
        rcases ih with ⟨claims, hwritten, hflat⟩
        cases child with
        | narrative text =>
            exact ⟨[] :: claims, .cons (written_own text) hwritten, hflat⟩
        | claim node =>
            by_cases hstatus : node.finalStatus = statusSupported
            · refine ⟨[(node.claimId, node.text ++ marks node.citationIndices)] :: claims, ?_, ?_⟩
              · rw [List.filterMap_cons_some (by rw [renderChild, if_pos hstatus,
                  citationText_eq])]
                exact .cons (written_one _ _) hwritten
              · rw [List.filterMap_cons_some (by rw [childClaim, if_pos hstatus]),
                  List.flatten_cons, hflat, List.singleton_append]
            · -- A claim that is not supported is neither written nor counted.
              refine ⟨claims, ?_, ?_⟩
              · rwa [List.filterMap_cons_none (by rw [renderChild, if_neg hstatus])]
              · rwa [List.filterMap_cons_none (by rw [childClaim, if_neg hstatus])]
  rcases hparts with ⟨claims, hwritten, hflat⟩
  rw [← hflat, renderParagraph]
  exact written_join " " hwritten

theorem written_renderTable (headers : List String) (rowClaims : List RowClaim) :
    Written ((rowClaims.filter keepsRow).map (fun row => (row.claimId, markedRow headers row)))
      (renderTable headers rowClaims) := by
  by_cases hrows : rowClaims.filter keepsRow = []
  · rw [renderTable_of_empty headers hrows, hrows, List.map_nil]
    exact written_own ""
  have hlines : ∀ rows : List RowClaim, List.Forall₂ Written
      (rows.map (fun row => [(row.claimId, markedRow headers row)]))
      (rows.map (renderRow headers)) := by
    intro rows
    induction rows with
    | nil => exact .nil
    | cons row rest ih =>
        refine .cons ?_ ih
        rw [renderRow_eq]
        exact written_one _ _
  -- The two lines of the head come first, and hold no claim.
  have htable := written_join "\n"
    (.cons (written_own ("| " ++ join " | " headers ++ " |"))
      (.cons (written_own ("| " ++ join " | " (headers.map (fun _ => "---")) ++ " |"))
        (hlines (rowClaims.filter keepsRow))))
  have hclaims : ([] :: [] :: (rowClaims.filter keepsRow).map
      (fun row => [(row.claimId, markedRow headers row)])).flatten =
      (rowClaims.filter keepsRow).map (fun row => (row.claimId, markedRow headers row)) := by
    rw [List.flatten_cons, List.flatten_cons, List.nil_append, List.nil_append,
      ← List.flatMap_def, ← List.map_eq_flatMap]
  rw [hclaims] at htable
  unfold renderTable
  unfold keepsRow at hrows htable ⊢
  dsimp only
  rw [if_neg (by rwa [List.isEmpty_iff])]
  exact htable

mutual

/-- The supported claims of a node are written, in order. -/
theorem written_renderContent : (node : SectionContent) →
    Written (contentClaims node) (renderContent node)
  | .paragraph children => by
      rw [contentClaims, renderContent]
      exact written_renderParagraph children
  | .table headers rowClaims => by
      rw [contentClaims, renderContent]
      exact written_renderTable headers rowClaims
  | .section title level content => by
      rcases forall₂_renderContents content with ⟨claims, hwritten, hflat⟩
      rw [contentClaims, renderContent, ← hflat]
      -- The heading is a part of its own, if there is one.
      by_cases htitle : title = ""
      · rw [renderHeading, if_pos htitle, List.nil_append]
        exact written_joinParts hwritten
      · rw [renderHeading, if_neg htitle, List.singleton_append]
        have hparts := written_joinParts (.cons
          (written_own (String.ofList (List.replicate (max level 1).toNat '#') ++ " " ++ title))
          hwritten)
        rwa [List.flatten_cons, List.nil_append] at hparts

theorem forall₂_renderContents : (content : List SectionContent) →
    ∃ claims : List (List (String × String)),
      List.Forall₂ Written claims (renderContents content) ∧
        claims.flatten = contentsClaims content
  | [] => ⟨[], .nil, rfl⟩
  | node :: rest => by
      rcases forall₂_renderContents rest with ⟨claims, hwritten, hflat⟩
      refine ⟨contentClaims node :: claims, ?_, ?_⟩
      · rw [renderContents]
        exact .cons (written_renderContent node) hwritten
      · rw [List.flatten_cons, hflat, contentsClaims]

end

/-- What is stripped off a text is white space at its two ends. -/
theorem exists_strip (s : String) : ∃ left right : String, s = left ++ strip s ++ right ∧
    (∀ c ∈ left.toList, isSpace c = true) ∧ ∀ c ∈ right.toList, isSpace c = true := by
  have hspace : ∀ cs : List Char, ∀ c ∈ cs.takeWhile isSpace, isSpace c = true := by
    intro cs c hc
    exact List.all_eq_true.mp List.all_takeWhile c hc
  refine ⟨String.ofList (s.toList.takeWhile isSpace),
    String.ofList (((s.toList.dropWhile isSpace).reverse.takeWhile isSpace).reverse), ?_, ?_, ?_⟩
  · refine String.toList_inj.mp ?_
    rw [strip, String.toList_append, String.toList_append, String.toList_ofList,
      String.toList_ofList, String.toList_ofList, List.append_assoc, ← List.reverse_append,
      List.takeWhile_append_dropWhile, List.reverse_reverse, List.takeWhile_append_dropWhile]
  · intro c hc
    rw [String.toList_ofList] at hc
    exact hspace _ c hc
  · intro c hc
    rw [String.toList_ofList, List.mem_reverse] at hc
    exact hspace _ c hc

/-- The text of an answer is that of the answer without anything that is not
    supported, and up to white space around it the supported claims stand in it
    with their citation marks, in the order of the document. -/
theorem render_pruned_and_written (ast : AnswerAst) :
    ast.render = ast.pruned.render ∧
      ∃ left right : String, Written ast.supportedClaims (left ++ ast.render ++ right) ∧
        (∀ c ∈ left.toList, isSpace c = true) ∧ ∀ c ∈ right.toList, isSpace c = true := by
  refine ⟨(render_pruned ast).symm, ?_⟩
  -- The text is stripped at the end only.
  rcases exists_strip (renderContent (.section ast.title ast.level ast.content)) with
    ⟨left, right, hsplit, hleft, hright⟩
  refine ⟨left, right, ?_, hleft, hright⟩
  have hwritten := written_renderContent (.section ast.title ast.level ast.content)
  rw [contentClaims] at hwritten
  rw [AnswerAst.render, ← hsplit]
  exact hwritten

end Rendering

end AgenticRag
