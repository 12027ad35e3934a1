import AgenticRag.Core.Graph
import AgenticRag.Lib.Driven

/-!
# Delivery

What the user is shown at the end of a run. Two nodes before the last one
write the final answer: the renderer, which drops every claim that is not
supported, and the fallback, which says why the run was given up. The last
node runs after either and writes the final answer again.

The renderer keeps its promise. `redacted` blanks what is not supported, and
`render_redacted` says that the rendered text does not see the difference. The
last node takes the raw answer instead, so two answers that differ only in
what is not supported are delivered alike only where the raw answers are equal
(`delivered_eq_iff`).

The fallback's text meets the same end. It survives only if the raw answer
happened to be that text already (`fallback_delivered_iff`).

## Main definitions

* `AnswerAst.redacted`: The tree without what is not supported.
* `Abandonment`: The run from a quality gate that gives up.

## Theorems

* `render_redacted`: The renderer writes nothing that is not supported.
* `delivered_eq_iff`: When two deliveries agree.
* `fallback_delivered_iff`: When the fallback's answer is delivered.
-/

namespace AgenticRag

open Py Driven

section Redaction

/-- Blank a claim that is not supported. -/
def ParagraphChild.redacted : ParagraphChild → ParagraphChild
  | .claim node =>
      .claim (if node.finalStatus = statusSupported then node else { node with text := "" })
  | .narrative text => .narrative text

/-- Blank a row that is not supported. -/
def RowClaim.redacted (row : RowClaim) : RowClaim :=
  if row.finalStatus = statusSupported then row else { row with rowValues := [] }

mutual

/-- A node without its other claims. -/
def redactContent : SectionContent → SectionContent
  | .paragraph children => .paragraph (children.map ParagraphChild.redacted)
  | .table headers rowClaims => .table headers (rowClaims.map RowClaim.redacted)
  | .section title level content => .section title level (redactContents content)

/-- Nodes without their other claims. -/
def redactContents : List SectionContent → List SectionContent
  | [] => []
  | node :: rest => redactContent node :: redactContents rest

end

/-- The tree without the texts that are not supported. -/
def AnswerAst.redacted (ast : AnswerAst) : AnswerAst :=
  { ast with content := redactContents ast.content }

theorem renderChild_redacted (child : ParagraphChild) :
    renderChild child.redacted = renderChild child := by
  cases child with
  | narrative text => rfl
  | claim node =>
      by_cases hstatus : node.finalStatus = statusSupported
      · simp only [ParagraphChild.redacted, hstatus, if_true]
      -- What was blanked is not written in either case.
      · simp only [ParagraphChild.redacted, renderChild, hstatus, if_false]

theorem renderParagraph_redacted (children : List ParagraphChild) :
    renderParagraph (children.map ParagraphChild.redacted) = renderParagraph children := by
  rw [renderParagraph, renderParagraph, List.filterMap_map]
  exact congrArg _ (List.filterMap_congr fun child _ => renderChild_redacted child)

/-- The rows that are shown are the rows that were not blanked. -/
theorem visibleRows_redacted (rowClaims : List RowClaim) :
    (rowClaims.map RowClaim.redacted).filter (fun row => row.finalStatus = statusSupported) =
      rowClaims.filter (fun row => row.finalStatus = statusSupported) := by
  induction rowClaims with
  | nil => rfl
  | cons row rest ih =>
      by_cases hstatus : row.finalStatus = statusSupported
      · simp [RowClaim.redacted, hstatus, ih]
      · simp [RowClaim.redacted, hstatus, ih]

theorem renderTable_redacted (headers : List String) (rowClaims : List RowClaim) :
    renderTable headers (rowClaims.map RowClaim.redacted) = renderTable headers rowClaims := by
  simp only [renderTable, visibleRows_redacted]

mutual

theorem renderContent_redact : (node : SectionContent) →
    renderContent (redactContent node) = renderContent node
  | .paragraph children => by
      rw [redactContent, renderContent, renderContent, renderParagraph_redacted]
  | .table headers rowClaims => by
      rw [redactContent, renderContent, renderContent, renderTable_redacted]
  | .section title level content => by
      rw [redactContent, renderContent, renderContent, renderContents_redact content]

theorem renderContents_redact : (content : List SectionContent) →
    renderContents (redactContents content) = renderContents content
  | [] => rfl
  | node :: rest => by
      rw [redactContents, renderContents, renderContents, renderContent_redact node,
        renderContents_redact rest]

end

/-- The renderer writes nothing that is not supported. -/
theorem render_redacted (ast : AnswerAst) : ast.redacted.render = ast.render := by
  rw [AnswerAst.render, AnswerAst.render, AnswerAst.redacted, renderContent, renderContent,
    renderContents_redact]

end Redaction

section Noninterference

/-- The tree the renderer sees, brought up to date with the claims. -/
def AgentState.shownAst (s : AgentState) : Option AnswerAst :=
  s.answerAst.map (syncClaimStatuses (buildClaimStatusMap s.claims))

/-- States that differ only in the texts of claims that are not supported, and
    in the raw answer that contains them. -/
structure DifferInUnsupported (s t : AgentState) : Prop where
  frame : t = { s with
    generatedAnswer := t.generatedAnswer
    answerWithCitations := t.answerWithCitations
    answerAst := t.answerAst
    claims := t.claims }
  claims : List.Forall₂ (fun c d => d = { c with text := d.text } ∧
    (c.finalStatus = .supported → d = c)) s.claims t.claims
  ast : t.shownAst.map AnswerAst.redacted = s.shownAst.map AnswerAst.redacted

/-- The run from the hallucination node on. -/
def Delivery (rt : Runtime) (ω : Nat → World) (s : AgentState) (n : Nat) : Config :=
  runFor (step rt) ω ⟨.hallucination, s⟩ n

/-- A run whose answer was let through and that has no report to announce. -/
structure LetThrough (rt : Runtime) (ω : Nat → World) (s : AgentState) : Prop where
  enforced : s.currentEnforcement = .enforced
  renders : (Delivery rt ω s 1).node = .answerRenderer
  noReport : s.report.artifacts = []

/-- The hallucination node leaves the answer, the tree, the claims and the
    report as they are. -/
theorem hallucinationNode_frame (rt : Runtime) (w : VerifierWorld) (s : AgentState) :
    (hallucinationNode rt w s).1.generatedAnswer = s.generatedAnswer ∧
      (hallucinationNode rt w s).1.answerAst = s.answerAst ∧
      (hallucinationNode rt w s).1.claims = s.claims ∧
      (hallucinationNode rt w s).1.report = s.report := by
  cases hout : hallucinationNode rt w s with
  | mk t calls =>
  have houtcome := hallucinationNode_outcome rt w s
  rw [hout] at houtcome
  -- Every outcome sets the score, the action and the reason only.
  cases houtcome <;> exact ⟨rfl, rfl, rfl, rfl⟩

/-- Only a pass or a filter goes on to the renderer. -/
theorem hallucinationDecision_answerRenderer {s : AgentState}
    (h : hallucinationDecision s = .answerRenderer) :
    s.hallucinationAction = .pass ∨ s.hallucinationAction = .filter := by
  unfold hallucinationDecision at h
  cases haction : s.hallucinationAction with
  | pass => exact .inl rfl
  | filter => exact .inr rfl
  | _ => rw [haction] at h; exact Node.noConfusion h

theorem answerRendererNode_finalAnswer {s : AgentState} {ast : AnswerAst}
    (h : s.shownAst = some ast) : (answerRendererNode s).finalAnswer = ast.render := by
  unfold AgentState.shownAst at h
  cases hast : s.answerAst with
  | none => rw [hast] at h; cases h
  | some raw =>
      rw [hast, Option.map_some, Option.some_inj] at h
      simp only [answerRendererNode, hast, h]

theorem answerRendererNode_frame (s : AgentState) :
    (answerRendererNode s).generatedAnswer = s.generatedAnswer ∧
      (answerRendererNode s).hallucinationAction = s.hallucinationAction ∧
      (answerRendererNode s).report = s.report := by
  simp only [answerRendererNode]
  cases s.answerAst <;> exact ⟨rfl, rfl, rfl⟩

/-- The last node delivers the raw answer of a pass or a filter. -/
theorem finalAnswerText_passed {s : AgentState} (hreport : s.report.artifacts = [])
    (haction : s.hallucinationAction = .pass ∨ s.hallucinationAction = .filter) :
    finalAnswerText s = s.generatedAnswer := by
  rcases haction with h | h <;> simp [finalAnswerText, hreport, h]

variable {rt : Runtime} {ω : Nat → World} {s : AgentState}

/-- The run of an answer that was let through, to its end. -/
theorem LetThrough.run (h : LetThrough rt ω s) :
    Delivery rt ω s 2 =
        ⟨.observability, answerRendererNode (hallucinationNode rt (ω 0).verifier s).1⟩ ∧
      Delivery rt ω s 4 =
        ⟨.finish, finalAnswerNode (answerRendererNode (hallucinationNode rt (ω 0).verifier s).1)⟩ := by
  have hedge : hallucinationDecision (hallucinationNode rt (ω 0).verifier s).1 = .answerRenderer :=
    h.renders
  have hrender : Delivery rt ω s 2 =
      ⟨.observability, answerRendererNode (hallucinationNode rt (ω 0).verifier s).1⟩ := by
    simp only [Delivery, runFor, step, hedge]
  refine ⟨hrender, ?_⟩
  -- The record and the last node follow, with no edge to choose.
  change step rt (ω 3) (step rt (ω 2) (Delivery rt ω s 2)) = _
  rw [hrender]
  rfl

/-- An answer that was let through has a tree. -/
theorem LetThrough.shownAst (h : LetThrough rt ω s) : ∃ ast, s.shownAst = some ast := by
  cases hast : s.answerAst with
  | some ast => exact ⟨_, by rw [AgentState.shownAst, hast]; rfl⟩
  | none =>
      -- Without a tree the enforced node rejects or asks for a new answer.
      have hedge : hallucinationDecision (hallucinationNode rt (ω 0).verifier s).1 =
          .answerRenderer := h.renders
      exfalso
      revert hedge
      simp only [hallucinationNode, h.enforced, hast, Option.isNone_none, if_true]
      split_ifs <;>
        simp [hallucinationDecision, AgentState.rejected, AgentState.scored, AgentState.disposed]

/-- The text that is delivered is the raw answer. -/
theorem LetThrough.delivered (h : LetThrough rt ω s) :
    (Delivery rt ω s 4).state.finalAnswer = s.generatedAnswer := by
  rcases hallucinationNode_frame rt (ω 0).verifier s with ⟨hanswer, -, -, hreport⟩
  rcases answerRendererNode_frame (hallucinationNode rt (ω 0).verifier s).1 with
    ⟨hraw, haction, hreport'⟩
  rw [h.run.2, ← hanswer, ← hraw]
  -- The last node reads the raw answer, not what the renderer wrote.
  refine finalAnswerText_passed (by rw [hreport', hreport, h.noReport]) ?_
  rw [haction]
  exact hallucinationDecision_answerRenderer h.renders

/-- What the renderer wrote on the way. -/
theorem LetThrough.rendered (h : LetThrough rt ω s) {ast : AnswerAst}
    (hast : s.shownAst = some ast) : (Delivery rt ω s 2).state.finalAnswer = ast.render := by
  rcases hallucinationNode_frame rt (ω 0).verifier s with ⟨-, htree, hclaims, -⟩
  rw [h.run.1]
  refine answerRendererNode_finalAnswer ?_
  rw [← hast, AgentState.shownAst, AgentState.shownAst, htree, hclaims]

/-- Two answers that were let through and differ only in what is not supported
    are rendered alike. They are delivered alike exactly when their raw answers
    are equal. -/
theorem delivered_eq_iff (rt : Runtime) (ω υ : Nat → World) (s t : AgentState)
    (hs : LetThrough rt ω s) (ht : LetThrough rt υ t) (hdiff : DifferInUnsupported s t) :
    (Delivery rt ω s 4).node = .finish ∧ (Delivery rt υ t 4).node = .finish ∧
      (Delivery rt υ t 2).state.finalAnswer = (Delivery rt ω s 2).state.finalAnswer ∧
      ((Delivery rt υ t 4).state.finalAnswer = (Delivery rt ω s 4).state.finalAnswer ↔
        t.generatedAnswer = s.generatedAnswer) := by
  rcases hs.shownAst with ⟨astS, hastS⟩
  rcases ht.shownAst with ⟨astT, hastT⟩
  -- The two trees are one tree once what is not supported is blanked.
  have hredacted : astT.redacted = astS.redacted := by
    have hast := hdiff.ast
    rw [hastS, hastT] at hast
    exact Option.some.inj hast
  refine ⟨?_, ?_, ?_, ?_⟩
  · rw [hs.run.2]
  · rw [ht.run.2]
  · rw [hs.rendered hastS, ht.rendered hastT, ← render_redacted astS, ← render_redacted astT, hredacted]
  · rw [hs.delivered, ht.delivered]

/-- An answer of two claims, the second of which is not supported. -/
def halfSupported (unsupported : String) : AgentState :=
  { enforcementMode := some .enforced
    evidence := [{ evidenceId := "e1", sourceType := .rag, content := "收入为100万元" }]
    generatedAnswer := "收入为100万元[1]" ++ unsupported
    answerAst := some
      { content := [.paragraph
          [.claim { claimId := "c1", text := "收入为100万元", citationIndices := [1],
                    finalStatus := "supported" },
           .claim { claimId := "c2", text := unsupported, finalStatus := "insufficient" }]] } }

/-- A world in which the gateway finds the answer faithful. -/
def faithfulWorld : World :=
  { (default : World) with
    verifier := { (default : VerifierWorld) with
      verifierResolves := true, gateway := .score (9 / 10) } }

theorem letThrough_halfSupported (rt : Runtime) (unsupported : String) :
    LetThrough rt (fun _ => faithfulWorld) (halfSupported unsupported) := by
  -- There are no claims to check, so the answer goes to the gateway as a whole.
  have hnode : (hallucinationNode rt faithfulWorld.verifier (halfSupported unsupported)).1 =
      (halfSupported unsupported).scored (9 / 10) (dispose (9 / 10) 0) := by
    have hanswer : (halfSupported unsupported).generatedAnswer ≠ "" := by simp [halfSupported]
    rw [hallucinationNode, if_neg hanswer]
    rfl
  have hdispose : dispose (9 / 10) 0 = .pass := by decide +kernel
  refine ⟨rfl, ?_, rfl⟩
  change hallucinationDecision
    (hallucinationNode rt faithfulWorld.verifier (halfSupported unsupported)).1 = _
  rw [hnode, hdispose]
  rfl

theorem differ_halfSupported (u v : String) :
    DifferInUnsupported (halfSupported u) (halfSupported v) :=
  ⟨rfl, .nil, rfl⟩

/-- The two answers are let through and rendered alike, and delivered with the
    texts that are not supported. -/
theorem delivered_eq_iff_halfSupported :
    LetThrough default (fun _ => faithfulWorld) (halfSupported "利润为30万元") ∧
      LetThrough default (fun _ => faithfulWorld) (halfSupported "利润为90万元") ∧
      ((Delivery default (fun _ => faithfulWorld) (halfSupported "利润为90万元") 4).state.finalAnswer =
          (Delivery default (fun _ => faithfulWorld) (halfSupported "利润为30万元") 4).state.finalAnswer ↔
        (halfSupported "利润为90万元").generatedAnswer =
          (halfSupported "利润为30万元").generatedAnswer) :=
  ⟨letThrough_halfSupported _ _, letThrough_halfSupported _ _,
    (delivered_eq_iff default _ _ _ _ (letThrough_halfSupported _ _)
      (letThrough_halfSupported _ _) (differ_halfSupported _ _)).2.2.2⟩

/-- What is not supported shows. -/
theorem unsupported_text_delivered :
    ∃ (ω : Nat → World) (s t : AgentState), DifferInUnsupported s t ∧ ∀ rt,
      LetThrough rt ω s ∧ LetThrough rt ω t ∧
        (Delivery rt ω t 4).state.finalAnswer ≠ (Delivery rt ω s 4).state.finalAnswer := by
  refine ⟨fun _ => faithfulWorld, halfSupported "利润为30万元", halfSupported "利润为90万元",
    differ_halfSupported _ _, fun rt => ⟨letThrough_halfSupported _ _,
      letThrough_halfSupported _ _, ?_⟩⟩
  rw [(letThrough_halfSupported rt _).delivered, (letThrough_halfSupported rt _).delivered]
  decide

end Noninterference

section Fallback

/-- The run from the quality gate on. -/
def Abandonment (rt : Runtime) (ω : Nat → World) (s : AgentState) (n : Nat) : Config :=
  runFor (step rt) ω ⟨.qualityCheck, s⟩ n

/-- A text with a part before it starts as that part does. -/
theorem head_append (c : Char) (p q : String) (h : p.toList.head? = some c) :
    (p ++ q).toList.head? = some c := by
  rw [String.toList_append, List.head?_append, h, Option.some_or]

theorem head_join (c : Char) (sep p : String) (rest : List String)
    (h : p.toList.head? = some c) : (join sep (p :: rest)).toList.head? = some c := by
  cases rest with
  | nil => exact h
  | cons q rest =>
      rw [join]
      exact head_append c _ _ (head_append c _ _ h)

/-- The fallback's answer starts with an asterisk. -/
theorem fallbackAnswer_head (s : AgentState) :
    (fallbackAnswer s).toList.head? = some '*' := by
  simp only [fallbackAnswer, List.append_assoc, List.singleton_append]
  exact head_join '*' _ _ _ (head_append '*' _ _ (head_append '*' _ _ (by decide)))

/-- A text that starts otherwise is not the fallback's answer. -/
theorem ne_fallbackAnswer {text : String} {c : Char} (s : AgentState)
    (h : text.toList.head? = some c) (hc : c ≠ '*') : text ≠ fallbackAnswer s := by
  intro heq
  rw [heq, fallbackAnswer_head] at h
  exact hc (Option.some.inj h).symm

theorem getRejectionMessage_ne (s : AgentState) (lang : QueryLang) :
    getRejectionMessage lang ≠ fallbackAnswer s := by
  cases lang with
  | zhCN => exact ne_fallbackAnswer (c := '抱') s (by decide) (by decide)
  | zhTW => exact ne_fallbackAnswer (c := '抱') s (by decide) (by decide)
  | en => exact ne_fallbackAnswer (c := 'I') s (by decide +kernel) (by decide)

theorem getConservativeAnswer_ne (s : AgentState) (context : String) (lang : QueryLang) :
    getConservativeAnswer context lang ≠ fallbackAnswer s := by
  rw [getConservativeAnswer]
  split_ifs
  · exact getRejectionMessage_ne s lang
  · cases lang with
    | zhCN => exact ne_fallbackAnswer s (head_append '根' _ _ (by decide)) (by decide)
    | zhTW => exact ne_fallbackAnswer s (head_append '根' _ _ (by decide)) (by decide)
    | en => exact ne_fallbackAnswer s (head_append 'B' _ _ (by decide)) (by decide)

theorem dumps_ne (s : AgentState) (d : Dict) : (Val.dict d).dumps ≠ fallbackAnswer s := by
  rw [Val.dumps]
  exact ne_fallbackAnswer s
    (head_append '\x7b' _ _ (head_append '\x7b' _ _ (by decide))) (by decide)

/-- The run of a gate that gives up goes by the fallback to the end. The
    fallback's answer is delivered exactly when the raw answer is that text
    already, no report is announced and no rejection is left over. -/
theorem fallback_delivered_iff (rt : Runtime) (ω : Nat → World) (s : AgentState)
    (hreason : s.terminationReason ≠ "") :
    (Abandonment rt ω s 1).node = .fallback ∧ (Abandonment rt ω s 2).node = .observability ∧
      (Abandonment rt ω s 3).node = .answerOutput ∧ (Abandonment rt ω s 4).node = .finish ∧
      (Abandonment rt ω s 2).state.finalAnswer = fallbackAnswer s ∧
      ((Abandonment rt ω s 4).state.finalAnswer = (Abandonment rt ω s 2).state.finalAnswer ↔
        s.report.artifacts = [] ∧ s.hallucinationAction ≠ .reject ∧
          s.hallucinationAction ≠ .exhausted ∧ s.generatedAnswer = fallbackAnswer s) := by
  -- The reason to terminate comes before whatever the gate decides.
  have hedge : qualityCheckDecision (qualityCheckNode s) = .fallback := if_pos hreason
  have hfirst : Abandonment rt ω s 1 = ⟨.fallback, qualityCheckNode s⟩ := by
    simp only [Abandonment, runFor, step, hedge]
  have hsecond : Abandonment rt ω s 2 = ⟨.observability, fallbackNode (qualityCheckNode s)⟩ := by
    change step rt (ω 1) (Abandonment rt ω s 1) = _
    rw [hfirst]
    rfl
  have hthird : Abandonment rt ω s 3 = ⟨.answerOutput, fallbackNode (qualityCheckNode s)⟩ := by
    change step rt (ω 2) (Abandonment rt ω s 2) = _
    rw [hsecond]
    rfl
  have hfourth : Abandonment rt ω s 4 =
      ⟨.finish, finalAnswerNode (fallbackNode (qualityCheckNode s))⟩ := by
    change step rt (ω 3) (Abandonment rt ω s 3) = _
    rw [hthird]
    rfl
  rw [hfirst, hsecond, hthird, hfourth]
  refine ⟨rfl, rfl, rfl, rfl, rfl, ?_⟩
  change finalAnswerText (fallbackNode (qualityCheckNode s)) = fallbackAnswer s ↔ _
  -- Neither the gate nor the fallback writes a field the last node reads.
  have hframe : finalAnswerText (fallbackNode (qualityCheckNode s)) = finalAnswerText s := rfl
  rw [hframe, finalAnswerText]
  -- A report, a rejection and a conservative answer all start otherwise.
  by_cases hreport : s.report.artifacts = []
  · cases haction : s.hallucinationAction with
    | reject => simp [hreport, getRejectionMessage_ne]
    | exhausted => simp [hreport, getConservativeAnswer_ne]
    | _ => simp [hreport]
  · simp [hreport, dumps_ne]

/-- A run that gave up, with nothing generated. -/
def gaveUp : AgentState :=
  { userQuestion := "本月销售额", terminationReason := "budget_exhausted" }

theorem fallback_delivered_gaveUp :
    gaveUp.terminationReason ≠ "" ∧
      ((Abandonment default default gaveUp 4).state.finalAnswer =
          (Abandonment default default gaveUp 2).state.finalAnswer ↔
        gaveUp.report.artifacts = [] ∧ gaveUp.hallucinationAction ≠ .reject ∧
          gaveUp.hallucinationAction ≠ .exhausted ∧
          gaveUp.generatedAnswer = fallbackAnswer gaveUp) :=
  ⟨by decide, (fallback_delivered_iff default default gaveUp (by decide)).2.2.2.2.2⟩

/-- The fallback's answer is replaced by the empty text. -/
theorem fallback_answer_lost :
    ∃ s : AgentState, s.terminationReason ≠ "" ∧ ∀ rt ω,
      (Abandonment rt ω s 2).state.finalAnswer = fallbackAnswer s ∧ fallbackAnswer s ≠ "" ∧
        (Abandonment rt ω s 4).state.finalAnswer = "" := by
  refine ⟨gaveUp, by decide, fun rt ω => ⟨rfl, ?_, rfl⟩⟩
  intro hempty
  have hhead := fallbackAnswer_head gaveUp
  rw [hempty] at hhead
  cases hhead

end Fallback

end AgenticRag
