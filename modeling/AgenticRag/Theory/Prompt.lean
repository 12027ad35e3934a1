import Mathlib.Algebra.Order.BigOperators.Group.List
import AgenticRag.Core.CitationBinder
import AgenticRag.Core.TokenBudget

/-!
# The Prompt

What the model gets to read of the fused evidence, and under which number.

The lines of a source are written in order of weight, as long as they fit the
quota of the source and the window. `assembleGroup_written` says that nothing
else is written; the rest of the module asks when a line is missing and when a
line is numbered.

Outside compact mode the lines carry no number at all, so the numbers agree
with the snapshot only in compact mode, or where nothing is written
(`prompt_numbered_iff`). In compact mode they agree because fused evidence is
ranked already and ranking it again changes nothing.

A line can be missing although the window has room for all of them. The quota
of a source is measured on the raw text of the tool and spent on formatted
lines, and sources the order of writing does not name are never written
(`prompt_complete_iff`).

## Main definitions

* `lineOf`, `lineTokens`: The line of a piece and what it costs.
* `NothingFits`, `EverythingFits`: What the budgets let through.

## Theorems

* `assembly_full_iff`: When everything is written.
* `prompt_numbered_iff`: When the numbers are those of the snapshot.
* `prompt_complete_iff`: When no evidence is missing.
-/

namespace AgenticRag

open Py Ordered

/-- The line of a piece, under its own source. -/
def lineOf (ev : Evidence) : String :=
  formatEvidence ev ev.sourceType

/-- The tokens of a line. -/
def lineTokens (rt : Runtime) (ev : Evidence) : Nat :=
  rt.numTokens (lineOf ev)

/-- The tokens of several lines. -/
def linesTokens (rt : Runtime) (evs : List Evidence) : Nat :=
  (evs.map (lineTokens rt)).sum

@[simp] theorem linesTokens_nil (rt : Runtime) : linesTokens rt [] = 0 :=
  rfl

@[simp] theorem linesTokens_cons (rt : Runtime) (ev : Evidence) (evs : List Evidence) :
    linesTokens rt (ev :: evs) = lineTokens rt ev + linesTokens rt evs :=
  rfl

@[simp] theorem linesTokens_append (rt : Runtime) (xs ys : List Evidence) :
    linesTokens rt (xs ++ ys) = linesTokens rt xs + linesTokens rt ys := by
  rw [linesTokens, List.map_append, List.sum_append]
  rfl

theorem linesTokens_dropLast_le (rt : Runtime) (evs : List Evidence) :
    linesTokens rt evs.dropLast ≤ linesTokens rt evs := by
  rcases List.eq_nil_or_concat' evs with rfl | ⟨init, last, rfl⟩
  · exact Nat.le_refl _
  · rw [List.dropLast_concat, linesTokens_append]
    exact Nat.le_add_right _ _

/-- The lines before the last one of a list in two parts. -/
theorem linesTokens_dropLast_append (rt : Runtime) (xs ys : List Evidence) :
    linesTokens rt (xs ++ ys).dropLast =
      if ys = [] then linesTokens rt xs.dropLast
      else linesTokens rt xs + linesTokens rt ys.dropLast := by
  by_cases hys : ys = []
  · rw [if_pos hys, hys, List.append_nil]
  · rw [if_neg hys, List.dropLast_append_of_ne_nil hys, linesTokens_append]

section Group

variable (rt : Runtime) (limit lockedTokens : Int) (st : SourceType) (quota : Nat)

/-- One turn of the loop, on a piece of the group's source. -/
theorem assembleGroup_cons {ev : Evidence} (hst : ev.sourceType = st) (rest : List Evidence)
    (a : Assembly) :
    assembleGroup rt limit lockedTokens st quota (ev :: rest) a =
      if quota ≤ a.toolUsed then a
      else if limit ≤ a.totalUsed + lockedTokens then { a with compactMode := true }
      else if quota < a.toolUsed + lineTokens rt ev then
        assembleGroup rt limit lockedTokens st quota rest a
      else if limit < a.totalUsed + lineTokens rt ev + lockedTokens then
        { a with compactMode := true }
      else assembleGroup rt limit lockedTokens st quota rest
        { a with
          parts := a.parts ++ [(ev, lineOf ev)]
          toolUsed := a.toolUsed + lineTokens rt ev
          totalUsed := a.totalUsed + lineTokens rt ev } := by
  subst hst
  rfl

/-- What is written comes from the group, in its order. -/
theorem assembleGroup_written (group : List Evidence) (a : Assembly)
    (hgroup : ∀ ev ∈ group, ev.sourceType = st) :
    ∃ written : List Evidence,
      (assembleGroup rt limit lockedTokens st quota group a).parts =
        a.parts ++ written.map (fun ev => (ev, lineOf ev)) ∧
      written.Sublist group := by
  induction group generalizing a with
  | nil => exact ⟨[], by simp [assembleGroup], List.Sublist.refl _⟩
  | cons ev rest ih =>
      rcases List.forall_mem_cons.mp hgroup with ⟨hev, hrest⟩
      rw [assembleGroup_cons rt limit lockedTokens st quota hev]
      split_ifs
      -- A spent quota and a spent window both end the loop.
      · exact ⟨[], by simp, List.nil_sublist _⟩
      · exact ⟨[], by simp, List.nil_sublist _⟩
      -- A line over the quota is passed over and the loop goes on.
      · rcases ih a hrest with ⟨written, hparts, hsub⟩
        exact ⟨written, hparts, hsub.cons ev⟩
      -- A line over the window ends the loop.
      · exact ⟨[], by simp, List.nil_sublist _⟩
      · rcases ih _ hrest with ⟨written, hparts, hsub⟩
        refine ⟨ev :: written, ?_, hsub.cons_cons ev⟩
        rw [hparts, List.map_cons, List.append_assoc, List.singleton_append]

/-- A line that is passed over leaves too few lines behind it. -/
theorem assembleGroup_ne_of_skip (ev : Evidence) (rest : List Evidence) (a : Assembly)
    (hrest : ∀ e ∈ rest, e.sourceType = st) :
    (assembleGroup rt limit lockedTokens st quota rest a).parts ≠
      a.parts ++ (ev :: rest).map (fun ev => (ev, lineOf ev)) := by
  intro hfull
  rcases assembleGroup_written rt limit lockedTokens st quota rest a hrest with
    ⟨written, hwritten, hsub⟩
  rw [hwritten] at hfull
  have hlength := congrArg List.length (List.append_cancel_left hfull)
  rw [List.length_map, List.length_map, List.length_cons] at hlength
  have hle := hsub.length_le
  omega

/-- Nothing of the group fits: it has no quota, or the first line within the
    quota is too long for the window. -/
def GroupBlocked (group : List Evidence) : Prop :=
  quota = 0 ∨ ∀ ev, group.find? (fun ev => lineTokens rt ev ≤ quota) = some ev →
    limit < lineTokens rt ev + lockedTokens

/-- A fresh assembly writes nothing exactly when the group is blocked, and
    then its account is as before. -/
theorem assembleGroup_nil_iff (hroom : lockedTokens < limit) (group : List Evidence)
    (a : Assembly) (hgroup : ∀ ev ∈ group, ev.sourceType = st)
    (hparts : a.parts = []) (htool : a.toolUsed = 0) (htotal : a.totalUsed = 0) :
    ((assembleGroup rt limit lockedTokens st quota group a).parts = [] ↔
        GroupBlocked rt limit lockedTokens quota group) ∧
      ((assembleGroup rt limit lockedTokens st quota group a).parts = [] →
        (assembleGroup rt limit lockedTokens st quota group a).totalUsed = 0) := by
  induction group with
  | nil => simp [assembleGroup, GroupBlocked, hparts, htotal]
  | cons ev rest ih =>
      rcases List.forall_mem_cons.mp hgroup with ⟨hev, hrest⟩
      -- Nothing is used yet, so neither budget is spent by what came before.
      have hwindow : ¬ limit ≤ a.totalUsed + lockedTokens := by omega
      rw [assembleGroup_cons rt limit lockedTokens st quota hev, if_neg hwindow]
      by_cases hquota : quota = 0
      · rw [if_pos (by omega)]
        exact ⟨iff_of_true hparts (.inl hquota), fun _ => htotal⟩
      rw [if_neg (by omega)]
      by_cases hlong : quota < lineTokens rt ev
      -- A line over the quota decides nothing, and the search goes past it too.
      · rw [if_pos (by omega)]
        have hskip : GroupBlocked rt limit lockedTokens quota (ev :: rest) ↔
            GroupBlocked rt limit lockedTokens quota rest := by
          rw [GroupBlocked, GroupBlocked, List.find?_cons_of_neg (by simpa using hlong)]
        rw [hskip]
        exact ih hrest
      rw [if_neg (by omega)]
      -- This is the first line within the quota, so it alone decides.
      have hfirst : GroupBlocked rt limit lockedTokens quota (ev :: rest) ↔
          limit < lineTokens rt ev + lockedTokens := by
        rw [GroupBlocked, List.find?_cons_of_pos (by simpa using hlong)]
        simp [hquota]
      by_cases hover : limit < lineTokens rt ev + lockedTokens
      · rw [if_pos (by omega)]
        exact ⟨iff_of_true hparts (hfirst.mpr hover), fun _ => htotal⟩
      · rw [if_neg (by omega), hfirst]
        -- The line is written, and what is written stays.
        rcases assembleGroup_written rt limit lockedTokens st quota rest
          { a with
            parts := a.parts ++ [(ev, lineOf ev)]
            toolUsed := a.toolUsed + lineTokens rt ev
            totalUsed := a.totalUsed + lineTokens rt ev } hrest with ⟨written, hwritten, -⟩
        rw [hwritten]
        exact ⟨iff_of_false (by simp) hover, fun hnil => absurd hnil (by simp)⟩

/-- With room in the window for the whole group, all of it is written exactly
    when it fits the quota and neither budget is spent before the last line.
    The account then holds the whole group. -/
theorem assembleGroup_full_iff (group : List Evidence) (a : Assembly)
    (hgroup : ∀ ev ∈ group, ev.sourceType = st)
    (hroom : a.totalUsed + linesTokens rt group + lockedTokens ≤ limit) :
    ((assembleGroup rt limit lockedTokens st quota group a).parts =
          a.parts ++ group.map (fun ev => (ev, lineOf ev)) ↔
        group = [] ∨ (a.toolUsed + linesTokens rt group ≤ quota ∧
          a.toolUsed + linesTokens rt group.dropLast < quota ∧
          a.totalUsed + linesTokens rt group.dropLast + lockedTokens < limit)) ∧
      ((assembleGroup rt limit lockedTokens st quota group a).parts =
          a.parts ++ group.map (fun ev => (ev, lineOf ev)) →
        (assembleGroup rt limit lockedTokens st quota group a).totalUsed =
          a.totalUsed + linesTokens rt group) := by
  induction group generalizing a with
  | nil => simp [assembleGroup]
  | cons ev rest ih =>
      rcases List.forall_mem_cons.mp hgroup with ⟨hev, hrest⟩
      rw [linesTokens_cons] at hroom ⊢
      push_cast at hroom
      have hdrop : linesTokens rt (ev :: rest).dropLast =
          if rest = [] then 0 else lineTokens rt ev + linesTokens rt rest.dropLast := by
        cases rest <;> rfl
      rw [hdrop]
      -- Stopping here or passing the line over leaves it out for good.
      have hstop : a.parts ≠ a.parts ++ (ev :: rest).map (fun ev => (ev, lineOf ev)) := by simp
      have hskip := assembleGroup_ne_of_skip rt limit lockedTokens st quota ev rest a hrest
      rw [assembleGroup_cons rt limit lockedTokens st quota hev]
      by_cases hspent : quota ≤ a.toolUsed
      · rw [if_pos hspent]
        refine ⟨iff_of_false hstop ?_, fun hfull => absurd hfull hstop⟩
        rintro (hnil | ⟨-, hquota, -⟩)
        · cases hnil
        · omega
      rw [if_neg hspent]
      by_cases hwindow : limit ≤ a.totalUsed + lockedTokens
      · rw [if_pos hwindow]
        refine ⟨iff_of_false hstop ?_, fun hfull => absurd hfull hstop⟩
        rintro (hnil | ⟨-, -, hlimit⟩)
        · cases hnil
        · omega
      rw [if_neg hwindow]
      by_cases hlong : quota < a.toolUsed + lineTokens rt ev
      · rw [if_pos hlong]
        refine ⟨iff_of_false hskip ?_, fun hfull => absurd hfull hskip⟩
        rintro (hnil | ⟨hquota, -, -⟩)
        · cases hnil
        · omega
      -- The window has room for the whole group, so the line is written.
      rw [if_neg hlong, if_neg (by omega)]
      have hnext := ih
        { a with
          parts := a.parts ++ [(ev, lineOf ev)]
          toolUsed := a.toolUsed + lineTokens rt ev
          totalUsed := a.totalUsed + lineTokens rt ev } hrest (by push_cast; omega)
      rw [List.append_assoc, List.singleton_append] at hnext
      rw [List.map_cons, hnext.1]
      refine ⟨?_, fun hfull => (hnext.2 (hnext.1.mpr hfull)).trans (Nat.add_assoc _ _ _)⟩
      -- Only the last line may bring a budget to its end.
      by_cases hlast : rest = []
      · subst hlast
        simp only [true_or, if_true, linesTokens_nil, reduceCtorEq, false_or, true_iff]
        omega
      · simp only [hlast, if_false, false_or, reduceCtorEq]
        push_cast
        omega

end Group

section Sources

variable (rt : Runtime) (limit lockedTokens : Int) (counts : TokenCounts)
  (evidences : List Evidence)

/-- The evidence of several sources, in the order of writing. -/
def orderedEvidence (order : List SourceType) : List Evidence :=
  order.flatMap (sourceGroup evidences)

/-- Write one source after what is written already. -/
def writeSource (a : Assembly) (st : SourceType) : Assembly :=
  assembleGroup rt limit lockedTokens st (counts.get st) (sourceGroup evidences st)
    { a with toolUsed := 0 }

theorem assembleSources_eq (order : List SourceType) :
    assembleSources rt limit lockedTokens counts evidences order =
      order.foldl (writeSource rt limit lockedTokens counts evidences) {} := by
  unfold assembleSources writeSource sourceGroup
  simp only [lookup_groupBy]

theorem writeSource_written (a : Assembly) (st : SourceType) :
    ∃ written : List Evidence,
      (writeSource rt limit lockedTokens counts evidences a st).parts =
        a.parts ++ written.map (fun ev => (ev, lineOf ev)) ∧
      written.Sublist (sourceGroup evidences st) :=
  assembleGroup_written rt limit lockedTokens st (counts.get st) (sourceGroup evidences st) _
    (fun _ hev => (mem_sourceGroup.mp hev).2)

theorem foldl_writeSource_written (order : List SourceType) (a : Assembly) :
    ∃ written : List Evidence,
      (order.foldl (writeSource rt limit lockedTokens counts evidences) a).parts =
        a.parts ++ written.map (fun ev => (ev, lineOf ev)) ∧
      written.Sublist (orderedEvidence evidences order) := by
  induction order generalizing a with
  | nil => exact ⟨[], by simp, List.nil_sublist _⟩
  | cons st rest ih =>
      rcases writeSource_written rt limit lockedTokens counts evidences a st with
        ⟨first, hfirst, hfirstSub⟩
      rcases ih (writeSource rt limit lockedTokens counts evidences a st) with
        ⟨later, hlater, hlaterSub⟩
      refine ⟨first ++ later, ?_, ?_⟩
      · rw [List.foldl_cons, hlater, hfirst, List.map_append, List.append_assoc]
      · rw [orderedEvidence, List.flatMap_cons]
        exact hfirstSub.append hlaterSub

/-- Nothing is written exactly when every source is blocked. -/
theorem foldl_writeSource_nil_iff (hroom : lockedTokens < limit) (order : List SourceType)
    (a : Assembly) (hparts : a.parts = []) (htotal : a.totalUsed = 0) :
    (order.foldl (writeSource rt limit lockedTokens counts evidences) a).parts = [] ↔
      ∀ st ∈ order,
        GroupBlocked rt limit lockedTokens (counts.get st) (sourceGroup evidences st) := by
  induction order generalizing a with
  | nil => simp [hparts]
  | cons st rest ih =>
      rcases assembleGroup_nil_iff rt limit lockedTokens st (counts.get st) hroom
        (sourceGroup evidences st) { a with toolUsed := 0 }
        (fun _ hev => (mem_sourceGroup.mp hev).2) hparts rfl htotal with ⟨hiff, hkept⟩
      rw [List.foldl_cons, List.forall_mem_cons, ← hiff]
      by_cases hnil : (writeSource rt limit lockedTokens counts evidences a st).parts = []
      -- A blocked source leaves the account as it was for the next one.
      · rw [ih _ hnil (hkept hnil)]
        exact (and_iff_right hnil).symm
      -- What one source has written the next ones keep.
      · rcases foldl_writeSource_written rt limit lockedTokens counts evidences
          rest (writeSource rt limit lockedTokens counts evidences a st) with ⟨later, hlater, -⟩
        rw [hlater]
        refine iff_of_false ?_ (fun h => hnil h.1)
        intro happend
        exact hnil (List.append_eq_nil_iff.mp happend).1

/-- A source whose lines fit its quota, which is not spent before the last. -/
def FitsQuota (st : SourceType) : Prop :=
  sourceGroup evidences st = [] ∨
    (linesTokens rt (sourceGroup evidences st) ≤ counts.get st ∧
      linesTokens rt (sourceGroup evidences st).dropLast < counts.get st)

/-- All lines of several sources are written only if the first of them wrote
    all of its own. -/
theorem writeSource_full_of_foldl (st : SourceType) (rest : List SourceType) (a : Assembly)
    (hfull : (rest.foldl (writeSource rt limit lockedTokens counts evidences)
        (writeSource rt limit lockedTokens counts evidences a st)).parts =
      a.parts ++ (sourceGroup evidences st).map (fun ev => (ev, lineOf ev)) ++
        (orderedEvidence evidences rest).map (fun ev => (ev, lineOf ev))) :
    (writeSource rt limit lockedTokens counts evidences a st).parts =
      a.parts ++ (sourceGroup evidences st).map (fun ev => (ev, lineOf ev)) := by
  rcases writeSource_written rt limit lockedTokens counts evidences a st with
    ⟨first, hwritten, hsub⟩
  rcases foldl_writeSource_written rt limit lockedTokens counts evidences rest
    (writeSource rt limit lockedTokens counts evidences a st) with ⟨later, hlater, hlaterSub⟩
  have hlength := congrArg List.length (hlater.symm.trans hfull)
  simp only [hwritten, List.length_append, List.length_map] at hlength
  -- Neither part has more lines than it should, so neither has fewer.
  have hle := hsub.length_le
  have hlaterLe := hlaterSub.length_le
  rw [hwritten, hsub.eq_of_length (by omega)]

/-- With room in the window for all lines, all are written exactly when every
    source fits its quota and the window is not spent before the last line. -/
theorem foldl_writeSource_full_iff (order : List SourceType) (a : Assembly)
    (hroom : a.totalUsed + linesTokens rt (orderedEvidence evidences order) + lockedTokens ≤ limit) :
    (order.foldl (writeSource rt limit lockedTokens counts evidences) a).parts =
        a.parts ++ (orderedEvidence evidences order).map (fun ev => (ev, lineOf ev)) ↔
      (∀ st ∈ order, FitsQuota rt counts evidences st) ∧
        (orderedEvidence evidences order = [] ∨
          a.totalUsed + linesTokens rt (orderedEvidence evidences order).dropLast + lockedTokens <
            limit) := by
  induction order generalizing a with
  | nil => simp [orderedEvidence]
  | cons st rest ih =>
      have hsplit : orderedEvidence evidences (st :: rest) =
          sourceGroup evidences st ++ orderedEvidence evidences rest := by
        rw [orderedEvidence, List.flatMap_cons]
        rfl
      rw [hsplit, linesTokens_append] at hroom
      push_cast at hroom
      rcases assembleGroup_full_iff rt limit lockedTokens st (counts.get st)
        (sourceGroup evidences st) { a with toolUsed := 0 }
        (fun _ hev => (mem_sourceGroup.mp hev).2) (by simp only; omega) with ⟨hiff, htotal⟩
      simp only [Nat.zero_add] at hiff
      rw [List.foldl_cons, hsplit, List.map_append, ← List.append_assoc, List.forall_mem_cons,
        linesTokens_dropLast_append, List.append_eq_nil_iff]
      by_cases hfirst : (writeSource rt limit lockedTokens counts evidences a st).parts =
          a.parts ++ (sourceGroup evidences st).map (fun ev => (ev, lineOf ev))
      -- The first source is written whole, and the rest start from its account.
      · have hused : (writeSource rt limit lockedTokens counts evidences a st).totalUsed =
            a.totalUsed + linesTokens rt (sourceGroup evidences st) := htotal hfirst
        have hfits := hiff.mp hfirst
        have hquota : FitsQuota rt counts evidences st :=
          hfits.imp id (fun h => ⟨h.1, h.2.1⟩)
        rw [← hfirst, ih _ (by rw [hused]; push_cast; omega), hused]
        refine and_congr (and_iff_right hquota).symm ?_
        by_cases hlast : orderedEvidence evidences rest = []
        · simp only [hlast, if_true, true_or, and_true, true_iff]
          exact hfits.imp id (fun h => h.2.2)
        · simp only [hlast, if_false, false_or, and_false]
          push_cast
          omega
      -- The first source is written in part, so some line is missing for good.
      · refine iff_of_false ?_ ?_
        · intro hfull
          exact hfirst
            (writeSource_full_of_foldl rt limit lockedTokens counts evidences st rest a hfull)
        · rintro ⟨⟨hquota, -⟩, hwindow⟩
          refine hfirst (hiff.mpr ?_)
          rcases hquota with hnil | ⟨hall, hbefore⟩
          · exact .inl hnil
          rcases hwindow with ⟨hnil, -⟩ | hwindow
          · exact .inl hnil
          · have hle := linesTokens_dropLast_le rt (sourceGroup evidences st)
            refine .inr ⟨hall, hbefore, ?_⟩
            split_ifs at hwindow
            · exact hwindow
            · push_cast at hwindow
              omega

end Sources

section Numbers

variable (rt : Runtime) (sch : TokenBudgetScheduler) (evidences : List Evidence)
  (counts : TokenCounts) (lockedTokens : Int)

/-- The lines in the prompt, each with the piece it came from. -/
def promptLines : List (Evidence × String) :=
  if sch.usesCompact lockedTokens then compactParts evidences
  else (sch.assembly rt evidences counts lockedTokens).parts

/-- The text of the prompt is its lines under a heading. -/
theorem assemble_text (hne : evidences ≠ []) :
    ∃ heading, (sch.assemble rt evidences counts lockedTokens).1 =
      join "\n" (heading :: (promptLines rt sch evidences counts lockedTokens).map Prod.snd) := by
  unfold TokenBudgetScheduler.assemble promptLines
  split_ifs
  · exact ⟨"【精简参考资料】", by simp [compactAssemble, hne]⟩
  · exact ⟨"【参考资料】", rfl⟩

/-- A line with a number in front of it. -/
def Numbered (line : String) (n : Nat) : Prop :=
  ∃ rest, line = "[" ++ toString n ++ "]" ++ rest

/-- What the budgets let through is nothing: every source in the order of
    writing has no quota, or its first line within the quota is too long for
    the window. -/
def NothingFits : Prop :=
  ∀ st ∈ sourceOrder, GroupBlocked rt (sch.totalBudget - outputReserveTokens) lockedTokens
    (counts.get st) (sourceGroup evidences st)

variable {rt sch evidences counts lockedTokens}

theorem lineOf_head (ev : Evidence) : (lineOf ev).toList.head? = some '(' := by
  unfold lineOf formatEvidence
  cases ev.sourceType <;> simp

/-- A line outside compact mode has no number. -/
theorem not_numbered_lineOf (ev : Evidence) (n : Nat) : ¬ Numbered (lineOf ev) n := by
  rintro ⟨rest, hline⟩
  -- The line opens with a parenthesis, a number with a bracket.
  have hhead := lineOf_head ev
  rw [hline] at hhead
  simp at hhead

theorem numbered_compactLine (i : Nat) (ev : Evidence) : Numbered (compactLine i ev) i := by
  refine ⟨" (" ++ ev.sourceType.text ++ ") " ++ ev.title ++ ": " ++
    (if ev.content = "" then "" else take (headOfSplit ev.content '。') 200) ++ "...", ?_⟩
  simp only [compactLine, String.append_assoc]
  rfl

/-- Outside compact mode every line is that of its piece. -/
theorem mem_assembly_parts {p : Evidence × String}
    (h : p ∈ (sch.assembly rt evidences counts lockedTokens).parts) :
    p.2 = lineOf p.1 ∧ p.1 ∈ orderedEvidence evidences sourceOrder := by
  rw [TokenBudgetScheduler.assembly, assembleSources_eq] at h
  rcases foldl_writeSource_written rt
    (sch.totalBudget - outputReserveTokens) lockedTokens counts evidences sourceOrder {} with
    ⟨written, hparts, hsub⟩
  rw [hparts, List.nil_append] at h
  rcases List.mem_map.mp h with ⟨ev, hev, rfl⟩
  exact ⟨rfl, hsub.subset hev⟩

theorem usesCompact_eq_false :
    sch.usesCompact lockedTokens = false ↔ lockedTokens < sch.totalBudget - outputReserveTokens := by
  rw [TokenBudgetScheduler.usesCompact, decide_eq_false_iff_not]
  omega

theorem assembly_nil_iff (hcompact : sch.usesCompact lockedTokens = false) :
    (sch.assembly rt evidences counts lockedTokens).parts = [] ↔
      NothingFits rt sch evidences counts lockedTokens := by
  rw [TokenBudgetScheduler.assembly, assembleSources_eq]
  exact foldl_writeSource_nil_iff rt _ lockedTokens counts evidences
    (usesCompact_eq_false.mp hcompact) sourceOrder {} rfl rfl

/-- Compact mode keeps the opening of a ranked list. -/
theorem compactChosen_of_pairwise
    (h : evidences.Pairwise (fun a b => evidenceWeight b ≤ evidenceWeight a)) :
    compactChosen evidences = evidences.take 3 := by
  rw [compactChosen, sortDesc_of_pairwise evidenceWeight h]

/-- The lines of compact mode are numbered as a ranked list is. -/
theorem numbered_compactParts
    (h : evidences.Pairwise (fun a b => evidenceWeight b ≤ evidenceWeight a))
    {p : Evidence × String} (hp : p ∈ compactParts evidences) :
    ∃ i, Numbered p.2 (i + 1) ∧ evidences[i]? = some p.1 := by
  rcases List.mem_map.mp hp with ⟨⟨ev, i⟩, hmem, rfl⟩
  have hat := List.mem_zipIdx_iff_getElem?.mp hmem
  rw [compactChosen_of_pairwise h] at hat
  refine ⟨i, numbered_compactLine (i + 1) ev, ?_⟩
  -- Ranking a ranked list moves nothing, so the position is that in the list.
  have hlt : i < 3 := by
    have hlength := (List.getElem?_eq_some_iff.mp hat).1
    rw [List.length_take] at hlength
    omega
  rwa [List.getElem?_take_of_lt hlt] at hat

/-- Every line of fused evidence carries the number of its piece in the
    snapshot exactly in compact mode, or where nothing is written. -/
theorem prompt_numbered_iff (rt : Runtime) (sch : TokenBudgetScheduler) (raw : List Evidence)
    (maxCount : Nat) (tokenBudget : Int) (counts : TokenCounts) (lockedTokens : Int)
    (tenantId toolRunId : String) (attemptId : Int) :
    (∀ p ∈ promptLines rt sch (fuseEvidences raw maxCount tokenBudget).fused counts lockedTokens,
        ∃ n, Numbered p.2 n ∧
          CitationBinder.indexToEvidence
            { snapshot := EvidenceSnapshot.build rt (fuseEvidences raw maxCount tokenBudget).fused
                toolRunId attemptId
              tenantId := tenantId } n = some p.1) ↔
      sch.usesCompact lockedTokens = true ∨
        NothingFits rt sch (fuseEvidences raw maxCount tokenBudget).fused counts lockedTokens := by
  cases hcompact : sch.usesCompact lockedTokens with
  | true =>
      refine iff_of_true (fun p hp => ?_) (.inl rfl)
      rw [promptLines, if_pos hcompact] at hp
      rcases numbered_compactParts (fused_pairwise raw maxCount tokenBudget) hp with
        ⟨i, hnumber, hat⟩
      exact ⟨i + 1, hnumber, hat⟩
  | false =>
      rw [← assembly_nil_iff hcompact, promptLines, if_neg (by simp [hcompact])]
      simp only [Bool.false_eq_true, false_or]
      constructor
      -- One line that is written is one line without a number.
      · intro hall
        by_contra hne
        rcases List.exists_mem_of_ne_nil _ hne with ⟨p, hp⟩
        rcases hall p hp with ⟨n, hnumber, -⟩
        rw [(mem_assembly_parts hp).1] at hnumber
        exact not_numbered_lineOf p.1 n hnumber
      · intro hnil p hp
        rw [hnil] at hp
        cases hp

/-- A short document, as evidence. -/
def shortPiece : Evidence :=
  { evidenceId := "e1", sourceType := .rag, content := "报销标准", relevanceScore := 9 / 10 }

/-- With quota and window to spare its line is written, without a number. -/
theorem rag_line_unnumbered :
    (promptLines default ⟨110000⟩ (fuseEvidences [shortPiece] 20 0).fused [(.rag, 100)] 0).map
        Prod.snd = ["(相关度:0.90) 报销标准"] ∧
      ∀ n, ¬ Numbered "(相关度:0.90) 报销标准" n := by
  refine ⟨by decide +kernel, fun n => ?_⟩
  have hline : lineOf shortPiece = "(相关度:0.90) 报销标准" := by decide +kernel
  rw [← hline]
  exact not_numbered_lineOf shortPiece n

end Numbers

section Completeness

variable {rt : Runtime} {sch : TokenBudgetScheduler} {evidences : List Evidence}
  {counts : TokenCounts} {lockedTokens : Int}

theorem mem_orderedEvidence {order : List SourceType} {ev : Evidence} :
    ev ∈ orderedEvidence evidences order ↔ ev ∈ evidences ∧ ev.sourceType ∈ order := by
  simp only [orderedEvidence, List.mem_flatMap, mem_sourceGroup]
  constructor
  · rintro ⟨st, hst, hev, rfl⟩
    exact ⟨hev, hst⟩
  · rintro ⟨hev, hst⟩
    exact ⟨_, hst, hev, rfl⟩

theorem orderedEvidence_nodup (hnodup : evidences.Nodup) :
    (orderedEvidence evidences sourceOrder).Nodup := by
  refine List.nodup_flatMap.mpr ⟨fun st _ => ?_, ?_⟩
  · exact (sortDesc_perm evidenceWeight _).nodup_iff.mpr (hnodup.filter _)
  -- A piece has one source, and no source is written twice.
  · have horder : sourceOrder.Pairwise (· ≠ ·) := by decide
    refine horder.imp fun hne ev hfirst hsecond => hne ?_
    rw [← (mem_sourceGroup.mp hfirst).2, ← (mem_sourceGroup.mp hsecond).2]

/-- The lines in the order of writing cost no more than all lines. -/
theorem linesTokens_ordered_le (hnodup : evidences.Nodup) :
    linesTokens rt (orderedEvidence evidences sourceOrder) ≤ linesTokens rt evidences := by
  have hsubset : orderedEvidence evidences sourceOrder ⊆ evidences :=
    fun _ hev => (mem_orderedEvidence.mp hev).1
  -- Each piece is written at most once, so the lines are some of all lines.
  rcases List.subperm_of_subset (orderedEvidence_nodup hnodup) hsubset with ⟨kept, hperm, hsub⟩
  calc linesTokens rt (orderedEvidence evidences sourceOrder)
      = linesTokens rt kept := ((hperm.map _).sum_eq).symm
    _ ≤ linesTokens rt evidences := (hsub.map _).sum_le_sum (fun _ _ => Nat.zero_le _)

/-- Every piece has its line exactly when its source is written at all and the
    lines are those of the whole order. -/
theorem forall_mem_parts_iff (hnodup : evidences.Nodup) :
    (∀ ev ∈ evidences, (ev, lineOf ev) ∈ (sch.assembly rt evidences counts lockedTokens).parts) ↔
      (∀ ev ∈ evidences, ev.sourceType ∈ sourceOrder) ∧
        (sch.assembly rt evidences counts lockedTokens).parts =
          (orderedEvidence evidences sourceOrder).map (fun ev => (ev, lineOf ev)) := by
  constructor
  · intro hall
    refine ⟨fun ev hev => (mem_orderedEvidence.mp (mem_assembly_parts (hall ev hev)).2).2, ?_⟩
    rcases foldl_writeSource_written rt
      (sch.totalBudget - outputReserveTokens) lockedTokens counts evidences sourceOrder {} with
      ⟨written, hparts, hsub⟩
    rw [TokenBudgetScheduler.assembly, assembleSources_eq, hparts, List.nil_append] at hall ⊢
    -- What is written is part of the order and leaves nothing of it out.
    have hsubset : orderedEvidence evidences sourceOrder ⊆ written := by
      intro ev hev
      rcases List.mem_map.mp (hall ev (mem_orderedEvidence.mp hev).1) with ⟨ev', hwritten, heq⟩
      cases heq
      exact hwritten
    have hlength := (List.subperm_of_subset (orderedEvidence_nodup hnodup) hsubset).length_le
    rw [hsub.eq_of_length_le hlength]
  · rintro ⟨hsources, hparts⟩ ev hev
    rw [hparts]
    exact List.mem_map_of_mem (mem_orderedEvidence.mpr ⟨hev, hsources ev hev⟩)

variable (rt sch evidences counts lockedTokens)

/-- What the budgets let through is everything: every source is one that is
    written, its lines fit its quota, which is not spent before the last of
    them, and the window is not spent before the last line of all. -/
def EverythingFits : Prop :=
  evidences = [] ∨
    ((∀ ev ∈ evidences, ev.sourceType ∈ sourceOrder) ∧
      (∀ st ∈ sourceOrder, FitsQuota rt counts evidences st) ∧
      lockedTokens + linesTokens rt (orderedEvidence evidences sourceOrder).dropLast <
        sch.totalBudget - outputReserveTokens)

variable {rt sch evidences counts lockedTokens}

theorem assembly_full_iff (hnodup : evidences.Nodup)
    (hroom : lockedTokens + linesTokens rt evidences ≤ sch.totalBudget - outputReserveTokens) :
    (sch.assembly rt evidences counts lockedTokens).parts =
        (orderedEvidence evidences sourceOrder).map (fun ev => (ev, lineOf ev)) ↔
      (∀ st ∈ sourceOrder, FitsQuota rt counts evidences st) ∧
        (orderedEvidence evidences sourceOrder = [] ∨
          lockedTokens + linesTokens rt (orderedEvidence evidences sourceOrder).dropLast <
            sch.totalBudget - outputReserveTokens) := by
  have hcost : linesTokens rt (orderedEvidence evidences sourceOrder) ≤ linesTokens rt evidences :=
    linesTokens_ordered_le hnodup
  have hfull := foldl_writeSource_full_iff rt (sch.totalBudget - outputReserveTokens) lockedTokens
    counts evidences sourceOrder {} (by simp only [Nat.cast_zero]; omega)
  rw [TokenBudgetScheduler.assembly, assembleSources_eq]
  simp only [List.nil_append, Nat.cast_zero, zero_add] at hfull
  rw [hfull, Int.add_comm]

/-- Compact mode writes no line as it would be written outside. -/
theorem not_mem_compactParts (ev : Evidence) : (ev, lineOf ev) ∉ compactParts evidences := by
  intro hmem
  rcases List.mem_map.mp hmem with ⟨⟨ev', i⟩, -, heq⟩
  rcases Prod.mk.inj heq with ⟨-, hline⟩
  refine not_numbered_lineOf ev (i + 1) ?_
  rw [← hline]
  exact numbered_compactLine (i + 1) ev'

theorem forall_mem_promptLines_iff (hnodup : evidences.Nodup)
    (hroom : lockedTokens + linesTokens rt evidences ≤ sch.totalBudget - outputReserveTokens) :
    (∀ ev ∈ evidences, (ev, lineOf ev) ∈ promptLines rt sch evidences counts lockedTokens) ↔
      EverythingFits rt sch evidences counts lockedTokens := by
  by_cases hne : evidences = []
  · subst hne
    exact iff_of_true (fun ev hev => absurd hev List.not_mem_nil) (.inl rfl)
  rw [EverythingFits, or_iff_right hne]
  cases hcompact : sch.usesCompact lockedTokens with
  | true =>
      -- Compact mode means that the window is spent before the first line.
      rw [promptLines, if_pos hcompact]
      refine iff_of_false ?_ ?_
      · intro hall
        rcases List.exists_mem_of_ne_nil _ hne with ⟨ev, hev⟩
        exact not_mem_compactParts ev (hall ev hev)
      · rintro ⟨-, -, hwindow⟩
        rw [TokenBudgetScheduler.usesCompact, decide_eq_true_iff] at hcompact
        omega
  | false =>
      rw [promptLines, if_neg (by simp [hcompact]), forall_mem_parts_iff hnodup,
        assembly_full_iff hnodup hroom]
      refine and_congr_right fun hsources => and_congr_right fun _ => or_iff_right ?_
      rcases List.exists_mem_of_ne_nil _ hne with ⟨ev, hev⟩
      exact List.ne_nil_of_mem (mem_orderedEvidence.mpr ⟨hev, hsources ev hev⟩)

theorem fused_nodup (raw : List Evidence) (maxCount : Nat) (tokenBudget : Int) :
    (fuseEvidences raw maxCount tokenBudget).fused.Nodup :=
  List.Nodup.of_map _ (fused_ids_nodup raw maxCount tokenBudget)

/-- Where the window has room for every line of the fused evidence, every line
    is written exactly when each source is one that is written and fits the
    quota counted on its tool's raw text. The text then contains every line. -/
theorem prompt_complete_iff (rt : Runtime) (sch : TokenBudgetScheduler) (raw : List Evidence)
    (maxCount : Nat) (tokenBudget : Int) (outputs : ToolOutputs) (lockedTokens : Int)
    (hroom : lockedTokens + linesTokens rt (fuseEvidences raw maxCount tokenBudget).fused ≤
      sch.totalBudget - outputReserveTokens) :
    ((∀ ev ∈ (fuseEvidences raw maxCount tokenBudget).fused,
          (ev, lineOf ev) ∈ promptLines rt sch (fuseEvidences raw maxCount tokenBudget).fused
            (countToolTokens rt outputs) lockedTokens) ↔
        EverythingFits rt sch (fuseEvidences raw maxCount tokenBudget).fused
          (countToolTokens rt outputs) lockedTokens) ∧
      (EverythingFits rt sch (fuseEvidences raw maxCount tokenBudget).fused
          (countToolTokens rt outputs) lockedTokens →
        ∀ ev ∈ (fuseEvidences raw maxCount tokenBudget).fused,
          contains (sch.assemble rt (fuseEvidences raw maxCount tokenBudget).fused
            (countToolTokens rt outputs) lockedTokens).1 (lineOf ev) = true) := by
  have hiff : _ ↔ EverythingFits rt sch _ (countToolTokens rt outputs) lockedTokens :=
    forall_mem_promptLines_iff (fused_nodup raw maxCount tokenBudget) hroom
  refine ⟨hiff, ?_⟩
  intro hfits ev hev
  -- The text is the lines joined, so it contains each of them.
  rcases assemble_text rt sch (fuseEvidences raw maxCount tokenBudget).fused
    (countToolTokens rt outputs) lockedTokens (List.ne_nil_of_mem hev) with ⟨heading, htext⟩
  rw [htext]
  refine contains_join _ _ (List.mem_cons_of_mem _ ?_)
  exact List.mem_map.mpr ⟨(ev, lineOf ev), hiff.mpr hfits ev hev, rfl⟩

/-- The evidence of some tool results, fused. -/
def fusedFrom (outputs : ToolOutputs) : List Evidence :=
  match normalizeCurrentToolResults default "t1" "报销标准" outputs with
  | .ok evidences => (fuseEvidences evidences 20 0).fused
  | .error _ => []

/-- One short document. -/
def shortDocument : ToolOutputs :=
  { ragDocs := [{ content := "报销标准为每日100元", docId := "d1" }] }

/-- One answer of the graph. -/
def graphAnswer : ToolOutputs :=
  { graphResult := some
      { rows := [.dict [("name", .str "张三")]], rowCount := some 1, answer := "张三负责报销" } }

theorem prompt_complete_shortPiece :
    (0 : Int) + linesTokens default (fuseEvidences [shortPiece] 20 0).fused ≤
        110000 - outputReserveTokens ∧
      ((∀ ev ∈ (fuseEvidences [shortPiece] 20 0).fused,
          (ev, lineOf ev) ∈ promptLines default ⟨110000⟩ (fuseEvidences [shortPiece] 20 0).fused
            (countToolTokens default shortDocument) 0) ↔
        EverythingFits default ⟨110000⟩ (fuseEvidences [shortPiece] 20 0).fused
          (countToolTokens default shortDocument) 0) :=
  ⟨by decide +kernel,
    (prompt_complete_iff default ⟨110000⟩ [shortPiece] 20 0 shortDocument 0 (by decide +kernel)).1⟩

/-- A single short document is not written, nor is the answer of the graph,
    with the whole window free. -/
theorem room_but_not_written :
    (fusedFrom shortDocument).map Evidence.sourceType = [.rag] ∧
      (fusedFrom graphAnswer).map Evidence.sourceType = [.graph] ∧
      (0 : Int) + linesTokens default (fusedFrom shortDocument) ≤ 110000 - outputReserveTokens ∧
      (0 : Int) + linesTokens default (fusedFrom graphAnswer) ≤ 110000 - outputReserveTokens ∧
      (TokenBudgetScheduler.assemble default ⟨110000⟩ (fusedFrom shortDocument)
        (countToolTokens default shortDocument) 0).1 = "【参考资料】" ∧
      (TokenBudgetScheduler.assemble default ⟨110000⟩ (fusedFrom graphAnswer)
        (countToolTokens default graphAnswer) 0).1 = "【参考资料】" :=
  ⟨by decide +kernel, by decide +kernel, by decide +kernel, by decide +kernel, by decide +kernel,
    by decide⟩

end Completeness

end AgenticRag
