import AgenticRag.Lib.Budgets
import AgenticRag.Theory.Prompt

/-!
# The Accounts of the Assembly

The lines of the prompt are written source by source, under the quota of the
source and under the window. What is spent is kept in two accounts, and a line
may be left out for three reasons: the quota is spent, the line does not fit what
is left of it, or the window is spent, which is what the flag reports.

`assembleGroup_run` is what one source comes to, and `foldl_writeSource_run` what
several do: the pieces of a source fill its quota (`Filling.Fills`), the accounts
hold the lines written, and unless the flag is set, a piece is left out for the
quota only. `assembly_accounts` puts this together for the prompt.

## Main definitions

* `GroupRun`, `SourcesRun`: What the loops over a source and over the sources
  come to.
* `Accounts`: What the lines of a prompt add up to.

## Theorems

* `assembleGroup_run`, `foldl_writeSource_run`: The two loops.
* `assembly_accounts`: The accounts of a prompt.
-/

namespace AgenticRag

open Py Ordered Filling

section Group

variable (rt : Runtime) (limit lockedTokens : Int)

/-- What the loop over the pieces of a source comes to: some are written and the
    others left. -/
structure GroupRun (quota : Nat) (group : List Evidence) (a a' : Assembly)
    (written left : List Evidence) : Prop where
  parts : a'.parts = a.parts ++ written.map (fun ev => (ev, lineOf ev))
  fills : Fills (lineTokens rt) quota a.toolUsed group written left
  totalUsed : a'.totalUsed = a.totalUsed + linesTokens rt written
  window : a.totalUsed + lockedTokens ≤ limit → a'.totalUsed + lockedTokens ≤ limit
  flagKept : a.compactMode = true → a'.compactMode = true
  /-- Unless the flag is set, a piece is left out for the quota. -/
  complete : a'.compactMode = true ∨ ∀ ev ∈ left,
    quota ≤ a.toolUsed + linesTokens rt written ∨
      quota < a.toolUsed + linesTokens rt written + lineTokens rt ev

variable {rt limit lockedTokens}

/-- A loop that stops here leaves everything. -/
theorem GroupRun.stop {quota : Nat} {group : List Evidence} {a a' : Assembly}
    (hparts : a'.parts = a.parts) (htotal : a'.totalUsed = a.totalUsed)
    (hflag : a.compactMode = true → a'.compactMode = true)
    (hcomplete : a'.compactMode = true ∨ quota ≤ a.toolUsed) :
    GroupRun rt limit lockedTokens quota group a a' [] group where
  parts := by rw [hparts, List.map_nil, List.append_nil]
  fills := .stop _ _
  totalUsed := htotal
  window := by
    intro hwindow
    rw [htotal]
    exact hwindow
  flagKept := hflag
  complete := hcomplete.imp_right (fun hspent _ _ => .inl hspent)

variable (rt limit lockedTokens) in
/-- What the loop over the pieces of a source does. -/
theorem assembleGroup_run {st : SourceType} (quota : Nat) {group : List Evidence}
    (hgroup : ∀ ev ∈ group, ev.sourceType = st) (a : Assembly) :
    ∃ written left, GroupRun rt limit lockedTokens quota group a
      (assembleGroup rt limit lockedTokens st quota group a) written left := by
  induction group generalizing a with
  | nil =>
      exact ⟨[], [], (List.append_nil _).symm, .stop _ _, rfl, id, id,
        .inr (List.forall_mem_nil _)⟩
  | cons ev rest ih =>
      rcases List.forall_mem_cons.mp hgroup with ⟨hev, hrest⟩
      rw [assembleGroup_cons rt limit lockedTokens st quota hev]
      by_cases hspent : quota ≤ a.toolUsed
      · rw [if_pos hspent]
        exact ⟨[], ev :: rest, .stop rfl rfl id (.inr hspent)⟩
      rw [if_neg hspent]
      by_cases hfull : limit ≤ a.totalUsed + lockedTokens
      · rw [if_pos hfull]
        exact ⟨[], ev :: rest, .stop rfl rfl (fun _ => rfl) (.inl rfl)⟩
      rw [if_neg hfull]
      by_cases hlong : quota < a.toolUsed + lineTokens rt ev
      -- What does not fit now will not fit later either.
      · rw [if_pos hlong]
        rcases ih hrest a with ⟨written, left, run⟩
        refine ⟨written, ev :: left, run.parts, .pass hlong run.fills, run.totalUsed, run.window,
          run.flagKept, run.complete.imp_right (fun h => ?_)⟩
        refine List.forall_mem_cons.mpr ⟨.inr (Nat.lt_of_lt_of_le hlong ?_), h⟩
        exact Nat.add_le_add_right (Nat.le_add_right _ _) _
      rw [if_neg hlong]
      by_cases hover : limit < a.totalUsed + lineTokens rt ev + lockedTokens
      · rw [if_pos hover]
        exact ⟨[], ev :: rest, .stop rfl rfl (fun _ => rfl) (.inl rfl)⟩
      rw [if_neg hover]
      rcases ih hrest
        { a with
          parts := a.parts ++ [(ev, lineOf ev)]
          toolUsed := a.toolUsed + lineTokens rt ev
          totalUsed := a.totalUsed + lineTokens rt ev } with ⟨written, left, run⟩
      refine ⟨ev :: written, left, ?_, .take (Nat.le_of_not_lt hlong) run.fills, ?_, fun _ => ?_,
        run.flagKept, ?_⟩
      · rw [run.parts, List.map_cons, List.append_assoc, List.singleton_append]
      · rw [run.totalUsed, linesTokens_cons, Nat.add_assoc]
      · exact run.window (by push_cast; omega)
      · have hcomplete := run.complete
        simp only [Nat.add_assoc] at hcomplete
        simpa only [linesTokens_cons, Nat.add_assoc] using hcomplete

end Group

section Sources

variable (rt : Runtime) (limit lockedTokens : Int) (counts : TokenCounts)
  (evidences : List Evidence)

/-- What the loop over some sources comes to. -/
structure SourcesRun (order : List SourceType) (a a' : Assembly)
    (written left : SourceType → List Evidence) : Prop where
  parts : a'.parts = a.parts ++ (order.flatMap written).map (fun ev => (ev, lineOf ev))
  fills : ∀ st ∈ order,
    Fills (lineTokens rt) (counts.get st) 0 (sourceGroup evidences st) (written st) (left st)
  totalUsed : a'.totalUsed = a.totalUsed + linesTokens rt (order.flatMap written)
  window : a.totalUsed + lockedTokens ≤ limit → a'.totalUsed + lockedTokens ≤ limit
  flagKept : a.compactMode = true → a'.compactMode = true
  complete : a'.compactMode = true ∨ ∀ st ∈ order, ∀ ev ∈ left st,
    counts.get st ≤ linesTokens rt (written st) ∨
      counts.get st < linesTokens rt (written st) + lineTokens rt ev

variable {rt limit lockedTokens counts evidences}

/-- What the loop over some sources does. -/
theorem foldl_writeSource_run {order : List SourceType} (horder : order.Nodup) (a : Assembly) :
    ∃ written left, SourcesRun rt limit lockedTokens counts evidences order a
      (order.foldl (writeSource rt limit lockedTokens counts evidences) a) written left := by
  induction order generalizing a with
  | nil =>
      exact ⟨fun _ => [], fun _ => [], (List.append_nil _).symm, List.forall_mem_nil _, rfl, id, id,
        .inr (List.forall_mem_nil _)⟩
  | cons st order ih =>
      rcases List.nodup_cons.mp horder with ⟨hst, horder⟩
      rcases assembleGroup_run rt limit lockedTokens (counts.get st)
        (fun _ hev => (mem_sourceGroup.mp hev).2)
        { a with toolUsed := 0 } with ⟨first, firstLeft, run⟩
      rcases ih horder (writeSource rt limit lockedTokens counts evidences a st) with
        ⟨written, left, runs⟩
      have hother : ∀ {β : Type} (x : β) (f : SourceType → β), ∀ s ∈ order,
          (if s = st then x else f s) = f s :=
        fun x f s hs => if_neg (fun heq : s = st => hst (heq ▸ hs))
      have hflat : (st :: order).flatMap (fun s => if s = st then first else written s) =
          first ++ order.flatMap written := by
        rw [List.flatMap_cons, if_pos rfl, List.flatMap_congr (hother first written)]
      refine ⟨fun s => if s = st then first else written s,
        fun s => if s = st then firstLeft else left s, ?_, ?_, ?_, ?_, ?_, ?_⟩
      · rw [List.foldl_cons, hflat, runs.parts, List.map_append, ← List.append_assoc]
        exact congrArg (· ++ _) run.parts
      · refine List.forall_mem_cons.mpr ⟨?_, fun s hs => ?_⟩
        · rw [if_pos rfl, if_pos rfl]
          exact run.fills
        · rw [hother first written s hs, hother firstLeft left s hs]
          exact runs.fills s hs
      · rw [List.foldl_cons, hflat, runs.totalUsed, linesTokens_append, ← Nat.add_assoc]
        exact congrArg (· + _) run.totalUsed
      · exact fun hwindow => runs.window (run.window hwindow)
      · exact fun hflag => runs.flagKept (run.flagKept hflag)
      -- A flag set by the first source stays set.
      · rcases run.complete with hflag | hfirst
        · exact .inl (runs.flagKept hflag)
        · refine runs.complete.imp_right (fun h => List.forall_mem_cons.mpr ⟨?_, fun s hs => ?_⟩)
          · rw [if_pos rfl, if_pos rfl]
            simpa only [Nat.zero_add] using hfirst
          · rw [hother first written s hs, hother firstLeft left s hs]
            exact h s hs

end Sources

section Accounts

/-- What the lines of a source take. -/
def sourceTokens (rt : Runtime) (parts : List (Evidence × String)) (st : SourceType) : Nat :=
  ((parts.filter (fun p => p.1.sourceType = st)).map (fun p => rt.numTokens p.2)).sum

variable (rt : Runtime) (sch : TokenBudgetScheduler) (evidences : List Evidence)
  (counts : TokenCounts) (lockedTokens : Int)

/-- What the lines of a prompt add up to, and why a line is not among them. -/
structure Accounts (parts : List (Evidence × String)) : Prop where
  text : (sch.assemble rt evidences counts lockedTokens).1 =
    join "\n" ("【参考资料】" :: parts.map Prod.snd)
  lines : ∀ p ∈ parts, p.2 = formatEvidence p.1 p.1.sourceType
  total : (parts.map (fun p => rt.numTokens p.2)).sum =
    (sch.assemble rt evidences counts lockedTokens).2.2
  window : (sch.assemble rt evidences counts lockedTokens).2.2 + lockedTokens ≤
    sch.totalBudget - outputReserveTokens
  quotas : ∀ st, sourceTokens rt parts st ≤ counts.get st
  /-- Each piece has a line or is left out. A line of a source that is written at
      all, which fits the quota of the source, is left out for lack of room in
      the window only if the flag says so. -/
  once : ∃ left, evidences.Perm (parts.map Prod.fst ++ left) ∧
    ∀ ev ∈ left, ev.sourceType ∈ sourceOrder →
      sourceTokens rt parts ev.sourceType + rt.numTokens (formatEvidence ev ev.sourceType) ≤
        counts.get ev.sourceType →
      sch.totalBudget - outputReserveTokens <
        (sch.assemble rt evidences counts lockedTokens).2.2 +
          rt.numTokens (formatEvidence ev ev.sourceType) + lockedTokens →
      (sch.assemble rt evidences counts lockedTokens).2.1 = true

variable {rt sch evidences counts lockedTokens}

/-- The pieces of some sources, those of one of them picked out. -/
theorem filter_flatMap_source {order : List SourceType} (horder : order.Nodup)
    {written : SourceType → List Evidence}
    (hwritten : ∀ s ∈ order, ∀ ev ∈ written s, ev.sourceType = s) (st : SourceType) :
    (order.flatMap written).filter (fun ev => ev.sourceType = st) =
      if st ∈ order then written st else [] := by
  induction order with
  | nil => rfl
  | cons s order ih =>
      rcases List.nodup_cons.mp horder with ⟨hs, horder⟩
      rcases List.forall_mem_cons.mp hwritten with ⟨hfirst, hrest⟩
      rw [List.flatMap_cons, List.filter_append, ih horder hrest]
      by_cases hst : s = st
      · subst hst
        rw [if_neg hs, if_pos List.mem_cons_self, List.append_nil]
        exact List.filter_eq_self.mpr (fun ev hev => decide_eq_true (hfirst ev hev))
      · have hnone : (written s).filter (fun ev => ev.sourceType = st) = [] := by
          refine List.filter_eq_nil_iff.mpr (fun ev hev heq => hst ?_)
          exact (hfirst ev hev).symm.trans (of_decide_eq_true heq)
        rw [hnone, List.nil_append]
        simp only [List.mem_cons, Ne.symm hst, false_or]

/-- The evidence is that of some sources and that of the others. -/
theorem perm_flatMap_sources {order : List SourceType} (horder : order.Nodup)
    (evidences : List Evidence) :
    evidences.Perm (order.flatMap (sourceGroup evidences) ++
      evidences.filter (fun ev => ev.sourceType ∉ order)) := by
  induction order with
  | nil => simp
  | cons s order ih =>
      rcases List.nodup_cons.mp horder with ⟨hs, horder⟩
      have hsplit := (List.filter_append_perm (fun ev : Evidence => ev.sourceType = s)
        (evidences.filter (fun ev => ev.sourceType ∉ order))).symm
      have hgroup : (evidences.filter (fun ev => ev.sourceType ∉ order)).filter
          (fun ev => ev.sourceType = s) = evidences.filter (fun ev => ev.sourceType = s) := by
        rw [List.filter_filter]
        refine List.filter_congr (fun ev _ => ?_)
        by_cases heq : ev.sourceType = s
        · simp [heq, hs]
        · simp [heq]
      have hothers : (evidences.filter (fun ev => ev.sourceType ∉ order)).filter
          (fun ev => !decide (ev.sourceType = s)) =
            evidences.filter (fun ev => ev.sourceType ∉ s :: order) := by
        rw [List.filter_filter]
        refine List.filter_congr (fun ev _ => ?_)
        simp [List.mem_cons, not_or]
      rw [hgroup, hothers] at hsplit
      have hsorted := sortDesc_perm evidenceWeight (evidences.filter (fun ev => ev.sourceType = s))
      rw [List.flatMap_cons]
      calc evidences
          |>.Perm (order.flatMap (sourceGroup evidences) ++
            evidences.filter (fun ev => ev.sourceType ∉ order)) := ih horder
        _ |>.Perm (order.flatMap (sourceGroup evidences) ++ (sourceGroup evidences s ++
            evidences.filter (fun ev => ev.sourceType ∉ s :: order))) :=
          (hsplit.trans (hsorted.symm.append_right _)).append_left _
        _ |>.Perm (sourceGroup evidences s ++ order.flatMap (sourceGroup evidences) ++
            evidences.filter (fun ev => ev.sourceType ∉ s :: order)) := by
          rw [← List.append_assoc]
          exact List.perm_append_comm.append_right _

variable {written left : SourceType → List Evidence} {a a' : Assembly}

theorem SourcesRun.sourceType_of_written {limit : Int} {order : List SourceType}
    (run : SourcesRun rt limit lockedTokens counts evidences order a a' written left) :
    ∀ st ∈ order, ∀ ev ∈ written st, ev.sourceType = st :=
  fun st hst _ hev => (mem_sourceGroup.mp ((run.fills st hst).sublist.subset hev)).2

/-- What is written is written of its own source. -/
theorem SourcesRun.mem_written {limit : Int} {order : List SourceType}
    (run : SourcesRun rt limit lockedTokens counts evidences order a a' written left)
    {ev : Evidence} (hev : ev ∈ order.flatMap written) :
    ev.sourceType ∈ order ∧ ev ∈ written ev.sourceType := by
  rcases List.mem_flatMap.mp hev with ⟨st, hst, hmem⟩
  rw [run.sourceType_of_written st hst ev hmem]
  exact ⟨hst, hmem⟩

/-- What is left of a source that is written is left of its own source. -/
theorem SourcesRun.mem_left {limit : Int} {order : List SourceType}
    (run : SourcesRun rt limit lockedTokens counts evidences order a a' written left)
    {ev : Evidence} (hst : ev.sourceType ∈ order)
    (hev : ev ∈ order.flatMap left ++ evidences.filter (fun ev => ev.sourceType ∉ order)) :
    ev ∈ left ev.sourceType := by
  rcases List.mem_append.mp hev with hev | hev
  · rcases List.mem_flatMap.mp hev with ⟨st, hst', hmem⟩
    have hgroup := (run.fills st hst').perm.symm.subset (List.mem_append_right _ hmem)
    rw [(mem_sourceGroup.mp hgroup).2]
    exact hmem
  · exact absurd hst (of_decide_eq_true (List.mem_filter.mp hev).2)

/-- Every piece is written or left. -/
theorem SourcesRun.perm {limit : Int} {order : List SourceType} (horder : order.Nodup)
    (run : SourcesRun rt limit lockedTokens counts evidences order a a' written left) :
    evidences.Perm (order.flatMap written ++ (order.flatMap left ++
      evidences.filter (fun ev => ev.sourceType ∉ order))) := by
  refine (perm_flatMap_sources horder evidences).trans ?_
  rw [← List.append_assoc]
  refine List.Perm.append_right _ ?_
  exact (List.Perm.flatMap_left _ (fun st hst => (run.fills st hst).perm)).trans
    (List.flatMap_append_perm _ _ _).symm

variable (rt) in
/-- The tokens of the lines of a source, read off what is written. -/
theorem sourceTokens_map {order : List SourceType} (horder : order.Nodup)
    (hwritten : ∀ s ∈ order, ∀ ev ∈ written s, ev.sourceType = s) (st : SourceType) :
    sourceTokens rt ((order.flatMap written).map (fun ev => (ev, lineOf ev))) st =
      if st ∈ order then linesTokens rt (written st) else 0 := by
  have hfilter : ((order.flatMap written).map (fun ev => (ev, lineOf ev))).filter
      (fun p => p.1.sourceType = st) =
        ((order.flatMap written).filter (fun ev => ev.sourceType = st)).map
          (fun ev => (ev, lineOf ev)) := by
    rw [List.filter_map]
    rfl
  rw [sourceTokens, hfilter, List.map_map, filter_flatMap_source horder hwritten]
  split_ifs
  · rfl
  · rfl

theorem nodup_sourceOrder : sourceOrder.Nodup := by
  decide

variable (rt sch evidences counts lockedTokens) in
/-- The lines of a prompt are written source by source. -/
theorem assembly_run : ∃ written left, SourcesRun rt (sch.totalBudget - outputReserveTokens)
    lockedTokens counts evidences sourceOrder {}
    (sch.assembly rt evidences counts lockedTokens) written left := by
  rw [TokenBudgetScheduler.assembly, assembleSources_eq]
  exact foldl_writeSource_run nodup_sourceOrder {}

/-- What is written of some sources from the start. -/
theorem SourcesRun.parts_eq {limit : Int} {order : List SourceType}
    (run : SourcesRun rt limit lockedTokens counts evidences order {} a' written left) :
    a'.parts = (order.flatMap written).map (fun ev => (ev, lineOf ev)) :=
  run.parts.trans (List.nil_append _)

theorem SourcesRun.map_parts {limit : Int} {order : List SourceType}
    (run : SourcesRun rt limit lockedTokens counts evidences order {} a' written left) :
    a'.parts.map Prod.fst = order.flatMap written := by
  rw [run.parts_eq, List.map_map, Function.comp_def, List.map_id']

/-- Where there is room, the prompt is assembled line by line. -/
theorem assemble_eq (hroom : outputReserveTokens < sch.totalBudget - lockedTokens) :
    sch.assemble rt evidences counts lockedTokens =
      (join "\n" ("【参考资料】" ::
          (sch.assembly rt evidences counts lockedTokens).parts.map Prod.snd),
        (sch.assembly rt evidences counts lockedTokens).compactMode,
        (sch.assembly rt evidences counts lockedTokens).totalUsed) := by
  have hcompact : ¬ sch.usesCompact lockedTokens = true := by
    rw [TokenBudgetScheduler.usesCompact, decide_eq_true_iff]
    omega
  rw [TokenBudgetScheduler.assemble, if_neg hcompact]

variable (rt) in
/-- The lines of each source keep to its quota. -/
theorem SourcesRun.sourceTokens_le {limit : Int} {order : List SourceType} (horder : order.Nodup)
    (run : SourcesRun rt limit lockedTokens counts evidences order a a' written left)
    (st : SourceType) :
    sourceTokens rt ((order.flatMap written).map (fun ev => (ev, lineOf ev))) st ≤
      counts.get st := by
  rw [sourceTokens_map rt horder run.sourceType_of_written]
  split_ifs with hst
  · have hquota := (run.fills st hst).totalCost_le (Nat.zero_le _)
    rw [Nat.zero_add] at hquota
    exact hquota
  · exact Nat.zero_le _

end Accounts

/-- Where there is room behind the locked tokens and the reserve, the lines of
    the prompt add up to the total that is returned, which keeps to the window.
    The lines of each source keep to its quota, and each piece has at most one
    line. A line that fits its source's quota and is left out for lack of room is
    reported. -/
theorem assembly_accounts (rt : Runtime) (sch : TokenBudgetScheduler) (evidences : List Evidence)
    (counts : TokenCounts) (lockedTokens : Int)
    (hroom : outputReserveTokens < sch.totalBudget - lockedTokens) :
    Accounts rt sch evidences counts lockedTokens
      (sch.assembly rt evidences counts lockedTokens).parts := by
  rcases assembly_run rt sch evidences counts lockedTokens with ⟨written, left, run⟩
  have hassemble := @assemble_eq rt sch evidences counts lockedTokens hroom
  have hparts : (sch.assembly rt evidences counts lockedTokens).parts =
      (sourceOrder.flatMap written).map (fun ev => (ev, lineOf ev)) := run.parts_eq
  have htotal : (sch.assembly rt evidences counts lockedTokens).totalUsed =
      linesTokens rt (sourceOrder.flatMap written) :=
    run.totalUsed.trans (Nat.zero_add _)
  have hwindow := run.window (by simp only [Nat.cast_zero]; omega)
  rw [hparts]
  refine ⟨?_, ?_, ?_, ?_, ?_, ?_⟩
  · rw [hassemble, hparts]
  · intro p hp
    rcases List.mem_map.mp hp with ⟨ev, -, rfl⟩
    rfl
  · rw [hassemble, htotal, List.map_map]
    rfl
  · rw [hassemble]
    exact hwindow
  · exact run.sourceTokens_le rt nodup_sourceOrder
  · refine ⟨sourceOrder.flatMap left ++ evidences.filter (fun ev => ev.sourceType ∉ sourceOrder),
      ?_, ?_⟩
    · rw [← hparts, run.map_parts]
      exact run.perm nodup_sourceOrder
    · intro ev hev hst hfits hover
      have hleft := run.mem_left hst hev
      rw [hassemble] at hover ⊢
      rw [sourceTokens_map rt nodup_sourceOrder run.sourceType_of_written, if_pos hst] at hfits
      change linesTokens rt (written ev.sourceType) + lineTokens rt ev ≤ _ at hfits
      change _ < ((sch.assembly rt evidences counts lockedTokens).totalUsed : Int) +
        lineTokens rt ev + lockedTokens at hover
      rcases run.complete with hflag | hcomplete
      · exact hflag
      -- A line that fits a spent quota takes nothing, and so fits the window too.
      · rcases hcomplete ev.sourceType hst ev hleft with hspent | hlong
        · omega
        · omega

/-- A piece of the knowledge base with one line. -/
theorem assembly_accounts_shortPiece :
    outputReserveTokens < (TokenBudgetScheduler.mk 110000).totalBudget - 500 ∧
      Accounts default ⟨110000⟩ [shortPiece] [(.rag, 100)] 500
        (TokenBudgetScheduler.assembly default ⟨110000⟩ [shortPiece] [(.rag, 100)] 500).parts :=
  ⟨by decide, assembly_accounts default ⟨110000⟩ [shortPiece] [(.rag, 100)] 500 (by decide)⟩

end AgenticRag
