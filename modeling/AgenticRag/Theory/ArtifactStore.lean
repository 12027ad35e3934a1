import AgenticRag.Core.ArtifactStorage

/-!
# The Storage of Reports as a Map

What the storage is for: under a tenant, a report and an extension the text that was
saved last, and no path that leads out of the directory of the tenant.

Saving and reading write the path differently. A report that was saved under a
capital extension is in the file with the small one, where reading does not look. A
text is read with its line ends as line feeds. And an extension that is not checked
may hold parts of a path of its own.

Without these the storage is the map (`stored_lawful_iff`): extensions are written small,
texts have no carriage return, and no more parts of an extension lead up than down.

## Main definitions

* `SaveCall`, `saveAll`: Reports that are saved one after the other.
* `CaseMapping`: What lower case leaves alone.

## Theorems

* `lookup_saveAll`: The file of a report holds the text saved last.
* `read_iff`: When it is read as it was.
* `stored_lawful_iff`: When the storage is what it should be.
-/

namespace AgenticRag

namespace Report

open Py Ordered

namespace LocalArtifactStorage

variable (u : Unicode) (s : LocalArtifactStorage)

/-- A report to be saved, and when. -/
structure SaveCall where
  now : Int := 0
  tenantId : String
  reportId : String
  content : String
  extension : String

/-- The names are safe, and reports are saved under the extension. -/
def Accepted (tenantId reportId extension : String) : Prop :=
  isSafeId tenantId ∧ isSafeId reportId ∧ savedExtension u extension ∈ savedExtensions

instance (tenantId reportId extension : String) :
    Decidable (Accepted u tenantId reportId extension) :=
  inferInstanceAs (Decidable (_ ∧ _ ∧ _))

/-- The files after one more report. One that is refused changes nothing. -/
def afterSave (files : Files) (c : SaveCall) : Files :=
  match s.save u files c.now c.tenantId c.reportId c.content c.extension with
  | .ok (_, files) => files
  | .error _ => files

/-- The files after some reports, from an empty directory. -/
def saveAll (calls : List SaveCall) : Files := calls.foldl (s.afterSave u) []

/-- The report is saved under the three. -/
def Stores (tenantId reportId ext : String) (c : SaveCall) : Prop :=
  Accepted u c.tenantId c.reportId c.extension ∧ c.tenantId = tenantId ∧ c.reportId = reportId ∧
    savedExtension u c.extension = ext

instance (tenantId reportId ext : String) : DecidablePred (Stores u tenantId reportId ext) :=
  fun _ => inferInstanceAs (Decidable (_ ∧ _))

/-- The text that was saved last under the three. -/
def lastSaved (calls : List SaveCall) (tenantId reportId ext : String) : Option String :=
  ((calls.filter (fun c => decide (Stores u tenantId reportId ext c))).getLast?).map
    SaveCall.content

/-- Reading gives the text that was saved last, and all paths are in the directory of
    the tenant. -/
structure Lawful (calls : List SaveCall) (tenantId reportId extension : String) : Prop where
  readsBack : Accepted u tenantId reportId extension →
    ∀ content, lastSaved u calls tenantId reportId (savedExtension u extension) = some content →
      s.read u (s.saveAll u calls) tenantId reportId extension = .ok content
  savedInside : ∀ c ∈ calls, Accepted u c.tenantId c.reportId c.extension →
    s.tenantDir c.tenantId <+:
      normalise (s.filePath c.tenantId c.reportId (savedExtension u c.extension))
  readInside : isSafeId tenantId → isSafeId reportId →
    s.tenantDir tenantId <+: normalise (s.readPath tenantId reportId extension)

/-- Lower case leaves slashes and the extensions alone. -/
structure CaseMapping : Prop where
  slash : ∀ x : String, '/' ∈ x.toList → '/' ∈ (u.lower x).toList
  small : ∀ ext ∈ savedExtensions, u.lower ext = ext

section Paths

variable {s} {tenantId reportId ext : String}

theorem safe_chars {value : String} (h : isSafeId value = true) {c : Char}
    (hc : c ∈ value.toList) : isSafeChar c = true ∨ c = '\n' := by
  rw [isSafeId, Bool.and_eq_true] at h
  have hmatches := h.2
  rw [matchesSafeId, Bool.and_eq_true, Bool.and_eq_true, List.all_eq_true] at hmatches
  have hbody := hmatches.2
  split_ifs at hbody with hlast
  · -- The line feed may only stand behind the name.
    have hne : value.toList ≠ [] := List.ne_nil_of_mem hc
    rw [← List.dropLast_append_getLast hne] at hc
    rcases List.mem_append.mp hc with hc | hc
    · exact .inl (hbody c hc)
    · rw [List.getLast?_eq_some_getLast hne] at hlast
      exact .inr ((List.mem_singleton.mp hc).trans (Option.some.inj hlast))
  · exact .inl (hbody c hc)

theorem safe_not_mem {value : String} (h : isSafeId value = true) {c : Char}
    (hsafe : isSafeChar c = false) (hfeed : c ≠ '\n') : c ∉ value.toList := by
  intro hc
  rcases safe_chars h hc with hyes | heq
  · rw [hsafe] at hyes
    cases hyes
  · exact hfeed heq

theorem safe_ne_empty {value : String} (h : isSafeId value = true) : value ≠ "" := by
  rw [isSafeId, Bool.and_eq_true, Bool.and_eq_true, bne_iff_ne] at h
  exact h.1.1

theorem tenantDir_eq (ht : isSafeId tenantId = true) :
    s.tenantDir tenantId = s.rootPath ++ [tenantId] := by
  have hdot : tenantId ≠ "." := by
    rintro rfl
    exact absurd ht (by decide)
  rw [tenantDir, pathParts_of_no_slash (safe_not_mem ht (by decide) (by decide))
    (safe_ne_empty ht) hdot]

/-- The name of a file does not begin with a dot. -/
theorem name_head (ext : String) (hr : isSafeId reportId = true) :
    ∃ c cs, (reportId ++ "." ++ ext).toList = c :: cs ∧ c ≠ '.' := by
  rw [String.toList_append, String.toList_append]
  cases hreport : reportId.toList with
  | nil => exact absurd (String.toList_eq_nil_iff.mp hreport) (safe_ne_empty hr)
  | cons c cs =>
      refine ⟨c, _, rfl, ?_⟩
      rintro rfl
      exact safe_not_mem hr (c := '.') (by decide) (by decide)
        (hreport ▸ List.mem_cons_self)

/-- The name of the file of a report has one part. -/
theorem pathParts_name (hr : isSafeId reportId = true) (hext : '/' ∉ ext.toList) :
    pathParts (reportId ++ "." ++ ext) = [reportId ++ "." ++ ext] := by
  rcases name_head ext hr with ⟨c, cs, hname, hc⟩
  -- No slash in it, not empty, and not the current directory.
  refine pathParts_of_no_slash ?_ ?_ ?_
  · rw [String.toList_append, String.toList_append, List.append_assoc, List.mem_append]
    rintro (h | h)
    · exact safe_not_mem hr (by decide) (by decide) h
    · rcases List.mem_cons.mp h with h | h
      · exact absurd h (by decide)
      · exact hext h
  · intro h
    rw [h] at hname
    cases hname
  · intro h
    rw [h] at hname
    exact hc (List.cons.inj hname).1.symm

theorem filePath_eq (ht : isSafeId tenantId = true) (hr : isSafeId reportId = true)
    (hext : '/' ∉ ext.toList) :
    s.filePath tenantId reportId ext = s.rootPath ++ [tenantId, reportId ++ "." ++ ext] := by
  rw [filePath, tenantDir_eq ht, pathParts_name hr hext, List.append_assoc]
  rfl

/-- Reports of different tenants, names or extensions have different files. -/
theorem filePath_inj {tenantId' reportId' ext' : String} (ht : isSafeId tenantId = true)
    (hr : isSafeId reportId = true) (hext : '/' ∉ ext.toList) (ht' : isSafeId tenantId' = true)
    (hr' : isSafeId reportId' = true) (hext' : '/' ∉ ext'.toList)
    (h : s.filePath tenantId reportId ext = s.filePath tenantId' reportId' ext') :
    tenantId = tenantId' ∧ reportId = reportId' ∧ ext = ext' := by
  rw [filePath_eq ht hr hext, filePath_eq ht' hr' hext'] at h
  rcases List.cons.inj (List.append_cancel_left h) with ⟨htenant, hname⟩
  have hname := congrArg String.toList (List.cons.inj hname).1
  rw [String.toList_append, String.toList_append, String.toList_append, String.toList_append,
    List.append_assoc, List.append_assoc] at hname
  -- A safe name has no dot, so the first dot ends it.
  rcases append_cons_inj (safe_not_mem hr (by decide) (by decide))
    (safe_not_mem hr' (by decide) (by decide)) hname with ⟨hreport, hext⟩
  exact ⟨htenant, String.toList_inj.mp hreport, String.toList_inj.mp hext⟩

theorem no_slash_of_mem_savedExtensions (h : ext ∈ savedExtensions) : '/' ∉ ext.toList := by
  revert ext
  decide

end Paths

section Stored

variable {u s} {tenantId reportId ext : String}

/-- A report that is accepted is written, and another is not. -/
theorem afterSave_eq (files : Files) (c : SaveCall) :
    s.afterSave u files c =
      if Accepted u c.tenantId c.reportId c.extension then
        dictSet (s.filePath c.tenantId c.reportId (savedExtension u c.extension)) c.content files
      else files := by
  -- The three checks in the order in which they are made.
  unfold afterSave save checkIds
  by_cases ht : isSafeId c.tenantId = true
  · by_cases hr : isSafeId c.reportId = true
    · rw [if_neg (not_not_intro ht), if_neg (not_not_intro hr)]
      by_cases hext : savedExtension u c.extension ∈ savedExtensions
      · rw [if_pos (show Accepted u _ _ _ from ⟨ht, hr, hext⟩)]
        dsimp only [bind, Except.bind]
        rw [if_neg (by simpa using hext)]
        rfl
      · rw [if_neg (fun h : Accepted u _ _ _ => hext h.2.2)]
        dsimp only [bind, Except.bind]
        rw [if_pos (by simpa using hext)]
    · rw [if_neg (fun h : Accepted u _ _ _ => hr h.2.1), if_neg (not_not_intro ht), if_pos hr]
      rfl
  · rw [if_neg (fun h : Accepted u _ _ _ => ht h.1), if_pos ht]
    rfl

theorem lastSaved_concat (calls : List SaveCall) (c : SaveCall) :
    lastSaved u (calls ++ [c]) tenantId reportId ext =
      if Stores u tenantId reportId ext c then some c.content
      else lastSaved u calls tenantId reportId ext := by
  rw [lastSaved, List.filter_append, List.filter_singleton]
  by_cases h : Stores u tenantId reportId ext c
  · rw [if_pos h, decide_eq_true h, cond_true, List.getLast?_concat]
    rfl
  · rw [if_neg h, decide_eq_false h, cond_false, List.append_nil]
    rfl

/-- The file that was written has the new text, and the others what they had. -/
theorem lookup_written (path path' : List String) (content : String) (files : Files) :
    (dictSet path content files).lookup path' =
      if path' = path then some content else files.lookup path' := by
  rw [lawful_beq_subsingleton List.instBEq instBEqOfDecidableEq]
  exact lookup_dictSet path content files path'

/-- The file of a report holds the text that was saved last, if any was. -/
theorem lookup_saveAll (calls : List SaveCall) (ht : isSafeId tenantId = true)
    (hr : isSafeId reportId = true) (hext : '/' ∉ ext.toList) :
    (s.saveAll u calls).lookup (s.filePath tenantId reportId ext) =
      lastSaved u calls tenantId reportId ext := by
  induction calls using List.reverseRecOn with
  | nil => rfl
  | append_singleton calls c ih =>
      rw [lastSaved_concat, saveAll, List.foldl_concat, ← saveAll, afterSave_eq]
      by_cases haccepted : Accepted u c.tenantId c.reportId c.extension
      · rw [if_pos haccepted, lookup_written, ih]
        -- One path means one report, so the last to write the file is the last to save it.
        have hsame : s.filePath tenantId reportId ext =
            s.filePath c.tenantId c.reportId (savedExtension u c.extension) ↔
              Stores u tenantId reportId ext c := by
          constructor
          · intro h
            rcases filePath_inj ht hr hext haccepted.1 haccepted.2.1
              (no_slash_of_mem_savedExtensions haccepted.2.2) h with ⟨rfl, rfl, rfl⟩
            exact ⟨haccepted, rfl, rfl, rfl⟩
          · rintro ⟨-, rfl, rfl, rfl⟩
            rfl
        simp only [hsame]
      · rw [if_neg haccepted, if_neg (fun h => haccepted h.1), ih]

/-- Only small extensions were saved under. -/
theorem lastSaved_eq_none (calls : List SaveCall) (h : ext ∉ savedExtensions) :
    lastSaved u calls tenantId reportId ext = none := by
  rw [lastSaved, List.filter_eq_nil_iff.mpr, List.getLast?_nil]
  · rfl
  · intro c _ hstores
    rcases of_decide_eq_true hstores with ⟨haccepted, -, -, hc⟩
    exact h (hc ▸ haccepted.2.2)

variable {extension content : String}

theorem read_eq (files : Files) (ht : isSafeId tenantId = true) (hr : isSafeId reportId = true) :
    s.read u files tenantId reportId extension =
      match files.lookup (s.filePath tenantId reportId (lstripDots extension)) with
      | none => .error (.fileNotFound
          ("报告文件不存在: " ++ pathText (s.filePath tenantId reportId (lstripDots extension))))
      | some content => .ok (universalNewlines content) := by
  rw [read, checkIds, if_neg (not_not_intro ht), if_neg (not_not_intro hr)]
  rfl

/-- What was saved last is read as it was exactly if the extension is small and the
    text has no carriage return. -/
theorem read_iff (hu : CaseMapping u) (calls : List SaveCall)
    (haccepted : Accepted u tenantId reportId extension)
    (hlast : lastSaved u calls tenantId reportId (savedExtension u extension) = some content) :
    s.read u (s.saveAll u calls) tenantId reportId extension = .ok content ↔
      lstripDots extension = savedExtension u extension ∧ '\r' ∉ content.toList := by
  have hslash : '/' ∉ (lstripDots extension).toList := fun h =>
    no_slash_of_mem_savedExtensions haccepted.2.2 (hu.slash _ h)
  rw [read_eq _ haccepted.1 haccepted.2.1, lookup_saveAll calls haccepted.1 haccepted.2.1 hslash]
  -- Reading takes the extension as it is, writing takes it small.
  by_cases hsmall : lstripDots extension = savedExtension u extension
  · rw [hsmall, hlast, ← universalNewlines_eq_self_iff]
    simp
  · -- A capital extension is none that was saved under.
    have hnone : lstripDots extension ∉ savedExtensions := fun h =>
      hsmall (hu.small _ h).symm
    rw [lastSaved_eq_none calls hnone]
    simp [hsmall]

theorem not_dotdot_mem_tenantDir (ht : isSafeId tenantId = true) :
    ".." ∉ s.tenantDir tenantId := by
  rw [tenantDir_eq ht, List.mem_append, List.mem_singleton]
  rintro (h | rfl)
  · exact s.resolved h
  · exact absurd ht (by decide)

/-- Where no more parts of the extension lead up than down the storage is what it
    should be exactly if small extensions are read, and texts without carriage
    returns. -/
theorem stored_lawful_iff (hu : CaseMapping u) (calls : List SaveCall)
    (hstays : isSafeId tenantId → isSafeId reportId →
      staysIn 0 (pathParts (reportId ++ "." ++ lstripDots extension))) :
    s.Lawful u calls tenantId reportId extension ↔
      (Accepted u tenantId reportId extension → ∀ content,
        lastSaved u calls tenantId reportId (savedExtension u extension) = some content →
          lstripDots extension = savedExtension u extension ∧ '\r' ∉ content.toList) := by
  refine ⟨fun h haccepted content hlast =>
    (read_iff hu calls haccepted hlast).mp (h.readsBack haccepted content hlast),
    fun h => ⟨fun haccepted content hlast =>
      (read_iff hu calls haccepted hlast).mpr (h haccepted content hlast), ?_, ?_⟩⟩
  · intro c _ haccepted
    refine prefix_normalise (not_dotdot_mem_tenantDir haccepted.1) ?_
    have hslash := no_slash_of_mem_savedExtensions haccepted.2.2
    rw [pathParts_name haccepted.2.1 hslash, staysIn, if_neg, staysIn]
    -- A name that does not begin with a dot does not lead up.
    intro h
    rcases name_head (savedExtension u c.extension) haccepted.2.1 with ⟨d, ds, hname, hd⟩
    rw [h] at hname
    exact hd (List.cons.inj hname).1.symm
  · intro ht hr
    -- Reading does not check the extension, so its parts may lead anywhere.
    exact prefix_normalise (not_dotdot_mem_tenantDir ht) (hstays ht hr)

/-- A storage under an absolute path, and reports that are saved in it. -/
def sampleStorage : LocalArtifactStorage where
  rootPath := ["srv", "reports"]

/-- A report of the first tenant. -/
def savedReport (content extension : String) : SaveCall where
  tenantId := "t1"
  reportId := "rpt_1"
  content := content
  extension := extension

/-- The case of ASCII letters. -/
def asciiCase : Unicode :=
  { (default : Unicode) with lower := fun s => String.ofList (s.toList.map Char.toLower) }

theorem caseMapping_asciiCase : CaseMapping asciiCase where
  slash x hx := by
    rw [asciiCase, String.toList_ofList]
    exact List.mem_map.mpr ⟨'/', hx, by decide⟩
  small := by decide

theorem stored_lawful_iff_markdown :
    sampleStorage.Lawful asciiCase [savedReport "a" "md", savedReport "b" ".MD"] "t1" "rpt_1" "md" ↔
      (Accepted asciiCase "t1" "rpt_1" "md" → ∀ content,
        lastSaved asciiCase [savedReport "a" "md", savedReport "b" ".MD"] "t1" "rpt_1"
            (savedExtension asciiCase "md") = some content →
          lstripDots "md" = savedExtension asciiCase "md" ∧ '\r' ∉ content.toList) :=
  stored_lawful_iff caseMapping_asciiCase _ (fun _ _ => by decide)

/-- A capital extension is not found again, a carriage return does not come back, and
    an extension leads to another tenant. -/
theorem not_stored_lawful_samples :
    ¬ sampleStorage.Lawful asciiCase [savedReport "a" "MD"] "t1" "rpt_1" "MD" ∧
      ¬ sampleStorage.Lawful asciiCase [savedReport "a\r\nb" "md"] "t1" "rpt_1" "md" ∧
      ¬ sampleStorage.Lawful asciiCase [] "t1" "rpt_1" "x/../../t2/rpt_2.md" := by
  refine ⟨fun h => ?_, fun h => ?_, fun h => ?_⟩
  · have hread := h.readsBack (by decide) "a" (by decide)
    revert hread
    decide
  · have hread := h.readsBack (by decide) "a\r\nb" (by decide)
    revert hread
    decide
  · have hinside := h.readInside (by decide) (by decide)
    revert hinside
    decide

end Stored

end LocalArtifactStorage

end Report

end AgenticRag
