import ComponentCensus.Proofs.Contraction
import ComponentCensus.Proofs.Monotonicity
import ComponentCensus.Proofs.Pool
import ComponentCensus.Scan.Batch

/-!
# One file cannot disturb a batch

Reading and narrowing a report may fail in many ways, and every failure is an error of its file.
Classifying the report comes after that and must not fail at all, and a pool must give what the
files give one by one.

Each file has an outcome: a result, or an error with the path that is shown and the message of the
fault.  A batch has the results and the errors of its files, each in the order of the files, and
counts all of them as analyzed.

## Main results

* `analyze_isolates_files` : a batch has the outcomes of its files and nothing else, whatever the
  number of workers and their schedule.

## Strategy

* The reports that files can have are those of censuses and what narrowing leaves of them, so that
  the buckets of the catalog are lists (`hasLists_of_analyzeFile`).  Such reports have an analysis
  under every classifier, as long as percentages can be computed (`exists_outcome`).
* Therefore every file has an outcome, and by `Workers.mapM_eq` a batch collects the outcomes in
  the order of the files.
* Which of the two an outcome is depends on whether the file has a report (`outcome_cases`), so the
  results are those of the files with one, and the errors those of the others
  (`results_of_outcomes`).
-/

namespace ComponentCensus

open ComponentCensus.Complexity ComponentCensus.Files ComponentCensus.Number ComponentCensus.Package

/-! ## Reports of files can be classified -/

namespace Complexity

theorem hasLists_of_buckets {patterns : Value}
    (hbuckets : ∀ category ∈ catalog, ∃ items, category.bucketIn patterns = .ok (.list items)) :
    HasLists patterns := by
  intro category hcategory
  obtain ⟨items, hbucket⟩ := hbuckets category hcategory
  have hitems : category.itemsIn patterns = items := by
    rw [Category.itemsIn, hbucket]
    rfl
  rw [hitems, hbucket]

theorem group_mem : ∀ category ∈ catalog, category.group ∈ ["imports", "usage", "advanced"] := by
  decide

/-- Buckets that are lists are lists after some of their entries are gone. -/
theorem hasLists_of_thinnedFrom {kept report : Report} (hthinned : kept.ThinnedFrom report)
    (hlists : HasLists report.patterns) : HasLists kept.patterns := by
  refine hasLists_of_buckets fun category hcategory => ?_
  obtain ⟨old, new, hold, hnew, hthin⟩ :=
    hthinned.buckets category.group (group_mem category hcategory) category.bucket
  obtain rfl := Except.ok.inj (hold.symm.trans (hlists category hcategory))
  rcases hthin with rfl | ⟨items, left, -, rfl, -⟩
  · exact ⟨_, hnew⟩
  · exact ⟨left, hnew⟩

end Complexity

namespace Scan

section Reports

variable {readers : Readers} {tree : Tree} {strict : Bool} {library : Value} {path : Path}
  {report : Report}

/-- However a report of a file came about, its buckets are lists. -/
theorem hasLists_of_analyzeFile
    (hreport : analyzeFile readers tree strict library path = .ok report) :
    HasLists report.patterns := by
  obtain ⟨code, hreport⟩ : ∃ code, analyzeSource (Options.forFile path strict) path.text library
      (readers.tree (Options.forFile path strict).grammar code) = .ok report := by
    unfold analyzeFile at hreport
    split at hreport
    · cases hreport
    · cases hreport
    · next code _ => exact ⟨code, hreport⟩
  unfold analyzeSource at hreport
  obtain ⟨accepted, -, hreport⟩ := exists_of_bind_eq_ok hreport
  -- with a library the report is narrowed, without one it is that of the census
  unfold analyzeTree Scan.narrowTo at hreport
  split at hreport
  · exact hasLists_of_thinnedFrom (Report.thinnedFrom_of_narrowTo hreport) (hasLists_report _)
  · cases hreport
    exact hasLists_report _

end Reports

/-! ## Outcomes -/

namespace Mapper

section Outcomes

variable {mapper : Mapper} {readers : Readers} {tree : Tree} {library : Value} {path : Path}

/-- A file has a result if it has a report, and an error otherwise. -/
theorem outcome_cases {outcome : FileResult ⊕ FileError}
    (houtcome : mapper.outcome readers tree library path = .ok outcome) :
    (∃ report analysis, analyzeFile readers tree mapper.strict library path = .ok report ∧
        outcome = .inl ⟨path, report, analysis⟩) ∨
      ∃ fault, analyzeFile readers tree mapper.strict library path = .error fault ∧
        outcome = .inr ⟨mapper.displayPath path, fault.message⟩ := by
  unfold Mapper.outcome at houtcome
  split at houtcome
  · next fault hfault =>
    cases houtcome
    exact Or.inr ⟨fault, hfault, rfl⟩
  · next report hreport =>
    obtain ⟨analysis, -, houtcome⟩ := exists_of_bind_eq_ok houtcome
    cases houtcome
    exact Or.inl ⟨report, analysis, hreport, rfl⟩

/-- Every file has an outcome: a report that can be made can also be classified. -/
theorem exists_outcome
    (hentries : mapper.classifier.isSome → ∀ report,
      analyzeFile readers tree mapper.strict library path = .ok report →
        ∀ category ∈ catalog, (category.itemsIn report.patterns).length < twoTo 53) :
    ∃ outcome, mapper.outcome readers tree library path = .ok outcome := by
  unfold Mapper.outcome
  cases hreport : analyzeFile readers tree mapper.strict library path with
  | error fault => exact ⟨_, rfl⟩
  | ok report =>
      cases hclassifier : mapper.classifier with
      | none => exact ⟨_, rfl⟩
      | some classifier =>
          -- the entries can be counted exactly, which is more than an analysis needs
          have hbound : ∀ category ∈ catalog,
              (category.itemsIn report.patterns).length ≤ twoTo 64 := by
            intro category hcategory
            have hfew := hentries (by rw [hclassifier]; rfl) report hreport category hcategory
            have htwo : twoTo 53 ≤ twoTo 64 := by decide
            omega
          obtain ⟨analysis, hanalysis⟩ :=
            @exists_analyze classifier _ (hasLists_of_analyzeFile hreport) hbound
          refine ⟨.inl ⟨path, report, some analysis⟩, bind_of_eq_ok ?_ rfl⟩
          show (do return some (← classifier.analyze report)) = _
          exact bind_of_eq_ok hanalysis rfl

end Outcomes

/-! ## Batches -/

section Batches

variable {mapper : Mapper} {readers : Readers} {tree : Tree} {library : Value} {files : List Path}

/-- Whether a file has a report. -/
def hasReport (mapper : Mapper) (readers : Readers) (tree : Tree) (library : Value) (path : Path) :
    Bool :=
  (analyzeFile readers tree mapper.strict library path).isOk

theorem not_hasReport_of_unreadable {path : Path}
    (hunreadable : (tree.readText path).isOk = false) :
    mapper.hasReport readers tree library path = false := by
  unfold hasReport analyzeFile
  cases hcode : tree.readText path with
  | error fault => cases fault <;> rfl
  | ok code =>
      rw [hcode] at hunreadable
      cases hunreadable

theorem results_of_outcomes {outcomes : List (FileResult ⊕ FileError)}
    (houtcomes : List.Forall₂
      (fun path outcome => mapper.outcome readers tree library path = .ok outcome) files outcomes) :
    (outcomes.filterMap Sum.getLeft?).map (·.path) =
        files.filter (mapper.hasReport readers tree library) ∧
      (outcomes.filterMap Sum.getRight?).map (·.file) =
        (files.filter fun path => !mapper.hasReport readers tree library path).map
          mapper.displayPath := by
  induction houtcomes with
  | nil => exact ⟨rfl, rfl⟩
  | cons houtcome _ ih =>
      obtain ⟨hresults, herrors⟩ := ih
      -- one file more is one result or one error more
      rcases outcome_cases houtcome with ⟨report, analysis, hreport, rfl⟩ | ⟨fault, hfault, rfl⟩
      · have hhas : mapper.hasReport readers tree library _ = true := congrArg Except.isOk hreport
        rw [List.filter_cons_of_pos hhas, List.filter_cons_of_neg (by rw [hhas]; decide)]
        exact ⟨congrArg (_ :: ·) hresults, herrors⟩
      · have hhas : mapper.hasReport readers tree library _ = false := congrArg Except.isOk hfault
        rw [List.filter_cons_of_neg (by rw [hhas]; decide),
          List.filter_cons_of_pos (by rw [hhas]; rfl)]
        exact ⟨hresults, congrArg (_ :: ·) herrors⟩

theorem length_lefts_add_rights {α β : Type} (sums : List (α ⊕ β)) :
    (sums.filterMap Sum.getLeft?).length + (sums.filterMap Sum.getRight?).length = sums.length := by
  induction sums with
  | nil => rfl
  | cons sum rest ih =>
      cases sum with
      | inl _ =>
          simp only [List.filterMap_cons, Sum.getLeft?, Sum.getRight?, List.length_cons]
          omega
      | inr _ =>
          simp only [List.filterMap_cons, Sum.getLeft?, Sum.getRight?, List.length_cons]
          omega

end Batches

/-- **One file cannot disturb a batch.**  Whatever stands at the paths, whichever library is asked
for and however many workers take turns in whatever way, a batch comes to an end.  Each path has
exactly the outcome that it has alone; those with a report are the results and the others the
errors, both in the order of the paths.  A classifier needs that the categories of a report have
fewer than 2⁵³ entries each. -/
theorem analyze_isolates_files (mapper : Mapper) (readers : Readers) (tree : Tree) (library : Value)
    (files : List Path) (workers : Workers)
    (hentries : mapper.classifier.isSome → ∀ path ∈ files, ∀ report,
      analyzeFile readers tree mapper.strict library path = .ok report →
        ∀ category ∈ catalog, (category.itemsIn report.patterns).length < twoTo 53) :
    ∃ batch outcomes, mapper.analyze readers tree library files workers = .ok batch ∧
      List.Forall₂ (fun path outcome => mapper.outcome readers tree library path = .ok outcome)
        files outcomes ∧
      batch.results = outcomes.filterMap Sum.getLeft? ∧
      batch.errors = outcomes.filterMap Sum.getRight? ∧
      batch.results.map (·.path) = files.filter (mapper.hasReport readers tree library) ∧
      batch.errors.map (·.file) =
        (files.filter fun path => !mapper.hasReport readers tree library path).map
          mapper.displayPath ∧
      batch.filesAnalyzed = files.length := by
  obtain ⟨outcomes, houtcomes⟩ := exists_mapM_ok fun path hpath =>
    @exists_outcome mapper readers tree library path fun hclassifier =>
      hentries hclassifier path hpath
  have hall := forall₂_of_mapM_eq_ok houtcomes
  obtain ⟨hresults, herrors⟩ := results_of_outcomes hall
  refine ⟨⟨outcomes.filterMap Sum.getLeft?, outcomes.filterMap Sum.getRight?⟩, outcomes, ?_, hall,
    rfl, rfl, hresults, herrors, ?_⟩
  · unfold Mapper.analyze
    rw [Workers.mapM_eq]
    exact bind_of_eq_ok houtcomes rfl
  · calc (outcomes.filterMap Sum.getLeft?).length + (outcomes.filterMap Sum.getRight?).length
        = outcomes.length := length_lefts_add_rights outcomes
      _ = files.length := hall.length_eq.symm

/-- A program that imports a namespace. -/
def importOnly : Syntax.Node :=
  Usage.namedNode 0 1 .program "" [] [Usage.starImport 1]

/-- Reads the empty source as a program, and any other one with an error. -/
def mixedReaders : Readers where
  tree _ code :=
    if code = "" then importOnly else ⟨⟨0, .program, 1, code, [], true, false, true⟩, []⟩
  yaml _ := .error .malformed
  toml _ := .error .malformed
  brackets := 0
  tooDeep _ := false

/-- A source, a source with an error, bytes that are no text, and a directory. -/
def mixedTree : Tree where
  files := [(["a"], ⟨#[]⟩), (["b"], ⟨#[33]⟩), (["c"], ⟨#[255]⟩)]
  directories := [["d"]]

/-- A file that is missing, then all of them, and one of them again. -/
def mixedFiles : List Path :=
  [⟨"/", ["e"]⟩, ⟨"/", ["a"]⟩, ⟨"/", ["b"]⟩, ⟨"/", ["c"]⟩, ⟨"/", ["d"]⟩, ⟨"/", ["a"]⟩]

/-- A strict mapper that classifies. -/
def mixedMapper : Mapper where
  discovery := ⟨⟨"/", []⟩, [], []⟩
  strict := true
  classifier := some {}

theorem readText_of_bytes {tree : Tree} {path : Path} {bytes : ByteArray} {listed : List UInt8}
    (hbytes : tree.readBytes path = .ok bytes) (hlisted : bytes.toList = listed) :
    tree.readText path = ((Text.Utf8.strict (listed.map (·.toNat))).map fun cs =>
      String.ofList (Text.unifyLineEnds cs)).mapError .undecodable := by
  subst hlisted
  exact bind_of_eq_ok hbytes rfl

theorem visit_importOnly : Usage.Census.empty.visit importOnly =
    { namespaces := ["Lib"], findings := { namespaceImports := [⟨"Lib", "lib", 1⟩] } } := by
  cbv

theorem analyzeFile_mixedTree :
    analyzeFile mixedReaders mixedTree true .null ⟨"/", ["a"]⟩ =
      .ok (Usage.Census.empty.visit importOnly).report := by
  have hlisted : (⟨#[]⟩ : ByteArray).toList = [] := by cbv
  have hcode : mixedTree.readText ⟨"/", ["a"]⟩ = .ok "" := readText_of_bytes rfl hlisted
  unfold analyzeFile
  rw [hcode]
  rfl

theorem not_hasReport_mixedTree : ∀ name ∈ ["b", "c", "d", "e"],
    mixedMapper.hasReport mixedReaders mixedTree .null ⟨"/", [name]⟩ = false := by
  have hbroken : mixedMapper.hasReport mixedReaders mixedTree .null ⟨"/", ["b"]⟩ = false := by
    have hlisted : (⟨#[33]⟩ : ByteArray).toList = [33] := by cbv
    have hcode : mixedTree.readText ⟨"/", ["b"]⟩ = .ok "!" := readText_of_bytes rfl hlisted
    unfold hasReport analyzeFile
    rw [hcode]
    rfl
  have hbytes : (mixedTree.readText ⟨"/", ["c"]⟩).isOk = false := by
    have hlisted : (⟨#[255]⟩ : ByteArray).toList = [255] := by cbv
    rw [readText_of_bytes rfl hlisted]
    rfl
  simp only [List.forall_mem_cons]
  exact ⟨hbroken, not_hasReport_of_unreadable hbytes, not_hasReport_of_unreadable rfl,
    not_hasReport_of_unreadable rfl, List.forall_mem_nil _⟩

theorem filter_mixedFiles :
    mixedFiles.filter (mixedMapper.hasReport mixedReaders mixedTree .null) =
        [⟨"/", ["a"]⟩, ⟨"/", ["a"]⟩] ∧
      (mixedFiles.filter fun path => !mixedMapper.hasReport mixedReaders mixedTree .null path) =
        [⟨"/", ["e"]⟩, ⟨"/", ["b"]⟩, ⟨"/", ["c"]⟩, ⟨"/", ["d"]⟩] := by
  have hsource : mixedMapper.hasReport mixedReaders mixedTree .null ⟨"/", ["a"]⟩ = true :=
    congrArg Except.isOk analyzeFile_mixedTree
  have hothers := not_hasReport_mixedTree
  simp only [List.forall_mem_cons] at hothers
  obtain ⟨hb, hc, hd, he, -⟩ := hothers
  simp [mixedFiles, hsource, hb, hc, hd, he]

theorem few_entries_mixedFiles {path : Path} (hpath : path ∈ mixedFiles) {report : Report}
    (hreport : analyzeFile mixedReaders mixedTree true .null path = .ok report) :
    ∀ category ∈ catalog, (category.itemsIn report.patterns).length < twoTo 53 := by
  have hhas : mixedMapper.hasReport mixedReaders mixedTree .null path = true :=
    congrArg Except.isOk hreport
  have hsource : path ∈ [⟨"/", ["a"]⟩, ⟨"/", ["a"]⟩] := by
    rw [← filter_mixedFiles.1]
    exact List.mem_filter.mpr ⟨hpath, hhas⟩
  obtain rfl : path = ⟨"/", ["a"]⟩ := by simpa using hsource
  obtain rfl := Except.ok.inj (analyzeFile_mixedTree.symm.trans hreport)
  rw [visit_importOnly]
  decide

/-- Three workers that finish out of turn, and the source is all that has a report. -/
theorem analyze_isolates_mixedFiles :
    ∃ batch, mixedMapper.analyze mixedReaders mixedTree .null mixedFiles
        { jobs := 3, schedule := fun step => 2 * step + 1 } = .ok batch ∧
      batch.results.map (·.path) = [⟨"/", ["a"]⟩, ⟨"/", ["a"]⟩] ∧
      batch.errors.map (·.file) = ["e", "b", "c", "d"] ∧ batch.filesAnalyzed = 6 := by
  obtain ⟨batch, outcomes, hbatch, -, -, -, hresults, herrors, hcount⟩ :=
    analyze_isolates_files mixedMapper mixedReaders mixedTree .null mixedFiles
      { jobs := 3, schedule := fun step => 2 * step + 1 }
      fun _ _ hpath _ hreport => few_entries_mixedFiles hpath hreport
  refine ⟨batch, hbatch, hresults.trans filter_mixedFiles.1, ?_, hcount⟩
  rw [herrors, filter_mixedFiles.2]
  cbv

end Mapper

end Scan

end ComponentCensus
