import ComponentCensus.Proofs.ExcludedDirectories
import ComponentCensus.Proofs.Steps

/-!
# Limits on the number of files

A search for sources may be limited to a number of files.  The limit is compared with the number of
files collected each time one was appended, so a limited search is the unlimited one cut off at the
limit, except that a limit of zero lets one file pass.

## Main results

* `find_limited` : a limited search finds the first files of the unlimited one, as many as the
  limit says and at least one if there is any.
* `find_limited_to_zero` : a limit of zero that lets a file pass.

## Strategy

* The two searches go through the same paths in step.  `collect_limited` compares them from any
  number of collected files on; the invariant is that what was collected starts the result
  (`prefix_of_collect`).
* The limited search does not look at the rest of the paths, so that the unlimited one has to
  succeed for the two to be compared (`exists_collect`).
-/

namespace ComponentCensus.Files.Discovery

open ComponentCensus.Text

variable {discovery : Discovery} {found paths files : List Path}

/-- A path that is excluded is passed over, and any other is appended before the limit is tested. -/
theorem collect_cons (limit : Option Int) {path : Path} {excluded : Bool}
    (hexcluded : discovery.isExcluded path = .ok excluded) :
    discovery.collect limit found (path :: paths) =
      if excluded then discovery.collect limit found paths
      else if limit.any (· ≤ ((found ++ [path]).length : Int)) then .ok (found ++ [path])
      else discovery.collect limit (found ++ [path]) paths := by
  rw [collect, hexcluded]
  cases excluded with
  | true => rfl
  | false => rfl

/-- A search that succeeds has decided of each path whether it is excluded. -/
theorem exists_of_collect_cons {limit : Option Int} {path : Path}
    (hfiles : discovery.collect limit found (path :: paths) = .ok files) :
    ∃ excluded, discovery.isExcluded path = .ok excluded := by
  rw [collect] at hfiles
  obtain ⟨excluded, hexcluded, -⟩ := exists_of_bind_eq_ok hfiles
  exact ⟨excluded, hexcluded⟩

theorem prefix_of_collect (hfiles : discovery.collect none found paths = .ok files) :
    found <+: files := by
  induction paths generalizing found with
  | nil =>
      cases hfiles
      exact List.prefix_rfl
  | cons path paths ih =>
      obtain ⟨excluded, hexcluded⟩ := exists_of_collect_cons hfiles
      rw [collect_cons none hexcluded] at hfiles
      cases excluded with
      | true => exact ih hfiles
      | false => exact (List.prefix_append found [path]).trans (ih hfiles)

/-- With a limit, a search that has collected some files ends with those that it would end with, but
no more than the limit, or one more than it had if that is not fewer. -/
theorem collect_limited (limit : Nat) (hfiles : discovery.collect none found paths = .ok files) :
    discovery.collect (some limit) found paths =
      .ok (files.take (max limit (found.length + 1))) := by
  induction paths generalizing found with
  | nil =>
      cases hfiles
      rw [List.take_of_length_le (by omega)]
      rfl
  | cons path paths ih =>
      obtain ⟨excluded, hexcluded⟩ := exists_of_collect_cons hfiles
      rw [collect_cons none hexcluded] at hfiles
      rw [collect_cons (some _) hexcluded]
      cases excluded with
      | true => exact ih hfiles
      | false =>
          have hlength : (found ++ [path]).length = found.length + 1 := by simp
          have htest : (some (limit : Int)).any (· ≤ ((found ++ [path]).length : Int)) =
              decide (limit ≤ found.length + 1) := by
            rw [Option.any_some, hlength]
            simp only [Int.ofNat_le]
          rw [if_neg Bool.false_ne_true, htest]
          by_cases hreached : limit ≤ found.length + 1
          · -- the path just appended is the last one
            have hstart := List.prefix_iff_eq_take.mp (prefix_of_collect hfiles)
            rw [hlength] at hstart
            rw [if_pos (decide_eq_true hreached), max_eq_right hreached, ← hstart]
          · have hafter :
                max limit ((found ++ [path]).length + 1) = max limit (found.length + 1) := by
              omega
            rw [if_neg (by simpa using hreached), ih hfiles, hafter]

theorem exists_collect (hexcluded : ∀ path, ∃ excluded, discovery.isExcluded path = .ok excluded)
    (found paths : List Path) : ∃ files, discovery.collect none found paths = .ok files := by
  induction paths generalizing found with
  | nil => exact ⟨found, rfl⟩
  | cons path paths ih =>
      obtain ⟨excluded, hpath⟩ := hexcluded path
      rw [collect_cons none hpath]
      cases excluded with
      | true => exact ih found
      | false => exact ih (found ++ [path])

/-- The sources that a pattern leads to, in order, whether or not they are excluded. -/
def sources (discovery : Discovery) (tree : Tree) (pattern : String) :
    Except Fault (List Path) := do
  let glob ← Glob.ofText pattern
  let paths ← glob.run tree discovery.root
  return (paths.mergeSort Path.le).filter (discovery.isSource tree)

theorem find_eq (discovery : Discovery) (tree : Tree) (pattern : String) (limit : Option Int) :
    discovery.find tree pattern limit =
      discovery.sources tree pattern >>= discovery.collect limit [] := by
  simp only [find, sources, bind_assoc, pure_bind]

/-- **Limits.**  A search with a limit finds the first files of the search without one, as many as
the limit says, but one at least; both fail in the same way if the pattern cannot be followed. -/
theorem find_limited (root : Path) (exclusions endings : List String) (tree : Tree)
    (pattern : String) (limit : Nat) :
    (Discovery.mk root (exclusions.map .str) endings).find tree pattern (some limit) =
      ((Discovery.mk root (exclusions.map .str) endings).find tree pattern none).map
        (List.take (max limit 1)) := by
  rw [find_eq, find_eq]
  cases sources _ tree pattern with
  | error fault => rfl
  | ok paths =>
      obtain ⟨files, hfiles⟩ := exists_collect
        (fun path => ⟨_, isExcluded_texts root exclusions endings path⟩) [] paths
      rw [bind_of_eq_ok rfl (collect_limited limit hfiles), bind_of_eq_ok rfl hfiles]
      rfl

/-- A project with one source. -/
def singleSource : Tree where
  files := [(["a.js"], ByteArray.empty)]

theorem sources_singleSource :
    (Discovery.mk ⟨"/", []⟩ [] [".js"]).sources singleSource "a.js" = .ok [⟨"/", ["a.js"]⟩] := by
  have hglob : Glob.ofText "a.js" = .ok ⟨[.exact "a.js"], false⟩ := rfl
  have hpaths : (Glob.mk [.exact "a.js"] false).run singleSource ⟨"/", []⟩ =
      .ok [⟨"/", ["a.js"]⟩] := rfl
  refine bind_of_eq_ok hglob (bind_of_eq_ok hpaths ?_)
  rw [List.mergeSort_singleton]
  rfl

/-- A limit of zero lets a file pass that is not among the first zero files. -/
theorem find_limited_to_zero :
    (Discovery.mk ⟨"/", []⟩ [] [".js"]).find singleSource "a.js" (some 0) =
        .ok [⟨"/", ["a.js"]⟩] ∧
      ((Discovery.mk ⟨"/", []⟩ [] [".js"]).find singleSource "a.js" none).map (List.take 0) =
        .ok [] := by
  rw [find_eq, find_eq, sources_singleSource]
  exact ⟨rfl, rfl⟩

end ComponentCensus.Files.Discovery
