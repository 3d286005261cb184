import ComponentCensus.Proofs.Entries
import ComponentCensus.Proofs.Steps
import ComponentCensus.Repository.Fetch

/-!
# What a clone attempts

Git and the web service answer from outside, and nothing is assumed about what git answers.  A
clone tries its branches one by one, each with one run of git, and goes on only after a run that
ended with an exit code.  `Attempts` says how such a clone went: the branches that failed, the one
that ended it, and those that were not needed any more.

That a branch was attempted is seen from outside: the calls that are written down hold, in order,
one command line for each attempted branch (`gitCall`), with the branch, the address of the
repository and the place it is cloned to.  Before them stands the question for the default branch,
unless a branch is given, and there are no other calls.

When several repositories are cloned, each of them ends in one of these ways or was not referred to
properly, so that all faults are collected and none stops the rest.

## Main results

* `clone_tries_branches` : how every clone goes, and what is collected from several of them.

## Strategy

* One attempt is one step: `attempts_of_ends` for the step that ends a clone, and `Attempts.cons`
  for a step after which the clone goes on.  `exists_attempts` puts the steps together by induction
  on the branches.
* The question for the default branch changes nothing that git sees (`Attempts.after_question`).
* Several clones are an induction on the references (`exists_cloneEach`).  Its invariant is that
  the web service is left with replies that it had, so what is assumed of them holds for the rest.
-/

namespace ComponentCensus.Repository

open ComponentCensus.Files ComponentCensus.Text

/-! ## Replies -/

/-- The reply to the run of git that comes after so many others. -/
def Outside.gitReply (outside : Outside) (n : Nat) : GitReply :=
  outside.git[n]?.getD (.finished 0 "" [])

/-- The next reply of the web service. -/
def Outside.webReply (outside : Outside) : WebReply :=
  outside.web.head?.getD (.answered 404 "")

/-- A run of git that ended with an exit code other than zero. -/
inductive GitReply.Failed : GitReply → Prop
  | intro {code : Int} {message : String} {files : List (Path × Option ByteArray)}
      (hcode : code ≠ 0) : Failed (.finished code message files)

/-- The default branch that a reply of the web service names, if any.  The reply is a document with
a limited number of brackets. -/
inductive WebReply.Names (brackets : Nat) : WebReply → Option String → Prop
  | unreachable : Names brackets .unreachable none
  | refused {status : Nat} {body : String} (hstatus : ¬ (200 ≤ status ∧ status < 300)) :
      Names brackets (.answered status body) none
  | unnamed {status : Nat} {body : String} {members : List (String × Value)}
      (hstatus : 200 ≤ status ∧ status < 300)
      (hbody : Json.loadWithin (some brackets) body = .ok (.object members))
      (hbranch : Entries.get? "default_branch" members = none ∨
        Entries.get? "default_branch" members = some .null) :
      Names brackets (.answered status body) none
  | named {status : Nat} {body branch : String} {members : List (String × Value)}
      (hstatus : 200 ≤ status ∧ status < 300)
      (hbody : Json.loadWithin (some brackets) body = .ok (.object members))
      (hbranch : Entries.get? "default_branch" members = some (.str branch)) :
      Names brackets (.answered status body) (some branch)

/-- The default branch that the web service names next, if any. -/
def Outside.Names (outside : Outside) (answer : Option String) : Prop :=
  outside.webReply.Names outside.brackets answer

namespace Fetcher

/-- An empty name is no name of a branch. -/
def nonempty (branch : Option String) : Option String :=
  branch.filter (· ≠ "")

theorem filter_isTruthy_str (branch : Option String) :
    (branch.map Value.str).filter Value.isTruthy = (nonempty branch).map .str := by
  rw [Option.filter_map]
  rfl

theorem defaultBranchIn_of_object {brackets status : Nat} {body : String}
    {members : List (String × Value)} (hstatus : 200 ≤ status ∧ status < 300)
    (hbody : Json.loadWithin (some brackets) body = .ok (.object members)) :
    defaultBranchIn brackets (.answered status body) =
      .ok ((Entries.get? "default_branch" members).filter Value.isTruthy) := by
  rw [defaultBranchIn, if_pos (by simpa using hstatus)]
  exact bind_of_eq_ok hbody rfl

theorem defaultBranchIn_of_names {brackets : Nat} {reply : WebReply} {answer : Option String}
    (hnames : reply.Names brackets answer) :
    defaultBranchIn brackets reply = .ok ((nonempty answer).map .str) := by
  rw [← filter_isTruthy_str]
  cases hnames with
  | unreachable => rfl
  | refused hstatus =>
      rw [defaultBranchIn, if_neg (by simpa using hstatus)]
      rfl
  | unnamed hstatus hbody hbranch =>
      rw [defaultBranchIn_of_object hstatus hbody]
      rcases hbranch with hbranch | hbranch
      · rw [hbranch]
        rfl
      · rw [hbranch]
        rfl
  | named hstatus hbody hbranch =>
      rw [defaultBranchIn_of_object hstatus hbody, hbranch]
      rfl

/-! ## Branches -/

/-- The branches that a clone attempts: the one that is given, or else the default branch and after
it those of `main` and `master` that it is not. -/
def branchesToTry (given answer : Option String) : List String :=
  match nonempty given, nonempty answer with
  | some branch, _ => [branch]
  | none, some branch => branch :: ["main", "master"].filter (· ≠ branch)
  | none, none => ["main", "master"]

theorem nodup_branchesToTry (given answer : Option String) :
    (branchesToTry given answer).Nodup := by
  unfold branchesToTry
  split
  · exact List.nodup_singleton _
  · exact List.nodup_cons.mpr ⟨by simp, List.Nodup.filter _ (by decide)⟩
  · decide

theorem branchesToTry_ne_nil (given answer : Option String) : branchesToTry given answer ≠ [] := by
  unfold branchesToTry
  split <;> simp

theorem candidates_eq (answer : Option String) :
    candidates ((nonempty answer).map .str) = (branchesToTry none answer).map .str := by
  unfold branchesToTry
  cases nonempty answer with
  | none => rfl
  | some branch =>
      have hfallbacks : fallbackBranches = ["main", "master"].map .str := rfl
      rw [Option.map_some, candidates, hfallbacks, List.filter_map]
      have hsame : (fun fallback : Value => !fallback.same (.str branch)) ∘ Value.str =
          fun fallback => decide (fallback ≠ branch) := by
        funext fallback
        simp [Value.same]
      rw [hsame]
      rfl

section Attempts

variable (fetcher : Fetcher) (url : String) (reference : Reference) (target : Path)

/-- How a clone ends with an attempt: git accepts the branch, is missing or takes too long, or it
fails and no branch is left. -/
inductive Ends (branch : String) (left : List String) : GitReply → Except Fault Clone → Prop
  | cloned {message : String} {files : List (Path × Option ByteArray)} :
      Ends branch left (.finished 0 message files) (.ok ⟨reference, branch, target⟩)
  | missing : Ends branch left .missing (.error (.badRepository url "git is not installed"))
  | timedOut : Ends branch left .timedOut
      (.error (.badRepository url s!"clone timed out after {fetcher.timeout.text}s"))
  | refused {code : Int} {message : String} {files : List (Path × Option ByteArray)}
      (hleft : left = []) (hcode : code ≠ 0) (hmessage : strip message ≠ "") :
      Ends branch left (.finished code message files) (.error (.badRepository url (strip message)))
  | silent {code : Int} {message : String} {files : List (Path × Option ByteArray)}
      (hleft : left = []) (hcode : code ≠ 0) (hmessage : strip message = "") :
      Ends branch left (.finished code message files)
        (.error (.badRepository url s!"git exited with {code}"))

/-- The run of git that attempts a branch, as it is written down: a clone of this branch alone, from
the address of the repository into the target. -/
def gitCall (branch : String) : Call :=
  .git ["git", "clone", "--depth", fetcher.depth.text, "--branch", branch, "--single-branch",
    s!"https://github.com/{reference.owner}/{reference.name}.git", target.text] fetcher.timeout

/-- What lies outside after a run of git for a branch. -/
def afterRun (outside : Outside) (branch : String) : Outside :=
  (outside.runGit (fetcher.gitArguments reference branch target) fetcher.timeout target).2

/-- What a clone did, out of some branches to try: it asked a question or not, tried branches that
failed, and ended with one more. -/
structure Attempts (branches : List String) (asked : List Call) (outside : Outside)
    (result : Except Fault Clone × Outside) (tried : List String) (branch : String)
    (left : List String) : Prop where
  split : branches = tried ++ branch :: left
  failed : ∀ n < tried.length, (outside.gitReply n).Failed
  ends : Ends fetcher url reference target branch left (outside.gitReply tried.length) result.1
  /-- The attempts are all the runs of git that there were. -/
  calls : result.2.calls =
    outside.calls ++ asked ++ (tried ++ [branch]).map (gitCall fetcher reference target)
  /-- The web service has no other replies left than it had. -/
  web : result.2.web ⊆ outside.web
  brackets : result.2.brackets = outside.brackets

variable {fetcher url reference target}

theorem runGit_eq (outside : Outside) (branch : String) :
    outside.runGit (fetcher.gitArguments reference branch target) fetcher.timeout target =
      (outside.gitReply 0, afterRun fetcher reference target outside branch) := by
  rw [Outside.gitReply, ← List.head?_eq_getElem?]
  rfl

theorem gitReply_afterRun (outside : Outside) (branch : String) (n : Nat) :
    (afterRun fetcher reference target outside branch).gitReply n = outside.gitReply (n + 1) := by
  simp [Outside.gitReply, afterRun, Outside.runGit, List.getElem?_tail]

/-- A run of git is written down with its command line. -/
theorem calls_afterRun (outside : Outside) (branch : String) :
    (afterRun fetcher reference target outside branch).calls =
      outside.calls ++ [gitCall fetcher reference target branch] := rfl

section Steps

variable {outside : Outside} {branch : String} {rest : List Value} {lastError : String}

theorem tryBranches_of_missing (hreply : outside.gitReply 0 = .missing) :
    fetcher.tryBranches url reference target lastError (.str branch :: rest) outside =
      (.error (.badRepository url "git is not installed"),
        afterRun fetcher reference target outside branch) := by
  rw [tryBranches, branchText]
  simp only [runGit_eq, hreply]

theorem tryBranches_of_timedOut (hreply : outside.gitReply 0 = .timedOut) :
    fetcher.tryBranches url reference target lastError (.str branch :: rest) outside =
      (.error (.badRepository url s!"clone timed out after {fetcher.timeout.text}s"),
        afterRun fetcher reference target outside branch) := by
  rw [tryBranches, branchText]
  simp only [runGit_eq, hreply]

theorem tryBranches_of_finished {code : Int} {message : String}
    {files : List (Path × Option ByteArray)}
    (hreply : outside.gitReply 0 = .finished code message files) :
    fetcher.tryBranches url reference target lastError (.str branch :: rest) outside =
      if code = 0 then
        (.ok ⟨reference, branch, target⟩, afterRun fetcher reference target outside branch)
      else
        fetcher.tryBranches url reference target (failureText code message) rest
          (afterRun fetcher reference target outside branch) := by
  rw [tryBranches, branchText]
  simp only [runGit_eq, hreply]

end Steps

/-- A clone may end with its first attempt. -/
theorem attempts_of_ends {branch : String} {left : List String} {outside : Outside}
    {result : Except Fault Clone}
    (hends : Ends fetcher url reference target branch left (outside.gitReply 0) result) :
    Attempts fetcher url reference target (branch :: left) [] outside
      (result, afterRun fetcher reference target outside branch) [] branch left where
  split := rfl
  failed := fun _ hn => absurd hn (Nat.not_lt_zero _)
  ends := hends
  calls := by rw [calls_afterRun, List.append_nil]; rfl
  web := List.Subset.refl _
  brackets := rfl

/-- After an attempt that failed a clone goes on with the other branches. -/
theorem Attempts.cons {first branch : String} {branches tried left : List String}
    {outside : Outside} {result : Except Fault Clone × Outside}
    (hfailed : (outside.gitReply 0).Failed)
    (hattempts : Attempts fetcher url reference target branches []
      (afterRun fetcher reference target outside first) result tried branch left) :
    Attempts fetcher url reference target (first :: branches) [] outside result (first :: tried)
      branch left where
  split := by rw [hattempts.split, List.cons_append]
  failed := by
    intro n hn
    cases n with
    | zero => exact hfailed
    | succ n =>
        rw [← gitReply_afterRun]
        exact hattempts.failed n (Nat.lt_of_succ_lt_succ hn)
  ends := by
    rw [List.length_cons, ← gitReply_afterRun]
    exact hattempts.ends
  calls := by
    rw [hattempts.calls, calls_afterRun]
    simp
  web := hattempts.web
  brackets := hattempts.brackets

theorem ends_of_failed {branch : String} {code : Int} {message : String}
    {files : List (Path × Option ByteArray)} (hcode : code ≠ 0) :
    Ends fetcher url reference target branch [] (.finished code message files)
      (.error (.badRepository url (failureText code message))) := by
  rw [failureText]
  split
  · next hmessage => exact .silent rfl hcode hmessage
  · next hmessage => exact .refused rfl hcode hmessage

/-- Branches are tried until one attempt ends the clone. -/
theorem exists_attempts {branches : List String} (hbranches : branches ≠ []) (lastError : String)
    (outside : Outside) :
    ∃ tried branch left, Attempts fetcher url reference target branches [] outside
      (fetcher.tryBranches url reference target lastError (branches.map .str) outside)
      tried branch left := by
  induction branches generalizing lastError outside with
  | nil => exact absurd rfl hbranches
  | cons first rest ih =>
      rw [List.map_cons]
      cases hreply : outside.gitReply 0 with
      | missing =>
          rw [tryBranches_of_missing hreply]
          exact ⟨[], first, rest, attempts_of_ends (by rw [hreply]; exact .missing)⟩
      | timedOut =>
          rw [tryBranches_of_timedOut hreply]
          exact ⟨[], first, rest, attempts_of_ends (by rw [hreply]; exact .timedOut)⟩
      | finished code message files =>
          rw [tryBranches_of_finished hreply]
          by_cases hcode : code = 0
          · rw [if_pos hcode]
            subst hcode
            exact ⟨[], first, rest, attempts_of_ends (by rw [hreply]; exact .cloned)⟩
          · rw [if_neg hcode]
            cases rest with
            | nil =>
                -- no branch is left, so what is reported is this failure and no earlier one
                exact ⟨[], first, [], attempts_of_ends (by rw [hreply]; exact ends_of_failed hcode)⟩
            | cons next rest =>
                have hfailed : (outside.gitReply 0).Failed := by
                  rw [hreply]
                  exact .intro hcode
                obtain ⟨tried, branch, left, hattempts⟩ := ih (List.cons_ne_nil next rest)
                  (failureText code message) (afterRun fetcher reference target outside first)
                exact ⟨first :: tried, branch, left, hattempts.cons hfailed⟩

end Attempts

/-! ## One repository -/

/-- A branch that may be given, as a value. -/
def givenBranch : Option String → Value
  | some branch => .str branch
  | none => .null

/-- The question for the default branch, which is not asked if a branch is given. -/
def questions (fetcher : Fetcher) (reference : Reference) (given : Option String) : List Call :=
  if (nonempty given).isSome then []
  else [.get s!"{fetcher.service}/repos/{reference.owner}/{reference.name}" fetcher.authorization?]

section Clone

variable {fetcher : Fetcher} {url : String} {reference : Reference} {directory : Path}
  {outside : Outside} {answer : Option String}

theorem isTruthy_givenBranch (given : Option String) :
    (givenBranch given).isTruthy = (nonempty given).isSome := by
  rw [nonempty, Option.isSome_filter]
  cases given with
  | none => rfl
  | some branch => rfl

theorem clone_of_given (hreference : Reference.ofText url = .ok reference) {given : Option String}
    {branch : String} (hgiven : nonempty given = some branch) :
    fetcher.clone url directory (givenBranch given) outside =
      fetcher.tryBranches url reference (directory.child reference.directoryName) ""
        ([branch].map .str) outside := by
  have htruthy : (givenBranch given).isTruthy = true := by
    rw [isTruthy_givenBranch, hgiven]
    rfl
  obtain ⟨rfl, -⟩ := Option.filter_eq_some_iff.mp hgiven
  unfold clone
  rw [hreference]
  simp only [htruthy, if_true]
  rfl

theorem clone_of_not_given (hreference : Reference.ofText url = .ok reference)
    (hanswer : outside.Names answer) {given : Option String}
    (hgiven : nonempty given = none) :
    fetcher.clone url directory (givenBranch given) outside =
      fetcher.tryBranches url reference (directory.child reference.directoryName) ""
        ((branchesToTry none answer).map .str) (fetcher.defaultBranch outside reference).2 := by
  have hfalse : (givenBranch given).isTruthy = false := by
    rw [isTruthy_givenBranch, hgiven]
    rfl
  have hdefault : fetcher.defaultBranch outside reference =
      (.ok ((nonempty answer).map .str), (fetcher.defaultBranch outside reference).2) :=
    Prod.ext (defaultBranchIn_of_names hanswer) rfl
  unfold clone
  rw [hreference]
  simp only [hfalse, Bool.false_eq_true, if_false]
  rw [hdefault]
  simp only [candidates_eq]

/-- The question for the default branch leaves the replies of git as they are. -/
theorem Attempts.after_question {branches tried left : List String} {branch : String}
    {target : Path} {result : Except Fault Clone × Outside}
    (hattempts : Attempts fetcher url reference target branches []
      (fetcher.defaultBranch outside reference).2 result tried branch left) :
    Attempts fetcher url reference target branches
      [.get s!"{fetcher.service}/repos/{reference.owner}/{reference.name}" fetcher.authorization?]
      outside result tried branch left where
  split := hattempts.split
  failed := hattempts.failed
  ends := hattempts.ends
  calls := by
    rw [hattempts.calls, List.append_nil]
    rfl
  web := List.Subset.trans hattempts.web (List.tail_sublist outside.web).subset
  brackets := hattempts.brackets

/-- An accepted reference is cloned by trying branches, after the question for the default branch
unless a branch is given. -/
theorem exists_attempts_of_clone (hreference : Reference.ofText url = .ok reference)
    (hanswer : outside.Names answer) (given : Option String) :
    ∃ tried branch left, Attempts fetcher url reference (directory.child reference.directoryName)
      (branchesToTry given answer) (questions fetcher reference given) outside
      (fetcher.clone url directory (givenBranch given) outside) tried branch left := by
  cases hgiven : nonempty given with
  | some branch =>
      have hbranches : branchesToTry given answer = [branch] := by simp [branchesToTry, hgiven]
      have hquestions : questions fetcher reference given = [] := by simp [questions, hgiven]
      rw [clone_of_given hreference hgiven, hbranches, hquestions]
      exact exists_attempts (List.cons_ne_nil branch []) "" outside
  | none =>
      have hbranches : branchesToTry given answer = branchesToTry none answer := by
        rw [branchesToTry, hgiven]
        rfl
      rw [clone_of_not_given hreference hanswer hgiven, hbranches, questions, hgiven]
      obtain ⟨tried, branch, left, hattempts⟩ := exists_attempts
        (branchesToTry_ne_nil none answer) "" (fetcher.defaultBranch outside reference).2
      exact ⟨tried, branch, left, hattempts.after_question⟩

end Clone

/-! ## Several repositories -/

/-- What becomes of each reference when one after the other is cloned. -/
def outcomes (fetcher : Fetcher) (directory : Path) (branch : Value) :
    List String → Outside → List (String × Except Fault Clone)
  | [], _ => []
  | url :: rest, outside =>
    let (result, outside) := fetcher.clone url directory branch outside
    (url, result) :: outcomes fetcher directory branch rest outside

/-- The fault of a clone, if it failed. -/
def fault? : Except Fault Clone → Option Fault
  | .ok _ => none
  | .error fault => some fault

/-- The faults of all the clones from one reference. -/
def faultsOf (url : String) (results : List (String × Except Fault Clone)) : List Fault :=
  (results.filter (·.1 = url)).filterMap fun result => fault? result.2

@[simp] theorem faultsOf_nil (url : String) : faultsOf url [] = [] := rfl

theorem faultsOf_cons_ok (url other : String) (clone : Clone)
    (results : List (String × Except Fault Clone)) :
    faultsOf url ((other, .ok clone) :: results) = faultsOf url results := by
  by_cases hother : other = url
  · simp [faultsOf, hother, fault?]
  · simp [faultsOf, hother]

theorem faultsOf_cons_self (url : String) (fault : Fault)
    (results : List (String × Except Fault Clone)) :
    faultsOf url ((url, .error fault) :: results) = fault :: faultsOf url results := by
  simp [faultsOf, fault?]

theorem faultsOf_cons_other {url other : String} (hother : other ≠ url)
    (result : Except Fault Clone) (results : List (String × Except Fault Clone)) :
    faultsOf url ((other, result) :: results) = faultsOf url results := by
  simp [faultsOf, hother]

section Collection

variable {fetcher : Fetcher} {directory : Path} {given : Option String} {outside : Outside}

theorem exists_names
    (hweb : ∀ reply ∈ outside.web, ∃ answer, reply.Names outside.brackets answer) :
    ∃ answer, outside.Names answer := by
  simp only [Outside.Names, Outside.webReply]
  cases hreplies : outside.web with
  | nil => exact ⟨none, .refused (by decide)⟩
  | cons reply rest => exact hweb reply (by simp [hreplies])

/-- A clone that was cloned or has a fault with its repository. -/
def Settled (result : Except Fault Clone) : Prop :=
  (∃ clone, result = .ok clone) ∨
    ∃ reference detail, result = .error (.badRepository reference detail)

theorem settled_of_ends {url branch : String} {reference : Reference} {target : Path}
    {left : List String} {reply : GitReply} {result : Except Fault Clone}
    (hends : Ends fetcher url reference target branch left reply result) : Settled result := by
  cases hends with
  | cloned => exact Or.inl ⟨_, rfl⟩
  | missing => exact Or.inr ⟨_, _, rfl⟩
  | timedOut => exact Or.inr ⟨_, _, rfl⟩
  | refused => exact Or.inr ⟨_, _, rfl⟩
  | silent => exact Or.inr ⟨_, _, rfl⟩

theorem clone_of_not_accepted {url : String} {fault : Fault}
    (hreference : Reference.ofText url = .error fault) (branch : Value) :
    fetcher.clone url directory branch outside =
      (.error (.badRepository (strip url) "not a GitHub repository reference"), outside) := by
  unfold clone
  rw [hreference]
  unfold Reference.ofText at hreference
  split at hreference
  · cases hreference
  · cases hreference
    rfl

/-- A clone succeeds or finds fault with its repository, and the web service is left with replies
that it had. -/
theorem settled_clone
    (hweb : ∀ reply ∈ outside.web, ∃ answer, reply.Names outside.brackets answer) (url : String) :
    Settled (fetcher.clone url directory (givenBranch given) outside).1 ∧
      (fetcher.clone url directory (givenBranch given) outside).2.web ⊆ outside.web ∧
      (fetcher.clone url directory (givenBranch given) outside).2.brackets = outside.brackets := by
  cases hreference : Reference.ofText url with
  | error fault =>
      rw [clone_of_not_accepted hreference]
      exact ⟨Or.inr ⟨_, _, rfl⟩, List.Subset.refl _, rfl⟩
  | ok reference =>
      obtain ⟨answer, hanswer⟩ := exists_names hweb
      obtain ⟨tried, branch, left, hattempts⟩ := exists_attempts_of_clone hreference hanswer given
      exact ⟨settled_of_ends hattempts.ends, hattempts.web, hattempts.brackets⟩

/-- Clones and faults are collected on top of those that are there. -/
theorem exists_cloneEach
    (hweb : ∀ reply ∈ outside.web, ∃ answer, reply.Names outside.brackets answer)
    (urls : List String) (clones : Clones) :
    ∃ collected,
      (fetcher.cloneEach directory (givenBranch given) clones urls outside).1 = .ok collected ∧
      collected.cloned = clones.cloned ++
        (outcomes fetcher directory (givenBranch given) urls outside).filterMap (·.2.toOption) ∧
      ∀ url, collected.errors.get? url =
        (((faultsOf url (outcomes fetcher directory (givenBranch given) urls outside)).getLast?).map
          Fault.message).or (clones.errors.get? url) := by
  induction urls generalizing outside clones with
  | nil => exact ⟨clones, rfl, by simp [outcomes], by simp [outcomes]⟩
  | cons url rest ih =>
      obtain ⟨hsettled, hleft, hroom⟩ := @settled_clone fetcher directory given outside hweb url
      unfold cloneEach outcomes
      cases hclone : fetcher.clone url directory (givenBranch given) outside with
      | mk result after =>
          rw [hclone] at hsettled hleft hroom
          -- a clone uses up replies and adds none, so the hypothesis holds for the rest as well
          have hafter : ∀ reply ∈ after.web, ∃ answer, reply.Names after.brackets answer :=
            fun reply hreply => hroom ▸ hweb reply (hleft hreply)
          rcases hsettled with ⟨clone, rfl⟩ | ⟨reference, detail, rfl⟩
          · obtain ⟨collected, hcollected, hcloned, herrors⟩ := ih hafter
              { clones with cloned := clones.cloned ++ [clone] }
            refine ⟨collected, hcollected, ?_, ?_⟩
            · simp [hcloned, Except.toOption]
            · intro other
              rw [herrors, faultsOf_cons_ok]
          · obtain ⟨collected, hcollected, hcloned, herrors⟩ := ih hafter
              { clones with
                errors := clones.errors.put url (Fault.badRepository reference detail).message }
            refine ⟨collected, hcollected, ?_, ?_⟩
            · simp [hcloned, Except.toOption]
            · intro other
              rw [herrors]
              by_cases hother : other = url
              · -- a later fault of the same reference takes the place of this one
                subst hother
                rw [faultsOf_cons_self, List.getLast?_cons, Entries.get?_put_self]
                cases (faultsOf other (outcomes fetcher directory (givenBranch given) rest
                  after)).getLast? <;> rfl
              · rw [faultsOf_cons_other (Ne.symm hother), Entries.get?_put_other _ _ hother]

theorem mem_keys_iff_of_get?_eq {errors : Entries String String} {url : String}
    {faults : List Fault} (hget : errors.get? url = faults.getLast?.map Fault.message) :
    url ∈ errors.keys ↔ faults ≠ [] := by
  rw [← Entries.has_iff_mem_keys, Entries.has, hget]
  cases faults with
  | nil => simp
  | cons fault rest => simp [List.getLast?_cons]

end Collection

/-- **Clones.**  An accepted reference is cloned by trying branches, none of them twice: the one
that is given, or else the default branch that the web service names and those of `main` and
`master` that it is not.  Each attempt is a run of git that clones this branch of the repository
into its own directory, and there are no other runs.  All attempts but the last failed, and the
last one was accepted, came upon no git or a timeout, or failed too with no branch left.  Of
several references, the clones are those that succeeded, in order, and the errors are those of the
references that failed, each with its last fault. -/
theorem clone_tries_branches (fetcher : Fetcher) (directory : Path) (given : Option String) :
    (∀ url reference outside answer, Reference.ofText url = .ok reference →
      outside.Names answer →
      (branchesToTry given answer).Nodup ∧
      ∃ tried branch left, Attempts fetcher url reference
        (directory.child s!"{reference.owner}__{reference.name}")
        (branchesToTry given answer) (questions fetcher reference given) outside
        (fetcher.clone url directory (givenBranch given) outside) tried branch left) ∧
    ∀ urls outside tree, outside.tree.makeDirectories directory = .ok tree →
      (∀ reply ∈ outside.web, ∃ answer, reply.Names outside.brackets answer) →
      ∃ clones results,
        results = outcomes fetcher directory (givenBranch given) urls { outside with tree } ∧
        (fetcher.cloneAll urls directory (givenBranch given) outside).1 = .ok clones ∧
        clones.cloned = results.filterMap (·.2.toOption) ∧
        ∀ url, (url ∈ clones.errors.keys ↔ faultsOf url results ≠ []) ∧
          clones.errors.get? url = (faultsOf url results).getLast?.map Fault.message := by
  refine ⟨fun url reference outside answer hreference hanswer =>
    ⟨nodup_branchesToTry given answer, exists_attempts_of_clone hreference hanswer given⟩, ?_⟩
  intro urls outside tree htree hweb
  obtain ⟨clones, hclones, hcloned, herrors⟩ :=
    @exists_cloneEach fetcher directory given { outside with tree } hweb urls {}
  refine ⟨clones, _, rfl, ?_, hcloned, fun url => ?_⟩
  · rw [cloneAll, htree]
    exact hclones
  · have hget := herrors url
    rw [show (({} : Clones).errors.get? url) = none from rfl, Option.or_none] at hget
    exact ⟨mem_keys_iff_of_get?_eq hget, hget⟩

/-- A fetcher of single commits. -/
def shallow : Fetcher where
  service := "https://api.github.com"
  token := ""
  depth := .int 1
  timeout := .int 300

/-- Git refuses the first branch, and the web service has no answer. -/
def firstRefused : Outside where
  git := [.finished 128 "no such branch\n" []]

/-- With no default branch to be had, `master` is tried after `main`.  A reference that is not
accepted does not keep the next one from being cloned. -/
theorem clone_tries_main_then_master :
    (shallow.clone "o/r" ⟨"/", ["w"]⟩ (givenBranch none) firstRefused).1 =
        .ok ⟨⟨"o", "r"⟩, "master", ⟨"/", ["w", "o__r"]⟩⟩ ∧
      ∃ clones, "-" ∈ clones.errors.keys ∧
        (shallow.cloneAll ["-", "o/r"] ⟨"/", ["w"]⟩ (givenBranch none) firstRefused).1 =
          .ok clones := by
  obtain ⟨hone, hall⟩ := clone_tries_branches shallow ⟨"/", ["w"]⟩ none
  constructor
  · obtain ⟨-, tried, branch, left, hsplit, -, hends, -, -, -⟩ :=
      hone "o/r" ⟨"o", "r"⟩ firstRefused none rfl (.refused (by decide))
    change ["main", "master"] = tried ++ branch :: left at hsplit
    generalize shallow.clone "o/r" ⟨"/", ["w"]⟩ (givenBranch none) firstRefused = result at hends
    obtain ⟨result, after⟩ := result
    rcases tried with _ | ⟨first, _ | ⟨second, rest⟩⟩
    · -- `main` does not end the clone: git refused it, and `master` was left
      cases hsplit
      change Ends _ _ _ _ _ _ (.finished 128 "no such branch\n" []) result at hends
      cases hends with
      | refused hleft => cases hleft
      | silent hleft => cases hleft
    · cases hsplit
      change Ends _ _ _ _ _ _ (.finished 0 "" []) result at hends
      cases hends with
      | cloned => rfl
      | refused _ hcode => exact absurd rfl hcode
      | silent _ hcode => exact absurd rfl hcode
    · simp at hsplit
  · obtain ⟨clones, results, rfl, hclones, -, herrors⟩ := hall ["-", "o/r"] firstRefused
      { directories := [["w"]] } rfl (List.forall_mem_nil _)
    refine ⟨clones, (herrors "-").1.mpr ?_, hclones⟩
    have hreference : Reference.ofText "-" =
      .error (.badRepository "-" "not a GitHub repository reference") := rfl
    rw [outcomes, clone_of_not_accepted hreference, faultsOf_cons_self]
    exact List.cons_ne_nil _ _

end Fetcher

end ComponentCensus.Repository
