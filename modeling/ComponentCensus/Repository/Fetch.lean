import ComponentCensus.Repository.Reference
import ComponentCensus.Settings.Basic

/-!
# Cloning repositories

Repositories are cloned by runs of git; which branch is the default is asked of a web service.  What
both reply is given in advance, reply after reply, and every call is written down.

Without a branch of its own a clone tries the default branch, then `main` and `master`.  It stops at
the first branch that git accepts, and at once when git is missing or takes too long.
-/

namespace ComponentCensus.Repository

open ComponentCensus.Files ComponentCensus.Text

/-- How a run of git ends. -/
inductive GitReply where
  /-- With an exit code and a message; files and empty directories are left in the target. -/
  | finished (code : Int) (message : String) (files : List (Path × Option ByteArray))
  /-- There is no git. -/
  | missing
  | timedOut
deriving Inhabited

/-- What the web service replies. -/
inductive WebReply where
  | answered (status : Nat) (body : String)
  | unreachable
deriving Inhabited

/-- A call to the outside. -/
inductive Call where
  | git (arguments : List String) (timeout : Value)
  | get (url : String) (authorization : Option String)

/-- What lies outside of the program: the file tree, the replies to come, the calls so far, and how
many brackets of a JSON text there is room for at once. -/
structure Outside where
  tree : Tree := {}
  git : List GitReply := []
  web : List WebReply := []
  calls : List Call := []
  brackets : Nat := Json.usualBrackets
deriving Inhabited

namespace Outside

/-- Puts what a run of git leaves below a place. -/
def receive (place : List String) (tree : Tree) (file : Path × Option ByteArray) : Tree :=
  match file.2 with
  | some bytes => tree.putFile (place ++ file.1.parts) bytes
  | none => tree.putDirectory (place ++ file.1.parts)

/-- Runs git; when no more replies are given, the run succeeds. -/
def runGit (outside : Outside) (arguments : List String) (timeout : Value) (target : Path) :
    GitReply × Outside :=
  let reply := outside.git.head?.getD (.finished 0 "" [])
  let tree :=
    match reply with
    | .finished _ _ files => files.foldl (receive target.parts) outside.tree
    | _ => outside.tree
  (reply, { outside with
    tree, git := outside.git.tail, calls := outside.calls ++ [.git arguments timeout] })

/-- Asks the web service; when no more replies are given, nothing is found. -/
def get (outside : Outside) (url : String) (authorization : Option String) : WebReply × Outside :=
  (outside.web.head?.getD (.answered 404 ""), { outside with
    web := outside.web.tail, calls := outside.calls ++ [.get url authorization] })

end Outside

/-- How repositories are fetched. -/
structure Fetcher where
  /-- The address of the web service. -/
  service : String
  token : String
  /-- How many commits a clone reaches back. -/
  depth : Value
  /-- The seconds a clone may take. -/
  timeout : Value

/-- A repository that was cloned. -/
structure Clone where
  reference : Reference
  branch : String
  path : Path
deriving DecidableEq, Repr

/-- The clones of several repositories, and the failures under their references. -/
structure Clones where
  cloned : List Clone := []
  errors : Entries String String := []

namespace Fetcher

/-- The fetcher that settings ask for, unless its parts are given.  The environment's token is the
last resort. -/
def ofSettings (settings : Settings) (service token environmentToken : String)
    (depth timeout : Option Value) : Except Fault Fetcher := do
  let service ←
    if service ≠ "" then pure service
    else (settings.get "github.api_url" (.str "https://api.github.com")).asText "rstrip"
  let depth ←
    match depth with
    | some depth => pure depth
    | none => Value.int <$> (settings.get "github.depth" (.int 1)).toInteger
  let timeout ←
    match timeout with
    | some timeout => pure timeout
    | none => Value.float <$> (settings.get "github.timeout" (.int 120)).toNumber
  return {
    service := String.ofList (trimEnd (· = '/') service.toList)
    token := if token ≠ "" then token else environmentToken
    depth, timeout }

/-- The header that authorizes a request. -/
def authorization? (fetcher : Fetcher) : Option String :=
  if fetcher.token = "" then none else some s!"Bearer {fetcher.token}"

/-- The default branch in the web service's reply, if it names one. -/
def defaultBranchIn (brackets : Nat) : WebReply → Except Fault (Option Value)
  | .unreachable => .ok none
  | .answered status body =>
    if 200 ≤ status && status < 300 then
      do
        let answer ← Json.loadWithin (some brackets) body
        return (← answer.lookup? "default_branch").filter Value.isTruthy
    else
      .ok none

/-- Asks for the default branch of a repository. -/
def defaultBranch (fetcher : Fetcher) (outside : Outside) (reference : Reference) :
    Except Fault (Option Value) × Outside :=
  let url := s!"{fetcher.service}/repos/{reference.owner}/{reference.name}"
  let (reply, outside) := outside.get url fetcher.authorization?
  (defaultBranchIn outside.brackets reply, outside)

/-- The branches to try after the default one. -/
def fallbackBranches : List Value :=
  [.str "main", .str "master"]

/-- The branches to try when the default branch is known or not. -/
def candidates : Option Value → List Value
  | some branch => branch :: fallbackBranches.filter fun fallback => !fallback.same branch
  | none => fallbackBranches

/-- The arguments of a run of git. -/
def gitArguments (fetcher : Fetcher) (reference : Reference) (branch : String) (target : Path) :
    List String :=
  ["git", "clone", "--depth", fetcher.depth.text, "--branch", branch, "--single-branch",
   reference.cloneUrl, target.text]

/-- What a failed run of git says. -/
def failureText (code : Int) (message : String) : String :=
  if strip message = "" then s!"git exited with {code}" else strip message

/-- The text of a branch; only texts name branches. -/
def branchText : Value → Except Fault String
  | .str branch => .ok branch
  | value =>
    .error (.wrongType s!"sequence item 5: expected str instance, {value.typeName} found")

/-- Tries branches one after the other.  `lastError` is what the last failed run said. -/
def tryBranches (fetcher : Fetcher) (url : String) (reference : Reference) (target : Path)
    (lastError : String) : List Value → Outside → Except Fault Clone × Outside
  | [], outside => (.error (.badRepository url lastError), outside)
  | candidate :: rest, outside =>
    match branchText candidate with
    | .error fault => (.error fault, outside)
    | .ok branch =>
      match
        outside.runGit (fetcher.gitArguments reference branch target) fetcher.timeout target with
      | (.missing, outside) => (.error (.badRepository url "git is not installed"), outside)
      | (.timedOut, outside) =>
        (.error (.badRepository url s!"clone timed out after {fetcher.timeout.text}s"), outside)
      | (.finished code message _, outside) =>
        if code = 0 then (.ok ⟨reference, branch, target⟩, outside)
        else fetcher.tryBranches url reference target (failureText code message) rest outside

/-- Clones one repository into a directory of its own below a directory. -/
def clone (fetcher : Fetcher) (url : String) (directory : Path) (branch : Value)
    (outside : Outside) : Except Fault Clone × Outside :=
  match Reference.ofText url with
  | .error fault => (.error fault, outside)
  | .ok reference =>
    let target := directory.child reference.directoryName
    if branch.isTruthy then
      fetcher.tryBranches url reference target "" [branch] outside
    else
      match fetcher.defaultBranch outside reference with
      | (.error fault, outside) => (.error fault, outside)
      | (.ok default, outside) =>
        fetcher.tryBranches url reference target "" (candidates default) outside

/-- Clones repositories one after the other.  Those that cannot be cloned are noted. -/
def cloneEach (fetcher : Fetcher) (directory : Path) (branch : Value) (clones : Clones) :
    List String → Outside → Except Fault Clones × Outside
  | [], outside => (.ok clones, outside)
  | url :: rest, outside =>
    match fetcher.clone url directory branch outside with
    | (.ok clone, outside) =>
      fetcher.cloneEach directory branch { clones with cloned := clones.cloned ++ [clone] } rest
        outside
    | (.error (.badRepository reference detail), outside) =>
      let message := (Fault.badRepository reference detail).message
      fetcher.cloneEach directory branch
        { clones with errors := clones.errors.put url message } rest outside
    | (.error fault, outside) => (.error fault, outside)

/-- Clones repositories into a directory, which is made if need be. -/
def cloneAll (fetcher : Fetcher) (urls : List String) (directory : Path) (branch : Value)
    (outside : Outside) : Except Fault Clones × Outside :=
  match outside.tree.makeDirectories directory with
  | .error fault => (.error fault, outside)
  | .ok tree => fetcher.cloneEach directory branch {} urls { outside with tree }

end Fetcher

end ComponentCensus.Repository
