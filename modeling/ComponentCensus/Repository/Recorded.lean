import ComponentCensus.Repository.Fetch
import ComponentCensus.Scan.Snapshot

/-!
# Recorded replies

The replies of git and of the web service may be recorded beside a snapshot, reply after reply, so
that repositories can be analyzed away from the network.  In a record the member `raise` marks a run
or a request that did not come to an end.
-/

namespace ComponentCensus.Repository

open ComponentCensus.Files ComponentCensus.Scan.Snapshot ComponentCensus.Text

/-- A content that git leaves; a path that ends in a slash is an empty directory. -/
def leftFile (file : String × Value) : Path × Option ByteArray :=
  (Path.ofText file.1, if endsWith file.1 "/" then none else some (bytesOf file.2))

/-- The contents that git leaves. -/
def leftFiles (value : Value) : List (Path × Option ByteArray) :=
  match member? value "files" with
  | some (.object files) => files.map leftFile
  | _ => []

/-- A recorded run of git. -/
def GitReply.ofValue (value : Value) : GitReply :=
  match (member? value "raise").map textOf with
  | some "missing" => .missing
  | some "timeout" => .timedOut
  | _ =>
    .finished (((member? value "code").bind Value.asInt?).getD 0)
      (((member? value "stderr").map textOf).getD "") (leftFiles value)

/-- A recorded reply of the web service. -/
def WebReply.ofValue (value : Value) : WebReply :=
  match member? value "raise" with
  | some _ => .unreachable
  | none =>
    .answered (((member? value "status").map countOf).getD 0)
      (((member? value "body").map textOf).getD "")

/-- The outside that a record describes, with a file tree. -/
def Outside.ofValue (tree : Tree) (value : Value) : Outside where
  tree := tree
  git := (itemsOf ((member? value "git").getD .null)).map GitReply.ofValue
  web := (itemsOf ((member? value "api").getD .null)).map WebReply.ofValue

end ComponentCensus.Repository
