import ComponentCensus.Proofs.Hoisting

/-!
# Trees of dependencies and flat maps

The older lockfiles of npm hold a tree of dependencies, the newer ones a flat map from install
paths to packages.  Both describe which packages are installed where, and here the two readers are
compared on documents that describe the same installs.

The reader of the tree gives a name the version of its first install in document order.  The reader
of the flat map prefers the direct dependencies of the project and falls back to document order.
So the two agree exactly if no direct dependency comes after a nested copy of another version.

## Main results

* `tree_agrees_with_flat_iff` : what the two readers say of every name, and when they agree on all
  names (`KeepsDirect`).

## Strategy

* Document order lists each install before those inside it, and the tree is read in this order
  (`memberVersions_of_describes`).
* The path of an install ends with its name, however many install directories come before
  (`getLast?_installs`), and it has only one of them if the install is a direct dependency
  (`entry_of_placed`).
* Taking some entries of a table first and the others after them makes the same difference as
  taking these entries first and then all (`get?_filter_or`).
-/

namespace ComponentCensus.Lockfile.Npm

open ComponentCensus.Text

/-! ## Installs -/

/-- A package in some version, with the packages that are installed inside it. -/
inductive Install where
  | mk (name version : String) (inside : List Install)

namespace Install

/-- The name of a package. -/
def name : Install → String
  | .mk name _ _ => name

/-- The version of a package. -/
def version : Install → String
  | .mk _ version _ => version

/-- The direct dependencies of a project with their versions. -/
def direct (project : List Install) : Entries String String :=
  project.map fun install => (install.name, install.version)

/-- All packages of a project with their versions in document order, each package before those
inside it. -/
def inOrder : List Install → Entries String String
  | [] => []
  | .mk name version inside :: rest => (name, version) :: (inOrder inside ++ inOrder rest)

end Install

/-- A package at the place where it is installed. -/
structure Placed where
  /-- The path that its install directory is in. -/
  above : String
  name : String
  version : String

namespace Placed

/-- The path of an installed package. -/
def path (package : Placed) : String :=
  package.above ++ installDirectory ++ package.name

/-- The entry of a package in a table of versions. -/
def entry (package : Placed) : String × String :=
  (package.name, package.version)

/-- Whether a package is a direct dependency. -/
def isDirect (package : Placed) : Bool :=
  package.above = ""

end Placed

/-- The packages of a project at their places, in document order. -/
def Install.placed (above : String) : List Install → List Placed
  | [] => []
  | .mk name version inside :: rest =>
    ⟨above, name, version⟩ ::
      (placed (above ++ installDirectory ++ name ++ "/") inside ++ placed above rest)

/-- The members of a tree of dependencies that describe the installs of a project. -/
inductive Describes : List (String × Value) → List Install → Prop
  | nil : Describes [] []
  | leaf {name version : String} {info rest : List (String × Value)} {others : List Install}
      (hversion : versionOf? (.object info) = some version)
      (hinside : Entries.get? "dependencies" info = none) (hrest : Describes rest others) :
      Describes ((name, .object info) :: rest) (.mk name version [] :: others)
  | branch {name version : String} {info members rest : List (String × Value)}
      {inside others : List Install}
      (hversion : versionOf? (.object info) = some version)
      (hinside : Entries.get? "dependencies" info = some (.object members))
      (hmembers : Describes members inside) (hrest : Describes rest others) :
      Describes ((name, .object info) :: rest) (.mk name version inside :: others)

/-- The entries of a flat map that list the installs of a project: one for each install, in document
order and under its path. -/
def Lists (packages : List (String × Value)) (project : List Install) : Prop :=
  List.Forall₂ (fun entry package => entry.1 = package.path ∧ versionOf? entry.2 = some package.version)
    packages (Install.placed "" project)

/-! ## The tree -/

section Tree

variable {info members : List (String × Value)} {project : List Install}

theorem nestedVersions_of_absent (hinside : Entries.get? "dependencies" info = none) :
    nestedVersions info = .ok [] := by
  induction info with
  | nil => rfl
  | cons first rest ih =>
      obtain ⟨key, value⟩ := first
      by_cases hkey : key = "dependencies"
      · simp [Entries.get?, hkey] at hinside
      · rw [nestedVersions, if_neg hkey]
        exact ih (by simpa [Entries.get?, hkey] using hinside)

theorem nestedVersions_of_present {value : Value}
    (hinside : Entries.get? "dependencies" info = some value) :
    nestedVersions info = treeVersions value := by
  induction info with
  | nil => cases hinside
  | cons first rest ih =>
      obtain ⟨key, other⟩ := first
      by_cases hkey : key = "dependencies"
      · have hvalue : other = value := by simpa [Entries.get?, hkey] using hinside
        rw [nestedVersions, if_pos hkey, hvalue]
      · rw [nestedVersions, if_neg hkey]
        exact ih (by simpa [Entries.get?, hkey] using hinside)

/-- A tree is read in document order, and the first version of a name is kept. -/
theorem memberVersions_of_describes (htree : Describes members project)
    (known : Entries String String) :
    memberVersions known members = .ok (known.keepAll (Install.inOrder project)) := by
  induction htree generalizing known with
  | nil =>
      rw [memberVersions, Install.inOrder]
      rfl
  | @leaf name version _ _ others hversion hinside _ ih =>
      rw [memberVersions, hversion, nestedVersions_of_absent hinside]
      show memberVersions (known.keep name version) _ = _
      rw [ih, Install.inOrder, Install.inOrder]
      rfl
  | @branch name version _ _ _ inside others hversion hinside _ _ ihinside ihrest =>
      rw [memberVersions, hversion, nestedVersions_of_present hinside, treeVersions, ihinside]
      show memberVersions ((known.keep name version).keepAll _) _ = _
      -- what is inside was collected on its own, and keeping it adds nothing else
      rw [Entries.keepAll_keepAll_nil, ihrest, Install.inOrder]
      simp only [Entries.keepAll, List.foldl_cons, List.foldl_append]

end Tree

/-! ## Paths -/

section Paths

variable {above name : String}

/-- What follows the last occurrence of a text whose last character stands nowhere else in it. -/
theorem getLast?_restsAfter {stem above name : List Char} {last : Char} (hlast : last ∉ stem)
    (hname : ¬ (stem ++ [last]) <:+: name) {fuel : Nat}
    (hfuel : (above ++ (stem ++ [last] ++ name)).length ≤ fuel) :
    (restsAfter (stem ++ [last]) fuel (above ++ (stem ++ [last] ++ name))).getLast? = some name := by
  have hpart : stem ++ [last] ≠ [] := by simp
  induction fuel generalizing above with
  | zero => simp at hfuel
  | succ fuel ih =>
      simp only [List.length_append, List.length_singleton] at hfuel
      cases hafter : afterOccurrence? (stem ++ [last]) above with
      | none =>
          -- nothing occurs above, so the part before the name is the only occurrence
          have habove := (afterOccurrence?_eq_none_iff hpart).mp hafter
          have hnone := (restsAfter_eq_nil_iff hpart (show name.length ≤ fuel by omega)).mpr hname
          rw [restsAfter, afterOccurrence?_append hlast habove]
          simp only [hnone, List.getLast?_singleton]
      | some rest =>
          -- the first occurrence lies above, and the path goes on behind it in the same way
          obtain ⟨lead, rfl, hlead⟩ := exists_of_afterOccurrence? hpart hafter
          have hrest := @ih rest (by simp only [List.length_append, List.length_singleton] at *; omega)
          rw [List.append_assoc, List.append_assoc (stem ++ [last]), restsAfter,
            afterOccurrence?_append hlast hlead]
          simp only [List.getLast?_cons, hrest, Option.getD_some]

/-- The last name of a path is that of the package itself. -/
theorem getLast?_installs (above : String) (hname : occursIn installDirectory name = false) :
    (installs (above ++ installDirectory ++ name)).getLast? = some name.toList := by
  have hdirectory : installDirectory.toList = "node_modules".toList ++ ['/'] := by decide
  have hlength := (above ++ installDirectory ++ name).length_toList
  rw [occursIn_installDirectory, hdirectory] at hname
  rw [installs]
  rw [String.toList_append, String.toList_append, List.append_assoc, hdirectory] at hlength ⊢
  exact getLast?_restsAfter (by decide) hname hlength.le

/-- A path with an install directory above that of the package is that of a nested install. -/
theorem installs_of_nested (hname : occursIn installDirectory name = false)
    (habove : occursIn installDirectory above = true) :
    ∃ first second others,
      installs (above ++ installDirectory ++ name) = first :: second :: others ∧
        (second :: others).getLast? = some name.toList := by
  have hlast := getLast?_installs above hname
  rcases hnames : installs (above ++ installDirectory ++ name) with _ | ⟨first, _ | ⟨second, others⟩⟩
  · simp [hnames] at hlast
  · rw [hnames, List.getLast?_singleton, Option.some.injEq] at hlast
    rw [hlast, installs_eq_singleton_iff] at hnames
    obtain ⟨-, directory, hdirectory, hpath⟩ := hnames
    have hsame : above = directory := by
      simpa [← String.toList_inj] using hpath
    rw [hsame, hdirectory] at habove
    cases habove
  · rw [hnames, List.getLast?_cons_cons] at hlast
    exact ⟨first, second, others, rfl, hlast⟩

end Paths

/-! ## The flat map -/

/-- The entry that a nested install has in the table of versions. -/
def nested? (entry : String × Value) : Option (String × String) :=
  match versionOf? entry.2, installs entry.1 with
  | some version, _ :: second :: others =>
    (second :: others).getLast?.map fun name => (String.ofList name, version)
  | _, _ => none

section Flat

variable {packages : List (String × Value)} {project : List Install} {entry : String × Value}
  {package : Placed}

theorem nested_add (installed : Installed) (entry : String × Value) :
    (installed.add entry).nested = installed.nested.keepAll (nested? entry).toList := by
  unfold Installed.add nested?
  generalize versionOf? entry.2 = found
  generalize installs entry.1 = names
  cases found with
  | none => rfl
  | some found =>
      rcases names with _ | ⟨first, _ | ⟨second, others⟩⟩
      · rfl
      · rfl
      · simp only [List.getLast?_cons_cons]
        cases (second :: others).getLast? <;> rfl

theorem nested_foldl_add (installed : Installed) (packages : List (String × Value)) :
    (packages.foldl Installed.add installed).nested =
      installed.nested.keepAll (packages.filterMap nested?) := by
  induction packages generalizing installed with
  | nil => rfl
  | cons entry rest ih =>
      rw [List.foldl_cons, ih, nested_add, List.filterMap_cons]
      cases nested? entry <;> rfl

/-- A package that is not at the top stands inside some install directory. -/
theorem above_of_mem_placed {above : String} (hpackage : package ∈ Install.placed above project) :
    package.above = above ∨ occursIn installDirectory package.above = true := by
  fun_induction Install.placed above project with
  | case1 => cases hpackage
  | case2 above name version inside rest ihinside ihrest =>
      rcases List.mem_cons.mp hpackage with rfl | hpackage
      · exact Or.inl rfl
      rcases List.mem_append.mp hpackage with hinside | hrest
      · right
        rcases ihinside hinside with habove | hnested
        · rw [habove]
          -- what is inside a package has the install directory of the package above it
          by_contra hnone
          rw [Bool.not_eq_true, occursIn_installDirectory] at hnone
          refine hnone ⟨above.toList, (name ++ "/").toList, ?_⟩
          simp
        · exact hnested
      · exact ihrest hrest

theorem isDirect_of_mem_placed (hpackage : package ∈ Install.placed "" project) :
    occursIn installDirectory package.above = !package.isDirect := by
  rcases above_of_mem_placed hpackage with habove | hnested
  · rw [Placed.isDirect, habove]
    decide
  · have hne : package.above ≠ "" := by
      intro habove
      rw [habove] at hnested
      exact absurd hnested (by decide)
    rw [hnested, Placed.isDirect, decide_eq_false hne]
    rfl

/-- What the flat map says of one install: it is read as an unnested one if it is a direct
dependency, and as a nested one otherwise. -/
theorem entry_of_placed (hname : occursIn installDirectory package.name = false)
    (hplace : occursIn installDirectory package.above = !package.isDirect)
    (hpath : entry.1 = package.path) (hversion : versionOf? entry.2 = some package.version) :
    unnested? entry = (if package.isDirect = true then some package.entry else none) ∧
      nested? entry = if (!package.isDirect) = true then some package.entry else none := by
  unfold unnested? nested?
  rw [hversion, hpath, Placed.path]
  cases hdirect : package.isDirect with
  | true =>
      rw [hdirect] at hplace
      have hone := installs_eq_singleton_iff.mpr ⟨hname, package.above, hplace, rfl⟩
      simp [hone, Placed.entry]
  | false =>
      rw [hdirect] at hplace
      obtain ⟨first, second, others, hnames, hlast⟩ := installs_of_nested hname hplace
      simp [hnames, hlast, Placed.entry]

theorem filterMap_of_forall₂ {α β γ : Type} {related : α → β → Prop} {read : α → Option γ}
    {chosen : β → Bool} {view : β → γ} {items : List α} {places : List β}
    (hitems : List.Forall₂ related items places)
    (hread : ∀ item, ∀ place ∈ places, related item place →
      read item = if chosen place = true then some (view place) else none) :
    items.filterMap read = (places.filter chosen).map view := by
  induction hitems with
  | nil => rfl
  | @cons item place items places hitem _ ih =>
      rw [List.filterMap_cons, List.filter_cons, hread item place (List.mem_cons_self ..) hitem,
        ih fun item place hplace => hread item place (List.mem_cons_of_mem _ hplace)]
      cases chosen place <;> rfl

theorem map_placed (above : String) (project : List Install) :
    (Install.placed above project).map Placed.entry = Install.inOrder project := by
  fun_induction Install.placed above project with
  | case1 => rw [Install.inOrder]; rfl
  | case2 above name version inside rest ihinside ihrest =>
      rw [Install.inOrder, List.map_cons, List.map_append, ihinside, ihrest]
      rfl

/-- The direct dependencies are those at the top. -/
theorem map_filter_isDirect (project : List Install) :
    ((Install.placed "" project).filter Placed.isDirect).map Placed.entry =
      Install.direct project := by
  induction project with
  | nil => rw [Install.placed]; rfl
  | cons install rest ih =>
      obtain ⟨name, version, inside⟩ := install
      -- nothing inside a package is a direct dependency
      have hinside : (Install.placed ("" ++ installDirectory ++ name ++ "/") inside).filter
          Placed.isDirect = [] := by
        refine List.filter_eq_nil_iff.mpr fun package hpackage hdirect => ?_
        have htop : package.above = "" := of_decide_eq_true hdirect
        rcases above_of_mem_placed hpackage with habove | hnested
        · rw [htop, ← String.toList_inj] at habove
          simp at habove
        · rw [htop] at hnested
          exact absurd hnested (by decide)
      rw [Install.placed, List.filter_cons_of_pos (by rfl), List.filter_append, hinside,
        List.nil_append, List.map_cons, ih]
      rfl

/-- Taking some entries first and the others after them is taking these entries first and then all
entries in their order. -/
theorem get?_filter_or {α : Type} (items : List α) (chosen : α → Bool) (view : α → String × String)
    (name : String) :
    (Entries.get? name ((items.filter chosen).map view)).or
        (Entries.get? name ((items.filter fun item => !chosen item).map view)) =
      (Entries.get? name ((items.filter chosen).map view)).or (Entries.get? name (items.map view)) := by
  induction items with
  | nil => rfl
  | cons item rest ih =>
      by_cases hname : (view item).1 = name <;> cases hchosen : chosen item <;>
        simp [hchosen, hname, Entries.get?, ih]

/-- The flat map prefers direct dependencies and falls back to document order. -/
theorem get?_flatVersions_of_lists
    (hnames : ∀ package ∈ Install.placed "" project, occursIn installDirectory package.name = false)
    (hflat : Lists packages project) (name : String) :
    (flatVersions packages).get? name =
      (Entries.get? name (Install.direct project)).or (Entries.get? name (Install.inOrder project)) := by
  -- each entry of the map counts for one of the two tables
  have hentry : ∀ entry : String × Value, ∀ package ∈ Install.placed "" project,
      entry.1 = package.path ∧ versionOf? entry.2 = some package.version →
      unnested? entry = (if package.isDirect = true then some package.entry else none) ∧
        nested? entry = if (!package.isDirect) = true then some package.entry else none := by
    intro entry package hpackage hread
    exact entry_of_placed (hnames package hpackage) (isDirect_of_mem_placed hpackage) hread.1 hread.2
  have hunnested : packages.filterMap unnested? =
      ((Install.placed "" project).filter Placed.isDirect).map Placed.entry :=
    filterMap_of_forall₂ hflat fun entry package hpackage hread =>
      (hentry entry package hpackage hread).1
  have hnested : packages.filterMap nested? =
      ((Install.placed "" project).filter fun package => !package.isDirect).map Placed.entry :=
    filterMap_of_forall₂ hflat fun entry package hpackage hread =>
      (hentry entry package hpackage hread).2
  have htable : (packages.foldl Installed.add {}).nested =
      Entries.keepAll [] (packages.filterMap nested?) := nested_foldl_add {} packages
  rw [get?_flatVersions, htable, Entries.get?_keepAll, hunnested, hnested, ← map_filter_isDirect,
    ← map_placed "" project, ← get?_filter_or]
  rfl

end Flat

/-! ## Agreement -/

section Agreement

variable {project before after : List Install} {install : Install} {name version : String}

/-- No direct dependency comes after a nested copy of another version, as far as the first copy in
document order tells. -/
def KeepsDirect (project : List Install) : Prop :=
  ∀ (before after : List Install) (install : Install) (copied : String),
    project = before ++ install :: after → install.name ∉ before.map Install.name →
      Entries.get? install.name (Install.inOrder before) = some copied → copied = install.version

theorem inOrder_append (before after : List Install) :
    Install.inOrder (before ++ after) = Install.inOrder before ++ Install.inOrder after := by
  induction before with
  | nil => rw [Install.inOrder]; rfl
  | cons install rest ih =>
      obtain ⟨name, version, inside⟩ := install
      rw [List.cons_append, Install.inOrder, Install.inOrder, ih, List.cons_append, List.append_assoc]

theorem get?_inOrder_cons (install : Install) (rest : List Install) :
    Entries.get? install.name (Install.inOrder (install :: rest)) = some install.version := by
  obtain ⟨name, version, inside⟩ := install
  rw [Install.inOrder]
  exact if_pos (beq_self_eq_true name)

theorem get?_direct_of_first (hfirst : install.name ∉ before.map Install.name) :
    Entries.get? install.name (Install.direct (before ++ install :: after)) =
      some install.version := by
  have hbefore : Entries.get? install.name (Install.direct before) = none := by
    by_contra hsome
    obtain ⟨found, hfound⟩ := Option.ne_none_iff_exists'.mp hsome
    obtain ⟨earlier, hearlier, hentry⟩ := List.mem_map.mp (Entries.mem_of_get?_eq_some hfound)
    exact hfirst (List.mem_map.mpr ⟨earlier, hearlier, congrArg Prod.fst hentry⟩)
  rw [Install.direct, List.map_append, Entries.get?_append, ← Install.direct, hbefore]
  exact if_pos (beq_self_eq_true _)

theorem exists_first_of_get?_direct
    (hdirect : Entries.get? name (Install.direct project) = some version) :
    ∃ before install after, project = before ++ install :: after ∧ install.name = name ∧
      install.version = version ∧ name ∉ before.map Install.name := by
  induction project with
  | nil => cases hdirect
  | cons first rest ih =>
      by_cases hname : first.name = name
      · have hversion : first.version = version := by
          simpa [Install.direct, Entries.get?, hname] using hdirect
        exact ⟨[], first, rest, rfl, hname, hversion, by simp⟩
      · have hrest : Entries.get? name (Install.direct rest) = some version := by
          simpa [Install.direct, Entries.get?, hname] using hdirect
        obtain ⟨before, install, after, rfl, hits, hversion, hbefore⟩ := ih hrest
        refine ⟨first :: before, install, after, rfl, hits, hversion, ?_⟩
        rw [List.map_cons, List.mem_cons, not_or]
        exact ⟨Ne.symm hname, hbefore⟩

/-- Preferring the direct dependencies makes no difference if each of them keeps its version. -/
theorem keepsDirect_iff :
    KeepsDirect project ↔ ∀ name, Entries.get? name (Install.inOrder project) =
      (Entries.get? name (Install.direct project)).or
        (Entries.get? name (Install.inOrder project)) := by
  constructor
  · intro hkeeps name
    cases hdirect : Entries.get? name (Install.direct project) with
    | none => rfl
    | some version =>
        obtain ⟨before, install, after, rfl, rfl, rfl, hfirst⟩ := exists_first_of_get?_direct hdirect
        rw [inOrder_append, Entries.get?_append, get?_inOrder_cons]
        cases hcopy : Entries.get? install.name (Install.inOrder before) with
        | none => rfl
        | some copied =>
            rw [hkeeps before after install copied rfl hfirst hcopy]
            rfl
  · rintro hsame before after install copied rfl hfirst hcopy
    have hname := hsame install.name
    rw [get?_direct_of_first hfirst, inOrder_append, Entries.get?_append, hcopy] at hname
    exact Option.some.inj hname

end Agreement

/-- **The tree of dependencies follows document order, the flat map prefers direct dependencies.**
On documents that describe the same installs, the reader of the tree gives each name its first
version in document order.  The reader of the flat map gives a direct dependency its own version and
any other name the one that the tree gives it.  So they agree exactly if no direct dependency comes
after a nested copy of another version. -/
theorem tree_agrees_with_flat_iff {members packages : List (String × Value)}
    {project : List Install} (htree : Describes members project) (hflat : Lists packages project)
    (hnames : ∀ package ∈ Install.placed "" project,
      occursIn installDirectory package.name = false) :
    ∃ versions, treeVersions (.object members) = .ok versions ∧
      (∀ name, versions.get? name = Entries.get? name (Install.inOrder project)) ∧
      (∀ name, (flatVersions packages).get? name =
        (Entries.get? name (Install.direct project)).or (versions.get? name)) ∧
      ((∀ name, versions.get? name = (flatVersions packages).get? name) ↔ KeepsDirect project) := by
  have hversions (name : String) :
      (Entries.keepAll [] (Install.inOrder project)).get? name =
        Entries.get? name (Install.inOrder project) :=
    Entries.get?_keepAll [] (Install.inOrder project) name
  have hflatVersions := get?_flatVersions_of_lists hnames hflat
  refine ⟨Entries.keepAll [] (Install.inOrder project), ?_, hversions, ?_, ?_⟩
  · rw [treeVersions, memberVersions_of_describes htree]
  · intro name
    rw [hflatVersions, hversions]
  · rw [keepsDirect_iff]
    simp only [hversions, hflatVersions]

/-- A package in which a copy of another one is installed. -/
def holder : Install :=
  .mk "a" "1" [.mk "b" "2" []]

/-- The member of a tree that describes the package with the copy. -/
def holderMember : String × Value :=
  ("a", .object [("dependencies", .object [("b", ofVersion "2")]), ("version", .str "1")])

/-- The entries of a flat map for the package and the copy in it. -/
def holderEntries : List (String × Value) :=
  [("node_modules/a", ofVersion "1"), ("node_modules/a/node_modules/b", ofVersion "2")]

theorem describes_holder {members : List (String × Value)} {project : List Install}
    (hrest : Describes members project) : Describes (holderMember :: members) (holder :: project) :=
  .branch rfl rfl (.leaf rfl rfl .nil) hrest

theorem versionOf?_ofVersion (version : String) : versionOf? (ofVersion version) = some version :=
  rfl

/-- If a direct dependency is listed before the package that holds a copy of it, the readers
agree. -/
theorem tree_agrees_with_flat_copied_after :
    ∃ versions,
      treeVersions (.object [("b", ofVersion "3"), holderMember]) = .ok versions ∧
      ∀ name, versions.get? name =
        (flatVersions (("node_modules/b", ofVersion "3") :: holderEntries)).get? name := by
  have htree : Describes [("b", ofVersion "3"), holderMember] [.mk "b" "3" [], holder] :=
    .leaf rfl rfl (describes_holder .nil)
  have hflat : Lists (("node_modules/b", ofVersion "3") :: holderEntries)
      [.mk "b" "3" [], holder] := by
    simp [Lists, holder, holderEntries, Install.placed, Placed.path, installDirectory,
      versionOf?_ofVersion]
  have hnames : ∀ package ∈ Install.placed "" [.mk "b" "3" [], holder],
      occursIn installDirectory package.name = false := by
    simp only [holder, Install.placed, List.nil_append, List.append_nil, List.forall_mem_cons]
    exact ⟨by decide, by decide, by decide, by simp⟩
  have hkeeps : KeepsDirect [.mk "b" "3" [], holder] := by
    rw [keepsDirect_iff]
    intro name
    by_cases hb : "b" = name <;> by_cases ha : "a" = name <;>
      simp [holder, Install.direct, Install.inOrder, Install.name, Install.version, Entries.get?,
        hb, ha]
  obtain ⟨versions, hversions, -, -, hagree⟩ := tree_agrees_with_flat_iff htree hflat hnames
  exact ⟨versions, hversions, hagree.mpr hkeeps⟩

/-- If the package that holds a copy is listed first, the tree gives a direct dependency the version
of the copy. -/
theorem direct_dependency_hidden_by_copy :
    Describes [holderMember, ("b", ofVersion "3")] [holder, .mk "b" "3" []] ∧
      Lists (holderEntries ++ [("node_modules/b", ofVersion "3")]) [holder, .mk "b" "3" []] ∧
      (∀ package ∈ Install.placed "" [holder, .mk "b" "3" []],
        occursIn installDirectory package.name = false) ∧
      (∃ versions, treeVersions (.object [holderMember, ("b", ofVersion "3")]) = .ok versions ∧
        versions.get? "b" = some "2") ∧
      (flatVersions (holderEntries ++ [("node_modules/b", ofVersion "3")])).get? "b" = some "3" := by
  have htree : Describes [holderMember, ("b", ofVersion "3")] [holder, .mk "b" "3" []] :=
    describes_holder (.leaf rfl rfl .nil)
  have hflat : Lists (holderEntries ++ [("node_modules/b", ofVersion "3")])
      [holder, .mk "b" "3" []] := by
    simp [Lists, holder, holderEntries, Install.placed, Placed.path, installDirectory,
      versionOf?_ofVersion]
  have hnames : ∀ package ∈ Install.placed "" [holder, .mk "b" "3" []],
      occursIn installDirectory package.name = false := by
    simp only [holder, Install.placed, List.append_nil, List.cons_append, List.nil_append,
      List.forall_mem_cons]
    exact ⟨by decide, by decide, by decide, by simp⟩
  refine ⟨htree, hflat, hnames, ⟨_, by rw [treeVersions, memberVersions_of_describes htree], ?_⟩, ?_⟩
  · rw [Entries.get?_keepAll]
    simp [holder, Install.inOrder, Entries.get?]
  · rw [get?_flatVersions_of_lists hnames hflat]
    simp [holder, Install.direct, Install.name, Install.version, Entries.get?]

end ComponentCensus.Lockfile.Npm
