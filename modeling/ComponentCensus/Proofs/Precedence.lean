import ComponentCensus.Lockfile.Pnpm
import ComponentCensus.Proofs.NumberLine

/-!
# Which version of a package a pnpm lockfile gives

A pnpm lockfile speaks of a package in up to seven places: the three groups of dependencies of the
root project, the three groups of the document itself, and the keys of the packages section.  Here
these places are one list of sources, the preferred ones first (`sources`), and a package has the
version of the first source that offers one.  A source may name a package without offering a
version for it, and then the next ones are asked.

Documents are taken to be well shaped (`WellShaped`): what is read as a mapping is one, or is
missing, or is null where null is put up with.  Other documents are refused, and not here.

## Main results

* `version_of_first_source` : a well-shaped document is read, and a package has a version exactly
  if a source offers one, namely that of the first offer (`FirstOffer`).

## Strategy

* Names are values, and equal numbers of different types are the same name.  Sameness is having the
  same identity (`same_iff`), so it is symmetric and transitive, and first versions can be told by
  names that are merely the same.
* Reading a document keeps the pair of name and version of one source after the other
  (`versions_of_wellShaped`), and looking a name up finds the first pair of that name
  (`get?_filterMap_eq_some_iff`).
-/

namespace ComponentCensus

/-! ## Sameness of values -/

namespace Value

/-- What a value is compared by. -/
inductive Identity where
  | null
  | str (s : String)
  | other (text : String)
  | number (place : Line)

/-- What a value is compared by, if it is the same as anything. -/
def identity? : Value → Option Identity
  | .null => some .null
  | .str s => some (.str s)
  | .other text => some (.other text)
  | value => value.place?.map .number

theorem identity?_of_place? {value : Value} {p : Line} (hvalue : value.place? = some p) :
    value.identity? = some (.number p) := by
  cases value with
  | null | str | other => cases hvalue
  | _ => simp [identity?, hvalue]

/-- An identity that is a number comes from a place, and the others from nothing but one value. -/
theorem cases_of_identity? {value : Value} {identity : Identity}
    (hvalue : value.identity? = some identity) :
    (∃ p, value.place? = some p ∧ identity = .number p) ∨
      ((value = .null ∧ identity = .null) ∨ (∃ s, value = .str s ∧ identity = .str s) ∨
        ∃ text, value = .other text ∧ identity = .other text) := by
  unfold identity? at hvalue
  split at hvalue
  · exact Or.inr (Or.inl ⟨rfl, (Option.some.inj hvalue).symm⟩)
  · next s => exact Or.inr (Or.inr (Or.inl ⟨s, rfl, (Option.some.inj hvalue).symm⟩))
  · next text => exact Or.inr (Or.inr (Or.inr ⟨text, rfl, (Option.some.inj hvalue).symm⟩))
  · obtain ⟨p, hp, rfl⟩ := Option.map_eq_some_iff.mp hvalue
    exact Or.inl ⟨p, hp, rfl⟩

/-- Two values are the same if they have the same identity. -/
theorem same_iff {a b : Value} :
    (a == b) = true ↔ ∃ identity, a.identity? = some identity ∧ b.identity? = some identity := by
  show a.same b = true ↔ _
  unfold same
  split
  · simp [identity?]
  · simp [identity?, eq_comm]
  · simp [identity?, eq_comm]
  · next hnull hstr hother =>
    rw [compareNumbers?_eq, beq_iff_eq, Option.bind_eq_some_iff]
    constructor
    · rintro ⟨p, hp, hq⟩
      obtain ⟨q, hq, hcompare⟩ := Option.map_eq_some_iff.mp hq
      rw [compare_eq_iff_eq] at hcompare
      subst hcompare
      exact ⟨_, identity?_of_place? hp, identity?_of_place? hq⟩
    · rintro ⟨identity, ha, hb⟩
      -- values of different kinds have different identities, so only the four equal pairs are left
      rcases cases_of_identity? ha with
          ⟨p, hp, rfl⟩ | ⟨rfl, rfl⟩ | ⟨s, rfl, rfl⟩ | ⟨text, rfl, rfl⟩ <;>
        rcases cases_of_identity? hb with
          ⟨q, hq, heq⟩ | ⟨rfl, heq⟩ | ⟨t, rfl, heq⟩ | ⟨other, rfl, heq⟩ <;>
        cases heq
      · exact ⟨p, hp, by simp [hq]⟩
      · exact (hnull rfl rfl).elim
      · exact (hstr s s rfl rfl).elim
      · exact (hother text text rfl rfl).elim

instance : PartialEquivBEq Value where
  symm hab := by
    obtain ⟨identity, ha, hb⟩ := same_iff.mp hab
    exact same_iff.mpr ⟨identity, hb, ha⟩
  trans hab hbc := by
    obtain ⟨identity, ha, hb⟩ := same_iff.mp hab
    obtain ⟨other, hb', hc⟩ := same_iff.mp hbc
    obtain rfl : identity = other := Option.some.inj (hb.symm.trans hb')
    exact same_iff.mpr ⟨identity, ha, hc⟩

end Value

namespace Lockfile.Pnpm

open ComponentCensus.Text

/-! ## Documents -/

/-- The members of a part that is a mapping; other parts have none. -/
def membersOf : Option Yaml → List (Value × Yaml)
  | some (.mapping members) => members
  | _ => []

/-- The members of the root project. -/
def rootMembers (members : List (Value × Yaml)) : List (Value × Yaml) :=
  membersOf (Entries.get? (.str ".") (membersOf (Entries.get? (.str "importers") members)))

/-- A part of a document that is a mapping or absent. -/
def IsMapping (part : Option Yaml) : Prop :=
  ∀ value ∈ part, ∃ members, value = .mapping members

/-- A part of a document that is a mapping, null or absent. -/
def IsMappingOrNull (part : Option Yaml) : Prop :=
  ∀ value ∈ part, (∃ members, value = .mapping members) ∨ value = .scalar .null

/-- A document whose parts have the shapes that a lockfile gives them. -/
structure WellShaped (members : List (Value × Yaml)) : Prop where
  importers : IsMapping (Entries.get? (.str "importers") members)
  root : IsMapping
    (Entries.get? (.str ".") (membersOf (Entries.get? (.str "importers") members)))
  rootGroups : ∀ group ∈ groups, IsMappingOrNull (Entries.get? (.str group) (rootMembers members))
  ownGroups : ∀ group ∈ groups, IsMappingOrNull (Entries.get? (.str group) members)
  packages : IsMappingOrNull (Entries.get? (.str "packages") members)

/-! ## Sources -/

/-- The version that the information on a dependency gives: the one that it lists, or the
information itself if it is no mapping. -/
inductive Gives : Yaml → Yaml → Prop
  | listed {members : List (Value × Yaml)} {version : Yaml}
      (hversion : Entries.get? (.str "version") members = some version) :
      Gives (.mapping members) version
  | plain {info : Yaml} (hinfo : ∀ members, info ≠ .mapping members) : Gives info info

/-- A place of a document that may offer a version of a package. -/
inductive Source where
  /-- A dependency with its name and the information on it. -/
  | dependency (name : Value) (info : Yaml)
  /-- A key of the packages section. -/
  | key (text : String)

namespace Source

/-- A source offers a version of a package.  A dependency does if it gives a version that is no
link, and then without the peers of the version; a key does if it stands for that version of the
package. -/
def Offers (name : Value) (version : String) : Source → Prop
  | .dependency named info => (named == name) = true ∧
      ∃ given, Gives info given ∧ given ≠ .scalar .null ∧
        startsWith given.text "link:" = false ∧ version = cleanVersion given.text
  | .key text => ∃ named, (Value.str named == name) = true ∧ splitKey text = some (named, version)

/-- The name and the version that a source stands for, if it offers a version. -/
def pair? : Source → Option (Value × String)
  | .dependency named info => (dependencyVersion? info).map fun version => (named, version)
  | .key text => (splitKey text).map fun (named, version) => (.str named, version)

end Source

/-- The dependencies of a section in the order of its groups. -/
def dependencies (members : List (Value × Yaml)) : List (Value × Yaml) :=
  groups.flatMap fun group => membersOf (Entries.get? (.str group) members)

/-- The sources of a document, the preferred ones first: the dependencies of the root project, those
of the document itself, and the keys of the packages section. -/
def sources (members : List (Value × Yaml)) : List Source :=
  (dependencies (rootMembers members) ++ dependencies members).map
      (fun entry => .dependency entry.1 entry.2) ++
    (membersOf (Entries.get? (.str "packages") members)).map fun entry => .key entry.1.text

/-- The first of some sources that offers any version of a package offers this one. -/
def FirstOffer (name : Value) (version : String) (sources : List Source) : Prop :=
  ∃ before source after, sources = before ++ source :: after ∧ source.Offers name version ∧
    ∀ earlier ∈ before, ∀ other, ¬ earlier.Offers name other

/-! ## Offers -/

section Offers

variable {name : Value} {version : String} {source : Source}

theorem gives_iff {info given : Yaml} : Gives info given ↔ givenVersion? info = some given := by
  constructor
  · rintro (hversion | hinfo)
    · exact hversion
    · unfold givenVersion?
      split
      · next members => exact absurd rfl (hinfo members)
      · rfl
  · intro hgiven
    unfold givenVersion? at hgiven
    split at hgiven
    · exact .listed hgiven
    · next hinfo =>
      cases hgiven
      exact .plain hinfo

theorem writtenVersion?_eq_some_iff {info given : Yaml} :
    writtenVersion? info = some given ↔ Gives info given ∧ given ≠ .scalar .null := by
  rw [gives_iff]
  unfold writtenVersion?
  split
  · next hnull => simp [hnull, eq_comm]
  · next hgiven =>
    refine (and_iff_left_of_imp ?_).symm
    rintro hfound rfl
    exact hgiven hfound

theorem dependencyVersion?_eq_some_iff {info : Yaml} :
    dependencyVersion? info = some version ↔
      ∃ given, Gives info given ∧ given ≠ .scalar .null ∧
        startsWith given.text "link:" = false ∧ version = cleanVersion given.text := by
  have hwritten : ∀ given, (Gives info given ∧ given ≠ .scalar .null ∧
      startsWith given.text "link:" = false ∧ version = cleanVersion given.text) ↔
      writtenVersion? info = some given ∧
        startsWith given.text "link:" = false ∧ version = cleanVersion given.text := by
    intro given
    rw [writtenVersion?_eq_some_iff, and_assoc]
  simp only [hwritten]
  unfold dependencyVersion?
  split
  · next hnone => simp [hnone]
  · next given hgiven =>
    simp only [hgiven, Option.some_inj, exists_eq_left']
    cases startsWith given.text "link:" with
    | true => simp
    | false => simpa using eq_comm

theorem offers_iff :
    source.Offers name version ↔
      ∃ named, source.pair? = some (named, version) ∧ (named == name) = true := by
  cases source with
  | dependency named info =>
      rw [Source.Offers, ← dependencyVersion?_eq_some_iff, Source.pair?]
      simp only [Option.map_eq_some_iff, Prod.mk.injEq]
      constructor
      · rintro ⟨hname, hversion⟩
        exact ⟨named, ⟨version, hversion, rfl, rfl⟩, hname⟩
      · rintro ⟨_, ⟨_, hversion, rfl, rfl⟩, hname⟩
        exact ⟨hname, hversion⟩
  | key text =>
      rw [Source.Offers, Source.pair?]
      simp only [Option.map_eq_some_iff, Prod.mk.injEq, Prod.exists]
      constructor
      · rintro ⟨named, hname, hsplit⟩
        exact ⟨.str named, ⟨named, version, hsplit, rfl, rfl⟩, hname⟩
      · rintro ⟨_, ⟨named, _, hsplit, rfl, rfl⟩, hname⟩
        exact ⟨named, hname, hsplit⟩

/-- What the first source offers, or else what the others do. -/
theorem get?_filterMap_cons (name : Value) (source : Source) (rest : List Source) :
    Entries.get? name ((source :: rest).filterMap Source.pair?) =
      (Entries.get? name source.pair?.toList).or
        (Entries.get? name (rest.filterMap Source.pair?)) := by
  rw [← Entries.get?_append, List.filterMap_cons]
  cases source.pair? <;> rfl

theorem get?_pair?_eq_some_iff :
    Entries.get? name source.pair?.toList = some version ↔ source.Offers name version := by
  rw [offers_iff]
  cases source.pair? with
  | none => simp [Entries.get?]
  | some pair =>
      obtain ⟨named, found⟩ := pair
      by_cases hname : (named == name) = true <;> simp [Entries.get?, hname]

/-- A name is absent exactly if no source offers a version of it. -/
theorem get?_filterMap_eq_none_iff {sources : List Source} :
    Entries.get? name (sources.filterMap Source.pair?) = none ↔
      ∀ source ∈ sources, ∀ version, ¬ source.Offers name version := by
  induction sources with
  | nil => simp [Entries.get?]
  | cons source rest ih =>
      rw [get?_filterMap_cons, Option.or_eq_none_iff, ih, List.forall_mem_cons,
        Option.eq_none_iff_forall_ne_some]
      simp only [ne_eq, get?_pair?_eq_some_iff]

/-- Looking a name up finds the first offer. -/
theorem get?_filterMap_eq_some_iff {sources : List Source} :
    Entries.get? name (sources.filterMap Source.pair?) = some version ↔
      FirstOffer name version sources := by
  constructor
  · intro hget
    -- along the sources: the first one offers a version, or those behind it are asked
    induction sources with
    | nil => cases hget
    | cons source rest ih =>
        rw [get?_filterMap_cons] at hget
        rcases Option.or_eq_some_iff.mp hget with hoffer | ⟨hnone, hrest⟩
        · exact ⟨[], source, rest, rfl, get?_pair?_eq_some_iff.mp hoffer, by simp⟩
        · obtain ⟨before, first, after, rfl, hoffer, hbefore⟩ := ih hrest
          refine ⟨source :: before, first, after, rfl, hoffer, ?_⟩
          refine List.forall_mem_cons.mpr ⟨fun other hother => ?_, hbefore⟩
          rw [get?_pair?_eq_some_iff.mpr hother] at hnone
          cases hnone
  · rintro ⟨before, source, after, rfl, hoffer, hbefore⟩
    rw [List.filterMap_append, Entries.get?_append, get?_filterMap_eq_none_iff.mpr hbefore,
      Option.none_or, get?_filterMap_cons, get?_pair?_eq_some_iff.mpr hoffer, Option.some_or]

end Offers

/-! ## Reading -/

section Reading

variable {members : List (Value × Yaml)}

theorem orEmpty_mapping (members : List (Value × Yaml)) :
    (Yaml.mapping members).orEmpty = .mapping members := by
  cases members <;> rfl

theorem getD_of_isMapping {part : Option Yaml} (hpart : IsMapping part) :
    part.getD (.mapping []) = .mapping (membersOf part) := by
  cases part with
  | none => rfl
  | some value =>
      obtain ⟨members, rfl⟩ := hpart value rfl
      rfl

theorem orEmpty_getD {part : Option Yaml} (hpart : IsMappingOrNull part) :
    (part.getD (.mapping [])).orEmpty = .mapping (membersOf part) := by
  cases part with
  | none => rfl
  | some value =>
      rcases hpart value rfl with ⟨members, rfl⟩ | rfl
      · exact orEmpty_mapping members
      · rfl

theorem addDependency_eq (packages : Packages) (entry : Value × Yaml) :
    addDependency packages entry =
      packages.keepAll (Source.dependency entry.1 entry.2).pair?.toList := by
  simp only [addDependency, Source.pair?]
  cases dependencyVersion? entry.2 <;> rfl

theorem addKey_eq (packages : Packages) (text : String) :
    addKey packages text = packages.keepAll (Source.key text).pair?.toList := by
  simp only [addKey, Source.pair?]
  cases splitKey text <;> rfl

theorem readSection_eq {part : List (Value × Yaml)}
    (hgroups : ∀ group ∈ groups, IsMappingOrNull (Entries.get? (.str group) part))
    (packages : Packages) :
    readSection (fun packages members => .ok (members.foldl addDependency packages)) packages
        (.mapping part) =
      .ok (packages.keepAll ((dependencies part).filterMap fun entry =>
        (Source.dependency entry.1 entry.2).pair?)) := by
  -- one group, on top of what the groups before it have given
  have hgroup : ∀ packages : Packages, ∀ group ∈ groups,
      readGroup (fun packages members => .ok (members.foldl addDependency packages))
          (.mapping part) packages group =
        .ok ((membersOf (Entries.get? (.str group) part)).foldl addDependency packages) := by
    intro packages group hgroup
    have hfound := orEmpty_getD (hgroups group hgroup)
    refine bind_of_eq_ok (by rw [Yaml.lookup?]) ?_
    exact bind_of_eq_ok (by rw [hfound, Yaml.members]) rfl
  have hfold := @foldlM_map_ok Fault _ _ _ _ _ id id _ groups hgroup packages
  rw [List.map_id] at hfold
  rw [readSection, dependencies, ← Entries.foldl_eq_keepAll addDependency_eq, List.foldl_flatMap]
  exact hfold

/-- A document is read by keeping the pairs of its sources, one after the other. -/
theorem versions_of_wellShaped (hshape : WellShaped members) :
    versions (.mapping members) =
      .ok (Entries.keepAll [] ((sources members).filterMap Source.pair?)) := by
  unfold versions readDocument
  rw [orEmpty_mapping]
  refine bind_of_eq_ok (by rw [Yaml.lookup?]) ?_
  refine bind_of_eq_ok (by rw [getD_of_isMapping hshape.importers, Yaml.lookup?]) ?_
  rw [getD_of_isMapping hshape.root]
  refine bind_of_eq_ok (readSection_eq hshape.rootGroups []) ?_
  refine bind_of_eq_ok (readSection_eq hshape.ownGroups _) ?_
  refine bind_of_eq_ok (by rw [Yaml.lookup?]) ?_
  refine bind_of_eq_ok (by rw [orEmpty_getD hshape.packages, Yaml.items]) ?_
  refine congrArg Except.ok ?_
  rw [Entries.foldl_eq_keepAll addKey_eq]
  simp only [sources, Entries.keepAll, List.map_append, List.map_map, List.filterMap_append,
    List.filterMap_map, List.foldl_append]
  rfl

end Reading

/-- **The first source that offers a version of a package gives it.**  The sources are, in this
order, the three groups of dependencies of the root project, those of the document and the keys of
the packages section.  A name has the version of the first of them that offers one, and it is
absent exactly if none of them does. -/
theorem version_of_first_source {members : List (Value × Yaml)} (hshape : WellShaped members) :
    ∃ packages, versions (.mapping members) = .ok packages ∧
      ∀ name, (∀ version, packages.get? name = some version ↔
          FirstOffer name version (sources members)) ∧
        (packages.get? name = none ↔
          ∀ source ∈ sources members, ∀ version, ¬ source.Offers name version) := by
  refine ⟨_, versions_of_wellShaped hshape, fun name => ?_⟩
  have hget : (Entries.keepAll [] ((sources members).filterMap Source.pair?)).get? name =
      Entries.get? name ((sources members).filterMap Source.pair?) :=
    Entries.get?_keepAll [] _ name
  rw [hget]
  exact ⟨fun version => get?_filterMap_eq_some_iff, get?_filterMap_eq_none_iff⟩

/-- A document that links a package in the root project and gives its version further below, next to
a key for another version. -/
def linkedDocument : List (Value × Yaml) :=
  [(.str "importers", .mapping [(.str ".", .mapping [
      (.str "dependencies", .mapping [
        (.str "a", .mapping [(.str "version", .scalar (.str "link:../a"))])]),
      (.str "devDependencies", .scalar .null)])]),
    (.str "optionalDependencies", .mapping [(.str "a", .scalar (.str "1.0.0_b@2.0.0"))]),
    (.str "packages", .mapping [(.str "/a@3.0.0", .scalar .null)])]

theorem wellShaped_linkedDocument : WellShaped linkedDocument where
  importers value hvalue := ⟨_, (Option.some.inj hvalue).symm⟩
  root value hvalue := ⟨_, (Option.some.inj hvalue).symm⟩
  rootGroups group hgroup value hvalue := by
    simp only [groups, List.mem_cons, List.not_mem_nil, or_false] at hgroup
    rcases hgroup with rfl | rfl | rfl
    · exact Or.inl ⟨_, (Option.some.inj hvalue).symm⟩
    · exact Or.inr (Option.some.inj hvalue).symm
    · cases hvalue
  ownGroups group hgroup value hvalue := by
    simp only [groups, List.mem_cons, List.not_mem_nil, or_false] at hgroup
    rcases hgroup with rfl | rfl | rfl
    · cases hvalue
    · cases hvalue
    · exact Or.inl ⟨_, (Option.some.inj hvalue).symm⟩
  packages value hvalue := Or.inl ⟨_, (Option.some.inj hvalue).symm⟩

/-- The link does not stand in the way of the dependency, and the dependency comes before the key.
-/
theorem version_of_linkedDocument :
    ∃ packages, versions (.mapping linkedDocument) = .ok packages ∧
      packages.get? (.str "a") = some "1.0.0" := by
  obtain ⟨packages, hpackages, hnames⟩ := version_of_first_source wellShaped_linkedDocument
  refine ⟨packages, hpackages, ((hnames _).1 _).mpr ?_⟩
  refine ⟨[.dependency (.str "a") (.mapping [(.str "version", .scalar (.str "link:../a"))])],
    .dependency (.str "a") (.scalar (.str "1.0.0_b@2.0.0")), [.key "/a@3.0.0"], rfl, ?_, ?_⟩
  · exact ⟨rfl, _, .plain nofun, nofun, by decide, by decide⟩
  · refine List.forall_mem_singleton.mpr fun other hother => ?_
    obtain ⟨-, given, hgives, -, hlink, -⟩ := hother
    cases hgives with
    | listed hversion =>
        cases hversion
        exact absurd hlink (by decide)
    | plain hinfo => exact hinfo _ rfl

end Lockfile.Pnpm

end ComponentCensus
