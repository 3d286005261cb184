import ComponentCensus.Lockfile.Load
import ComponentCensus.Proofs.Cuts
import ComponentCensus.Proofs.Entries
import ComponentCensus.Proofs.Steps

/-!
# Both formats of a yarn lockfile say the same

A lockfile is a list of entries, and there are two ways to write it down: the classic text, line by
line, and a document with the descriptors of each entry as a key.  `Descriptor` and `Entry` hold
what both have in common together with what only one of them shows, and the conditions under which
the texts can be told apart again.

The two are read in very different ways.  The classic reader goes line by line and takes what looks
like a header or a version for one; the other one looks members up.  The conditions on entries are
those that keep the first one from being misled: names and versions without blanks and quotes, and
further lines of an entry that are indented or silent.

## Main results

* `formats_agree` : for the same entries both formats give the same table, in which each package
  has the version of its first entry, and no package is there twice.

## Strategy

* In both formats the descriptors of an entry have commas between them, and each gives its package
  back whether it is quoted or not (`packageNames_intercalate`).
* The classic reader waits for a version after a header only.  Whatever state it is in, the lines
  of an entry leave it with nothing to wait for (`foldl_readLine_entry`), so that lines that merely
  look like versions pass by.
* Both readers add the entries one after the other (`Entry.addTo`), and the first version of a
  package stays (`get?_foldl_addTo`).
-/

namespace ComponentCensus.Lockfile.Yarn

open ComponentCensus.Files ComponentCensus.Scan ComponentCensus.Text

/-! ## What a lockfile says -/

/-- Characters of the name of a package. -/
def isNameChar (c : Char) : Bool :=
  !isBlank c && c ≠ '"' && c ≠ ',' && c ≠ '#'

/-- Characters of a range of versions. -/
def isRangeChar (c : Char) : Bool :=
  c ≠ '"' && c ≠ ',' && !isLineEnd c

/-- Whether a line may follow a version in the classic format: it is indented or says nothing. -/
def mayFollow (line : List Char) : Bool :=
  line.all (fun c => !isLineEnd c) && (isSilent line || line.head? = some ' ')

/-- A package name with a range of versions, which the classic format may write in quotes. -/
structure Descriptor where
  name : List Char
  range : List Char
  quoted : Bool
  name_ne_nil : name ≠ []
  at_not_mem : '@' ∉ name.tail
  name_plain : name.all isNameChar = true
  range_plain : range.all isRangeChar = true

namespace Descriptor

/-- The package that a descriptor is about. -/
def package (descriptor : Descriptor) : String :=
  String.ofList descriptor.name

/-- A descriptor as a text. -/
def text (descriptor : Descriptor) : List Char :=
  descriptor.name ++ '@' :: descriptor.range

/-- A descriptor in a header of the classic format. -/
def written (descriptor : Descriptor) : List Char :=
  if descriptor.quoted then '"' :: descriptor.text ++ ['"'] else descriptor.text

end Descriptor

/-- An entry: descriptors with one version.  In the classic format further lines may follow the
version; in the newer format an entry has members, one of which is the version. -/
structure Entry where
  descriptors : List Descriptor
  version : List Char
  more : List (List Char)
  members : List (Value × Yaml)
  descriptors_ne_nil : descriptors ≠ []
  version_ne_nil : version ≠ []
  version_plain : version.all isVersionChar = true
  more_plain : more.all mayFollow = true
  members_version : ∃ value, Entries.get? (Value.str "version") members = some value ∧
    value.text = String.ofList version

namespace Entry

/-- The packages of an entry. -/
def packages (entry : Entry) : List String :=
  entry.descriptors.map Descriptor.package

/-- The header of an entry in the classic format. -/
def header (entry : Entry) : List Char :=
  [',', ' '].intercalate (entry.descriptors.map Descriptor.written) ++ [':']

/-- The line with the version in the classic format. -/
def versionLine (entry : Entry) : List Char :=
  ' ' :: ' ' :: 'v' :: 'e' :: 'r' :: 's' :: 'i' :: 'o' :: 'n' :: ' ' :: '"' :: (entry.version ++ ['"'])

/-- The lines of an entry in the classic format. -/
def lines (entry : Entry) : List (List Char) :=
  entry.header :: entry.versionLine :: entry.more

/-- The key of an entry in the newer format. -/
def key (entry : Entry) : String :=
  String.ofList ([',', ' '].intercalate (entry.descriptors.map Descriptor.text))

/-- An entry in the newer format. -/
def member (entry : Entry) : Value × Yaml :=
  (.str entry.key, .mapping entry.members)

/-- Versions with those of an entry added to them. -/
def addTo (versions : Entries String String) (entry : Entry) : Entries String String :=
  keepVersion (String.ofList entry.version) versions entry.packages

end Entry

/-- The classic text: lines that say nothing, and then the entries. -/
def classicText (opening : List (List Char)) (entries : List Entry) : String :=
  String.ofList (join '\n' (opening ++ entries.flatMap Entry.lines))

/-- The document of the newer format, with its metadata between some entries. -/
def document (before : List Entry) (metadata : Yaml) (after : List Entry) : Yaml :=
  .mapping (before.map Entry.member ++ (.str "__metadata", metadata) :: after.map Entry.member)

/-- The version of the first entry that has a descriptor of a package. -/
def firstVersion? (entries : List Entry) (package : String) : Option String :=
  (entries.find? fun entry => package ∈ entry.packages).map fun entry => String.ofList entry.version

/-! ## Names of packages -/

theorem Descriptor.plain_of_mem_name (descriptor : Descriptor) {c : Char}
    (hc : c ∈ descriptor.name) :
    isBlank c = false ∧ c ≠ '"' ∧ c ≠ ',' ∧ c ≠ '#' := by
  have hplain := List.all_eq_true.mp descriptor.name_plain c hc
  simpa [isNameChar, and_assoc] using hplain

theorem Descriptor.plain_of_mem_range (descriptor : Descriptor) {c : Char}
    (hc : c ∈ descriptor.range) : c ≠ '"' ∧ c ≠ ',' ∧ isLineEnd c = false := by
  have hplain := List.all_eq_true.mp descriptor.range_plain c hc
  simpa [isRangeChar, and_assoc] using hplain

theorem beforeRange_append {name : List Char} (hname : name ≠ []) (hat : '@' ∉ name.tail)
    (rest : List Char) : beforeRange (name ++ '@' :: rest) = name := by
  cases name with
  | nil => exact absurd rfl hname
  | cons c name =>
      have hplain : ∀ d ∈ name, decide (d ≠ '@') = true := fun d hd =>
        decide_eq_true fun heq => hat (heq ▸ hd)
      rw [List.cons_append, beforeRange, List.takeWhile_append_of_pos hplain]
      simp

namespace Descriptor

variable (descriptor : Descriptor)

/-- A descriptor gives its package back, with blanks before it and with or without quotes. -/
theorem packageName_written {lead : List Char} (hlead : ∀ c ∈ lead, isBlank c = true) :
    packageName (lead ++ descriptor.written) = descriptor.package := by
  obtain ⟨first, name, hname⟩ := List.exists_cons_of_ne_nil descriptor.name_ne_nil
  obtain ⟨hblank, hquote, -, -⟩ :=
    descriptor.plain_of_mem_name (hname ▸ List.mem_cons_self ..)
  have hnoquote : decide (first = '"') = false := decide_eq_false hquote
  have hat := descriptor.at_not_mem
  rw [hname] at hat
  unfold packageName Descriptor.package written Descriptor.text
  rw [hname]
  congr 1
  split
  · -- The blanks end at the quote in front, which goes next; what is behind the range may stay.
    have hblanks := @trimBoth_append isBlank lead hlead '"' '@' (by decide) (by decide)
      (first :: name) (descriptor.range ++ ['"'])
    have hquotes := @trimBoth_append (fun c => decide (c = '"')) ['"'] (by simp) first '@' hnoquote
      (by decide) name (trimEnd isBlank (descriptor.range ++ ['"']))
    simp only [List.cons_append, List.append_assoc, List.nil_append] at hblanks hquotes ⊢
    rw [hblanks, hquotes]
    exact beforeRange_append (List.cons_ne_nil _ _) hat _
  · have hblanks := @trimBoth_append isBlank lead hlead first '@' hblank (by decide) name
      descriptor.range
    have hquotes := @trimBoth_append (fun c => decide (c = '"')) [] (by simp) first '@' hnoquote
      (by decide) name (trimEnd isBlank descriptor.range)
    simp only [List.cons_append, List.append_assoc, List.nil_append] at hblanks hquotes ⊢
    rw [hblanks, hquotes]
    exact beforeRange_append (List.cons_ne_nil _ _) hat _

theorem packageName_text {lead : List Char} (hlead : ∀ c ∈ lead, isBlank c = true) :
    packageName (lead ++ descriptor.text) = descriptor.package :=
  packageName_written { descriptor with quoted := false } hlead

theorem comma_not_mem_text : ',' ∉ descriptor.text := by
  intro hcomma
  rcases List.mem_append.mp hcomma with hname | hrest
  · exact (descriptor.plain_of_mem_name hname).2.2.1 rfl
  · rcases List.mem_cons.mp hrest with hat | hrange
    · exact absurd hat (by decide)
    · exact (descriptor.plain_of_mem_range hrange).2.1 rfl

theorem comma_not_mem_written : ',' ∉ descriptor.written := by
  have htext := descriptor.comma_not_mem_text
  unfold written
  split
  · simp [htext]
  · exact htext

end Descriptor

/-- Descriptors with commas between them, in either way to write them. -/
theorem packageNames_intercalate {text : Descriptor → List Char}
    (hcomma : ∀ descriptor, ',' ∉ text descriptor)
    (hpackage : ∀ descriptor lead, (∀ c ∈ lead, isBlank c = true) →
      packageName (lead ++ text descriptor) = descriptor.package)
    {descriptors : List Descriptor} (hdescriptors : descriptors ≠ []) :
    packageNames ([',', ' '].intercalate (descriptors.map text)) =
      descriptors.map Descriptor.package := by
  obtain ⟨first, rest, rfl⟩ := List.exists_cons_of_ne_nil hdescriptors
  have hwords : ∀ word ∈ text first :: rest.map text, ',' ∉ word := by
    intro word hword
    obtain ⟨descriptor, -, rfl⟩ := List.mem_map.mp (show word ∈ (first :: rest).map text from hword)
    exact hcomma descriptor
  -- the commas are cut away again, and the blank behind each of them stays in front
  have hsplit := @splitOn_intercalate ',' [] (text first) (rest.map text) (by decide)
    List.not_mem_nil hwords
  have hspace : ∀ c ∈ [' '], isBlank c = true := List.forall_mem_singleton.mpr rfl
  unfold packageNames
  rw [List.map_cons, ← List.nil_append (List.intercalate _ _), hsplit, List.map_cons, List.map_cons,
    hpackage first [] (List.forall_mem_nil _), List.map_map, List.map_map]
  congr 1
  exact List.map_congr_left fun descriptor _ => hpackage descriptor [' '] hspace

/-! ## Lines of the classic format -/

namespace Entry

variable (entry : Entry)

/-- A header starts with a quote or with the name of a package. -/
theorem exists_header : ∃ first rest, entry.header = first :: rest ∧ isBlank first = false ∧
    first ≠ '#' := by
  obtain ⟨descriptor, others, hdescriptors⟩ := List.exists_cons_of_ne_nil entry.descriptors_ne_nil
  obtain ⟨c, name, hname⟩ := List.exists_cons_of_ne_nil descriptor.name_ne_nil
  obtain ⟨hblank, -, -, hhash⟩ := descriptor.plain_of_mem_name (hname ▸ List.mem_cons_self ..)
  -- a descriptor starts with its quote or with its name
  have hwritten : ∃ first rest, descriptor.written = first :: rest ∧ isBlank first = false ∧
      first ≠ '#' := by
    unfold Descriptor.written Descriptor.text
    rw [hname]
    split
    · exact ⟨_, _, rfl, by decide, by decide⟩
    · exact ⟨_, _, rfl, hblank, hhash⟩
  obtain ⟨first, rest, hfirst, hplain⟩ := hwritten
  unfold header
  rw [hdescriptors, List.map_cons, hfirst]
  cases others with
  | nil => exact ⟨first, _, by rw [List.map_nil, List.intercalate_singleton, List.cons_append], hplain⟩
  | cons other others =>
      exact ⟨first, _, by rw [List.map_cons, List.intercalate_cons_cons, List.append_assoc,
        List.append_assoc, List.cons_append], hplain⟩

theorem headerOf?_header :
    headerOf? entry.header =
      some ([',', ' '].intercalate (entry.descriptors.map Descriptor.written)) := by
  obtain ⟨first, rest, hheader, hblank, -⟩ := entry.exists_header
  have htrim : trimEnd isBlank entry.header = entry.header :=
    trimEnd_append_cons (by decide) _ []
  have hhead : entry.header.head? = some first := by rw [hheader]; rfl
  have hlast : entry.header.getLast? = some ':' := List.getLast?_concat
  unfold headerOf?
  simp only [htrim, hhead, hlast, Option.any_some, hblank, Bool.not_false, decide_true, Bool.and_self,
    if_true]
  exact congrArg some List.dropLast_concat

theorem readLine_header (progress : Progress) :
    progress.readLine entry.header = { progress with names := entry.packages } := by
  obtain ⟨first, rest, hheader, hblank, hhash⟩ := entry.exists_header
  have hsilent : isSilent entry.header = false := by
    rw [hheader]
    simp [isSilent, hblank, hhash]
  -- the line without its colon is the list of descriptors
  have hnames := packageNames_intercalate Descriptor.comma_not_mem_written
    (fun descriptor _ => descriptor.packageName_written) entry.descriptors_ne_nil
  unfold Progress.readLine
  rw [hsilent, headerOf?_header]
  simp only [Bool.false_eq_true, if_false, hnames]
  rfl

/-- The lines behind a version are lines, and they are indented or say nothing. -/
theorem plain_of_mem_more {line : List Char} (hline : line ∈ entry.more) :
    IsLine line ∧ (isSilent line = true ∨ line.head? = some ' ') := by
  have hplain := List.all_eq_true.mp entry.more_plain line hline
  obtain ⟨hline, hfollows⟩ := (Bool.and_eq_true ..).mp hplain
  rw [Bool.or_eq_true, decide_eq_true_iff] at hfollows
  exact ⟨hline, hfollows⟩

theorem versionOf?_versionLine :
    versionOf? entry.versionLine = some (String.ofList entry.version) := by
  have hversion : (entry.version ++ ['"']).takeWhile isVersionChar = entry.version := by
    rw [List.takeWhile_append_of_pos (List.all_eq_true.mp entry.version_plain)]
    exact List.append_nil _
  -- the version ends at the closing quote
  have hrest : (entry.version ++ ['"']).dropWhile isVersionChar = ['"'] := by
    rw [List.dropWhile_append_of_pos (List.all_eq_true.mp entry.version_plain)]
    rfl
  have hnonempty : entry.version.isEmpty = false :=
    List.isEmpty_eq_false_iff.mpr entry.version_ne_nil
  show versionAfterWord? (' ' :: '"' :: (entry.version ++ ['"'])) = _
  have hvalue : dropOptional '"' ((dropOptional ':' (' ' :: '"' :: (entry.version ++ ['"']))).dropWhile
      isBlank) = entry.version ++ ['"'] := rfl
  unfold versionAfterWord?
  simp only [hvalue, hversion, hrest, hnonempty]
  rfl

theorem readLine_versionLine (progress : Progress) :
    progress.readLine entry.versionLine =
      ⟨[], keepVersion (String.ofList entry.version) progress.versions progress.names⟩ := by
  have hsilent : isSilent entry.versionLine = false := rfl
  have hheader : headerOf? entry.versionLine = none := rfl
  unfold Progress.readLine
  rw [hsilent, hheader, versionOf?_versionLine]
  rfl

end Entry

/-- Without names to give a version to, indented lines change nothing. -/
theorem readLine_indented {progress : Progress} (hnames : progress.names = []) {line : List Char}
    (hline : isSilent line = true ∨ line.head? = some ' ') : progress.readLine line = progress := by
  unfold Progress.readLine
  split
  · rfl
  · next hloud =>
    have hhead : line.head? = some ' ' := hline.resolve_left hloud
    have hheader : headerOf? line = none := by
      unfold headerOf?
      rw [hhead]
      rfl
    rw [hheader]
    -- a line that looks like a version finds no name that waits for one
    cases hversion : versionOf? line with
    | none => rfl
    | some version =>
        obtain ⟨names, versions⟩ := progress
        cases hnames
        rfl

theorem foldl_readLine_of_unchanged {progress : Progress} {parts : List (List Char)}
    (hparts : ∀ line ∈ parts, progress.readLine line = progress) :
    parts.foldl Progress.readLine progress = progress := by
  induction parts with
  | nil => rfl
  | cons line parts ih =>
      obtain ⟨hline, hrest⟩ := List.forall_mem_cons.mp hparts
      rw [List.foldl_cons, hline, ih hrest]

/-- The lines of an entry give its version to its packages, whatever came before them. -/
theorem foldl_readLine_entry (entry : Entry) (progress : Progress) :
    entry.lines.foldl Progress.readLine progress = ⟨[], entry.addTo progress.versions⟩ := by
  unfold Entry.lines
  rw [List.foldl_cons, List.foldl_cons, entry.readLine_header, entry.readLine_versionLine]
  exact foldl_readLine_of_unchanged fun line hline =>
    readLine_indented rfl (entry.plain_of_mem_more hline).2

/-- The passes over all entries, one entry after the other. -/
theorem foldl_readLine_entries (entries : List Entry) (progress : Progress) :
    ((entries.flatMap Entry.lines).foldl Progress.readLine progress).versions =
      entries.foldl Entry.addTo progress.versions := by
  induction entries generalizing progress with
  | nil => rfl
  | cons entry entries ih =>
      rw [List.flatMap_cons, List.foldl_append, foldl_readLine_entry, ih]
      rfl

/-! ## The classic text -/

theorem Descriptor.isLine_written (descriptor : Descriptor) : IsLine descriptor.written := by
  have hname : IsLine descriptor.name := by
    rw [isLine_iff]
    intro c hc
    have hblank := (descriptor.plain_of_mem_name hc).1
    exact Bool.eq_false_iff.mpr fun hend => by
      rw [isBlank_of_isLineEnd hend] at hblank
      cases hblank
  have hrange : IsLine descriptor.range :=
    isLine_iff.mpr fun c hc => (descriptor.plain_of_mem_range hc).2.2
  have htext : IsLine descriptor.text :=
    isLine_append.mpr ⟨hname, isLine_cons.mpr ⟨rfl, hrange⟩⟩
  unfold written
  split
  · exact isLine_append.mpr ⟨isLine_cons.mpr ⟨rfl, htext⟩, rfl⟩
  · exact htext

theorem Entry.isLine_header (entry : Entry) : IsLine entry.header := by
  have hseparator : IsLine [',', ' '] := rfl
  refine isLine_append.mpr ⟨isLine_intercalate hseparator ?_, rfl⟩
  intro word hword
  obtain ⟨descriptor, -, rfl⟩ := List.mem_map.mp hword
  exact descriptor.isLine_written

theorem Entry.isLine_versionLine (entry : Entry) : IsLine entry.versionLine := by
  have hversion : IsLine entry.version := by
    rw [isLine_iff]
    intro c hc
    have hplain := List.all_eq_true.mp entry.version_plain c hc
    refine Bool.eq_false_iff.mpr fun hend => ?_
    rw [isVersionChar, isBlank_of_isLineEnd hend] at hplain
    simp at hplain
  have hword : IsLine [' ', ' ', 'v', 'e', 'r', 's', 'i', 'o', 'n', ' ', '"'] := rfl
  have hquote : IsLine ['"'] := rfl
  show IsLine ([' ', ' ', 'v', 'e', 'r', 's', 'i', 'o', 'n', ' ', '"'] ++ (entry.version ++ ['"']))
  exact isLine_append.mpr ⟨hword, isLine_append.mpr ⟨hversion, hquote⟩⟩

theorem Entry.isLine_of_mem_lines (entry : Entry) : ∀ line ∈ entry.lines, IsLine line := by
  refine List.forall_mem_cons.mpr ⟨entry.isLine_header, List.forall_mem_cons.mpr
    ⟨entry.isLine_versionLine, ?_⟩⟩
  intro line hline
  exact (entry.plain_of_mem_more hline).1

/-- The classic text gives the versions of its entries, one entry after the other. -/
theorem classicVersions_classicText {opening : List (List Char)}
    (hopening : ∀ line ∈ opening, IsLine line ∧ isSilent line = true) (entries : List Entry) :
    classicVersions (classicText opening entries) = entries.foldl Entry.addTo [] := by
  have hempty : ∀ progress : Progress, progress.readLine [] = progress := fun _ => rfl
  have hparts : ∀ line ∈ opening ++ entries.flatMap Entry.lines, IsLine line := by
    refine List.forall_mem_append.mpr ⟨fun line hline => (hopening line hline).1, ?_⟩
    intro line hline
    obtain ⟨entry, -, hline⟩ := List.mem_flatMap.mp hline
    exact entry.isLine_of_mem_lines line hline
  -- nothing is read from the lines in front of the first entry
  have hsilent : ∀ line ∈ opening, Progress.readLine {} line = {} := by
    intro line hline
    unfold Progress.readLine
    rw [(hopening line hline).2]
    rfl
  unfold classicVersions classicText
  rw [String.toList_ofList, foldl_lines_join hempty hparts, List.foldl_append,
    foldl_readLine_of_unchanged hsilent, foldl_readLine_entries]

/-! ## The document of the newer format -/

theorem Entry.key_ne_metadata (entry : Entry) : entry.key ≠ "__metadata" := by
  obtain ⟨descriptor, others, hdescriptors⟩ := List.exists_cons_of_ne_nil entry.descriptors_ne_nil
  have hat : '@' ∈ entry.key.toList := by
    unfold Entry.key
    rw [String.toList_ofList, hdescriptors, List.map_cons]
    cases others with
    | nil => simp [List.intercalate_singleton, Descriptor.text]
    | cons other others => simp [List.intercalate_cons_cons, Descriptor.text]
  intro hkey
  rw [hkey] at hat
  exact absurd hat (by decide)

theorem addEntry_member (versions : Entries String String) (entry : Entry) :
    addEntry versions entry.member = entry.addTo versions := by
  obtain ⟨value, hvalue, htext⟩ := entry.members_version
  have hkey : (Value.str entry.key == Value.str "__metadata") = false :=
    decide_eq_false entry.key_ne_metadata
  have hnames : packageNames (Value.str entry.key).text.toList = entry.packages := by
    show packageNames (String.toList (String.ofList _)) = _
    rw [String.toList_ofList]
    exact packageNames_intercalate Descriptor.comma_not_mem_text
      (fun descriptor _ => descriptor.packageName_text) entry.descriptors_ne_nil
  unfold addEntry Entry.member
  simp only [hvalue, hkey, hnames, htext]
  rfl

theorem addEntry_metadata (versions : Entries String String) (metadata : Yaml) :
    addEntry versions (.str "__metadata", metadata) = versions := by
  have hkey : (Value.str "__metadata" == Value.str "__metadata") = true := by decide
  unfold addEntry
  split
  · split
    · rw [if_pos hkey]
    · rfl
  · rfl

/-- The document gives the versions of its entries, and its metadata none. -/
theorem mappedVersions_document (before : List Entry) (metadata : Yaml) (after : List Entry) :
    mappedVersions (document before metadata after) =
      .ok ((before ++ after).foldl Entry.addTo []) := by
  have hmembers : (document before metadata after).orEmpty.members =
      .ok (before.map Entry.member ++ (.str "__metadata", metadata) :: after.map Entry.member) := by
    have htruthy : (document before metadata after).isTruthy = true := by
      simp [document, Yaml.isTruthy]
    rw [Yaml.orEmpty, if_pos htruthy]
    rfl
  have hadd : (fun versions entry => addEntry versions (Entry.member entry)) = Entry.addTo :=
    funext fun versions => funext fun entry => addEntry_member versions entry
  refine bind_of_eq_ok hmembers (congrArg Except.ok ?_)
  -- the metadata stand between entries and add nothing
  rw [List.foldl_append, List.foldl_cons, addEntry_metadata, List.foldl_map, List.foldl_map, hadd,
    List.foldl_append]

/-! ## The first entry of a package -/

/-- Adding entries one after the other finds the first of each package. -/
theorem get?_foldl_addTo (entries : List Entry) (versions : Entries String String)
    (package : String) :
    Entries.get? package (entries.foldl Entry.addTo versions) =
      (versions.get? package).or (firstVersion? entries package) := by
  induction entries generalizing versions with
  | nil => exact (Option.or_none ..).symm
  | cons entry entries ih =>
      rw [List.foldl_cons, ih, Entry.addTo, keepVersion, Entries.get?_keepAll, Entries.get?_map_key,
        Option.or_assoc]
      congr 1
      unfold firstVersion?
      -- the entry gives its version if it names the package, and else the later ones are asked
      by_cases hpackage : package ∈ entry.packages
      · simp [hpackage]
      · simp [hpackage]

theorem nodup_keys_foldl_addTo (entries : List Entry) {versions : Entries String String}
    (hversions : versions.keys.Nodup) :
    (Entries.keys (entries.foldl Entry.addTo versions)).Nodup := by
  induction entries generalizing versions with
  | nil => exact hversions
  | cons entry entries ih => exact ih (Entries.nodup_keys_keepAll hversions _)

/-- **Both formats of a yarn lockfile say the same.**  The classic text of some entries and the
document of the newer format give the same table: each package with the version of the first entry
that has a descriptor of it, and no package twice. -/
theorem formats_agree {opening : List (List Char)} {before after : List Entry} {metadata : Yaml}
    {readers otherReaders : Readers} {path otherPath : Path} {content : String}
    (hopening : ∀ line ∈ opening, IsLine line ∧ isSilent line = true)
    (hclassic : isMapped (classicText opening (before ++ after)) = false)
    (hmapped : isMapped content = true)
    (hdocument : readers.yaml content = .ok (document before metadata after)) :
    ∃ versions : Entries String String,
      yarnPackages otherReaders otherPath (classicText opening (before ++ after)) =
        .ok (namedPackages versions) ∧
      yarnPackages readers path content = .ok (namedPackages versions) ∧
      versions.keys.Nodup ∧
      ∀ package, versions.get? package = firstVersion? (before ++ after) package := by
  refine ⟨(before ++ after).foldl Entry.addTo [], ?_, ?_, ?_, ?_⟩
  · unfold yarnPackages
    rw [hclassic, classicVersions_classicText hopening]
    rfl
  · have hyaml : yamlDocument readers path content = .ok (document before metadata after) := by
      unfold yamlDocument
      rw [hdocument]
    unfold yarnPackages
    rw [hmapped]
    exact bind_of_eq_ok hyaml (bind_of_eq_ok (mappedVersions_document before metadata after) rfl)
  · exact nodup_keys_foldl_addTo _ List.nodup_nil
  · intro package
    exact get?_foldl_addTo (before ++ after) [] package

/-- `a@1 `, with a blank behind the range. -/
def plainDescriptor : Descriptor where
  name := ['a']
  range := ['1', ' ']
  quoted := false
  name_ne_nil := by decide
  at_not_mem := by decide
  name_plain := rfl
  range_plain := rfl

/-- `"@s@n:@2"`, a scoped name with a range that has another `@`. -/
def scopedDescriptor : Descriptor where
  name := ['@', 's']
  range := ['n', ':', '@', '2']
  quoted := true
  name_ne_nil := by decide
  at_not_mem := by decide
  name_plain := rfl
  range_plain := rfl

/-- Both descriptors, with lines behind the version that look like a header and like a version. -/
def sharedEntry : Entry where
  descriptors := [plainDescriptor, scopedDescriptor]
  version := ['1']
  more := [[' ', 'd', ':'], [], ['#', ':'], "  version \"9\"".toList]
  members := [(.str "version", .scalar (.str "1"))]
  descriptors_ne_nil := List.cons_ne_nil _ _
  version_ne_nil := List.cons_ne_nil _ _
  version_plain := rfl
  more_plain := rfl
  members_version := ⟨.scalar (.str "1"), rfl, rfl⟩

/-- Another version of the first package. -/
def laterEntry : Entry where
  descriptors := [plainDescriptor]
  version := ['2']
  more := []
  members := [(.str "version", .scalar (.str "2"))]
  descriptors_ne_nil := List.cons_ne_nil _ _
  version_ne_nil := List.cons_ne_nil _ _
  version_plain := rfl
  more_plain := rfl
  members_version := ⟨.scalar (.str "2"), rfl, rfl⟩

/-- Reads every text as the document of both entries, with a version in its metadata. -/
def sharedReaders : Readers where
  tree _ _ := default
  yaml _ := .ok (document [sharedEntry]
    (.mapping [(.str "version", .scalar (.str "6"))]) [laterEntry])
  toml _ := .error .malformed
  brackets := 0
  tooDeep _ := false

theorem formats_agree_sharedEntry : ∃ versions : Entries String String,
    yarnPackages default default (classicText [['#', 'v'], []] [sharedEntry, laterEntry]) =
      .ok (namedPackages versions) ∧
    yarnPackages sharedReaders default "__metadata:" = .ok (namedPackages versions) ∧
    versions.get? "a" = some "1" ∧ versions.get? "@s" = some "1" ∧ versions.get? "s" = none := by
  have hopening : ∀ line ∈ [['#', 'v'], []], IsLine line ∧ isSilent line = true :=
    List.forall_mem_cons.mpr ⟨⟨rfl, rfl⟩, List.forall_mem_singleton.mpr ⟨rfl, rfl⟩⟩
  obtain ⟨versions, hclassic, hmapped, -, hfirst⟩ :=
    @formats_agree [['#', 'v'], []] [sharedEntry] [laterEntry]
      (.mapping [(.str "version", .scalar (.str "6"))]) sharedReaders default default default
      "__metadata:" hopening (by cbv) (by decide) rfl
  refine ⟨versions, hclassic, hmapped, ?_, ?_, ?_⟩
  · rw [hfirst]
    rfl
  · rw [hfirst]
    rfl
  · rw [hfirst]
    rfl

end ComponentCensus.Lockfile.Yarn
