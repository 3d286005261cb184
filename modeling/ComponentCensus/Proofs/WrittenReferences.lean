import ComponentCensus.Proofs.Cuts
import ComponentCensus.Proofs.ImportedNames
import ComponentCensus.Proofs.Readings
import ComponentCensus.Report.LibraryFilter

/-!
# References as they are written and read back

A reference is written into the ledger as one text: dots join a member chain, and bars stand
between the branches of a conditional.  The narrowing of a report reads root names back from that
text, without the tree.  `Mentions` says on the tree what there is to read: the identifiers at the
roots of the chains, from left to right.

## Strategy

* Reading takes a text apart where writing put it together, whatever the two halves are
  (`Report.rootNames_append_bar`), so nested conditionals of any shape flatten in the same way.
* A chain comes back as its root alone (`Report.rootNames_of_rootedText`).  Its names have neither
  dots nor bars nor blanks (`PlainName`), so that the first dot is the one behind the root.
* From this the names that are read are those that the tree mentions
  (`Mentions.exists_assignmentText?`), and the test on the tree agrees with the test on the text.
-/

namespace ComponentCensus

open ComponentCensus.Syntax ComponentCensus.Text

/-! ## Texts with a root -/

namespace Usage

/-- A character that is neither a dot, nor a bar, nor a blank. -/
def isPlainChar (c : Char) : Bool :=
  c ≠ '.' && c ≠ '|' && !isBlank c

/-- A name that has characters, all of them plain. -/
structure PlainName (s : String) : Prop where
  ne_empty : s ≠ ""
  plain : s.toList.all isPlainChar = true

/-- A text that is written for a member chain: it starts with its root, and has neither bars nor
blanks. -/
structure RootedText (root text : String) : Prop where
  ne_empty : text ≠ ""
  root_eq : beforeFirst '.' text = root
  solid : ∀ c ∈ text.toList, c ≠ '|' ∧ isBlank c = false

theorem PlainName.mem {s : String} (hname : PlainName s) {c : Char} (hc : c ∈ s.toList) :
    c ≠ '.' ∧ c ≠ '|' ∧ isBlank c = false := by
  have hplain := List.all_eq_true.mp hname.plain c hc
  simpa [isPlainChar, and_assoc] using hplain

theorem PlainName.not_hasChar {s : String} (hname : PlainName s) : ¬ hasChar '.' s = true := by
  intro hdot
  exact (hname.mem (List.contains_iff_mem.mp hdot)).1 rfl

theorem PlainName.rootedText {s : String} (hname : PlainName s) : RootedText s s where
  ne_empty := hname.ne_empty
  root_eq := beforeFirst_of_not_hasChar hname.not_hasChar
  solid := fun _ hc => (hname.mem hc).2

/-- A property behind a dot leaves the root alone. -/
theorem RootedText.append {root text property : String} (htext : RootedText root text)
    (hproperty : PlainName property) : RootedText root (text ++ "." ++ property) := by
  have hlist : (text ++ "." ++ property).toList = text.toList ++ '.' :: property.toList := by simp
  refine ⟨?_, ?_, ?_⟩
  · simp [htext.ne_empty]
  · -- the part before the first dot does not reach the dot that is added
    have hbefore : beforeFirst '.' (text ++ "." ++ property) = beforeFirst '.' text := by
      rw [beforeFirst, beforeFirst, hlist, List.takeWhile_append]
      split
      · next hlength =>
        rw [(List.takeWhile_prefix _).eq_of_length hlength]
        simp
      · rfl
    rw [hbefore, htext.root_eq]
  · intro c hc
    rw [hlist, List.mem_append, List.mem_cons] at hc
    rcases hc with hold | rfl | hnew
    · exact htext.solid c hold
    · exact ⟨by decide, by decide⟩
    · exact (hproperty.mem hnew).2

end Usage

/-! ## Reading root names back -/

namespace Report

open Usage

/-- The pieces between bars without the blanks around them, of a text with a bar between two. -/
theorem map_trimBoth_splitOn_bar (cs ds : List Char) :
    (splitOn '|' (cs ++ ' ' :: '|' :: ' ' :: ds)).map (trimBoth isBlank) =
      (splitOn '|' cs).map (trimBoth isBlank) ++ (splitOn '|' ds).map (trimBoth isBlank) := by
  have hblank : isBlank ' ' = true := by decide
  have hspace : ' ' ≠ '|' := by decide
  calc (splitOn '|' (cs ++ ' ' :: '|' :: ' ' :: ds)).map (trimBoth isBlank)
      = (splitOn '|' ((cs ++ [' ']) ++ '|' :: ' ' :: ds)).map (trimBoth isBlank) := by simp
    _ = (splitOn '|' (cs ++ [' '])).map (trimBoth isBlank) ++
          (splitOn '|' (' ' :: ds)).map (trimBoth isBlank) := by
        rw [splitOn_append_cons, List.map_append]
    _ = (splitOn '|' cs).map (trimBoth isBlank) ++ (splitOn '|' ds).map (trimBoth isBlank) := by
        rw [map_splitOn_concat (trimBoth_concat hblank) hspace,
          map_splitOn_cons (trimBoth_cons hblank) hspace]

theorem rootNames_eq (reference : String) :
    rootNames reference =
      ((((splitOn '|' reference.toList).map (trimBoth isBlank)).map String.ofList).filter
        (· ≠ "")).map (beforeFirst '.') := by
  simp [rootNames, pieces, strip, Function.comp_def]

/-- What a bar joins is read back on its own. -/
theorem rootNames_append_bar (s t : String) :
    rootNames (s ++ " | " ++ t) = rootNames s ++ rootNames t := by
  have hlist : (s ++ " | " ++ t).toList = s.toList ++ ' ' :: '|' :: ' ' :: t.toList := by simp
  rw [rootNames_eq, hlist, map_trimBoth_splitOn_bar, List.map_append, List.filter_append,
    List.map_append, ← rootNames_eq, ← rootNames_eq]

/-- A chain is read back as its root. -/
theorem rootNames_of_rootedText {root text : String} (htext : RootedText root text) :
    rootNames text = [root] := by
  have hbar : '|' ∉ text.toList := fun hmem => (htext.solid '|' hmem).1 rfl
  have htrim : trimBoth isBlank text.toList = text.toList :=
    trimBoth_of_forall fun c hc => (htext.solid c hc).2
  rw [rootNames_eq, splitOn_of_not_mem hbar, List.map_singleton, htrim, List.map_singleton,
    String.ofList_toList, List.filter_cons_of_pos (by simpa using htext.ne_empty), List.filter_nil,
    List.map_singleton, htext.root_eq]

end Report

/-! ## References on the tree -/

namespace Usage

variable {node : Node} {root : String} {roots : List String} {census : Census}

/-- `MemberChain node root` says that a node is a chain of members over the identifier `root`, with
wrappers anywhere around its links. -/
inductive MemberChain : Node → String → Prop
  | identifier {node : Node} (hkind : node.kind = .identifier) (hname : PlainName node.text) :
      MemberChain node node.text
  | wrapped {node inner : Node} {root : String} (hwrapper : node.kind.isWrapper = true)
      (hinner : wrappedContent? node = some inner) (hchain : MemberChain inner root) :
      MemberChain node root
  | member {node object property : Node} {root : String} (hkind : node.kind = .memberExpression)
      (hpair : memberPair? node = some (object, property))
      (hpublic : property.kind ≠ .privatePropertyIdentifier) (hname : PlainName property.text)
      (hchain : MemberChain object root) : MemberChain node root

/-- `Mentions node roots` says that an expression is built of member chains, conditionals and
wrappers, and that its chains have these roots from left to right. -/
inductive Mentions : Node → List String → Prop
  | chain {node : Node} {root : String} (hchain : MemberChain node root) : Mentions node [root]
  | wrapped {node inner : Node} {roots : List String} (hwrapper : node.kind.isWrapper = true)
      (hinner : wrappedContent? node = some inner) (hmentions : Mentions inner roots) :
      Mentions node roots
  | choice {node consequence alternative : Node} {roots others : List String}
      (hkind : node.kind = .ternaryExpression)
      (hconsequence : node.child? .consequence = some consequence)
      (halternative : node.child? .alternative = some alternative)
      (hroots : Mentions consequence roots) (hothers : Mentions alternative others) :
      Mentions node (roots ++ others)

/-! ## Member chains -/

theorem dottedName?_of_member {object property : Node} {head : String}
    (hkind : node.kind = .memberExpression) (hpair : memberPair? node = some (object, property))
    (hpublic : property.kind ≠ .privatePropertyIdentifier) (hhead : object.dottedName? = some head) :
    node.dottedName? = some (head ++ "." ++ property.text) := by
  rw [dottedName?_eq, hkind, hpair]
  show joined? object property = _
  rw [joined?, hhead, Option.bind_some, if_neg hpublic]

/-- A chain has a dotted path that starts with its root. -/
theorem MemberChain.exists_dottedName? (hchain : MemberChain node root) :
    ∃ text, node.dottedName? = some text ∧ RootedText root text := by
  induction hchain with
  | @identifier node hkind hname =>
      refine ⟨node.text, ?_, hname.rootedText⟩
      rw [dottedName?_eq, hkind]
      rfl
  | wrapped hwrapper hinner _ ih =>
      obtain ⟨text, htext, hrooted⟩ := ih
      refine ⟨text, ?_, hrooted⟩
      rw [dottedName?_eq, if_pos hwrapper, hinner]
      exact htext
  | @member node object property root hkind hpair hpublic hname _ ih =>
      obtain ⟨text, htext, hrooted⟩ := ih
      exact ⟨_, dottedName?_of_member hkind hpair hpublic htext, hrooted.append hname⟩

/-- A chain is written as its dotted path. -/
theorem MemberChain.assignmentText?_eq (hchain : MemberChain node root) :
    assignmentText? node = node.dottedName? := by
  induction hchain with
  | identifier hkind hname =>
      rw [Usage.assignmentText?_eq, dottedName?_eq, hkind]
      rfl
  | wrapped hwrapper hinner _ ih =>
      rw [Usage.assignmentText?_eq, dottedName?_eq, if_pos hwrapper, if_pos hwrapper, hinner]
      exact ih
  | member hkind =>
      rw [Usage.assignmentText?_eq, hkind]
      rfl

/-- A chain is known when its root is, as long as no component has a dotted name. -/
theorem MemberChain.isKnownReference_eq (hchain : MemberChain node root)
    (hplain : ∀ name ∈ census.components, hasChar '.' name = false) :
    isKnownReference census node = census.knows root := by
  induction hchain with
  | identifier hkind hname =>
      rw [Usage.isKnownReference_eq, hkind]
      rfl
  | wrapped hwrapper hinner _ ih =>
      rw [Usage.isKnownReference_eq, if_pos hwrapper, hinner]
      exact ih
  | @member node object property root hkind hpair hpublic hname hobject ih =>
      obtain ⟨head, hhead, hrooted⟩ := hobject.exists_dottedName?
      have hdotted := dottedName?_of_member hkind hpair hpublic hhead
      -- a dotted path is no component itself, so that only its root is left to be known
      have hunknown : census.hasComponent (head ++ "." ++ property.text) = false := by
        rw [Bool.eq_false_iff, ne_eq, Census.hasComponent_iff]
        intro hmem
        have hdot := hplain _ hmem
        simp [hasChar] at hdot
      rw [Usage.isKnownReference_eq, hkind, hdotted]
      show (census.hasComponent _ || census.knows _) = _
      rw [hunknown, Bool.false_or, (hrooted.append hname).root_eq]

/-! ## References -/

/-- What a reference mentions is read back from the text that is written for it. -/
theorem Mentions.exists_assignmentText? (hmentions : Mentions node roots) :
    ∃ text, assignmentText? node = some text ∧ Report.rootNames text = roots := by
  induction hmentions with
  | chain hchain =>
      obtain ⟨text, htext, hrooted⟩ := hchain.exists_dottedName?
      exact ⟨text, hchain.assignmentText?_eq.trans htext, Report.rootNames_of_rootedText hrooted⟩
  | wrapped hwrapper hinner _ ih =>
      obtain ⟨text, htext, hnames⟩ := ih
      refine ⟨text, ?_, hnames⟩
      rw [assignmentText?_eq, if_pos hwrapper, hinner]
      exact htext
  | choice hkind hconsequence halternative _ _ ihroots ihothers =>
      obtain ⟨text, htext, hnames⟩ := ihroots
      obtain ⟨other, hother, hothers⟩ := ihothers
      -- both branches are references, so neither is written as it stands in the source
      refine ⟨text ++ " | " ++ other, ?_, ?_⟩
      · rw [assignmentText?_eq, hkind, hconsequence, halternative]
        show some (textOfBranch _ ++ " | " ++ textOfBranch _) = _
        rw [textOfBranch, textOfBranch, htext, hother]
        rfl
      · rw [Report.rootNames_append_bar, hnames, hothers]

/-- A reference is known when one of the names that it mentions is. -/
theorem Mentions.isKnownReference_eq (hmentions : Mentions node roots)
    (hplain : ∀ name ∈ census.components, hasChar '.' name = false) :
    isKnownReference census node = roots.any census.knows := by
  induction hmentions with
  | chain hchain =>
      rw [hchain.isKnownReference_eq hplain]
      simp
  | wrapped hwrapper hinner _ ih =>
      rw [Usage.isKnownReference_eq, if_pos hwrapper, hinner]
      exact ih
  | choice hkind hconsequence halternative _ _ ihroots ihothers =>
      rw [Usage.isKnownReference_eq, hkind, hconsequence, halternative, List.any_append, ← ihroots,
        ← ihothers]
      rfl

/-- **References read back.**  For every expression built of member chains, conditionals and
wrappers, the names read from the text that is written for it are the identifiers at the roots of
its chains from left to right; and while no component has a dotted name, the expression refers to
something known exactly if one of the names read is a component or a namespace. -/
theorem rootNames_of_mentions (hmentions : Mentions node roots) :
    ∃ text, assignmentText? node = some text ∧ Report.rootNames text = roots ∧
      ∀ census : Census, (∀ name ∈ census.components, hasChar '.' name = false) →
        (isKnownReference census node = true ↔
          ∃ name ∈ Report.rootNames text,
            name ∈ census.components ∨ name ∈ census.namespaces) := by
  obtain ⟨text, htext, hnames⟩ := hmentions.exists_assignmentText?
  refine ⟨text, htext, hnames, ?_⟩
  intro census hplain
  rw [hmentions.isKnownReference_eq hplain, hnames, List.any_eq_true]
  simp only [Census.knows, Bool.or_eq_true, Census.hasComponent_iff, Census.hasNamespace_iff]

/-- `(c ? (<T>A).B : d ? C : D.E)`. -/
def nestedChoice : Node :=
  namedNode 0 1 .parenthesizedExpression "(c ? (<T>A).B : d ? C : D.E)" []
    [namedNode 1 1 .ternaryExpression "c ? (<T>A).B : d ? C : D.E" []
      [namedNode 2 1 .identifier "c" [] [],
       namedNode 3 1 .memberExpression "(<T>A).B" [.consequence]
        [namedNode 4 1 .parenthesizedExpression "(<T>A)" [.object]
          [namedNode 5 1 .typeAssertion "<T>A" []
            [namedNode 6 1 .typeIdentifier "T" [] [], namedNode 7 1 .identifier "A" [] []]],
         namedNode 8 1 .propertyIdentifier "B" [.property] []],
       namedNode 9 1 .ternaryExpression "d ? C : D.E" [.alternative]
        [namedNode 10 1 .identifier "d" [] [],
         namedNode 11 1 .identifier "C" [.consequence] [],
         namedNode 12 1 .memberExpression "D.E" [.alternative]
          [namedNode 13 1 .identifier "D" [.object] [],
           namedNode 14 1 .propertyIdentifier "E" [.property] []]]]]

theorem mentions_nestedChoice : Mentions nestedChoice ["A", "C", "D"] := by
  have hname (s : String) (hs : s ∈ ["A", "B", "C", "D", "E"]) : PlainName s := by
    simp only [List.mem_cons, List.not_mem_nil, or_false] at hs
    rcases hs with rfl | rfl | rfl | rfl | rfl <;> exact ⟨by decide, rfl⟩
  refine .wrapped rfl rfl (.choice rfl rfl rfl (.chain ?_) (.choice rfl rfl rfl (.chain ?_) (.chain ?_)))
  · refine .member rfl rfl (by decide) (hname "B" (by decide)) ?_
    exact .wrapped rfl rfl (.wrapped rfl rfl (.identifier rfl (hname "A" (by decide))))
  · exact .identifier rfl (hname "C" (by decide))
  · refine .member rfl rfl (by decide) (hname "E" (by decide)) ?_
    exact .identifier rfl (hname "D" (by decide))

/-- A conditional inside another one, with wrappers inside a chain. -/
theorem rootNames_of_nestedChoice :
    Mentions nestedChoice ["A", "C", "D"] ∧
      assignmentText? nestedChoice = some "A.B | C | D.E" ∧
      Report.rootNames "A.B | C | D.E" = ["A", "C", "D"] ∧
      isKnownReference { components := ["D"] } nestedChoice = true := by
  obtain ⟨text, htext, hnames, hknown⟩ := rootNames_of_mentions mentions_nestedChoice
  have hwritten : assignmentText? nestedChoice = some "A.B | C | D.E" := by cbv
  obtain rfl : "A.B | C | D.E" = text := Option.some.inj (hwritten.symm.trans htext)
  refine ⟨mentions_nestedChoice, hwritten, hnames, ?_⟩
  refine (hknown { components := ["D"] } (List.forall_mem_singleton.mpr rfl)).mpr ⟨"D", ?_, ?_⟩
  · rw [hnames]
    decide
  · exact Or.inl (List.mem_singleton_self "D")

end Usage

end ComponentCensus
