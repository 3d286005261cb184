import ComponentCensus.Syntax.Site
import ComponentCensus.Usage.Reference

/-!
# Variables

A variable that is bound to a known reference becomes a component itself.  The properties taken out
of a namespace become components, and so do the values taken out of a context.
-/

namespace ComponentCensus.Usage.Census

open ComponentCensus.Syntax

/-- Notes a variable that is bound to a reference. -/
def noteAlias (census : Census) (line : Nat) (variableName : String) (value : Node) : Census :=
  if isKnownReference census value then
    match assignmentText? value with
    | none => census
    | some reference =>
      let census := (census.record fun f =>
        { f with assignments := f.assignments.put variableName ⟨reference, line⟩ }).addComponent
          variableName
      if value.kind = .identifier && census.hasNamespace value.text then
        census.addNamespace variableName
      else
        census
  else
    census

/-- Notes one property taken out of a namespace. -/
def noteProperty (space : String) (line : Nat) (census : Census)
    (binding : String × String) : Census :=
  let (property, localName) := binding
  let census := census.record fun f =>
    { f with
      destructurings := f.destructurings ++
        [⟨property, space, line, if localName = property then none else some localName⟩] }
  (census.addComponent property).addComponent localName

/-- Notes the values taken out of a context. -/
def noteContext (census : Census) (line : Nat) (context : Node)
    (bindings : List (String × String)) : Census :=
  let names := bindings.map (·.2)
  let shown :=
    match context.dottedName? with
    | some "" => context.text
    | some dotted => dotted
    | none => context.text
  (census.record fun f =>
    { f with contexts := f.contexts ++ [⟨shown, names, line⟩] }).addComponents names

/-- Notes what an object pattern takes out of a value. -/
def notePattern (census : Census) (line : Nat) (pattern value : Node) : Census :=
  match value.identifierName?.filter census.hasNamespace with
  | some space => (patternBindings pattern).foldl (noteProperty space line) census
  | none =>
    if value.kind = .callExpression && value.calleeName? = some "useContext" then
      match value.arguments, patternBindings pattern with
      | context :: _, binding :: rest => census.noteContext line context (binding :: rest)
      | _, _ => census
    else
      census

/-- Notes one declarator of a declaration. -/
def noteDeclarator (census : Census) (declarator : Node) : Census :=
  if declarator.kind = .variableDeclarator then
    match declarator.child? .name, declarator.field? .value with
    | some target, some value =>
      match target.kind with
      | .identifier => census.noteAlias declarator.line target.text value
      | .objectPattern => census.notePattern declarator.line target value
      | _ => census
    | _, _ => census
  else
    census

/-- Notes the variables of a declaration. -/
def noteDeclaration (census : Census) (declaration : Node) : Census :=
  declaration.contents.foldl noteDeclarator census

end ComponentCensus.Usage.Census
