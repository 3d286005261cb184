import ComponentCensus.Syntax.Name
import ComponentCensus.Usage.Census

/-!
# Imports

An import statement binds names.  Default and named imports bind components; a namespace import
binds a namespace, which is no component until one of its members is used.
-/

namespace ComponentCensus.Usage

open ComponentCensus.Syntax

/-- The text of an optional node that is a string, or its source text. -/
def nameOf (node : Node) : String :=
  match node.stringValue? with
  | some "" => node.text
  | some value => value
  | none => node.text

namespace Census

/-- Binds a default import. -/
def bindDefault (census : Census) (source : String) (line : Nat) (name : String) : Census :=
  (census.record fun f =>
    { f with defaultImports := f.defaultImports ++ [⟨name, source, line⟩] }).addComponent name

/-- Binds a namespace import. -/
def bindNamespace (census : Census) (source : String) (line : Nat) (name : String) : Census :=
  (census.record fun f =>
    { f with namespaceImports := f.namespaceImports ++ [⟨name, source, line⟩] }).addNamespace name

/-- Binds a named import under its local name. -/
def bindNamed (census : Census) (source : String) (line : Nat) (imported localName : String) :
    Census :=
  let census := census.record fun f =>
    { f with namedImports := f.namedImports ++ [⟨imported, source, line⟩] }
  let census :=
    if localName = imported then census
    else census.record fun f =>
      { f with
        aliasedImports := f.aliasedImports.put localName ⟨imported, localName, source, line⟩ }
  census.addComponent localName

/-- Binds a specifier between the braces of an import. -/
def bindSpecifier (source : String) (line : Nat) (census : Census) (specifier : Node) : Census :=
  if specifier.kind = .importSpecifier then
    match specifier.child? .name with
    | none => census
    | some imported =>
      let name := nameOf imported
      let localName :=
        match specifier.child? .alias with
        | some aliasNode => aliasNode.text
        | none => name
      census.bindNamed source line name localName
  else
    census

/-- Binds one part of an import clause. -/
def bindPart (source : String) (line : Nat) (census : Census) (part : Node) : Census :=
  match part.kind with
  | .identifier => census.bindDefault source line part.text
  | .namespaceImport =>
    match part.firstContent? with
    | some name => census.bindNamespace source line name.text
    | none => census
  | .namedImports => part.contents.foldl (bindSpecifier source line) census
  | _ => census

/-- Binds one clause of an import statement. -/
def bindClause (source : Option String) (line : Nat) (census : Census) (clause : Node) : Census :=
  match clause.kind, source with
  | .importRequireClause, _ =>
    match clause.firstContent?, (clause.child? .source).bind Node.stringValue? with
    | some name, some required => census.bindDefault required line name.text
    | _, _ => census
  | .importClause, some source => clause.contents.foldl (bindPart source line) census
  | _, _ => census

/-- Binds the names of an import statement. -/
def noteImport (census : Census) (statement : Node) : Census :=
  let source := (statement.child? .source).bind Node.stringValue?
  statement.contents.foldl (bindClause source statement.line) census

end Census

end ComponentCensus.Usage
