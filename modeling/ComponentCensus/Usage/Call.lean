import ComponentCensus.Syntax.Site
import ComponentCensus.Usage.Census

/-!
# Calls

A call may load a module when it is needed, wrap a component, or use one of the library functions
that memoize components, forward references or open portals.  The loading call inside a lazy
component belongs to the lazy component and is not noted again.
-/

namespace ComponentCensus.Usage

open ComponentCensus.Syntax

/-- The loading call inside a lazy component, with the module it loads. -/
def lazyImport? (call : Node) : Option (Node × String) :=
  if call.calleeName? = some "lazy" then
    match call.arguments with
    | [] => none
    | loader :: _ =>
      if loader.kind.isFunction then
        match loader.field? .body with
        | none => none
        | some body =>
          if body.isImportCall then
            match body.arguments with
            | [] => none
            | source :: _ => source.stringValue?.map fun module => (body, module)
          else
            none
      else
        none
  else
    none

/-- The module that a loading call names. -/
def importedModule? (call : Node) : Option String :=
  if call.isImportCall then
    match call.arguments with
    | [] => none
    | source :: _ => source.stringValue?
  else
    none

namespace Census

/-- Notes a lazy component that loads a module; the variable that holds it becomes a component. -/
def noteLazy (census : Census) (site : Site) (module : String) : Census :=
  let census := census.record fun f =>
    { f with lazyImports := f.lazyImports ++ [⟨module, site.node.line⟩] }
  match site.container? with
  | some container =>
    if container.kind = .variableDeclarator then
      match (container.child? .name).bind Node.identifierName? with
      | some name => census.addComponent name
      | none => census
    else
      census
  | none => census

/-- Notes a call that loads a module. -/
def noteDynamicImport (census : Census) (call : Node) : Census :=
  match importedModule? call with
  | some module =>
    census.record fun f => { f with dynamicImports := f.dynamicImports ++ [⟨module, call.line⟩] }
  | none => census

/-- Notes the first component that a plain function is called with. -/
def noteWrapping (census : Census) (call : Node) : Census :=
  match call.field? .function with
  | some function =>
    if function.kind = .identifier then
      match (call.arguments.filterMap Node.identifierName?).find? census.hasComponent with
      | some component =>
        census.record fun f =>
          { f with wrappings := f.wrappings ++ [⟨function.text, component, call.line⟩] }
      | none => census
    else
      census
  | none => census

/-- Notes a call of a library function that is known by its last name. -/
def noteLibraryCall (census : Census) (call : Node) : Census :=
  match call.calleeName? with
  | some "memo" =>
    match call.arguments.head?.bind Node.identifierName? with
    | some component =>
      if census.hasComponent component then
        census.record fun f => { f with memos := f.memos ++ [⟨component, call.line⟩] }
      else
        census
    | none => census
  | some "forwardRef" =>
    census.record fun f => { f with forwardedRefs := f.forwardedRefs ++ [call.line] }
  | some "createPortal" =>
    census.record fun f => { f with portals := f.portals ++ [call.line] }
  | _ => census

/-- Makes the property of a namespace a component. -/
def noteMember (census : Census) (member : Node) : Census :=
  match Node.memberParts? member.children with
  | none => census
  | some (place, property) =>
    match (member.children[place]?).bind Node.identifierName? with
    | some space =>
      if census.hasNamespace space && property.kind ≠ .privatePropertyIdentifier then
        census.addComponent property.text
      else
        census
    | none => census

end Census

end ComponentCensus.Usage
