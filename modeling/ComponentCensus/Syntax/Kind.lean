/-!
# Kinds of syntax nodes and the fields that hold them

The kinds that take part in the census have a constructor each; all other kinds of the grammar are
known by name only.  A field is the role a node plays for its parent.
-/

namespace ComponentCensus.Syntax

/-- The kind of a syntax node. -/
inductive Kind where
  | program
  | importStatement
  | importClause
  | importRequireClause
  | importSpecifier
  | namespaceImport
  | namedImports
  | identifier
  | propertyIdentifier
  | typeIdentifier
  | privatePropertyIdentifier
  | nestedIdentifier
  | memberExpression
  | subscriptExpression
  | callExpression
  | importKeyword
  | arguments
  | stringLiteral
  | templateString
  | templateSubstitution
  | numberLiteral
  | trueLiteral
  | falseLiteral
  | arrayLiteral
  | objectLiteral
  | pair
  | shorthandPropertyIdentifier
  | computedPropertyName
  | spreadElement
  | ternaryExpression
  | parenthesizedExpression
  | asExpression
  | satisfiesExpression
  | nonNullExpression
  | typeAssertion
  | arrowFunction
  | functionExpression
  | functionKeyword
  | lexicalDeclaration
  | variableDeclaration
  | variableDeclarator
  | objectPattern
  | pairPattern
  | shorthandPropertyIdentifierPattern
  | objectAssignmentPattern
  | assignmentPattern
  | jsxElement
  | jsxFragment
  | jsxOpeningElement
  | jsxSelfClosingElement
  | jsxClosingElement
  | jsxExpression
  | jsxAttribute
  | jsxNamespaceName
  | comment
  | error
  | other (name : String)
deriving DecidableEq, Repr, Inhabited

namespace Kind

/-- The name of a kind in the grammar. -/
def name : Kind → String
  | .program => "program"
  | .importStatement => "import_statement"
  | .importClause => "import_clause"
  | .importRequireClause => "import_require_clause"
  | .importSpecifier => "import_specifier"
  | .namespaceImport => "namespace_import"
  | .namedImports => "named_imports"
  | .identifier => "identifier"
  | .propertyIdentifier => "property_identifier"
  | .typeIdentifier => "type_identifier"
  | .privatePropertyIdentifier => "private_property_identifier"
  | .nestedIdentifier => "nested_identifier"
  | .memberExpression => "member_expression"
  | .subscriptExpression => "subscript_expression"
  | .callExpression => "call_expression"
  | .importKeyword => "import"
  | .arguments => "arguments"
  | .stringLiteral => "string"
  | .templateString => "template_string"
  | .templateSubstitution => "template_substitution"
  | .numberLiteral => "number"
  | .trueLiteral => "true"
  | .falseLiteral => "false"
  | .arrayLiteral => "array"
  | .objectLiteral => "object"
  | .pair => "pair"
  | .shorthandPropertyIdentifier => "shorthand_property_identifier"
  | .computedPropertyName => "computed_property_name"
  | .spreadElement => "spread_element"
  | .ternaryExpression => "ternary_expression"
  | .parenthesizedExpression => "parenthesized_expression"
  | .asExpression => "as_expression"
  | .satisfiesExpression => "satisfies_expression"
  | .nonNullExpression => "non_null_expression"
  | .typeAssertion => "type_assertion"
  | .arrowFunction => "arrow_function"
  | .functionExpression => "function_expression"
  | .functionKeyword => "function"
  | .lexicalDeclaration => "lexical_declaration"
  | .variableDeclaration => "variable_declaration"
  | .variableDeclarator => "variable_declarator"
  | .objectPattern => "object_pattern"
  | .pairPattern => "pair_pattern"
  | .shorthandPropertyIdentifierPattern => "shorthand_property_identifier_pattern"
  | .objectAssignmentPattern => "object_assignment_pattern"
  | .assignmentPattern => "assignment_pattern"
  | .jsxElement => "jsx_element"
  | .jsxFragment => "jsx_fragment"
  | .jsxOpeningElement => "jsx_opening_element"
  | .jsxSelfClosingElement => "jsx_self_closing_element"
  | .jsxClosingElement => "jsx_closing_element"
  | .jsxExpression => "jsx_expression"
  | .jsxAttribute => "jsx_attribute"
  | .jsxNamespaceName => "jsx_namespace_name"
  | .comment => "comment"
  | .error => "ERROR"
  | .other name => name

/-- The kinds with a constructor of their own. -/
def known : List Kind :=
  [.program, .importStatement, .importClause, .importRequireClause, .importSpecifier,
   .namespaceImport, .namedImports, .identifier, .propertyIdentifier, .typeIdentifier,
   .privatePropertyIdentifier, .nestedIdentifier, .memberExpression, .subscriptExpression,
   .callExpression, .importKeyword, .arguments, .stringLiteral, .templateString,
   .templateSubstitution, .numberLiteral, .trueLiteral, .falseLiteral, .arrayLiteral,
   .objectLiteral, .pair, .shorthandPropertyIdentifier, .computedPropertyName, .spreadElement,
   .ternaryExpression, .parenthesizedExpression, .asExpression, .satisfiesExpression,
   .nonNullExpression, .typeAssertion, .arrowFunction, .functionExpression, .functionKeyword,
   .lexicalDeclaration, .variableDeclaration, .variableDeclarator, .objectPattern, .pairPattern,
   .shorthandPropertyIdentifierPattern, .objectAssignmentPattern, .assignmentPattern, .jsxElement,
   .jsxFragment, .jsxOpeningElement, .jsxSelfClosingElement, .jsxClosingElement, .jsxExpression,
   .jsxAttribute, .jsxNamespaceName, .comment, .error]

/-- The kind of a grammar name. -/
def ofName (s : String) : Kind :=
  (known.find? fun kind => kind.name = s).getD (.other s)

/-- Wrappers that do not change which value an expression refers to. -/
def isWrapper : Kind → Bool
  | .parenthesizedExpression | .asExpression | .satisfiesExpression | .nonNullExpression
  | .typeAssertion => true
  | _ => false

/-- Kinds of function values. -/
def isFunction : Kind → Bool
  | .arrowFunction | .functionExpression | .functionKeyword => true
  | _ => false

/-- Kinds that are a name on their own. -/
def isName : Kind → Bool
  | .identifier | .propertyIdentifier | .typeIdentifier | .jsxNamespaceName => true
  | _ => false

/-- Kinds that join an object and a property with a dot. -/
def isMember : Kind → Bool
  | .memberExpression | .nestedIdentifier => true
  | _ => false

end Kind

/-- The role of a node for its parent. -/
inductive Field where
  | name
  | value
  | source
  | alias
  | object
  | property
  | function
  | arguments
  | body
  | consequence
  | alternative
  | index
  | key
  | left
deriving DecidableEq, Repr

namespace Field

/-- The field of a grammar name, if it plays a part in the census. -/
def ofName? : String → Option Field
  | "name" => some .name
  | "value" => some .value
  | "source" => some .source
  | "alias" => some .alias
  | "object" => some .object
  | "property" => some .property
  | "function" => some .function
  | "arguments" => some .arguments
  | "body" => some .body
  | "consequence" => some .consequence
  | "alternative" => some .alternative
  | "index" => some .index
  | "key" => some .key
  | "left" => some .left
  | _ => none

end Field

end ComponentCensus.Syntax
