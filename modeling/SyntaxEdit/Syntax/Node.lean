
namespace SyntaxEdit.Syntax

inductive NodeKind where
  | sourceFile | block | switchCase | expressionStatement | variableStatement
  | variableDeclaration | ifStatement | whileStatement | doStatement | forStatement
  | forInStatement | returnStatement | functionDeclaration | exportStatement | otherStatement
  | arrowFunction | functionExpression | method | parameter | callExpression | newExpression
  | propertyAccess | elementAccess | binaryExpression | arrayLiteral | objectLiteral
  | propertyAssignment | identifier | literal | otherExpression | operator | other
  deriving DecidableEq, Repr, Inhabited

inductive Role where
  | root | statement | parameter | argument | element | declarator | declaration
  | initializer | increment | callee | object | property | index | left | operator | right
  | condition | then_ | else_ | body | key | value | name | operand | other
  deriving DecidableEq, Repr, Inhabited

namespace NodeKind

def ofRaw : String → NodeKind
  | "program" | "document" => .sourceFile
  | "statement_block" => .block
  | "switch_case" | "switch_default" => .switchCase
  | "expression_statement" => .expressionStatement
  | "lexical_declaration" | "variable_declaration" => .variableStatement
  | "variable_declarator" => .variableDeclaration
  | "if_statement" => .ifStatement
  | "while_statement" => .whileStatement
  | "do_statement" => .doStatement
  | "for_statement" => .forStatement
  | "for_in_statement" => .forInStatement
  | "return_statement" => .returnStatement
  | "export_statement" => .exportStatement
  | "function_declaration" | "generator_function_declaration" => .functionDeclaration
  | "arrow_function" => .arrowFunction
  | "function_expression" | "function" | "generator_function" => .functionExpression
  | "method_definition" => .method
  | "required_parameter" | "optional_parameter" => .parameter
  | "call_expression" => .callExpression
  | "new_expression" => .newExpression
  | "member_expression" => .propertyAccess
  | "subscript_expression" => .elementAccess
  | "binary_expression" => .binaryExpression
  | "array" => .arrayLiteral
  | "object" => .objectLiteral
  | "pair" => .propertyAssignment
  | "identifier" | "property_identifier" | "shorthand_property_identifier"
  | "private_property_identifier" | "this" | "super" => .identifier
  | "number" | "string" | "template_string" | "regex" => .literal
  | "assignment_expression" | "augmented_assignment_expression" | "unary_expression"
  | "update_expression" | "ternary_expression" | "parenthesized_expression"
  | "sequence_expression" | "await_expression" | "yield_expression" | "as_expression"
  | "satisfies_expression" | "non_null_expression" | "type_assertion" | "spread_element"
  | "class" | "jsx_element" | "jsx_self_closing_element" | "true" | "false" | "null"
  | "undefined" => .otherExpression
  | "empty_statement" | "class_declaration" | "abstract_class_declaration"
  | "interface_declaration" | "type_alias_declaration" | "enum_declaration" | "module"
  | "internal_module" | "ambient_declaration" => .otherStatement
  | raw => if raw.endsWith "_statement" then .otherStatement else .other

def isStatement : NodeKind → Bool
  | .block | .expressionStatement | .variableStatement | .ifStatement | .whileStatement
  | .doStatement | .forStatement | .forInStatement | .returnStatement | .functionDeclaration
  | .exportStatement | .otherStatement => true
  | _ => false

def isExpression : NodeKind → Bool
  | .arrowFunction | .functionExpression | .callExpression | .newExpression | .propertyAccess
  | .elementAccess | .binaryExpression | .arrayLiteral | .objectLiteral | .identifier
  | .literal | .otherExpression => true
  | _ => false

def isBlockLike : NodeKind → Bool
  | .sourceFile | .block | .switchCase => true
  | _ => false

def isFunctionLike : NodeKind → Bool
  | .functionDeclaration | .functionExpression | .arrowFunction | .method => true
  | _ => false

def name : NodeKind → String
  | .sourceFile => "SourceFile" | .block => "Block" | .switchCase => "SwitchCase"
  | .expressionStatement => "ExpressionStatement" | .variableStatement => "VariableStatement"
  | .variableDeclaration => "VariableDeclaration" | .ifStatement => "IfStatement"
  | .whileStatement => "WhileStatement" | .doStatement => "DoStatement"
  | .forStatement => "ForStatement" | .forInStatement => "ForInStatement"
  | .returnStatement => "ReturnStatement" | .functionDeclaration => "FunctionDeclaration"
  | .exportStatement => "ExportStatement" | .otherStatement => "OtherStatement"
  | .arrowFunction => "ArrowFunction" | .functionExpression => "FunctionExpression"
  | .method => "Method" | .parameter => "Parameter" | .callExpression => "CallExpression"
  | .newExpression => "NewExpression" | .propertyAccess => "PropertyAccess"
  | .elementAccess => "ElementAccess" | .binaryExpression => "BinaryExpression"
  | .arrayLiteral => "ArrayLiteral" | .objectLiteral => "ObjectLiteral"
  | .propertyAssignment => "PropertyAssignment" | .identifier => "Identifier"
  | .literal => "Literal" | .otherExpression => "OtherExpression" | .operator => "Operator"
  | .other => "Other"

end NodeKind

def Role.label : Role → String
  | .root => "Root" | .statement => "Statement" | .parameter => "Parameter"
  | .argument => "Argument" | .element => "Element" | .declarator => "Declarator"
  | .declaration => "Declaration" | .initializer => "Initializer" | .increment => "Increment"
  | .callee => "Callee" | .object => "Object" | .property => "Property" | .index => "Index"
  | .left => "Left" | .operator => "Operator" | .right => "Right" | .condition => "Condition"
  | .then_ => "Then" | .else_ => "Else" | .body => "Body" | .key => "Key" | .value => "Value"
  | .name => "Name" | .operand => "Operand" | .other => "Other"

end SyntaxEdit.Syntax
