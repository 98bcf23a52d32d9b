import SyntaxEdit.Syntax.Tree
import SyntaxEdit.Syntax.Concrete

namespace SyntaxEdit.Syntax

def isTrivia (raw : String) : Bool :=
  ["comment", "html_comment", "hash_bang_line", "string_fragment", "string_content",
   "escape_sequence", "regex_pattern", "regex_flags"].contains raw

def isLeafKind (raw : String) : Bool := raw == "string" || raw == "regex" || raw == "number"

def hoistedRole (parentRaw : String) (field : Option String) (raw : String) : Option Role :=
  match raw with
  | "arguments" => some .argument
  | "formal_parameters" => some .parameter
  | "else_clause" => some .else_
  | "parenthesized_expression" =>
    if field == some "condition" &&
        (parentRaw == "if_statement" || parentRaw == "while_statement" || parentRaw == "do_statement")
    then some .condition else none
  | _ => none

def roleFor (parentKind : NodeKind) (parentRaw : String) (field : Option String)
    (childRaw : String) : Role :=
  match field with
  | some "body" => if parentKind == .switchCase then .statement else .body
  | some "parameter" => .parameter
  | some "declaration" => if parentRaw == "export_statement" then .declaration else .other
  | some "initializer" => if parentKind == .forStatement then .initializer else .other
  | some "increment" => .increment
  | some "function" | some "constructor" => .callee
  | some "object" => .object
  | some "property" => .property
  | some "index" => .index
  | some "left" => .left
  | some "right" => .right
  | some "condition" => .condition
  | some "consequence" => .then_
  | some "key" => .key
  | some "value" => if parentRaw != "switch_case" then .value else .other
  | some "name" | some "pattern" => .name
  | some _ => .other
  | none =>
    match parentKind with
    | .sourceFile | .block => .statement
    | .arrayLiteral => .element
    | .variableStatement => if childRaw == "variable_declarator" then .declarator else .other
    | .returnStatement => .operand
    | _ => .other

def pushNode (acc : Array SyntaxNode) (n : SyntaxNode) : Array SyntaxNode :=
  let id := acc.size
  let acc := match n.parent with
    | some p => acc.modify p fun q => { q with children := q.children.push id }
    | none => acc
  acc.push n

mutual

def lowerNode : Cst → Nat → Role → Nat → Array SyntaxNode → Array SyntaxNode
  | .node k _ _ _ s t kids, parent, role, fs, acc =>
    let id := acc.size
    let kind := NodeKind.ofRaw k
    let acc := pushNode acc ⟨kind, k, role, s, t, min fs s, some parent, #[]⟩
    if isLeafKind k then acc else lowerChildren kids id kind k fs none none acc

/-- Lowers the children of a concrete node whose kind is `raw` into arena node `parent` of kind
`parentKind`. `base` is where a first child's leading trivia start, `override` the role a
wrapper's contents take, and `prevEnd` where the last child that is no extra ended. -/
def lowerChildren : List Cst → Nat → NodeKind → String → Nat → Option Role → Option Nat →
    Array SyntaxNode → Array SyntaxNode
  | [], _, _, _, _, _, _, acc => acc
  | .node k named extra field s t kids :: rest, parent, parentKind, raw, base, override, prevEnd, acc =>
    let fs := prevEnd.getD base
    if extra then lowerChildren rest parent parentKind raw base override prevEnd acc
    else if named then
      let acc :=
        if isTrivia k then acc
        else
          let role := override.getD (roleFor parentKind raw field k)
          match hoistedRole raw field k with
          | some r => lowerChildren kids parent parentKind k fs (some r) none acc
          | none => lowerNode (.node k named extra field s t kids) parent role fs acc
      lowerChildren rest parent parentKind raw base override (some t) acc
    else
      let acc :=
        if field == some "operator" && parentKind == .binaryExpression then
          pushNode acc ⟨.operator, k, .operator, s, t, fs, some parent, #[]⟩
        else acc
      lowerChildren rest parent parentKind raw base override (some t) acc

end

def SyntaxTree.ofConcrete (source : String) (root : Cst) : SyntaxTree :=
  let len := Text.size source
  let acc := #[⟨.sourceFile, root.kind, .root, min root.start len, len, 0, none, #[]⟩]
  ⟨source, lowerChildren root.children 0 .sourceFile root.kind 0 none none acc⟩

end SyntaxEdit.Syntax
