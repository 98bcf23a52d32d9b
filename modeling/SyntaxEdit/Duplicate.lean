import SyntaxEdit.Locate
import SyntaxEdit.Edit.Basic
import SyntaxEdit.Text.Line

namespace SyntaxEdit.Duplicate

open SyntaxEdit.Syntax

variable (t : SyntaxTree)

def repeatableOperators : List String :=
  ["+", "-", "*", "/", "%", "&", "|", "^", "<<", ">>", ">>>", "&&", "||"]

def spaceUnlessIndented (i : Nat) : String := if (t.leadingWhitespace i).isEmpty then " " else ""

def parenthesizeArrowParameter (i p : Nat) : Option (List TextEdit) :=
  let n := t.get i
  let pn := t.get p
  if !t.isParameter i || pn.kind != .arrowFunction then none
  else if (t.childrenWith p .parameter).length != 1 then none
  else
    let arrowAt := max (((t.child? p .body).map fun b => (t.get b).fullStart).getD pn.stop) n.stop
    let between := (Text.slice? t.source n.stop arrowAt).getD ""
    if (between.toList.dropWhile Text.isBlank).head? == some ')' then none
    else some [TextEdit.insert n.start ("(" ++ t.text i ++ ", ") "parenthesize parameter",
               TextEdit.insert n.stop ")" "parenthesize parameter"]

def isListElement (i p : Nat) : Bool :=
  let n := t.get i
  t.isParameter i || (t.get p).kind == .arrayLiteral ||
    (n.kind.isExpression && n.role == .argument) || n.kind == .propertyAssignment ||
    (n.kind == .variableDeclaration && (t.childrenWith p .declarator).length > 1)

def duplicateOperand (operand : Nat) (op : String) : TextEdit :=
  TextEdit.insert (t.get operand).fullStart
    (t.fullText operand ++ " " ++ op ++ spaceUnlessIndented t operand) "duplicate operand"

/-- What separates a copied statement from the statement it copies: `; ` on a line shared with
a sibling statement, otherwise a line break and the line's indentation. -/
def statementDelimiter (i p : Nat) : String :=
  let n := t.get i
  let shared :=
    if (t.get p).kind.isBlockLike then
      let sibs := t.childrenWith p .statement
      match sibs.idxOf? i with
      | some k =>
        let prevInline := match k with
          | 0 => false
          | k + 1 => (sibs[k]?.bind fun q => Text.sameLine t.source (t.get q).stop n.start) == some true
        let nextInline :=
          (sibs[k + 1]?.bind fun q => Text.sameLine t.source n.stop (t.get q).start) == some true
        prevInline || nextInline
      | none => false
    else false
  if shared then (if (t.text i).endsWith ";" then " " else "; ")
  else "\n" ++ (Text.lineIndent t.source n.start).getD ""

def createEditsAux : Nat → Nat → List TextEdit
  | 0, _ => []
  | fuel + 1, i =>
    let n := t.get i
    match n.parent with
    | none => []
    | some p =>
      let pn := t.get p
      match parenthesizeArrowParameter t i p with
      | some es => es
      | none =>
      if isListElement t i p then
        [TextEdit.insert n.fullStart (t.fullText i ++ "," ++ spaceUnlessIndented t i)
          "duplicate list element"]
      else
      let opEdit : Option TextEdit :=
        if pn.kind == .binaryExpression then do
          let op ← t.child? p .operator
          let opText := t.text op
          if !repeatableOperators.contains opText then none
          let operand ← if n.role == .left || n.role == .right then some i else t.child? p .right
          pure (duplicateOperand t operand opText)
        else none
      match opEdit with
      | some e => [e]
      | none =>
      if pn.kind == .propertyAccess && n.role == .property then
        let callText := match pn.parent with
          | some c =>
            if (t.get c).kind == .callExpression && pn.role == .callee then
              "(" ++ ",".intercalate ((t.childrenWith c .argument).map t.fullText) ++ ")"
            else ""
          | none => ""
        [TextEdit.insert n.start (t.text i ++ callText ++ ".") "extend property chain"]
      else if pn.kind == .ifStatement then
        if n.role == .condition then
          [TextEdit.insert n.start (t.text i ++ " && ") "extend condition"]
        else if n.role == .else_ then
          [TextEdit.insert n.start ("if () " ++ t.text i ++ " else ") "add else-if arm"]
        else createEditsAux fuel p
      else if n.kind == .ifStatement then
        let cond := ((t.child? i .condition).map t.text).getD ""
        let th := ((t.child? i .then_).map t.text).getD ""
        [TextEdit.insert n.start ("if (" ++ cond ++ ") " ++ th ++ " else ") "chain conditional"]
      else if n.kind == .block && pn.kind != .block then createEditsAux fuel p
      else if n.kind.isStatement && t.inStatementPosition i then
        [TextEdit.insert n.start (t.text i ++ statementDelimiter t i p) "duplicate statement"]
      else createEditsAux fuel p

def createEdits (i : Nat) : List TextEdit := createEditsAux t (t.nodes.size + 1) i

def duplicateEdits (s e : Nat) : List TextEdit :=
  dedupEdits ((Locate.matchingNodes t s e).flatMap (createEdits t))

end SyntaxEdit.Duplicate
