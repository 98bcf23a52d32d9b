import SyntaxEdit.Locate
import SyntaxEdit.Edit.Basic
import SyntaxEdit.Text.Line
import SyntaxEdit.Caption
import SyntaxEdit.Indent
import SyntaxEdit.Snippet

namespace SyntaxEdit

open SyntaxEdit.Syntax

inductive LogSite where
  /-- Right before the node; `returns` puts `return ` in front of the node's own text. -/
  | before (node : Nat) (returns : Bool)
  | after (node : Nat)
  /-- At the top of a block-like node. -/
  | inside (node : Nat)
  deriving DecidableEq, Repr

namespace LogSite

variable (t : SyntaxTree)

def loopBody (loop : Nat) : Option LogSite := do
  let body ← t.child? loop .body
  pure (if (t.get body).kind.isBlockLike then .inside body else .before body false)

def resolveAux : Nat → Nat → Option LogSite
  | 0, _ => none
  | fuel + 1, i => do
    let n := t.get i
    let p ← n.parent
    let pn := t.get p
    if pn.kind == .arrowFunction && n.role == .body && n.kind.isExpression then
      return .before i true
    let fromParameter : Option LogSite :=
      if t.isParameter i && pn.kind.isFunctionLike then
        (t.child? p .body).map fun b =>
          if (t.get b).kind.isExpression then .before b true else .inside b
      else none
    if let some s := fromParameter then return s
    let fromParent : Option LogSite :=
      match pn.kind with
      | .ifStatement => if n.role == .condition then some (.before p false) else none
      | .whileStatement | .doStatement =>
        (t.child? p .body).map fun b =>
          if (t.get b).kind == .block then .inside b else .before b false
      | .forInStatement =>
        if n.role == .left then loopBody t p
        else if n.role == .right then some (.before p false)
        else none
      | .forStatement => loopBody t p
      | _ => none
    match fromParent with
    | some s => return s
    | none =>
      if pn.kind == .forInStatement && (n.role == .left || n.role == .right) then none
      else if n.kind == .returnStatement then return .before i false
      else if n.kind.isStatement && t.inStatementPosition i then return .after i
      else resolveAux fuel p

def resolve (i : Nat) : Option LogSite := resolveAux t (t.nodes.size + 1) i

/-- The edit that puts `text` right before node `i`, wrapping the node in a block when it is a
bare statement body. -/
def beforeEdit (text : String) (i : Nat) (returns : Bool) : TextEdit :=
  let n := t.get i
  let prefix_ := if returns then "return " else ""
  if t.inBlockLike i then TextEdit.insert n.start (text ++ "\n" ++ prefix_) "log before"
  else TextEdit.replace n.fullStart n.stop
    (" \x7b\n" ++ text ++ "\n" ++ prefix_ ++ t.text i ++ "\n\x7d") "wrap in block, log before"

def materialize (text : String) : LogSite → TextEdit
  | .before i returns => beforeEdit t text i returns
  | .after i =>
    let n := t.get i
    if t.inBlockLike i then TextEdit.insert n.stop ("\n" ++ text) "log after"
    else TextEdit.replace n.fullStart n.stop
      (" \x7b\n" ++ t.text i ++ "\n" ++ text ++ "\n\x7d") "wrap in block, log after"
  | .inside i =>
    match t.child? i .statement with
    | some first => beforeEdit t text first false
    | none =>
      let n := t.get i
      let at_ := if n.kind == .block then n.start + 1 else n.stop
      TextEdit.insert at_ ("\n" ++ text) "log inside"

end LogSite

namespace Log

open SyntaxEdit.Syntax

variable (t : SyntaxTree)

def dropSemicolon (s : String) : String :=
  if s.endsWith ";" then String.ofList s.toList.dropLast else s

/-- `console.debug('*** <caption> »', <expression>)` for node `i`. The value of a `key: value`
pair is captioned with its key, unless the key is computed. -/
def debugStatement (i : Nat) : String :=
  let pair : Option (Nat × Nat) := do
    let p ← (t.get i).parent
    if (t.get p).kind != .propertyAssignment then none
    let k ← t.child? p .key
    let v ← t.child? p .value
    if (t.get k).raw == "computed_property_name" then none
    pure (k, v)
  let (label, expr) := match pair with
    | some (k, v) => (Caption.caption (t.text k), t.text v)
    | none =>
      let e := dropSemicolon (t.text i)
      (Caption.caption e, e)
  "console.debug('*** " ++ label ++ " »', " ++ expr ++ ")"

/-- The edit that logs what the selection `[s, e]` means, re-indented for the line it lands
on, or none when nothing there can be logged. -/
def logEdit (s e : Nat) (style : IndentStyle) : Option TextEdit := do
  let smallest ← Locate.smallestNode t s e
  let expr ← Locate.expressionNode t smallest
  let site ← LogSite.resolve t expr
  let edit := LogSite.materialize t (debugStatement t expr) site
  let anchor := (Text.lineIndent t.source edit.start).getD ""
  pure { edit with replacement := IndentStyle.reindent edit.replacement anchor style }

/-- A log template for a blank line. With clipboard text, the caption and the logged value
default to the clip; when the caption equals the clip the two fields are linked. -/
def logSnippet (clip : Option String) : Snippet :=
  let trimmed := (clip.map fun c => String.ofList (Text.trimBlank c.toList)).getD ""
  let fields : List SnippetPart :=
    if trimmed.isEmpty then [.placeholder 1 "", .text " »', ", .placeholder 1 ""]
    else
      let label := Caption.caption trimmed
      [.placeholder 1 label, .text " »', ", .placeholder (if label == trimmed then 1 else 2) trimmed]
  [.text "console.debug('*** "] ++ fields ++ [.text ")", .tabstop 0]

end Log

end SyntaxEdit
