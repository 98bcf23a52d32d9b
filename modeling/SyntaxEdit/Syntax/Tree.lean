import SyntaxEdit.Syntax.Node
import SyntaxEdit.Text.Utf8
import SyntaxEdit.Text.Blank

namespace SyntaxEdit.Syntax

structure SyntaxNode where
  kind : NodeKind
  raw : String
  role : Role
  start : Nat
  stop : Nat
  fullStart : Nat
  parent : Option Nat
  children : Array Nat
  deriving DecidableEq, Repr, Inhabited

structure SyntaxTree where
  source : String
  nodes : Array SyntaxNode
  deriving Repr

namespace SyntaxTree

def node? (t : SyntaxTree) (i : Nat) : Option SyntaxNode := t.nodes[i]?

def get (t : SyntaxTree) (i : Nat) : SyntaxNode := t.nodes.getD i default

def parent? (t : SyntaxTree) (i : Nat) : Option Nat := (t.get i).parent

def children (t : SyntaxTree) (i : Nat) : List Nat := (t.get i).children.toList

def child? (t : SyntaxTree) (i : Nat) (r : Role) : Option Nat :=
  (t.children i).find? fun c => (t.get c).role == r

def childrenWith (t : SyntaxTree) (i : Nat) (r : Role) : List Nat :=
  (t.children i).filter fun c => (t.get c).role == r

def text? (t : SyntaxTree) (i : Nat) : Option String :=
  Text.slice? t.source (t.get i).start (t.get i).stop

def fullText? (t : SyntaxTree) (i : Nat) : Option String :=
  Text.slice? t.source (t.get i).fullStart (t.get i).stop

def text (t : SyntaxTree) (i : Nat) : String := (t.text? i).getD ""

def fullText (t : SyntaxTree) (i : Nat) : String := (t.fullText? i).getD ""

def leadingWhitespace? (t : SyntaxTree) (i : Nat) : Option String := do
  let lead ← Text.slice? t.source (t.get i).fullStart (t.get i).start
  pure (String.ofList (lead.toList.reverse.takeWhile Text.isIndentChar).reverse)

/-- The spaces and tabs that end the leading trivia of node `i`, empty if its range cuts a
character. -/
def leadingWhitespace (t : SyntaxTree) (i : Nat) : String := (t.leadingWhitespace? i).getD ""

def inBlockLike (t : SyntaxTree) (i : Nat) : Bool :=
  match t.parent? i with
  | some p => (t.get p).kind.isBlockLike
  | none => false

def isParameter (t : SyntaxTree) (i : Nat) : Bool :=
  (t.get i).kind == .parameter || (t.get i).role == .parameter

/-- Whether node `i` stands where a statement can: as a statement, a branch or a body, or
inside a block-like parent. -/
def inStatementPosition (t : SyntaxTree) (i : Nat) : Bool :=
  let n := t.get i
  n.role == .statement || n.role == .then_ || n.role == .else_ || n.role == .body ||
    (match n.parent with
     | some p => (t.get p).kind.isBlockLike
     | none => false)

def contains (t : SyntaxTree) (i o : Nat) : Bool := (t.get i).start ≤ o && o ≤ (t.get i).stop

def covers (t : SyntaxTree) (i s e : Nat) : Bool := (t.get i).start ≤ s && e ≤ (t.get i).stop

def within (t : SyntaxTree) (i s e : Nat) : Bool := s ≤ (t.get i).start && (t.get i).stop ≤ e

end SyntaxTree

end SyntaxEdit.Syntax
