import SyntaxEdit.Syntax.Tree

namespace SyntaxEdit.Locate

open SyntaxEdit.Syntax

variable (t : SyntaxTree)

/-- The deepest descendant of `node` whose range holds offset `o`, taking the first child that
holds it at each level. -/
def deepestContaining : Nat → Nat → Nat → Option Nat
  | 0, _, _ => none
  | fuel + 1, node, o =>
    match (t.children node).find? (t.contains · o) with
    | some c => some ((deepestContaining fuel c o).getD c)
    | none => none

def collectWithin : Nat → Nat → Nat → Nat → List Nat
  | 0, _, _, _ => []
  | fuel + 1, node, s, e =>
    (t.children node).flatMap fun c => if t.within c s e then [c] else collectWithin fuel c s e

def matchingNodes (s e : Nat) : List Nat :=
  if s == e then (deepestContaining t t.nodes.size 0 s).toList
  else collectWithin t t.nodes.size 0 s e

/-- The deepest descendant of `node` that covers `[s, e]`, taking the first child that covers
it at each level. -/
def smallestCovering : Nat → Nat → Nat → Nat → Option Nat
  | 0, _, _, _ => none
  | fuel + 1, node, s, e =>
    match (t.children node).find? (t.covers · s e) with
    | some c => some ((smallestCovering fuel c s e).getD c)
    | none => none

def smallestNode (s e : Nat) : Option Nat := smallestCovering t t.nodes.size 0 s e

/-- Widens node `i` to the expression a log should show: an index literal means its access, a
property its access, a callee its call; a parameter means its name, a declaration its name, a
`return` its operand. Other statements log nothing. -/
def expressionNodeAux : Nat → Nat → Option Nat
  | 0, _ => none
  | fuel + 1, i => do
    let n := t.get i
    let p ← n.parent
    let pn := t.get p
    if n.kind == .literal && pn.kind == .elementAccess && n.role == .index then return p
    if n.kind.isExpression then
      if pn.kind == .propertyAccess && n.role == .property then return ← expressionNodeAux fuel p
      if (pn.kind == .callExpression || pn.kind == .newExpression) && n.role == .callee then
        return p
      return i
    if t.isParameter i then return (t.child? i .name).getD i
    match n.kind with
    | .variableDeclaration => t.child? i .name
    | .variableStatement => (t.child? i .declarator).bind (t.child? · .name)
    | .returnStatement => t.child? i .operand
    | .expressionStatement => some i
    | k => if k.isStatement then none else expressionNodeAux fuel p

def expressionNode (i : Nat) : Option Nat := expressionNodeAux t (t.nodes.size + 1) i

end SyntaxEdit.Locate
