
namespace SyntaxEdit.Syntax

inductive Cst where
  | node (kind : String) (named extra : Bool) (field : Option String) (start stop : Nat)
      (children : List Cst)
  deriving Repr, Inhabited

namespace Cst

def kind : Cst → String
  | node k .. => k

def named : Cst → Bool
  | node _ n .. => n

def extra : Cst → Bool
  | node _ _ e .. => e

def field : Cst → Option String
  | node _ _ _ f .. => f

def start : Cst → Nat
  | node _ _ _ _ s .. => s

def stop : Cst → Nat
  | node _ _ _ _ _ e _ => e

def children : Cst → List Cst
  | node _ _ _ _ _ _ cs => cs

def inField (f : String) : Cst → Cst
  | node k n e _ s t cs => node k n e (some f) s t cs

def leaf (kind : String) (named : Bool) (s t : Nat) : Cst := node kind named false none s t []

/-- A named node over its children; it spans from the first child that is no extra to the
last one, and is empty at `pos` when it has none. -/
def build (kind : String) (pos : Nat) (cs : List Cst) : Cst :=
  let real := cs.filter (!·.extra)
  match real.head?, real.getLast? with
  | some a, some b => node kind true false none a.start b.stop cs
  | _, _ => node kind true false none pos pos cs

def withFront (cs : List Cst) : Cst → Cst
  | node k n e f s t kids =>
    match cs.head? with
    | some c => node k n e f c.start t (cs ++ kids)
    | none => node k n e f s t kids

def withExtra : Cst → Bool → Cst → Cst
  | node k n x f s t kids, front, e => node k n x f s t (if front then e :: kids else kids ++ [e])

/-- The kind of the zero-width token that stands for a semicolon left out after comments; unlike
other leaves of no width, it stands for no missing token. -/
def leftOutKind : String := "_automatic_semicolon"

mutual

/-- Where the first error or missing token of the tree starts, if it has one: an error node,
or a leaf of no width other than a left-out semicolon. -/
def firstFault : Cst → Option Nat
  | node k _ _ _ s t cs =>
    if k == "ERROR" || (cs.isEmpty && s == t && k != leftOutKind) then some s else firstFaultIn cs

def firstFaultIn : List Cst → Option Nat
  | [] => none
  | c :: cs =>
    match firstFault c with
    | some p => some p
    | none => firstFaultIn cs

end

mutual

/-- Whether an object or array literal holds a default `name = value` among its members, or
theirs: only a pattern may hold one. -/
def holdsDefault : Cst → Bool
  | node k _ _ _ _ _ cs =>
    k == "object_assignment_pattern" ||
      (["object", "array", "pair", "spread_element"].contains k && holdsDefaultIn cs)

def holdsDefaultIn : List Cst → Bool
  | [] => false
  | c :: cs => holdsDefault c || holdsDefaultIn cs

end

def rename (k : String) : Cst → Cst
  | node _ n e f s t cs => node k n e f s t cs

end Cst

end SyntaxEdit.Syntax
