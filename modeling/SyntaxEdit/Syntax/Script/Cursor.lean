import SyntaxEdit.Syntax.Scan
import SyntaxEdit.Syntax.Script.LineEnd
import SyntaxEdit.Syntax.Concrete

namespace SyntaxEdit.Syntax

structure Dialect where
  types : Bool
  jsx : Bool
  angleCasts : Bool

/-- What the parser reads from: the source, its dialect, whether a type being read may end
its statement at a line feed, which is so everywhere but in an expression such as `x as T`,
where the statement and the operand being read began, while the first statement of a list is
read, where that list began, whether the parse only looks ahead to see whether a statement
can be read, whether the statement being read follows tokens given up as an error, and where a
word that only may be a keyword is a name: the token at which an error was met is read as it was
read there, where the keyword `let` could not stand; and whether a colon ends the expression
being read, as in the middle of a conditional or the value of a case. -/
structure Env where
  src : Source
  dialect : Dialect
  typeLineEnds : Bool
  statementStart : Nat
  operandStart : Nat
  opening : Option Nat
  probing : Bool
  recovering : Bool
  nameAt : Option Nat
  colonEnds : Bool

structure Stuck where
  pos : Nat
  atEnd : Bool

abbrev P := ReaderT Env (StateT Nat (Except Stuck))

namespace P

def src : P Source := do return (← read).src

def dialect : P Dialect := do return (← read).dialect

def peek : P Token := do return scan (← src) (← get)

def peek2 : P Token := do
  let s ← src
  return scan s (scan s (← get)).stop

def stuck : P α := do
  let t ← peek
  throw ⟨t.start, t.kind == .eof⟩

def leafOf (t : Token) (kind : String) (named : Bool) : P Cst := do
  let s ← src
  return Cst.leaf kind named (s.byte t.start) (s.byte t.stop)

def bump : P Cst := do
  let t ← peek
  if t.kind == .eof then stuck
  set t.stop
  leafOf t t.text false

def bumpAs (k : String) : P Cst := do
  let t ← peek
  if t.kind == .eof then stuck
  set t.stop
  leafOf t k true

def at? (w : String) : P Bool := do
  let t ← peek
  return t.text == w && (t.kind == .punct || t.kind == .word)

def expect (w : String) : P Cst := do
  if ← at? w then bump else stuck

def accept (w : String) : P (List Cst) := do
  if ← at? w then return [← bump] else return []

def here : P Nat := do return (← src).byte (← get)

def atCloser : P Bool := do
  let t ← peek
  return t.kind == .punct && [")", "]", "\x7d", ","].contains t.text

/-- Where the statement read so far, whose last part is of kind `tail`, may end here with no
semicolon written (`leftOutAt`): `some []` where the left-out semicolon stands right here, a
zero-width semicolon where it stands after comments, which the statement then spans, and `none`
where the statement cannot end here. -/
def leftOut (tail : Tail) : P (Option (List Cst)) := do
  let s ← src
  let i ← get
  match leftOutAt s (← dialect).types tail s.size i with
  | some p =>
    return some (if p == i then [] else [Cst.leaf Cst.leftOutKind false (s.byte p) (s.byte p)])
  | none => return none

/-- Whether the statement read so far, whose last part is of kind `tail`, may end here with no
semicolon written. -/
def canEnd (tail : Tail) : P Bool := do return (← leftOut tail).isSome

/-- Where a quote stands next, after blanks, if one does: inside a JSX tag a quote is a token
of its own, which opens a string that knows no escapes. -/
def quoteAt : P (Option Nat) := do
  let s ← src
  let k := scanWhile s isSpace s.size (← get)
  return if (s.get? k).any (fun c => c == '"' || c == '\'') then some k else none

/-- What an error over the bytes `[a, b)` holding `trees` pieces of syntax costs: a recovery,
each piece, and every byte and line break passed over. -/
def errorCost (s : Source) (trees a b : Nat) : Nat :=
  500 + 100 * trees + (b - a) + 30 * s.rowsBetween a b

/-- What it costs to give up, as an error, one piece of syntax read since the position `o` up
to here. -/
def dropCost (o : Nat) : P Nat := do
  let s ← src
  return errorCost s 1 (s.byte o) (s.byte (← get))

def missingCost : Nat := 610

def skipError : P Cst := do
  let c ← bump
  return Cst.node "ERROR" true true none c.start c.stop [c]

def typeMayEnd : P Bool := do
  return (← read).typeLineEnds && (← canEnd .type)

def mk (kind : String) (cs : List Cst) : P Cst := do return Cst.build kind (← here) cs

def atWord : P Bool := do return (← peek).kind == .word

def expectGt : P Cst := do
  let t ← peek
  if t.kind == .punct && (← src).isAt t.start '>' then
    set (t.start + 1)
    leafOf { t with stop := t.start + 1 } ">" false
  else stuck

def attempt (p : P α) : P (Option α) := tryCatch (some <$> p) (fun _ => pure none)

def attemptE (p : P α) : P (Except Stuck α) := tryCatch (.ok <$> p) (fun e => pure (.error e))

def missing (kind : String) (named : Bool) : P Cst := do
  let p := (← src).byte (← get)
  return Cst.leaf kind named p p

def restAsError : P Cst := do
  let s ← src
  let t ← peek
  set s.size
  return Cst.node "ERROR" true true none (s.byte t.start) (s.byte s.size) []

def orElse (p q : P α) : P α := tryCatch p (fun _ => q)

end P

end SyntaxEdit.Syntax
