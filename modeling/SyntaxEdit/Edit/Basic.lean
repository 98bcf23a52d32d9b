import SyntaxEdit.Text.Utf8

namespace SyntaxEdit

structure TextEdit where
  start : Nat
  stop : Nat
  replacement : String
  label : String
  priority : Int := 0
  deriving DecidableEq, Repr

namespace TextEdit

def insert (offset : Nat) (text label : String) : TextEdit := ⟨offset, offset, text, label, 0⟩

def replace (start stop : Nat) (text label : String) : TextEdit := ⟨start, stop, text, label, 0⟩

def isInsertion (e : TextEdit) : Bool := e.start == e.stop

def sameChange (a b : TextEdit) : Bool :=
  a.start == b.start && a.stop == b.stop && a.replacement == b.replacement

def firstOfEach : List TextEdit → List TextEdit → List TextEdit
  | [], kept => kept.reverse
  | e :: es, kept => if kept.any (sameChange · e) then firstOfEach es kept else firstOfEach es (e :: kept)

def rank : List TextEdit → Nat → List TextEdit
  | [], _ => []
  | e :: es, k => { e with priority := k } :: rank es (k + 1)

end TextEdit

/-- Drops each edit that repeats the change of an earlier one, then numbers the survivors in
order, so insertions at one offset keep the order they were made in. -/
def dedupEdits (es : List TextEdit) : List TextEdit := TextEdit.rank (TextEdit.firstOfEach es []) 0

end SyntaxEdit
