import SyntaxEdit.Edit.Basic

namespace SyntaxEdit

inductive EditConflict where
  | overlapping (a b : TextEdit)
  | outOfBounds (e : TextEdit) (sourceLen : Nat)
  deriving DecidableEq, Repr

namespace EditConflict

def kind : EditConflict → String
  | .overlapping .. => "Overlapping"
  | .outOfBounds .. => "OutOfBounds"

def quoteLabel (e : TextEdit) : String := "'" ++ e.label ++ "'"

def range (e : TextEdit) : String := "[" ++ toString e.start ++ ".." ++ toString e.stop ++ ")"

def quoteRange (e : TextEdit) : String := quoteLabel e ++ " " ++ range e

def message : EditConflict → String
  | .overlapping a b =>
    "Edits overlap: " ++ quoteRange a ++ " and " ++ quoteRange b
  | .outOfBounds e n =>
    "Edit " ++ quoteLabel e ++ " byte range " ++ range e ++ " exceeds source length " ++ toString n

end EditConflict

structure EditSet where
  edits : List TextEdit
  deriving Repr

namespace EditSet

def before (a b : TextEdit) : Bool :=
  a.start < b.start || (a.start == b.start &&
    (a.stop < b.stop || (a.stop == b.stop && a.priority ≤ b.priority)))

def firstOutOfBounds (es : List TextEdit) (len : Nat) : Option TextEdit :=
  es.find? fun e => e.start > e.stop || e.stop > len

def firstOverlap : List TextEdit → Option (TextEdit × TextEdit)
  | a :: b :: rest =>
    if a.isInsertion && b.isInsertion && a.start == b.start then firstOverlap (b :: rest)
    else if a.stop > b.start then some (a, b)
    else firstOverlap (b :: rest)
  | _ => none

def build (es : List TextEdit) (len : Nat) : Except EditConflict EditSet :=
  let sorted := es.mergeSort before
  match firstOutOfBounds sorted len with
  | some e => .error (.outOfBounds e len)
  | none =>
    match firstOverlap sorted with
    | some (a, b) => .error (.overlapping a b)
    | none => .ok ⟨sorted⟩

def replaceRange (cs : List Char) (start stop : Nat) (r : String) : Option (List Char) := do
  let (pre, rest) ← Text.splitBytes cs start
  let (_, post) ← Text.splitBytes rest (stop - start)
  pure (pre ++ r.toList ++ post)

def applyEach : List TextEdit → List Char → Option (List Char)
  | [], cs => some cs
  | e :: es, cs => do applyEach es (← replaceRange cs e.start e.stop e.replacement)

def apply (s : EditSet) (src : String) : Option String :=
  (applyEach s.edits.reverse src.toList).map String.ofList

/-- The source from offset `pos` on with edits spliced in from left to right: the text up to
the first edit, its replacement, the text from its end to the next edit, and so on. -/
def spliceFrom : List TextEdit → Nat → List Char → Option (List Char)
  | [], pos, cs => Text.dropBytes cs pos
  | e :: es, pos, cs => do
    let gap ← Text.sliceBytes cs pos e.start
    let rest ← spliceFrom es e.stop cs
    pure (gap ++ e.replacement.toList ++ rest)

/-- The source with the set's edits spliced in from left to right, each against the source's
own offsets; `none` when an edit cuts a character. -/
def splice (s : EditSet) (src : String) : Option String :=
  (spliceFrom s.edits 0 src.toList).map String.ofList

end EditSet

end SyntaxEdit
