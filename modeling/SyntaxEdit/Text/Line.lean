import SyntaxEdit.Text.Utf8
import SyntaxEdit.Text.Blank

namespace SyntaxEdit.Text

def afterLastNewline (cs : List Char) : Nat :=
  match cs.reverse.findIdx? (· == '\n') with
  | some k => byteLength cs - byteLength (cs.reverse.take k)
  | none => 0

def beforeFirstNewline (cs : List Char) : Nat := byteLength (cs.takeWhile (· != '\n'))

def lineStart (s : String) (o : Nat) : Option Nat :=
  (takeBytes s.toList o).map afterLastNewline

def lineEnd (s : String) (o : Nat) : Option Nat := do
  let rest ← dropBytes s.toList o
  let stop := o + beforeFirstNewline rest
  let before ← takeBytes s.toList stop
  pure (if stop > 0 && before.getLast? == some '\r' then stop - 1 else stop)

def lineText (s : String) (o : Nat) : Option String := do
  let a ← lineStart s o
  let b ← lineEnd s o
  slice? s a b

def lineIndent (s : String) (o : Nat) : Option String :=
  (lineText s o).map fun t => String.ofList (t.toList.takeWhile isIndentChar)

def isBlankLine (s : String) (o : Nat) : Option Bool :=
  (lineText s o).map fun t => t.toList.all isBlank

def sameLine (s : String) (a b : Nat) : Option Bool :=
  (sliceBytes s.toList (min a b) (max a b)).map fun cs => !cs.contains '\n'

end SyntaxEdit.Text
