import SyntaxEdit.Text.Line
import SyntaxEdit.Edit.Set
import SyntaxEdit.Indent
import SyntaxEdit.Snippet

namespace SyntaxEdit

/-- A cursor: `anchor` is where the selection started, `active` where the caret is. Both are
byte offsets. -/
structure Selection where
  anchor : Nat
  active : Nat
  deriving DecidableEq, Repr

namespace Selection

def caret (o : Nat) : Selection := ⟨o, o⟩

def isEmpty (s : Selection) : Bool := s.anchor == s.active

def start (s : Selection) : Nat := min s.anchor s.active

def stop (s : Selection) : Nat := max s.anchor s.active

def clampTo (s : Selection) (text : String) : Selection :=
  ⟨Text.floorBoundary text.toList s.anchor, Text.floorBoundary text.toList s.active⟩

end Selection

structure EditorOptions where
  tabSize : Nat
  insertSpaces : Bool
  deriving DecidableEq, Repr

namespace EditorOptions

def standard : EditorOptions := ⟨4, true⟩

def indentStyle (o : EditorOptions) : IndentStyle := IndentStyle.ofOptions o.tabSize o.insertSpaces

end EditorOptions

inductive HostCommand where
  | copyLinesDown (selection : Selection)
  | duplicateSelection (selection : Selection)
  | formatSelection (selection : Selection)
  | formatDocument
  deriving DecidableEq, Repr

structure InvalidRange where
  start : Nat
  stop : Nat
  len : Nat
  deriving DecidableEq, Repr

def InvalidRange.message (e : InvalidRange) : String :=
  "Edit range [" ++ toString e.start ++ ".." ++ toString e.stop ++
    ") is not valid in a document of " ++ toString e.len ++ " bytes"

structure Editor where
  text : String
  languageId : String
  fileName : String
  selections : List Selection
  options : EditorOptions
  clipboard : String
  /-- Built-in actions run so far, the first first. -/
  executed : List HostCommand
  deriving Repr

namespace Editor

def ofDocument (text languageId fileName : String) : Editor :=
  ⟨text, languageId, fileName, [], EditorOptions.standard, "", []⟩

def checkRange (h : Editor) (start stop : Nat) : Except InvalidRange Unit :=
  let cs := h.text.toList
  if start ≤ stop && stop ≤ Text.byteLength cs && Text.isBoundary cs start &&
      Text.isBoundary cs stop then .ok ()
  else .error ⟨start, stop, Text.size h.text⟩

/-- The text with `r` in place of the bytes `[start, stop)`; the text itself when the range
does not fit, which a caller rules out with `checkRange` or `Selection.clampTo`. -/
def splice (text : String) (start stop : Nat) (r : String) : String :=
  ((EditSet.replaceRange text.toList start stop r).map String.ofList).getD text

def copyLinesDown (h : Editor) (sel : Selection) : Editor :=
  let sel := sel.clampTo h.text
  let first := (Text.lineStart h.text sel.start).getD 0
  let last := (Text.lineEnd h.text sel.stop).getD 0
  let lines := "\n" ++ (Text.slice? h.text first last).getD ""
  { h with text := splice h.text last last lines }

/-- Applies every edit of a set as one change, once each edit's range is checked. The checks
leave every edit on character boundaries, so applying the set cannot fail. -/
def applyEdits (h : Editor) (set : EditSet) : Except InvalidRange Editor := do
  set.edits.forM fun e => h.checkRange e.start e.stop
  pure { h with text := (set.apply h.text).getD h.text }

def insertSnippet (h : Editor) (sn : Snippet) (at_ : Selection) : Except InvalidRange Editor := do
  h.checkRange at_.start at_.stop
  pure { h with text := splice h.text at_.start at_.stop (Snippet.plainText sn) }

def execute (h : Editor) (c : HostCommand) : Editor :=
  let h' := match c with
    | .copyLinesDown sel => h.copyLinesDown sel
    | .duplicateSelection sel =>
      if sel.isEmpty then h.copyLinesDown sel
      else
        let sel := sel.clampTo h.text
        let copy := (Text.slice? h.text sel.start sel.stop).getD ""
        { h with text := splice h.text sel.stop sel.stop copy }
    | .formatSelection _ | .formatDocument => h
  { h' with executed := h'.executed ++ [c] }

end Editor

end SyntaxEdit
