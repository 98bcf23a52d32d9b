import SyntaxEdit.Command.Basic
import SyntaxEdit.Duplicate
import SyntaxEdit.Language

namespace SyntaxEdit.DuplicateCommand

open SyntaxEdit.Syntax

def definition : CommandDefinition :=
  ⟨"sparrowKeys.duplicate", "Duplicate",
    "Duplicate the node under each cursor with the separator its position needs (comma, " ++
    "operator, `.`, `else`, statement delimiter). Falls back to copying lines down or " ++
    "duplicating the selection."⟩

/-- Moves a caret onto the node it most likely means: right after a list comma it moves back
onto the element before the comma; in front of whitespace it moves past the whitespace. -/
def snapCaret (source : String) (at_ : Nat) : Nat :=
  let ls := (Text.lineStart source at_).getD at_
  let le := max ((Text.lineEnd source at_).getD at_) at_
  let left := ((Text.sliceBytes source.toList ls at_).getD [])
  let right := ((Text.sliceBytes source.toList at_ le).getD [])
  let rightIsSpace := right.head?.any Text.isBlank
  if left.getLast? == some ',' && (right.isEmpty || rightIsSpace) then at_ - 1
  else if rightIsSpace then
    at_ + (Text.byteLength right - Text.byteLength (right.dropWhile Text.isBlank))
  else at_

def selectsBlank (source : String) (sel : Selection) : Bool :=
  ((Text.sliceBytes source.toList sel.start sel.stop).getD []).all Text.isBlank

/-- What one cursor gets: insertions that duplicate syntax, after which the editor formats the
cursor's selection, or a built-in action. -/
inductive Handling where
  | edits (es : List TextEdit) (cursor : Selection)
  | builtIn (c : HostCommand)
  deriving Repr

variable (parse : Language → String → SyntaxTree)

/-- How a cursor is handled in `source`, read with `parse` when the language is known. A caret on
a blank line copies it down and a blank selection is duplicated as text; elsewhere the node
meant is duplicated, and where nothing can be, a selection that meets no node is duplicated as
text and anything else copies its lines down. -/
def handling (lang : Option Language) (source : String) (cursor : Selection) : Handling :=
  let cursor := cursor.clampTo source
  if cursor.isEmpty && (Text.isBlankLine source cursor.active).getD false then
    .builtIn (.copyLinesDown cursor)
  else if !cursor.isEmpty && selectsBlank source cursor then
    .builtIn (.duplicateSelection cursor)
  else
    match lang with
    | none => .builtIn (.copyLinesDown cursor)
    | some l =>
      let (s, e) :=
        if cursor.isEmpty then (snapCaret source cursor.active, snapCaret source cursor.active)
        else (cursor.start, cursor.stop)
      let tree := parse l source
      let edits := Duplicate.duplicateEdits tree s e
      if !edits.isEmpty then .edits edits cursor
      else if s != e && (Locate.matchingNodes tree s e).isEmpty then
        .builtIn (.duplicateSelection cursor)
      else .builtIn (.copyLinesDown cursor)

/-- Carries out a handling. The result says whether a syntax-aware edit was made rather than a
built-in action run. -/
def Handling.perform : Handling → EditorM Bool
  | .edits es cursor => do
    EditorM.applyEdits es
    EditorM.execute (.formatSelection cursor)
    pure true
  | .builtIn c => do
    EditorM.execute c
    pure false

def atCursor (lang : Option Language) (cursor : Selection) : EditorM Bool := do
  (handling parse lang (← get).text cursor).perform

def atCursors (lang : Option Language) : List Selection → CommandOutcome → EditorM CommandOutcome
  | [], o => pure o
  | c :: cs, o => do
    let o := if ← atCursor parse lang c then { o with syntaxEdits := o.syntaxEdits + 1 }
      else { o with fallbacks := o.fallbacks + 1 }
    atCursors lang cs o

def run : EditorM CommandOutcome := do
  let h ← get
  let lang := (Language.detect h.languageId h.fileName).toOption
  let cursors := h.selections.mergeSort fun a b => b.active ≤ a.active
  atCursors parse lang cursors {}

end SyntaxEdit.DuplicateCommand
