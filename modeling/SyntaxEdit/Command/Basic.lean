import SyntaxEdit.Editor

namespace SyntaxEdit

structure CommandDefinition where
  name : String
  title : String
  description : String
  deriving DecidableEq, Repr

inductive CommandError where
  | unknownCommand (name : String)
  | host (e : InvalidRange)
  | edit (c : EditConflict)
  deriving Repr

def CommandError.message : CommandError → String
  | .unknownCommand name => "Unknown command: " ++ name
  | .host e => e.message
  | .edit c => c.message

/-- What a command did: cursors handled by a syntax-aware edit, cursors handed to a built-in
action instead, and selections replaced as plain text. -/
structure CommandOutcome where
  syntaxEdits : Nat := 0
  fallbacks : Nat := 0
  transformed : Nat := 0
  deriving DecidableEq, Repr

abbrev EditorM := StateT Editor (Except CommandError)

namespace EditorM

def execute (c : HostCommand) : EditorM Unit := modify (·.execute c)

def applyEdits (es : List TextEdit) : EditorM Unit := do
  let h ← get
  match EditSet.build es (Text.size h.text) with
  | .error c => throw (.edit c)
  | .ok edits =>
    match h.applyEdits edits with
    | .error e => throw (.host e)
    | .ok h' => set h'

def insertSnippet (sn : Snippet) (at_ : Selection) : EditorM Unit := do
  match (← get).insertSnippet sn at_ with
  | .error e => throw (.host e)
  | .ok h' => set h'

end EditorM

end SyntaxEdit
