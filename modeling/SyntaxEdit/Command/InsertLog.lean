import SyntaxEdit.Command.Basic
import SyntaxEdit.LogSite
import SyntaxEdit.Language

namespace SyntaxEdit.InsertLogCommand

open SyntaxEdit.Syntax

def definition : CommandDefinition :=
  ⟨"sparrowKeys.insertLog", "Insert Debug Log",
    "Log the expression under each cursor at the nearest place a statement can go, wrapping " ++
    "bare statement bodies in a block. On a blank line, insert a log template filled from the " ++
    "clipboard."⟩

def isBlankCursor (source : String) (cursor : Selection) : Bool :=
  if cursor.isEmpty then (Text.isBlankLine source cursor.active).getD false
  else ((Text.sliceBytes source.toList cursor.start cursor.stop).getD []).all Text.isBlank

def logCursors (tree : SyntaxTree) (style : IndentStyle) (clip : String) :
    List Selection → CommandOutcome → EditorM CommandOutcome
  | [], o => pure o
  | cursor :: rest, o => do
    let cursor := cursor.clampTo tree.source
    let o ←
      if isBlankCursor tree.source cursor then do
        EditorM.insertSnippet (Log.logSnippet (some clip)) cursor
        pure { o with fallbacks := o.fallbacks + 1 }
      else
        match Log.logEdit tree cursor.start cursor.stop style with
        | none => pure o
        | some edit => do
          EditorM.applyEdits [edit]
          pure { o with syntaxEdits := o.syntaxEdits + 1 }
    logCursors tree style clip rest o

/-- Logs at every cursor, the document read with `parse`, then formats the document when
anything was inserted. Documents in JSON or in no supported language are left alone. -/
def run (parse : Language → String → SyntaxTree) : EditorM CommandOutcome := do
  let h ← get
  match Language.detect h.languageId h.fileName with
  | .error _ => pure {}
  | .ok l =>
    if l.isJson then pure {}
    else
      let tree := parse l h.text
      let cursors := h.selections.mergeSort fun a b => b.start ≤ a.start
      let o ← logCursors tree h.options.indentStyle h.clipboard cursors {}
      if o.syntaxEdits + o.fallbacks > 0 then
        EditorM.execute .formatDocument
      pure o

end SyntaxEdit.InsertLogCommand
