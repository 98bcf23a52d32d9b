import SyntaxEdit.Command.Duplicate
import SyntaxEdit.Command.InsertLog
import SyntaxEdit.Command.TransformCase
import SyntaxEdit.Syntax.Parse

namespace SyntaxEdit

inductive EditorCommand where
  | duplicate
  | insertLog
  | transformCase (k : TextCase)
  deriving DecidableEq, Repr

namespace EditorCommand

def all : List EditorCommand := [.duplicate, .insertLog] ++ TextCase.all.map .transformCase

def definition : EditorCommand → CommandDefinition
  | .duplicate => DuplicateCommand.definition
  | .insertLog => InsertLogCommand.definition
  | .transformCase k => TransformCaseCommand.definition k

def ofName? (name : String) : Option EditorCommand := all.find? (·.definition.name == name)

def run : EditorCommand → EditorM CommandOutcome
  | .duplicate => DuplicateCommand.run Syntax.SyntaxTree.parse
  | .insertLog => InsertLogCommand.run Syntax.SyntaxTree.parse
  | .transformCase k => TransformCaseCommand.run k.convert

def runNamed (name : String) (h : Editor) : Except CommandError (CommandOutcome × Editor) :=
  match ofName? name with
  | none => .error (.unknownCommand name)
  | some c => c.run.run h

end EditorCommand

end SyntaxEdit
