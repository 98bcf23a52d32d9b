import SyntaxEdit.Text.Utf8
import SyntaxEdit.Text.Blank
import SyntaxEdit.Text.Line
import SyntaxEdit.Text.Letter
import SyntaxEdit.Case
import SyntaxEdit.Caption
import SyntaxEdit.Indent
import SyntaxEdit.Snippet
import SyntaxEdit.Edit.Basic
import SyntaxEdit.Edit.Set
import SyntaxEdit.Language
import SyntaxEdit.Syntax.Concrete
import SyntaxEdit.Syntax.Scan
import SyntaxEdit.Syntax.Script.LineEnd
import SyntaxEdit.Syntax.Script.Cursor
import SyntaxEdit.Syntax.Script.Types
import SyntaxEdit.Syntax.Script.Words
import SyntaxEdit.Syntax.Script.Grammar
import SyntaxEdit.Syntax.Json
import SyntaxEdit.Syntax.Node
import SyntaxEdit.Syntax.Tree
import SyntaxEdit.Syntax.Lower
import SyntaxEdit.Syntax.Parse
import SyntaxEdit.Locate
import SyntaxEdit.Duplicate
import SyntaxEdit.LogSite
import SyntaxEdit.Binary64.Basic
import SyntaxEdit.Binary64.Shortest
import SyntaxEdit.Json.Value
import SyntaxEdit.Json.Parse
import SyntaxEdit.Json.Record
import SyntaxEdit.Editor
import SyntaxEdit.Command.Basic
import SyntaxEdit.Command.Duplicate
import SyntaxEdit.Command.InsertLog
import SyntaxEdit.Command.TransformCase
import SyntaxEdit.Command.Registry
import SyntaxEdit.Rpc.Request
import SyntaxEdit.Rpc.Server
import SyntaxEdit.Main
import SyntaxEdit.Proofs.Utf8
import SyntaxEdit.Proofs.Line
import SyntaxEdit.Proofs.EditSet.Build
import SyntaxEdit.Proofs.EditSet.Apply
import SyntaxEdit.Proofs.EditSet.Insert
import SyntaxEdit.Proofs.Arena
import SyntaxEdit.Proofs.Indent
import SyntaxEdit.Proofs.Lower
import SyntaxEdit.Proofs.Roles
import SyntaxEdit.Proofs.Kept
import SyntaxEdit.Proofs.LogSite
import SyntaxEdit.Proofs.InsertLog
import SyntaxEdit.Proofs.Duplicate
import SyntaxEdit.Proofs.LogEdit
import SyntaxEdit.Proofs.Command
import SyntaxEdit.Proofs.Server
import SyntaxEdit.Proofs.DuplicateCommand
import SyntaxEdit.Proofs.LaterCursors
import SyntaxEdit.Proofs.Subtree
import SyntaxEdit.Proofs.Locate
import SyntaxEdit.Proofs.Wrap
import SyntaxEdit.Proofs.EditSet.Dedup
import SyntaxEdit.Proofs.Caption
import SyntaxEdit.Proofs.LogLabel
import SyntaxEdit.Proofs.SnippetSyntax
import SyntaxEdit.Proofs.TransformCase
import SyntaxEdit.Proofs.Walks
