import SyntaxEdit.Command.Basic
import SyntaxEdit.Case

namespace SyntaxEdit.TransformCaseCommand

def definition (k : TextCase) : CommandDefinition :=
  ⟨"sparrowKeys.transformTo" ++ k.name ++ "Case", "Transform to " ++ k.name ++ " Case",
    "Replace the text of each selection with its " ++ k.convert (k.name ++ " case") ++ " form."⟩

variable (convert : String → String)

def editFor (source : String) (sel : Selection) : Option TextEdit := do
  let sel := sel.clampTo source
  if sel.isEmpty then none
  let before ← Text.slice? source sel.start sel.stop
  let after := convert before
  if after == before then none
  pure (TextEdit.replace sel.start sel.stop after "transform case")

def run : EditorM CommandOutcome := do
  let h ← get
  let edits := h.selections.filterMap (editFor convert h.text)
  if edits.isEmpty then pure {}
  else
    EditorM.applyEdits edits
    pure { transformed := edits.length }

end SyntaxEdit.TransformCaseCommand
