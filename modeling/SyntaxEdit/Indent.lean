
namespace SyntaxEdit

inductive IndentStyle where
  | spaces (width : Nat)
  | tabs
  deriving DecidableEq, Repr

namespace IndentStyle

def ofOptions (tabSize : Nat) (insertSpaces : Bool) : IndentStyle :=
  if insertSpaces then .spaces (max tabSize 1) else .tabs

def unit : IndentStyle → String
  | .spaces n => String.ofList (List.replicate n ' ')
  | .tabs => "\t"

/-- Lines after the first, each prefixed by `depth` units; `prevOpens` says whether the line
before ends with `{`. -/
def indentRest (u : String) : List String → Bool → Nat → String
  | [], _, _ => ""
  | line :: rest, prevOpens, depth =>
    let d1 := if prevOpens then depth + 1 else depth
    let d2 := if line.startsWith "\x7d" then d1 - 1 else d1
    "\n" ++ String.join (List.replicate d2 u) ++ line ++ indentRest u rest (line.endsWith "\x7b") d2

/-- Re-indents `text` for insertion on a line indented by `anchor`. The first line lands after
the anchor's own indentation and stays as it is. -/
def reindent (text anchor : String) (style : IndentStyle) : String :=
  let u := style.unit
  let width := max u.length 1
  match (text.toList.splitOn '\n').map String.ofList with
  | [] => ""
  | first :: rest => first ++ indentRest u rest (first.endsWith "\x7b") (anchor.length / width)

end IndentStyle

end SyntaxEdit
