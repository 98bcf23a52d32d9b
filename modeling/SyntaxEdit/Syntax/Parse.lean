import SyntaxEdit.Syntax.Script.Grammar
import SyntaxEdit.Syntax.Json
import SyntaxEdit.Syntax.Lower
import SyntaxEdit.Language

namespace SyntaxEdit.Syntax

def Dialect.ofGrammar : Grammar → Dialect
  | .typeScript => ⟨true, false, true⟩
  | .tsx => ⟨true, true, false⟩
  | .javaScript => ⟨false, true, false⟩
  | .json => ⟨false, false, false⟩

def fuelFor (n : Nat) : Nat := 64 * (n + 4)

def runParser (src : Source) (d : Dialect) (p : P α) (start : Nat) : Except Stuck α :=
  ((p.run ⟨src, d, true, start, start, none, false, false, none, false⟩).run start).map (·.1)

def contentStart (src : Source) : Nat := src.byte (scanWhile src isSpace src.size 0)

def parseScript (src : Source) (d : Dialect) : Cst :=
  let pieces := match runParser src d (Script.program (fuelFor src.size) src.size []) 0 with
    | .ok cs => cs
    | .error _ => []
  Cst.node "program" true false none (contentStart src) (src.byte src.size) pieces

def parseJson (src : Source) : Cst :=
  Cst.node "document" true false none (contentStart src) (src.byte src.size) (Json.parse src)

def parseConcrete (g : Grammar) (source : String) : Cst :=
  let src := Source.ofString source
  match g with
  | .json => parseJson src
  | g => parseScript src (Dialect.ofGrammar g)

def SyntaxTree.parse (lang : Language) (source : String) : SyntaxTree :=
  SyntaxTree.ofConcrete source (parseConcrete lang.grammar source)

def SyntaxTree.preorder (t : SyntaxTree) : List (Nat × Nat) :=
  go t.nodes.size [(0, 0)]
where
  /-- Visits the pending nodes, children before later siblings. -/
  go : Nat → List (Nat × Nat) → List (Nat × Nat)
    | 0, _ => []
    | _, [] => []
    | fuel + 1, (i, d) :: rest => (i, d) :: go fuel ((t.children i).map (·, d + 1) ++ rest)

end SyntaxEdit.Syntax
