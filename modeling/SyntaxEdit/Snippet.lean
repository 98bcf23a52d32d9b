
namespace SyntaxEdit

inductive SnippetPart where
  | text (value : String)
  | placeholder (index : Nat) (default : String)
  | tabstop (index : Nat)
  deriving DecidableEq, Repr

abbrev Snippet := List SnippetPart

namespace Snippet

def escape (cs : List Char) : List Char :=
  cs.flatMap fun c => if c == '$' || c == '}' || c == '\\' then ['\\', c] else [c]

def renderPart : SnippetPart → String
  | .text v => String.ofList (escape v.toList)
  | .placeholder i d =>
    if d.isEmpty then "$" ++ toString i
    else "$" ++ "\x7b" ++ toString i ++ ":" ++ String.ofList (escape d.toList) ++ "\x7d"
  | .tabstop i => "$" ++ toString i

def render (s : Snippet) : String := String.join (s.map renderPart)

def partText : SnippetPart → String
  | .text v => v
  | .placeholder _ d => d
  | .tabstop _ => ""

def plainText (s : Snippet) : String := String.join (s.map partText)

def isEscapable (c : Char) : Bool := c == '$' || c == '\x7d' || c == '\\'

def consText (c : Char) : Snippet → Snippet
  | .text v :: rest => .text (String.ofList (c :: v.toList)) :: rest
  | parts => .text (String.singleton c) :: parts

def digitsValue (ds : List Char) : Nat := ds.foldl (fun acc d => acc * 10 + (d.toNat - 48)) 0

/-- The default of a placeholder up to its unescaped closing brace, and what follows the brace;
`none` when the brace is missing. -/
def readDefault : List Char → Option (List Char × List Char)
  | [] => none
  | '\\' :: c :: rest =>
    if isEscapable c then (readDefault rest).map fun (d, r) => (c :: d, r)
    else (readDefault (c :: rest)).map fun (d, r) => ('\\' :: d, r)
  | c :: rest =>
    if c == '\x7d' then some ([], rest) else (readDefault rest).map fun (d, r) => (c :: d, r)

/-- Reads snippet syntax, at most `fuel` steps. A backslash makes the `$`, closing brace or
backslash after it text; `$n` and `${n}` are tabstops and `${n:default}` a placeholder, `n` being
all the digits there; every other character is text. -/
def decodeAux : Nat → List Char → Snippet
  | 0, _ => []
  | _ + 1, [] => []
  | fuel + 1, '\\' :: c :: rest =>
    if isEscapable c then consText c (decodeAux fuel rest)
    else consText '\\' (decodeAux fuel (c :: rest))
  | fuel + 1, '$' :: rest =>
    let ds := rest.takeWhile Char.isDigit
    let after := rest.dropWhile Char.isDigit
    if !ds.isEmpty then .tabstop (digitsValue ds) :: decodeAux fuel after
    else
      match rest with
      | '\x7b' :: more =>
        let ds := more.takeWhile Char.isDigit
        let after := more.dropWhile Char.isDigit
        match ds.isEmpty, after with
        | false, '\x7d' :: tail => .tabstop (digitsValue ds) :: decodeAux fuel tail
        | false, ':' :: tail =>
          match readDefault tail with
          | some (d, tail') =>
            .placeholder (digitsValue ds) (String.ofList d) :: decodeAux fuel tail'
          | none => consText '$' (decodeAux fuel rest)
        | _, _ => consText '$' (decodeAux fuel rest)
      | _ => consText '$' (decodeAux fuel rest)
  | fuel + 1, c :: rest => consText c (decodeAux fuel rest)

def decode (s : String) : Snippet := decodeAux (s.length + 1) s.toList

end Snippet

end SyntaxEdit
