import SyntaxEdit.Text.Blank

namespace SyntaxEdit.Caption

open SyntaxEdit.Text

def maxChars : Nat := 30

def normalize : List Char → Bool → List Char
  | [], _ => []
  | c :: cs, inBlank =>
    if c == '\r' || c == '\n' then normalize cs inBlank
    else if isBlank c then (if inBlank then normalize cs true else ' ' :: normalize cs true)
    else if c == '\'' then '"' :: normalize cs false
    else c :: normalize cs false

def openParens (cs : List Char) : Int :=
  cs.foldl (fun d c => if c == '(' then d + 1 else if c == ')' then d - 1 else d) 0

/-- Cuts a text to thirty characters, ending with `⋯`; a call left open in its first
twenty-eight characters keeps a closing `)` after the ellipsis. -/
def truncateChars (cs : List Char) : List Char :=
  if cs.length ≤ maxChars then cs
  else if cs.getLast? == some ')' && openParens (cs.take (maxChars - 2)) > 0 then
    cs.take (maxChars - 2) ++ ['⋯', ')']
  else cs.take (maxChars - 1) ++ ['⋯']

def truncate (s : String) : String := String.ofList (truncateChars s.toList)

def caption (s : String) : String := String.ofList (truncateChars (normalize s.toList false))

end SyntaxEdit.Caption
