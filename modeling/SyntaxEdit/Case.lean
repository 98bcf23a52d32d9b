import SyntaxEdit.Text.Letter

namespace SyntaxEdit

open SyntaxEdit.Text

inductive TextCase where
  | camel
  | pascal
  | snake
  | dash
  deriving DecidableEq, Repr

namespace Words

/-- What the letters of the current word have been so far: none cased yet, or the last cased
one small or capital. -/
inductive Mode where
  | boundary
  | small
  | capital
  deriving DecidableEq

def splitRun : List Char → List Char → Mode → List (List Char)
  | [], cur, _ => if cur.isEmpty then [] else [cur.reverse]
  | [c], cur, _ => [(c :: cur).reverse]
  | c :: n :: rest, cur, mode =>
    let next := if isLower c then Mode.small else if isUpper c then Mode.capital else mode
    if next == .small && isUpper n then
      (c :: cur).reverse :: splitRun (n :: rest) [] .boundary
    else if mode == .capital && isUpper c && isLower n then
      cur.reverse :: splitRun (n :: rest) [c] .boundary
    else splitRun (n :: rest) (c :: cur) next

def pieces : List Char → List (List Char)
  | [] => [[]]
  | c :: cs =>
    match pieces cs with
    | [] => [[c]]
    | p :: ps => if isWordChar c then (c :: p) :: ps else [] :: p :: ps

def ofText (cs : List Char) : List (List Char) :=
  (pieces cs).flatMap fun p => splitRun p [] .boundary

def lower : List Char → List Char
  | [] => []
  | [c] => if c == 'Σ' then ['ς'] else lowerOf c
  | c :: cs => lowerOf c ++ lower cs

def capitalize : List Char → List Char
  | [] => []
  | c :: cs => upperOf c ++ lower cs

end Words

namespace TextCase

def all : List TextCase := [.camel, .pascal, .snake, .dash]

def name : TextCase → String
  | .camel => "Camel"
  | .pascal => "Pascal"
  | .snake => "Snake"
  | .dash => "Dash"

def joinWords : TextCase → List (List Char) → List Char
  | .camel, [] => []
  | .camel, w :: ws => Words.lower w ++ (ws.map Words.capitalize).flatten
  | .pascal, ws => (ws.map Words.capitalize).flatten
  | .snake, ws => ['_'].intercalate (ws.map Words.lower)
  | .dash, ws => ['-'].intercalate (ws.map Words.lower)

def convert (k : TextCase) (s : String) : String :=
  String.ofList (k.joinWords (Words.ofText s.toList))

end TextCase

end SyntaxEdit
