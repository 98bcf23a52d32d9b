import SyntaxEdit.Binary64.Shortest

namespace SyntaxEdit

inductive JsonNumber where
  | int (value : Int)
  | float (negative : Bool) (magnitude : Binary64)
  deriving DecidableEq, Repr

inductive JsonValue where
  | null
  | bool (b : Bool)
  | num (n : JsonNumber)
  | str (s : String)
  | arr (items : List JsonValue)
  | obj (members : List (String × JsonValue))
  deriving Repr

namespace JsonNumber

def digits (n : Nat) : List Char := (toString n).toList

/-- The text of the decimal `d * 10 ^ k`, `d` having no zero at its end: plain digits with `.0`
when the value is integral and below `10 ^ 17`, a decimal point within the digits when it falls
there, leading zeros for magnitudes down to `1e-5`, and scientific notation otherwise. -/
def decimalText (d : Nat) (k : Int) : String :=
  let ds := digits d
  let kk := (ds.length : Int) + k
  let body : List Char :=
    if 0 ≤ k && kk ≤ 16 then ds ++ List.replicate k.toNat '0' ++ ".0".toList
    else if 0 < kk && kk ≤ 16 then ds.take kk.toNat ++ ['.'] ++ ds.drop kk.toNat
    else if -5 < kk && kk ≤ 0 then "0.".toList ++ List.replicate (-kk).toNat '0' ++ ds
    else
      let exp := (toString (kk - 1)).toList
      match ds with
      | [c] => [c, 'e'] ++ exp
      | c :: rest => [c, '.'] ++ rest ++ ['e'] ++ exp
      | [] => []
  String.ofList body

/-- The text of a float: its shortest decimal, and `0.0` for zero, with a minus sign when it is
negative. -/
def floatText (negative : Bool) (x : Binary64) : String :=
  let sign := if negative then "-" else ""
  if x.isZero then sign ++ "0.0"
  else
    let (d, k) := x.shortest
    sign ++ decimalText d k

def render : JsonNumber → String
  | .int i => toString i
  | .float n x => floatText n x

end JsonNumber

namespace JsonValue

def hexDigit (n : Nat) : Char :=
  if n < 10 then Char.ofNat (48 + n) else Char.ofNat (87 + n)

/-- A character as it stands inside a JSON string: quotes, backslashes and control characters
escaped, everything else as it is. -/
def escapeChar (c : Char) : List Char :=
  if c == '"' then ['\\', '"']
  else if c == '\\' then ['\\', '\\']
  else if c == '\n' then ['\\', 'n']
  else if c == '\r' then ['\\', 'r']
  else if c == '\t' then ['\\', 't']
  else if c.toNat == 8 then ['\\', 'b']
  else if c.toNat == 12 then ['\\', 'f']
  else if c.toNat < 32 then ['\\', 'u', '0', '0', hexDigit (c.toNat / 16), hexDigit (c.toNat % 16)]
  else [c]

def quote (s : String) : String :=
  "\"" ++ String.ofList (s.toList.flatMap escapeChar) ++ "\""

mutual

def render : JsonValue → String
  | .null => "null"
  | .bool b => if b then "true" else "false"
  | .num n => n.render
  | .str s => quote s
  | .arr items => "[" ++ renderItems items ++ "]"
  | .obj members => "\x7b" ++ renderMembers members ++ "\x7d"

def renderItems : List JsonValue → String
  | [] => ""
  | [v] => render v
  | v :: vs => render v ++ "," ++ renderItems vs

def renderMembers : List (String × JsonValue) → String
  | [] => ""
  | [(k, v)] => quote k ++ ":" ++ render v
  | (k, v) :: ms => quote k ++ ":" ++ render v ++ "," ++ renderMembers ms

end

def lookup (ms : List (String × JsonValue)) (k : String) : Option JsonValue :=
  ms.foldl (fun acc m => if m.1 == k then some m.2 else acc) none

def get? : JsonValue → String → Option JsonValue
  | .obj ms, k => lookup ms k
  | _, _ => none

def mergeMembers (ms : List (String × JsonValue)) : List (String × JsonValue) :=
  let names := (ms.map (·.1)).mergeSort (fun a b => decide (a ≤ b))
  (names.eraseDups).filterMap fun k => (lookup ms k).map fun v => (k, v)

mutual

/-- The value as a map-backed reader holds it: every object with its members merged
(`mergeMembers`), all the way down. -/
def canonical : JsonValue → JsonValue
  | .arr items => .arr (canonicalItems items)
  | .obj members => .obj (mergeMembers (canonicalMembers members))
  | v => v

def canonicalItems : List JsonValue → List JsonValue
  | [] => []
  | v :: vs => canonical v :: canonicalItems vs

def canonicalMembers : List (String × JsonValue) → List (String × JsonValue)
  | [] => []
  | (k, v) :: ms => (k, canonical v) :: canonicalMembers ms

end

end JsonValue

end SyntaxEdit
