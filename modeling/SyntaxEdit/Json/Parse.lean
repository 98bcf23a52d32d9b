import SyntaxEdit.Json.Value

namespace SyntaxEdit.JsonValue

abbrev Scan := StateT (List Char) Option

def isSpace (c : Char) : Bool := c == ' ' || c == '\t' || c == '\n' || c == '\r'

def ws : Scan Unit := modify (·.dropWhile isSpace)

def peekChar : Scan (Option Char) := do return (← get).head?

def eat (c : Char) : Scan Bool := do
  match ← get with
  | d :: rest => if d == c then set rest; return true else return false
  | [] => return false

def expectWord (w : String) : Scan Unit := do
  let cs ← get
  if w.toList.isPrefixOf cs then set (cs.drop w.length) else failure

def hexValue (c : Char) : Option Nat :=
  if c.isDigit then some (c.toNat - 48)
  else if 'a' ≤ c && c ≤ 'f' then some (c.toNat - 87)
  else if 'A' ≤ c && c ≤ 'F' then some (c.toNat - 55)
  else none

def hex4 : Scan Nat := do
  match ← get with
  | a :: b :: c :: d :: rest =>
    let n ← [a, b, c, d].foldlM (fun acc x => (hexValue x).map (acc * 16 + ·)) 0
    set rest
    return n
  | _ => failure

def simpleEscape : Char → Option Char
  | '"' => some '"'
  | '\\' => some '\\'
  | '/' => some '/'
  | 'b' => some (Char.ofNat 8)
  | 'f' => some (Char.ofNat 12)
  | 'n' => some '\n'
  | 'r' => some '\r'
  | 't' => some '\t'
  | _ => none

/-- The character of a `\u` escape, reading the low half of a surrogate pair when the first
escape is a high half. -/
def unicodeEscape : Scan Char := do
  let n ← hex4
  if 0xD800 ≤ n && n < 0xDC00 then
    if !(← eat '\\') then failure
    if !(← eat 'u') then failure
    let lo ← hex4
    if 0xDC00 ≤ lo && lo < 0xE000 then
      return Char.ofNat (0x10000 + (n - 0xD800) * 0x400 + (lo - 0xDC00))
    else failure
  else if 0xDC00 ≤ n && n < 0xE000 then failure
  else return Char.ofNat n

def stringRest : Nat → List Char → Scan String
  | 0, _ => failure
  | fuel + 1, acc => do
    match ← get with
    | [] => failure
    | c :: rest =>
      set rest
      if c == '"' then return String.ofList acc.reverse
      else if c == '\\' then
        match ← get with
        | 'u' :: more =>
          set more
          stringRest fuel ((← unicodeEscape) :: acc)
        | e :: more =>
          match simpleEscape e with
          | some x => set more; stringRest fuel (x :: acc)
          | none => failure
        | [] => failure
      else if c.toNat < 0x20 then failure
      else stringRest fuel (c :: acc)

def digitRun : Scan (List Char) := do
  let cs ← get
  set (cs.dropWhile Char.isDigit)
  return cs.takeWhile Char.isDigit

def digitValue (c : Char) : Nat := c.toNat - 48

def u64Max : Nat := Nat.pow 2 64 - 1

def i32Max : Int := 2147483647

def clampExponent (e : Int) : Int := max (-i32Max - 1) (min i32Max e)

/-- Appends digits to a significand while it stays within 64 bits; returns the significand and
the digits from the first that did not fit on, all of which are dropped. -/
def fitDigits : Nat → List Nat → Nat × List Nat
  | s, [] => (s, [])
  | s, d :: ds => if s * 10 + d ≤ u64Max then fitDigits (s * 10 + d) ds else (s, d :: ds)

def exponentValue : Int → List Nat → Option Int
  | v, [] => some v
  | v, d :: ds => if v * 10 + d > i32Max then none else exponentValue (v * 10 + d) ds

/-- `x * 10 ^ e` by one rounded multiplication or division by the float nearest to `10 ^ |e|`.
Beyond `10 ^ 308` a negative exponent is taken in steps of `1e308` until the value vanishes,
and a positive one overflows unless the value is zero. Overflow is none. -/
def timesTenPow : Nat → Binary64 → Int → Option Binary64
  | 0, x, _ => some x
  | fuel + 1, x, e =>
    if e.natAbs ≤ 308 then do
      let p ← Binary64.pow10 e.natAbs
      if 0 ≤ e then x.mul p else x.div p
    else if x.isZero then some x
    else if 0 ≤ e then none
    else do
      let p ← Binary64.pow10 308
      timesTenPow fuel (← x.div p) (e + 308)

def floatOfParts (negative : Bool) (s : Nat) (e : Int) : Scan JsonNumber :=
  match (Binary64.ofNat s).bind (timesTenPow 8 · e) with
  | some x => pure (.float negative x)
  | none => failure

/-- A number. An integer literal in `[-2 ^ 63, 2 ^ 64)` stays an integer, except `-0`; any other
number is a float, read from the first digits that fit a 64-bit significand, the digits after
them dropped, and scaled by the power of ten that the point and the exponent give. -/
def number : Scan JsonNumber := do
  let neg ← eat '-'
  let whole ← digitRun
  match whole with
  | [] => failure
  | '0' :: _ :: _ => failure
  | _ => pure ()
  let frac ← if ← eat '.' then do
      let f ← digitRun
      if f.isEmpty then failure
      pure (some f)
    else pure none
  let exp ← if (← eat 'e') || (← eat 'E') then do
      let expNeg ← if ← eat '-' then pure true else do let _ ← eat '+'; pure false
      let ds ← digitRun
      if ds.isEmpty then failure
      pure (some (expNeg, ds.map digitValue))
    else pure none
  let (s₁, spill) := fitDigits 0 (whole.map digitValue)
  match frac, exp with
  | none, none =>
    if !spill.isEmpty then floatOfParts neg s₁ spill.length
    else if !neg then return .int s₁
    else if s₁ == 0 then return .float true Binary64.zero
    else if s₁ ≤ Nat.pow 2 63 then return .int (-(s₁ : Int))
    else floatOfParts true s₁ 0
  | _, _ =>
    let fd := (frac.getD []).map digitValue
    let (s, left) := fitDigits s₁ fd
    let start : Int := (spill.length : Int) - (fd.length - left.length : Nat)
    match exp with
    | none => floatOfParts neg s start
    | some (expNeg, ds) =>
      match exponentValue 0 ds with
      | none => if s != 0 && !expNeg then failure else return .float neg Binary64.zero
      | some v => floatOfParts neg s (clampExponent (if expNeg then start - v else start + v))

mutual

def value : Nat → Nat → Scan JsonValue
  | 0, _ => failure
  | fuel + 1, depth => do
    ws
    match ← peekChar with
    | some '\x7b' =>
      let _ ← eat '\x7b'
      if depth ≤ 1 then failure
      ws
      if ← eat '\x7d' then return .obj []
      return .obj (← membersRest fuel (depth - 1))
    | some '[' =>
      let _ ← eat '['
      if depth ≤ 1 then failure
      ws
      if ← eat ']' then return .arr []
      return .arr (← itemsRest fuel (depth - 1))
    | some '"' =>
      let _ ← eat '"'
      return .str (← stringRest (← get).length [])
    | some 't' => expectWord "true"; return .bool true
    | some 'f' => expectWord "false"; return .bool false
    | some 'n' => expectWord "null"; return .null
    | some c => if c == '-' || c.isDigit then return .num (← number) else failure
    | none => failure

def itemsRest : Nat → Nat → Scan (List JsonValue)
  | 0, _ => failure
  | fuel + 1, depth => do
    let v ← value fuel depth
    ws
    if ← eat ',' then return v :: (← itemsRest fuel depth)
    if ← eat ']' then return [v]
    failure

def membersRest : Nat → Nat → Scan (List (String × JsonValue))
  | 0, _ => failure
  | fuel + 1, depth => do
    ws
    if !(← eat '"') then failure
    let k ← stringRest (← get).length []
    ws
    if !(← eat ':') then failure
    let v ← value fuel depth
    ws
    if ← eat ',' then return (k, v) :: (← membersRest fuel depth)
    if ← eat '\x7d' then return [(k, v)]
    failure

end

def depthLimit : Nat := 128

def parse (s : String) : Option JsonValue :=
  let cs := s.toList
  match (value (2 * cs.length + 2) depthLimit <* ws).run cs with
  | some (v, []) => some v
  | _ => none

end SyntaxEdit.JsonValue
