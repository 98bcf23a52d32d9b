import SyntaxEdit.Json.Parse

namespace SyntaxEdit.JsonValue

/-- Checks the rest of a string after its opening quote: escapes must be well formed, a `\u`
escape any four hexadecimal digits, and no raw control character may stand in it. -/
def skimString : Nat → Scan Unit
  | 0 => failure
  | fuel + 1 => do
    match ← get with
    | [] => failure
    | c :: rest =>
      set rest
      if c == '"' then return ()
      else if c == '\\' then
        match ← get with
        | 'u' :: more =>
          set more
          let _ ← hex4
          skimString fuel
        | e :: more =>
          if (simpleEscape e).isNone then failure
          set more
          skimString fuel
        | [] => failure
      else if c.toNat < 0x20 then failure
      else skimString fuel

/-- Checks a number's form: a sign, digits without a leading zero, an optional fraction and
an optional exponent, each with at least one digit. Its value is not computed. -/
def skimNumber : Scan Unit := do
  let _ ← eat '-'
  match ← digitRun with
  | [] => failure
  | '0' :: _ :: _ => failure
  | _ => pure ()
  if ← eat '.' then
    if (← digitRun).isEmpty then failure
  if (← eat 'e') || (← eat 'E') then
    if !(← eat '-') then
      let _ ← eat '+'
    if (← digitRun).isEmpty then failure

mutual

def skimValue : Nat → Scan Unit
  | 0 => failure
  | fuel + 1 => do
    ws
    match ← peekChar with
    | some '\x7b' =>
      let _ ← eat '\x7b'
      ws
      if ← eat '\x7d' then return ()
      skimMembers fuel
    | some '[' =>
      let _ ← eat '['
      ws
      if ← eat ']' then return ()
      skimItems fuel
    | some '"' =>
      let _ ← eat '"'
      skimString (← get).length
    | some 't' => expectWord "true"
    | some 'f' => expectWord "false"
    | some 'n' => expectWord "null"
    | some c => if c == '-' || c.isDigit then skimNumber else failure
    | none => failure

def skimItems : Nat → Scan Unit
  | 0 => failure
  | fuel + 1 => do
    skimValue fuel
    ws
    if ← eat ',' then return ← skimItems fuel
    if ← eat ']' then return ()
    failure

def skimMembers : Nat → Scan Unit
  | 0 => failure
  | fuel + 1 => do
    ws
    if !(← eat '"') then failure
    skimString (← get).length
    ws
    if !(← eat ':') then failure
    skimValue fuel
    ws
    if ← eat ',' then return ← skimMembers fuel
    if ← eat '\x7d' then return ()
    failure

end

/-- The members of a record object up to its closing brace: each name is read strictly, the
value of a name in `known` strictly with `depth` levels of nesting allowed, and any other
value only checked and left out. -/
def recordMembers (known : List String) (depth : Nat) :
    Nat → Scan (List (String × JsonValue))
  | 0 => failure
  | fuel + 1 => do
    ws
    if !(← eat '"') then failure
    let k ← stringRest (← get).length []
    ws
    if !(← eat ':') then failure
    let kept ← if known.contains k then
        pure [(k, ← value (2 * (← get).length + 2) depth)]
      else
        skimValue (2 * (← get).length + 2)
        pure []
    ws
    if ← eat ',' then return kept ++ (← recordMembers known depth fuel)
    if ← eat '\x7d' then return kept
    failure

/-- Reads a whole text as a record whose reader knows the members `known`: an object keeps
only those members, read strictly, after checking that the others are JSON; any other value
is read strictly as by `parse`. -/
def parseRecord (known : List String) (s : String) : Option JsonValue :=
  let cs := s.toList
  let record : Scan JsonValue := do
    ws
    if ← eat '\x7b' then
      ws
      if ← eat '\x7d' then return .obj []
      return .obj (← recordMembers known (depthLimit - 1) (cs.length + 1))
    else value (2 * cs.length + 2) depthLimit
  match (record <* ws).run cs with
  | some (v, []) => some v
  | _ => none

end SyntaxEdit.JsonValue
