import SyntaxEdit.Syntax.Script.Types
import SyntaxEdit.Syntax.Script.Words

namespace SyntaxEdit.Syntax.Script

open P Words

/-- Where an expression stands: whether a statement may end right after it, and whether `in`
is an operator there. -/
structure Ctx where
  asi : Bool
  allowIn : Bool

def Ctx.inner : Ctx := ⟨false, true⟩

def Ctx.statement : Ctx := ⟨true, true⟩

def assignable : List String :=
  ["identifier", "member_expression", "subscript_expression", "parenthesized_expression",
   "non_null_expression", "object", "array", "undefined", "object_pattern", "array_pattern"]

def augmentable : List String :=
  ["identifier", "member_expression", "subscript_expression", "parenthesized_expression",
   "non_null_expression"]

def patternKind : String → String
  | "array" => "array_pattern"
  | "object" => "object_pattern"
  | "shorthand_property_identifier" => "shorthand_property_identifier_pattern"
  | "pair" => "pair_pattern"
  | "spread_element" => "rest_pattern"
  | "assignment_expression" => "assignment_pattern"
  | k => k

def toPattern : Cst → Cst
  | .node k n e f s t cs =>
    if k == "array" || k == "object" || k == "pair" || k == "spread_element" ||
        k == "shorthand_property_identifier" || k == "assignment_expression" then
      .node (patternKind k) n e f s t (cs.map toPattern)
    else .node k n e f s t cs

def valueWord (w : String) : Bool := !statementWords.contains w

/-- Whether a word followed by a colon labels a statement: any word that may name a value, and
the words `let` and `export`, but never `yield` or `await`, which are always operators, nor,
in typed scripts, the words that open a declaration there. -/
def labelWord (d : Dialect) (w : String) : Bool :=
  (valueWord w || w == "export") && !(["yield", "await"].contains w) &&
    !(d.types && ["interface", "enum", "abstract"].contains w)

/-- Where a regular expression starting at `i` ends: at its closing slash and flags, or, when a
line feed breaks its body and the next line holds a word right before a slash, after that slash
and its flags; the broken part stays inside the literal. -/
def regexSpan (s : Source) (i : Nat) : Option Nat :=
  match regexEnd s s.size (i + 1) false with
  | some e => some e
  | none =>
    match regexBreak s s.size (i + 1) false with
    | some k =>
      let j := scanWhile s isSpace s.size k
      let w := wordEnd s s.size j
      if w > j && s.isAt w '/' then
        some (scanWhile s (fun d => 'a' ≤ d && d ≤ 'z') s.size (w + 1))
      else none
    | none => none

/-- A value whose operator lacks its right operand, as the operand before that operator with
the operator kept as skipped text. A closing brace ends an object's value only once the value is
complete, so there an operator is dropped rather than given a missing operand. -/
def dropMissingOperand : Cst → Cst
  | .node "binary_expression" n x f s t [l, o, r] =>
    if r.named && r.start == r.stop then
      l.withExtra false (Cst.node "ERROR" true true none o.start o.stop [o])
    else .node "binary_expression" n x f s t [l, o, r]
  | c => c

/-- Whether a statement `st` read from token `t`, followed by the token `after`, holds past the
token after `t`: no error or missing token stands within its first two tokens, and where it is
one token long, what follows it can end the list or start the next statement. A missing
semicolon before `t` costs more than giving up `t`, but less than giving up two tokens, so it
stands only where the statement after it holds that far. -/
def holdsPast (s : Source) (t : Token) (st : Cst) (after : Token) : Bool :=
  let second := scan s t.stop
  let clean := match st.firstFault with
    | some f => f ≥ s.byte second.stop
    | none => true
  clean && (st.stop > s.byte t.stop || after.kind == .eof ||
    (after.kind == .punct && after.text == "\x7d") || startsStatement after)

/-- Whether a statement probed from token `t` holds past the token after `t`: read whole, it
holds as `holdsPast` says; stuck, it holds where it got stuck only after that token, and where
that was the end of the source, only when a third token came before it. -/
def probeHolds (s : Source) (t : Token) : Except Stuck (Cst × Token) → Bool
  | .ok (st, after) => holdsPast s t st after
  | .error e =>
    let second := scan s t.stop
    if e.atEnd then (scan s second.stop).kind != .eof else e.pos ≥ second.stop

/-- What a declaration ends in, given its declarators: the last one's value, its type, or
its name or pattern. -/
def declaratorTail (ds : List Cst) : Tail :=
  match ds.getLast? with
  | some d =>
    if d.children.any (·.kind == "=") then .expression
    else if d.children.getLast?.any (·.kind == "type_annotation") then .type
    else .other
  | none => .other

def fieldTail (f : Cst) : Tail :=
  if f.children.any (·.field == some "value") then .expression
  else if f.children.getLast?.any (·.kind == "type_annotation") then .type
  else .other

/-- Skips tokens that start no expression, short of a closing bracket, a comma, a semicolon or
the end, and gives them back. -/
def skipToExpression : Nat → P (List Cst)
  | 0 => stuck
  | n + 1 => do
    let t ← peek
    if startsExpression t then return []
    if t.kind == .eof || (← at? ";") || (← atCloser) then stuck
    let c ← bump
    return c :: (← skipToExpression n)

/-- Skips tokens up to one that can start an expression and gives them back; gets stuck at the
end. -/
def skipUntilExpression : Nat → P (List Cst)
  | 0 => stuck
  | n + 1 => do
    let t ← peek
    if t.kind == .eof then stuck
    if startsExpression t then return []
    let c ← bump
    return c :: (← skipUntilExpression n)

inductive ListKind where
  | arrayPattern
  | objectPattern
  | array
  | object
  | arguments

/-- Whether the token after the operator word `kw` cannot follow it and stands before an
operand: an equals sign, as the word names no value, or a colon where the word starts a
statement, as it labels none. -/
def junkAfter (kw : Token) : P Bool := do
  let s ← src
  let j := scan s kw.stop
  let start := (scan s (← read).statementStart).start
  return j.kind == .punct && startsExpression (scan s j.stop) &&
    (j.text == "=" || (j.text == ":" && kw.start == start))

/-- Right after the operator word `kw`, the token that cannot follow it (`junkAfter`), given up
as an error. -/
def operatorJunk (kw : Token) : P (List Cst) := do
  if ← junkAfter kw then return [← skipError] else return []

def tokensBefore (s : Source) : Nat → Nat → Nat → Nat × Nat
  | 0, i, _ => (0, i)
  | fuel + 1, i, stop =>
    let t := scan s i
    if t.kind == .eof || t.start ≥ stop then (0, i)
    else
      let (k, e) := tokensBefore s fuel t.stop stop
      (k + 1, if k == 0 then t.stop else e)

def bracesOpen (s : Source) : Nat → Nat → Nat → Nat → Nat
  | 0, _, _, d => d
  | fuel + 1, i, stop, d =>
    let t := scan s i
    if t.kind == .eof || t.start ≥ stop then d
    else if t.kind == .punct && t.text == "\x7b" then bracesOpen s fuel t.stop stop (d + 1)
    else if t.kind == .punct && t.text == "\x7d" then bracesOpen s fuel t.stop stop (d - 1)
    else bracesOpen s fuel t.stop stop d

/-- Skips tokens after a token skipped from `start` on, up to a semicolon or a place where the
statement may end, and gives them back: the end of the source does not end the statement, and
a closing brace whose opening brace was skipped is skipped as well. -/
def skipToStatementEnd (start : Nat) : Nat → P (List Cst)
  | 0 => stuck
  | fuel + 1 => do
    let t ← peek
    let s ← src
    if t.kind == .eof then stuck
    if ← at? ";" then return [← bump]
    let held := t.kind == .punct && t.text == "\x7d" && bracesOpen s s.size start t.start 0 > 0
    if !held && (← canEnd .expression) then return []
    let e ← skipError
    return e :: (← skipToStatementEnd start fuel)

def numberBeforeTag (s : Source) : Nat → Nat → Bool
  | 0, _ => false
  | fuel + 1, i =>
    let t := scan s i
    if t.kind == .eof || (t.kind == .punct && (t.text == "<" || t.text == "\x7b")) then false
    else t.kind == .number || numberBeforeTag s fuel t.stop

/-- The words that plain script syntax spells as keywords. Among tokens skipped as an error
they are keywords even where a name could stand. -/
def scriptKeywords : List String :=
  ["as", "async", "await", "break", "case", "catch", "class", "const", "continue", "debugger",
   "default", "delete", "do", "else", "export", "extends", "false", "finally", "for", "from",
   "function", "get", "if", "import", "in", "instanceof", "let", "new", "null", "of", "return",
   "set", "static", "super", "switch", "target", "this", "throw", "true", "try", "typeof",
   "undefined", "var", "void", "while", "with", "yield"]

/-- Whether a member of a plain class can start at a token met while skipping an error: a word
that is no keyword, or a modifier, a string, a number, a private name, a computed name, a
generator's star or a decorator. -/
def resumesMember (t : Token) : Bool :=
  match t.kind with
  | .word => !scriptKeywords.contains t.text || ["get", "set", "static", "async"].contains t.text
  | .string | .number | .privateName => true
  | .punct => ["[", "*", "@"].contains t.text
  | _ => false

def wordRun (s : Source) : Nat → Nat → Nat × Nat
  | 0, i => (0, i)
  | fuel + 1, i =>
    let t := scan s i
    if t.kind == .word then
      let (k, e) := wordRun s fuel t.stop
      (k + 1, if k == 0 then t.stop else e)
    else (0, i)

def skipUntil : Nat → (Token → Bool) → P (List Cst)
  | 0, _ => return []
  | n + 1, stop => do
    let t ← peek
    if t.kind == .eof || stop t then return []
    let e ← skipError
    return e :: (← skipUntil n stop)

def skipTokens : Nat → P (List Cst)
  | 0 => return []
  | k + 1 => do
    let e ← skipError
    return e :: (← skipTokens k)

/-- Takes tokens up to the closing brace at `depth` zero, or after the block that a brace at
depth zero opens, and gives them back; gets stuck at the end. Round, square and curly brackets
open and close depths. -/
def skipBalanced : Nat → Nat → P (List Cst)
  | 0, _ => stuck
  | n + 1, depth => do
    let t ← peek
    if t.kind == .eof then stuck
    let closes := t.kind == .punct && [")", "]", "\x7d"].contains t.text
    let opens := t.kind == .punct && ["(", "[", "\x7b"].contains t.text
    if depth == 0 && closes then return []
    let c ← bump
    if closes && depth == 1 && t.text == "\x7d" then return [c]
    return c :: (← skipBalanced n (if opens then depth + 1 else if closes then depth - 1 else depth))

/-- Takes the bracketed group that opens at the next token, brackets of all kinds nesting in it,
and gives its tokens back; gets stuck at the end. -/
def skipGroup : Nat → Nat → P (List Cst)
  | 0, _ => stuck
  | n + 1, depth => do
    let t ← peek
    if t.kind == .eof then stuck
    let c ← bump
    let depth := if t.kind == .punct && ["(", "[", "\x7b"].contains t.text then depth + 1
      else if t.kind == .punct && [")", "]", "\x7d"].contains t.text then depth - 1
      else depth
    if depth == 0 then return [c]
    return c :: (← skipGroup n depth)

/-- Where the opening brace stands that the tokens from `i` on reach before a semicolon, a
closing brace, `=` or the end, if they reach one. -/
def braceAhead (s : Source) : Nat → Nat → Option Nat
  | 0, _ => none
  | fuel + 1, i =>
    let t := scan s i
    if t.kind == .eof then none
    else if t.kind == .punct && t.text == "\x7b" then some t.start
    else if t.kind == .punct && [";", "\x7d", "="].contains t.text then none
    else braceAhead s fuel t.stop

/-- Where the angle brackets that open at the token from `i` close, `depth` of them being open
before it: the end of the closing token, or none where a semicolon, a brace or the end comes
first. -/
def angleGroupEnd (s : Source) : Nat → Nat → Nat → Option Nat
  | 0, _, _ => none
  | fuel + 1, i, depth =>
    let t := scan s i
    if t.kind == .eof || (t.kind == .punct && [";", "\x7b", "\x7d"].contains t.text) then none
    else
      let opens := if t.kind == .punct && t.text == "<" then 1 else 0
      let closes := if t.kind == .punct && t.text.all (· == '>') then t.text.length else 0
      if closes > 0 && closes ≥ depth then some t.stop
      else angleGroupEnd s fuel t.stop (depth + opens - closes)

def junkUntil (e : Nat) : P (List Cst) := do
  let s ← src
  let t ← peek
  let k := (tokensBefore s s.size t.start e).1
  if k == 0 then return []
  let junk ← skipTokens k
  return [Cst.node "ERROR" true true none ((junk.head?.map (·.start)).getD 0)
    ((junk.getLast?.map (·.stop)).getD 0) junk]

/-- In a plain script, type parameters `<...>` written where `follows` accepts the token after
them, which are an error. -/
def plainTypeParameters (follows : Token → Bool) : P (List Cst) := do
  let s ← src
  let t ← peek
  if (← dialect).types || !(t.kind == .punct && t.text == "<") then return []
  match angleGroupEnd s s.size t.stop 1 with
  | some e => if follows (scan s e) then junkUntil e else return []
  | none => return []

/-- In a plain script, what stands between the head of a class and its body, such as an
`implements` clause, is an error. -/
def plainClassJunk : P (List Cst) := do
  let s ← src
  let t ← peek
  if (← dialect).types || (t.kind == .punct && t.text == "\x7b") then return []
  match braceAhead s s.size t.start with
  | some b => junkUntil b
  | none => return []

/-- In a plain script, a return type written after the parameters of a function, which is an
error: before a body, the colon and everything up to the body's brace; before the arrow of an
arrow function, the colon and one word. -/
def plainReturnType (beforeArrow : Bool) : P (List Cst) := do
  let s ← src
  let t ← peek
  if (← dialect).types || !(t.kind == .punct && t.text == ":") then return []
  let t2 ← peek2
  let k := if beforeArrow then
      if t2.kind == .word && (scan s t2.stop).text == "=>" then 2 else 0
    else
      match braceAhead s s.size t.stop with
      | some b => (tokensBefore s s.size t.start b).1
      | none => 0
  if k == 0 then return []
  let junk ← skipTokens k
  return [Cst.node "ERROR" true true none ((junk.head?.map (·.start)).getD 0)
    ((junk.getLast?.map (·.stop)).getD 0) junk]

/-- Words after the name of a class member that the member cannot go on with, where one of the
tokens `goOn` follows them: they are given up as errors where that costs less than ending a
member of each word's name with a missing semicolon, and none are where the member may end
before them. -/
def strayWords (goOn : List String) : P (List Cst) := do
  let s ← src
  let i ← get
  if (leftOutAt s (← dialect).types .other s.size i).isSome then return []
  let first := scan s i
  let (k, e) := wordRun s s.size i
  let next := scan s e
  if k > 0 && next.kind == .punct && goOn.contains next.text &&
      errorCost s k (s.byte first.start) (s.byte e) < missingCost * k then
    skipTokens k
  else return []

mutual

/-- Statements up to one of the tokens `stops` or the end; a statement that cannot be read
gives up its first token as an error. Where that statement was read in part, the error stays
open: a statement read after it from which the list cannot go on is given up as well, since
keeping it costs more than skipping on. Where a statement begins, `<!--` and `-->` open comments
that run to the end of the line. `opening` is where the list began, as long as no statement
of it has been read: what is given up as an error leaves the list where it was, and it then
begins again after the error. -/
def statements : Nat → List String → Option Nat → P (List Cst)
  | 0, _, _ => stuck
  | n + 1, stops, opening => do
    let t ← peek
    let s ← src
    if s.hasAt t.start "<!--" || s.hasAt t.start "-->" then
      set (scanWhile s (!isLineBreak ·) s.size t.start)
      return ← statements n stops opening
    if t.kind == .eof || ((t.kind == .punct || t.kind == .word) && stops.contains t.text) then
      return []
    -- a line #!... ends the statements of a script, which decides what it is
    if stops.isEmpty && s.hasAt t.start "#!" then return []
    let here ← get
    let recovering := (← read).recovering
    let env := fun e => { e with opening := opening, statementStart := here, recovering := false }
    match ← attemptE (withReader env (statement n)) with
    | .ok s =>
      let t ← peek
      -- right after an error, a statement that the list cannot go on from is skipped as well
      if recovering && s.kind != "ERROR" &&
          !(t.kind == .eof || stops.contains t.text || startsStatement t) then
        set here
        let err ← skipError
        return err :: (← statements n stops (some (← get)))
      -- after an error the list stands where it stood before, from the end of the error on
      let here ← get
      if s.kind == "ERROR" then return s :: (← statements n stops (some here))
      return s :: (← withReader (fun e => { e with recovering := false }) (statements n stops none))
    | .error e =>
      if e.atEnd then return [← restAsError]
      -- an error region that gives up a statement read in part stays open until a statement
      -- holds after it
      let stillOpen := recovering || e.pos > t.start
      let err ← skipError
      return err :: (← withReader (fun e => { e with recovering := stillOpen })
        (statements n stops (some (← get))))

def statement : Nat → P Cst
  | 0 => stuck
  | n + 1 => do
    let t ← peek
    let d ← dialect
    if t.kind == .punct then
      match t.text with
      | "\x7b" => statementBlock n
      | ";" => mk "empty_statement" [← bump]
      | "@" =>
        let ds ← decorators n
        if ← at? "export" then exportStatement n ds else classDeclaration n ds
      | _ => expressionStatement n
    else if t.kind == .word then
      let t2 ← peek2
      if t2.kind == .punct && t2.text == ":" && labelWord d t.text then
        let l ← bumpAs "statement_identifier"
        let colon ← bump
        let b ← body n
        return ← mk "labeled_statement" [l.inField "label", colon, b.inField "body"]
      match t.text with
      | "if" => ifStatement n
      | "for" => forStatement n
      | "while" =>
        let kw ← bump
        let c ← parenthesized n
        let b ← body n
        mk "while_statement" [kw, c.inField "condition", b.inField "body"]
      | "do" =>
        let kw ← bump
        let b ← statement n
        let w ← expect "while"
        let c ← parenthesized n
        let semi ← if ← at? ";" then pure [← bump] else pure []
        mk "do_statement" ([kw, b.inField "body", w, c.inField "condition"] ++ semi)
      | "try" => tryStatement n
      | "switch" =>
        let kw ← bump
        let v ← parenthesized n
        let body ← switchBody n
        mk "switch_statement" [kw, v.inField "value", body.inField "body"]
      | "return" =>
        let kw ← bump
        let e ← if (← at? ";") || (← canEnd .other) then pure [] else
          match ← attempt (expressions n Ctx.statement) with
          | some e => pure [e]
          | none =>
            if (← peek).kind == .punct && startsExpression (← peek2) then
              let err ← skipError
              pure [(← expressions n Ctx.statement).withExtra true err]
            else stuck
        let semi ← semicolonOrSkip n (if e.isEmpty then .other else .expression)
        mk "return_statement" ([kw] ++ e ++ semi)
      | "throw" =>
        let kw ← bump
        let e ← expressions n Ctx.statement
        mk "throw_statement" ([kw, e] ++ (← semicolonOrSkip n .expression))
      | "break" | "continue" =>
        let kw ← bump
        let l ← if (← peek).kind == .word && !(← canEnd .other) then
            pure [(← bumpAs "statement_identifier").inField "label"]
          else pure []
        mk (t.text ++ "_statement") ([kw] ++ l ++ (← semicolonOrSkip n .other))
      | "debugger" =>
        let kw ← bump
        mk "debugger_statement" ([kw] ++ (← semicolonOrSkip n .other))
      | "with" =>
        let kw ← bump
        let o ← parenthesized n
        let b ← body n
        mk "with_statement" [kw, o.inField "object", b.inField "body"]
      | "var" => variableDeclaration n "var" Ctx.statement
      | "let" =>
        -- a line break after the word ends it as a name where a statement may end there
        let s ← src
        let t3 := scan s t2.stop
        if !d.types && t2.kind == .word && t3.kind == .punct && t3.text == ":" then
          if let some st ← letBeforeColon n then return st
          set t.start
        if (t2.kind == .word || t2.text == "[" || t2.text == "\x7b") &&
            (leftOutAt s d.types .expression s.size t.stop).isNone && (← read).nameAt != some t.start then
          wordOrName n (variableDeclaration n "let" Ctx.statement)
        else expressionStatement n
      | "const" =>
        if d.types && t2.text == "enum" then enumDeclaration n
        else variableDeclaration n "const" Ctx.statement
      | "function" =>
        if t2.kind == .word || t2.text == "*" then functionDeclaration n else expressionStatement n
      | "async" =>
        let t3 := scan (← src) t2.stop
        if t2.text == "function" && !t2.newlineBefore && (t3.kind == .word || t3.text == "*") then
          functionDeclaration n
        else expressionStatement n
      | "class" =>
        let c ← classDeclaration n []
        if (c.children.getLast?.bind (·.children.getLast?)).any (fun b => b.start == b.stop) then
          mk "expression_statement" [c.rename "class"]
        else return c
      | "export" => wordOrName n (exportStatement n [])
      | "import" =>
        if t2.text == "(" || t2.text == "." then expressionStatement n else importStatement n
      | "interface" =>
        if d.types && t2.kind == .word then interfaceDeclaration n else expressionStatement n
      | "type" =>
        if d.types && t2.kind == .word && !t2.newlineBefore then typeAliasDeclaration n
        else expressionStatement n
      | "enum" => if d.types && t2.kind == .word then enumDeclaration n else expressionStatement n
      | "declare" =>
        if d.types && t2.kind == .word && !t2.newlineBefore then
          let kw ← bump
          let inner ← if (← at? "global") then
              let g ← bump
              pure [g, ← statementBlock n]
            else pure [← declaration n]
          mk "ambient_declaration" ([kw] ++ inner)
        else expressionStatement n
      | "module" =>
        if d.types && (t2.kind == .word || t2.kind == .string) && !t2.newlineBefore then
          moduleDeclaration n "module"
        else expressionStatement n
      | "abstract" =>
        if d.types && t2.text == "class" then classDeclaration n [] else expressionStatement n
      | _ =>
        if t.text == "case" then
          let l ← bumpAs "statement_identifier"
          let junk ← skipTo n ":"
          let colon ← bump
          let b ← body n
          mk "labeled_statement" ([l.inField "label"] ++ junk ++ [colon, b.inField "body"])
        else expressionStatement n
    else expressionStatement n

/-- The statement that is the body of another; at the end of the source it is an empty statement
whose semicolon is missing. Markup comments may stand before it. -/
def body : Nat → P Cst
  | 0 => stuck
  | n + 1 => do
    let s ← src
    set (markupCommentsEnd s s.size (← get))
    if (← peek).kind == .eof then mk "empty_statement" [← missing ";" false]
    else
      let here ← get
      let st ← withReader (fun e => { e with opening := some here, statementStart := here })
        (statement n)
      -- a statement given up as an error leaves the place of the body to the next one
      if st.kind == "ERROR" then return (← body n).withExtra true st
      return st

def declaration : Nat → P Cst
  | 0 => stuck
  | n + 1 => do
    let t ← peek
    let t2 ← peek2
    match t.text with
    | "function" => functionDeclaration n
    | "async" => functionDeclaration n
    | "class" | "abstract" => classDeclaration n []
    | "@" => classDeclaration n (← decorators n)
    | "var" => variableDeclaration n "var" Ctx.statement
    | "let" => variableDeclaration n "let" Ctx.statement
    | "const" =>
      if t2.text == "enum" then enumDeclaration n
      else variableDeclaration n "const" Ctx.statement
    | "interface" => interfaceDeclaration n
    | "type" => typeAliasDeclaration n
    | "enum" => enumDeclaration n
    | "namespace" => moduleDeclaration n "internal_module"
    | "module" => moduleDeclaration n "module"
    | "import" => importAlias n
    | "declare" =>
      let kw ← bump
      mk "ambient_declaration" [kw, ← declaration n]
    | _ => stuck

/-- The semicolon that ends a statement; tokens before it on the same line are skipped as
errors. -/
def semicolonOrSkip : Nat → Tail → P (List Cst)
  | 0, _ => stuck
  | n + 1, tail => statementEnd n tail

/-- The end of a statement, as `semicolonOrSkip` reads it. Where skipping runs into the end of
the source, or costs more than a missing semicolon, and the next token can start a statement that
holds past its second token, the semicolon is missing instead and the tokens are left to what
follows. After an expression, a token that can go on with it is no
error itself: it is dropped only where a semicolon follows it, and otherwise the statement
gives up. -/
def statementEnd : Nat → Tail → P (List Cst)
  | 0, _ => stuck
  | n + 1, tail => do
    if ← at? ";" then return [← bump]
    if let some semi ← leftOut tail then return semi
    let afterType := tail == .type
    let t ← peek
    if t.kind == .eof then stuck
    if !afterType && continuesExpression t && (← peek2).text != ";" then stuck
    let start ← get
    let missingFits := startsExpression t && (afterType || !continuesExpression t)
    let skipped ← attempt (do
      let e ← skipError
      let rest ← skipToStatementEnd start (← src).size
      pure (e :: rest))
    match skipped with
    | some cs =>
      let s ← src
      let errs := cs.filter (·.kind == "ERROR")
      let stop := (errs.getLast?.map (·.stop)).getD (s.byte start)
      if missingFits && errorCost s errs.length (s.byte start) stop ≥ missingCost then
        let endPos ← get
        set start
        if ← missingHolds n then return [← missing ";" false]
        set endPos
      return cs
    | none =>
      if missingFits then
        if ← missingHolds n then return [← missing ";" false]
        -- a statement could start here but does not hold, and skipping runs into the end: the
        -- statement gets stuck there
        throw ⟨(← src).size, true⟩
      else stuck

/-- Whether a semicolon may be missing before the next token: a statement read from there must
hold past its second token (`holdsPast`), or get stuck only after it. A look ahead takes it on
trust. -/
def missingHolds : Nat → P Bool
  | 0 => pure false
  | n + 1 => do
    if (← read).probing then return true
    let t ← peek
    let pos ← get
    let env := fun e =>
      { e with probing := true, statementStart := pos, recovering := false, nameAt := some t.start }
    let r ← attemptE (withReader env (do
      let st ← statement n
      return (st, ← peek)))
    set pos
    return probeHolds (← src) t r

/-- An expression statement. Where the expression cannot end before what follows it and a whole
statement can be read from there, the expression is skipped as an error if it opens its list
and giving it up costs less than a missing semicolon; otherwise another operand is parted from
it by a missing semicolon where the statement after it holds past its second token, and
anything else is weighed by the end of statements. -/
def expressionStatement : Nat → P Cst
  | 0 => stuck
  | n + 1 => do
    let first ← peek
    let e ← expressions n Ctx.statement
    let t ← peek
    if !(← at? ";") && !(← canEnd .expression) && t.kind != .eof then
      let pos ← get
      -- a look ahead does not look further ahead itself
      let probe ← if (← read).probing then pure none
        else
          let env := fun e => { e with probing := true, statementStart := pos, nameAt := some t.start }
          some <$> attemptE (withReader env (do
            let st ← statement n
            return (st, ← peek)))
      set pos
      let follows : Bool := match probe with
        | some r => r.toBool
        | none => startsExpression t || t.kind == .word || t.text == ";"
      if follows then
        if let some o := (← read).opening then
          if (← dropCost o) < missingCost then
            return Cst.node "ERROR" true true none e.start e.stop [e]
        if (startsOperand t || (t.kind == .punct && t.text == "\x7b")) &&
            probe.all (probeHolds (← src) t) then
          return ← mk "expression_statement" [e, ← missing ";" false]
    let semi ← semicolonOrSkip n .expression
    -- after a lone `let` the parse still waits for a declaration, which takes no semicolon:
    -- stopping the skipped tokens there gives up the `let` as well and costs more than skipping
    -- on, so where no statement can follow the statement gives up
    if first.text == "let" && e.stop == (← src).byte first.stop && semi.any (·.kind == "ERROR") then
      let nt ← peek
      if !(nt.kind == .eof || (nt.kind == .punct && nt.text == "\x7d") || startsStatement nt) then
        set t.start
        stuck
    mk "expression_statement" ([e] ++ semi)

/-- In a plain script, `let` followed by a name and a colon, which declare no variable there:
the word labels the statement after the colon, the name being an error, where that statement
reads without error; otherwise the word names a value assigned after an error that runs up to
`=`. Nothing is read where neither holds. -/
def letBeforeColon : Nat → P (Option Cst)
  | 0 => pure none
  | n + 1 => do
    let start ← get
    let labeled ← attempt (do
      let l ← bumpAs "statement_identifier"
      let err ← skipError
      let colon ← bump
      let b ← body n
      if b.firstFault.isSome then stuck
      mk "labeled_statement" [l.inField "label", err, colon, b.inField "body"])
    if labeled.isSome then return labeled
    set start
    attempt (do
      let name ← bumpAs "identifier"
      let junk ← skipUntil n (fun u => u.kind == .punct && ["=", ";", "\x7d"].contains u.text)
      if !(← at? "=") then stuck
      let eq ← bump
      let v ← assignmentRight n Ctx.statement
      let err := Cst.node "ERROR" true true none ((junk.head?.map (·.start)).getD name.stop)
        ((junk.getLast?.map (·.stop)).getD name.stop) junk
      let a ← mk "assignment_expression" [name.inField "left", err, eq, v.inField "right"]
      mk "expression_statement" ([a] ++ (← semicolonOrSkip n .expression)))

/-- A statement that starts with a word that may also name a value, `let` or `export`, read by
`p`. Where `p` breaks off short of the end, at a token that can go on with the word taken as a
name, and giving up what was read after the word costs less than a missing semicolon, the word
is read as a name, what followed it up to that token is an error, and the expression goes on
from there. -/
def wordOrName : Nat → P Cst → P Cst
  | 0, _ => stuck
  | n + 1, p => do
    let t ← peek
    match ← attemptE p with
    | .ok st => return st
    | .error e =>
      if e.atEnd then throw e
      let s ← src
      let first := scan s t.stop
      let (count, lastEnd) := tokensBefore s s.size t.stop e.pos
      let trees := if ["\x7b", "[", "("].contains first.text then 1 else count
      let next := scan s lastEnd
      let goesOn := (next.kind == .punct && next.text == "(") ||
        (leftOutAt s (← dialect).types .expression s.size lastEnd).isSome
      if count == 0 || !goesOn ||
          errorCost s trees (s.byte first.start) (s.byte lastEnd) ≥ missingCost then throw e
      set t.stop
      let name ← leafOf t "identifier" true
      set lastEnd
      let err := Cst.node "ERROR" true true none (s.byte first.start) (s.byte lastEnd) []
      let x ← chain n Ctx.statement name true
      let x ← binaryRest n Ctx.statement 1 x
      let x ← ternaryRest n Ctx.statement x
      let semi ← semicolonOrSkip n .expression
      -- a semicolon left out here stands after the error, which the statement then spans
      let semi ← if semi.isEmpty then pure [← missing Cst.leftOutKind false] else pure semi
      mk "expression_statement" ([x.withExtra false err] ++ semi)

def statementBlock : Nat → P Cst
  | 0 => stuck
  | n + 1 => do
    let o ← expect "\x7b"
    let body ← statements n ["\x7d"] (some (← get))
    let c ← if (← peek).kind == .eof then missing "\x7d" false else expect "\x7d"
    mk "statement_block" ([o] ++ body ++ [c])

/-- A parenthesized expression; tokens before its closing parenthesis that belong to no
expression are skipped as errors. -/
def parenthesized : Nat → P Cst
  | 0 => stuck
  | n + 1 => do
    let o ← expect "("
    let e ← expressions n Ctx.inner
    let ann ← if (← dialect).types && (← at? ":") then pure [(← Types.annotation n).inField "type"]
      else pure []
    let junk ← skipTo n ")"
    let c ← expect ")"
    mk "parenthesized_expression" ([o, e] ++ ann ++ junk ++ [c])

def skipTo : Nat → String → P (List Cst)
  | 0, _ => stuck
  | n + 1, close => do
    let t ← peek
    if t.kind == .eof then stuck
    if ← at? close then return []
    let e ← skipError
    return e :: (← skipTo n close)

def ifStatement : Nat → P Cst
  | 0 => stuck
  | n + 1 => do
    let kw ← bump
    let c ← parenthesized n
    let th ← body n
    let el ← if ← at? "else" then
        let e ← bump
        let s ← body n
        pure [(← mk "else_clause" [e, s]).inField "alternative"]
      else pure []
    mk "if_statement" ([kw, c.inField "condition", th.inField "consequence"] ++ el)

def forStatement : Nat → P Cst
  | 0 => stuck
  | n + 1 => do
    let kw ← bump
    let aw ← accept "await"
    match ← attempt (forInHeader n) with
    | some header =>
      let b ← body n
      mk "for_in_statement" ([kw] ++ aw ++ header ++ [b.inField "body"])
    | none =>
      let o ← expect "("
      let t ← peek
      let init ← if t.text == ";" && t.kind == .punct then
          pure [(← mk "empty_statement" [← bump]).inField "initializer"]
        else if t.text == "var" || t.text == "let" || t.text == "const" then
          pure [(← variableDeclaration n t.text ⟨false, false⟩).inField "initializer"]
        else
          let e ← expressions n ⟨false, false⟩
          let semi ← expect ";"
          pure [e.inField "initializer", semi]
      let cond ← forCondition n
      let inc ← if ← at? ")" then pure [] else pure [(← expressions n Ctx.inner).inField "increment"]
      let c ← expect ")"
      let b ← body n
      mk "for_statement" ([kw, o] ++ init ++ cond ++ inc ++ [c, b.inField "body"])

/-- The condition of a `for` loop with its semicolon. Where no semicolon follows the condition,
it is skipped as an error together with the tokens up to one that can start an expression, and
the condition is read again from there. -/
def forCondition : Nat → P (List Cst)
  | 0 => stuck
  | n + 1 => do
    if ← at? ";" then return [(← mk "empty_statement" [← bump]).inField "condition"]
    let e ← expressions n Ctx.inner
    if ← at? ";" then return [e.inField "condition", ← bump]
    let junk ← skipUntilExpression n
    let err := Cst.node "ERROR" true true none e.start ((junk.getLast?.map (·.stop)).getD e.stop)
      (e :: junk)
    return err :: (← forCondition n)

def forInHeader : Nat → P (List Cst)
  | 0 => stuck
  | n + 1 => do
    let o ← expect "("
    let t ← peek
    let t2 ← peek2
    -- after `let` the words `in` and `of` are the operator, and `let` a name
    let letName := t.text == "let" && t2.kind == .word && (t2.text == "in" || t2.text == "of")
    let left ← if (t.text == "var" || t.text == "let" || t.text == "const") && t.kind == .word &&
        !letName && (t2.kind == .word || t2.text == "[" || t2.text == "\x7b") then
        let k ← bump
        let p ← bindingName n
        pure [k.inField "kind", p.inField "left"]
      else
        -- in a typed script `using` opens a declaration here, which takes no `in` or `of`
        if (← dialect).types && t.kind == .word &&
            (t.text == "using" || (t.text == "await" && t2.text == "using")) then stuck
        let e ← callMember n ⟨false, false⟩
        pure [(toPattern e).inField "left"]
    -- a stray word between the left side and the operator is skipped
    let stray ← if (← atWord) && !(← at? "in") && !(← at? "of") &&
        ((← peek2).text == "in" || (← peek2).text == "of") then pure [← skipError] else pure []
    let t2 ← peek
    if !(t2.kind == .word && (t2.text == "in" || t2.text == "of")) then stuck
    let op ← bump
    let r ← expressions n Ctx.inner
    let c ← expect ")"
    return [o] ++ left ++ stray ++ [op.inField "operator", r.inField "right", c]

def tryStatement : Nat → P Cst
  | 0 => stuck
  | n + 1 => do
    let kw ← bump
    let body ← statementBlock n
    let handler ← if ← at? "catch" then
        let c ← bump
        let param ← if ← at? "(" then
            let o ← bump
            let p ← bindingName n
            let ann ← if (← dialect).types && (← at? ":") then
                pure [(← Types.annotation n).inField "type"] else pure []
            let cl ← expect ")"
            pure ([o, p.inField "parameter"] ++ ann ++ [cl])
          else pure []
        let b ← statementBlock n
        pure [(← mk "catch_clause" ([c] ++ param ++ [b.inField "body"])).inField "handler"]
      else pure []
    let fin ← if ← at? "finally" then
        let f ← bump
        let b ← statementBlock n
        pure [(← mk "finally_clause" [f, b.inField "body"]).inField "finalizer"]
      else pure []
    mk "try_statement" ([kw, body.inField "body"] ++ handler ++ fin)

def switchBody : Nat → P Cst
  | 0 => stuck
  | n + 1 => do
    let o ← expect "\x7b"
    let cases ← switchCases n
    let c ← expect "\x7d"
    mk "switch_body" ([o] ++ cases ++ [c])

def switchCases : Nat → P (List Cst)
  | 0 => stuck
  | n + 1 => do
    if ← at? "case" then
      let kw ← bump
      let v ← if ← at? ":" then missing "identifier" true
        else withReader (fun e => { e with colonEnds := true }) (expressions n Ctx.inner)
      let colon ← expect ":"
      let body ← statements n ["case", "default", "\x7d"] (some (← get))
      let c ← mk "switch_case" ([kw, v.inField "value", colon] ++ body.map (·.inField "body"))
      return c :: (← switchCases n)
    else if ← at? "default" then
      let kw ← bump
      let colon ← expect ":"
      let body ← statements n ["case", "default", "\x7d"] (some (← get))
      let c ← mk "switch_default" ([kw, colon] ++ body.map (·.inField "body"))
      return c :: (← switchCases n)
    else return []

def variableDeclaration : Nat → String → Ctx → P Cst
  | 0, _, _ => stuck
  | n + 1, word, ctx => do
    let kw ← bump
    let ds ← declarators n ctx
    let semi ← if ctx.asi then semicolonOrSkip n (declaratorTail ds) else pure [← expect ";"]
    let kind := if word == "var" then "variable_declaration" else "lexical_declaration"
    let kwc := if word == "var" then kw else kw.inField "kind"
    mk kind ([kwc] ++ ds ++ semi)

def declarators : Nat → Ctx → P (List Cst)
  | 0, _ => stuck
  | n + 1, ctx => do
    let d ← declarator n ctx
    if ← at? "," then
      let c ← bump
      return [d, c] ++ (← declarators n ctx)
    else return [d]

def declarator : Nat → Ctx → P Cst
  | 0, _ => stuck
  | n + 1, ctx => do
    let name ← bindingName n
    let dialect ← dialect
    let bang ← if dialect.types then accept "!" else pure []
    let ann ← if dialect.types && (← at? ":") then pure [(← Types.annotation n).inField "type"]
      else pure []
    let init ← if ← at? "=" then
        let eq ← bump
        let v ← declaredValue n ctx
        pure [eq, v.inField "value"]
      else pure []
    mk "variable_declarator" ([name.inField "name"] ++ bang ++ ann ++ init)

/-- The value of a declarator. Where a value breaks off after its first token, short of the end,
what it read and the tokens after it, up to one that can start an expression, are given up as an
error, and the value is read from there. -/
def declaredValue : Nat → Ctx → P Cst
  | 0, _ => stuck
  | n + 1, ctx => do
    let t ← peek
    match ← attemptE (assignment n ctx) with
    | .ok v =>
      let u ← peek
      if !ctx.asi || u.kind == .eof || (← at? ",") || (← at? ";") || (← canEnd .expression) then
        return v
      let after ← get
      let ends ← attempt (semicolonOrSkip n .expression)
      set after
      if ends.isSome then return v
      -- where the statement cannot end after the value, the value and what follows it are given
      -- up up to a value after which it can
      set t.start
      match ← attempt (restartValue n ctx) with
      | some (junk, v2) =>
        let s ← src
        let stop := (junk.getLast?.map (·.stop)).getD (s.byte t.start)
        return v2.withExtra true (Cst.node "ERROR" true true none (s.byte t.start) stop junk)
      | none =>
        set after
        return v
    | .error e =>
      if e.atEnd || e.pos ≤ t.start then throw e
      set e.pos
      let s ← src
      match ← attempt (do
        let junk ← skipToExpression n
        let v ← assignment n ctx
        pure (junk, v)) with
      | some (junk, v) =>
        let stop := (junk.getLast?.map (·.stop)).getD (s.byte e.pos)
        return v.withExtra true (Cst.node "ERROR" true true none (s.byte t.start) stop [])
      | none => throw e

/-- Tokens given up as errors, one at least, up to a value after which the statement can end,
and that value. -/
def restartValue : Nat → Ctx → P (List Cst × Cst)
  | 0, _ => stuck
  | n + 1, ctx => do
    let t ← peek
    if t.kind == .eof || (← at? ";") || (← atCloser) then stuck
    let e ← skipError
    let found ← attempt (do
      let v ← assignment n ctx
      if !((← peek).kind == .eof || (← at? ";") || (← canEnd .expression)) then stuck
      pure v)
    match found with
    | some v => return ([e], v)
    | none =>
      let (rest, v) ← restartValue n ctx
      return (e :: rest, v)

def bindingName : Nat → P Cst
  | 0 => stuck
  | n + 1 => do
    let t ← peek
    if t.text == "[" && t.kind == .punct then arrayPattern n
    else if t.text == "\x7b" && t.kind == .punct then objectPattern n
    else if t.kind == .word && valueWord t.text then bumpAs "identifier"
    else stuck

def pattern : Nat → P Cst
  | 0 => stuck
  | n + 1 => do
    if ← at? "..." then
      let dots ← bump
      let p ← bindingName n
      mk "rest_pattern" [dots, p]
    else if (← dialect).types && (← at? "this") then bumpAs "this"
    else bindingName n

def patternWithDefault : Nat → P Cst
  | 0 => stuck
  | n + 1 => do
    let p ← pattern n
    if ← at? "=" then
      let eq ← bump
      let v ← assignment n Ctx.inner
      mk "assignment_pattern" [p.inField "left", eq, v.inField "right"]
    else return p

def arrayPattern : Nat → P Cst
  | 0 => stuck
  | n + 1 => do
    let o ← expect "["
    let items ← listItems n "]" .arrayPattern
    let c ← expect "]"
    mk "array_pattern" ([o] ++ items ++ [c])

def objectPattern : Nat → P Cst
  | 0 => stuck
  | n + 1 => do
    let o ← expect "\x7b"
    let items ← listItems n "\x7d" .objectPattern
    let c ← expect "\x7d"
    mk "object_pattern" ([o] ++ items ++ [c])

def listItems : Nat → String → ListKind → P (List Cst)
  | 0, _, _ => stuck
  | n + 1, close, which => do
    if ← at? close then return []
    if ← at? "," then
      let c ← bump
      return c :: (← listItems n close which)
    let item ← match which with
      | .arrayPattern => patternWithDefault n
      | .objectPattern => objectPatternItem n
      | .array | .arguments => arrayElement n
      | .object => objectMember n
    if ← at? "," then
      let c ← bump
      return [item, c] ++ (← listItems n close which)
    else
      let junk ← skipTo n close
      return item :: junk

def objectPatternItem : Nat → P Cst
  | 0 => stuck
  | n + 1 => do
    if ← at? "..." then
      let dots ← bump
      let p ← bindingName n
      return ← mk "rest_pattern" [dots, p]
    let t ← peek
    let t2 ← peek2
    if t.kind == .word && (t2.text == "," || t2.text == "\x7d" || t2.text == "=") then
      let name ← bumpAs "shorthand_property_identifier_pattern"
      if ← at? "=" then
        let eq ← bump
        let v ← assignment n Ctx.inner
        mk "object_assignment_pattern" [name.inField "left", eq, v.inField "right"]
      else return name
    else
      let key ← propertyName n
      let colon ← expect ":"
      let v ← patternWithDefault n
      mk "pair_pattern" [key.inField "key", colon, v.inField "value"]

/-- A property name: a word, a string, a number, a private name or a computed name. Where a
computed name holds something other than one expression, what comes before its last expression
is skipped as an error. -/
def propertyName : Nat → P Cst
  | 0 => stuck
  | n + 1 => do
    let t ← peek
    match t.kind with
    | .string => bumpAs "string"
    | .number => bumpAs "number"
    | .privateName => bumpAs "private_property_identifier"
    | .word => bumpAs "property_identifier"
    | _ =>
      if t.text == "[" then
        let o ← bump
        let e ← assignment n Ctx.inner
        if ← at? "]" then return ← mk "computed_property_name" [o, e, ← bump]
        let junk ← skipToExpression n
        let e2 ← assignment n Ctx.inner
        let c ← expect "]"
        let err := Cst.node "ERROR" true true none e.start ((junk.getLast?.map (·.stop)).getD e.stop)
          (e :: junk)
        mk "computed_property_name" [o, err, e2, c]
      else stuck

def expressions : Nat → Ctx → P Cst
  | 0, _ => stuck
  | n + 1, ctx => do
    let first ← assignment n ctx
    if ← at? "," then
      let rest ← sequenceRest n ctx
      mk "sequence_expression" (first :: rest)
    else return first

def sequenceRest : Nat → Ctx → P (List Cst)
  | 0, _ => stuck
  | n + 1, ctx => do
    if ← at? "," then
      let c ← bump
      let e ← assignment n ctx
      return [c, e] ++ (← sequenceRest n ctx)
    else return []

/-- An expression at the level of assignment: arrow functions, `yield`, assignments and
everything that binds tighter. An assignment may open with the word `using`, which declares a
resource to be disposed of. -/
def assignment : Nat → Ctx → P Cst
  | 0, _ => stuck
  | n + 1, ctx => do
    let t ← peek
    let t2 ← peek2
    let d ← dialect
    if t.kind == .word && t.text == "async" &&
        (t2.text == "(" || (d.types && t2.text == "<") ||
          (t2.kind == .word && valueWord t2.text && !t2.newlineBefore)) then
      if let some f ← attempt (arrowFunction n ctx) then return ← arrowRest n ctx f
    if t.kind == .word && valueWord t.text && t2.text == "=>" && t2.kind == .punct then
      return ← arrowRest n ctx (← arrowFunction n ctx)
    if t.kind == .punct && (t.text == "(" || (t.text == "<" && d.types)) then
      if let some f ← attempt (arrowFunction n ctx) then return ← arrowRest n ctx f
    if t.kind == .word && t.text == "yield" then
      let kw ← bump
      let star ← accept "*"
      let junk ← if star.isEmpty then operatorJunk t else pure []
      let nxt ← peek
      let arg ← if !star.isEmpty then pure [← assignment n ctx]
        else if startsExpression nxt && !(ctx.asi && (← canEnd .other)) then
          match ← attempt (assignment n ctx) with
          | some a => pure [a]
          | none => pure []
        else pure []
      return ← mk "yield_expression" ([kw] ++ star ++ junk ++ arg)
    if d.types && t.kind == .word && t.text == "using" then return ← usingDeclaration n ctx
    let left ← conditional n ctx
    let op ← peek
    if op.kind == .punct && op.text == "=" && left.kind == "identifier" &&
        (← peek2).text == "=>" then
      -- the stray `=` is dropped and the name becomes the parameter of an arrow function
      let err ← skipError
      let arrow ← bump
      let body ← if ← at? "\x7b" then statementBlock n else assignment n ctx
      return ← mk "arrow_function" [left.inField "parameter", err, arrow, body.inField "body"]
    -- an object holding a default is a pattern, which only stands left of `=`
    let assigned := op.kind == .punct && ((op.text == "=" && assignable.contains left.kind) ||
      (compoundAssign.contains op.text && augmentable.contains left.kind))
    if !assigned && left.holdsDefault then stuck
    assignTail n ctx left

/-- An assignment to `left` where `=` or an assignment operator follows it and it can be
assigned to; otherwise `left` itself. -/
def assignTail : Nat → Ctx → Cst → P Cst
  | 0, _, left => return left
  | n + 1, ctx, left => do
    let op ← peek
    if op.kind == .punct && op.text == "=" && assignable.contains left.kind then
      let r ← attemptE (do
        let eq ← bump
        let v ← assignmentRight n ctx
        pure (eq, v))
      match r with
      | .ok (eq, v) =>
        mk "assignment_expression" [(toPattern left).inField "left", eq, v.inField "right"]
      | .error e => if e.atEnd then throw e else return left
    else if op.kind == .punct && compoundAssign.contains op.text && augmentable.contains left.kind then
      let r ← attempt (do
        let o ← bump
        let v ← assignmentRight n ctx
        pure (o, v))
      match r with
      | some (o, v) =>
        mk "augmented_assignment_expression" [left.inField "left", o.inField "operator", v.inField "right"]
      | none => return left
    else return left

/-- In a typed script, an assignment that opens with the word `using`, which declares a
resource to be disposed of; there the word is always this keyword. Where no `=` follows what
it declares, the recovery goes on reading a pattern to declare up to the end of the source, so
the parse is stuck at the end. -/
def usingDeclaration : Nat → Ctx → P Cst
  | 0, _ => stuck
  | n + 1, ctx => do
    let kw ← bump
    let declared ← attempt (do
      let left ← conditional n ctx
      if !(← at? "=") || !assignable.contains left.kind then stuck
      let eq ← bump
      let v ← assignmentRight n ctx
      pure (left, eq, v))
    match declared with
    | some (left, eq, v) =>
      mk "assignment_expression" [kw, (toPattern left).inField "left", eq, v.inField "right"]
    | none => throw ⟨(← src).size, true⟩

/-- The right side of an assignment. Where no value can be read, tokens are skipped as errors
one by one until one can, short of a semicolon, a closing bracket or the end. -/
def assignmentRight : Nat → Ctx → P Cst
  | 0, _ => stuck
  | n + 1, ctx => do
    match ← attemptE (declaredValue n ctx) with
    | .ok v => return v
    | .error e =>
      if e.atEnd then throw e
      let t ← peek
      if t.kind == .eof || (← at? ";") || (← atCloser) then stuck
      let e ← skipError
      let v ← assignmentRight n ctx
      return v.withExtra true e

/-- What follows an arrow function whose body is a block: like any other operand it may be
called, indexed, or used in a binary or conditional expression. An arrow function whose body is
an expression has already taken all that follows into its body. -/
def arrowRest : Nat → Ctx → Cst → P Cst
  | 0, _, f => return f
  | n + 1, ctx, f => do
    if !(f.children.getLast?.any (·.kind == "statement_block")) then return f
    let e := (← attempt (chain n ctx f true)).getD f
    let e ← binaryRest n ctx 1 e
    ternaryRest n ctx e

def arrowFunction : Nat → Ctx → P Cst
  | 0, _ => stuck
  | n + 1, ctx => do
    let async ← if (← at? "async") && (← peek2).text != "=>" then pure [← bump] else pure []
    let t ← peek
    let head ← if t.kind == .word then
        pure [(← bumpAs "identifier").inField "parameter"]
      else pure ((← callSignature n) ++ (← plainReturnType true))
    let arrow ← expect "=>"
    let body ← if ← at? "\x7b" then statementBlock n else assignment n ctx
    mk "arrow_function" (async ++ head ++ [arrow, body.inField "body"])

def callSignature : Nat → P (List Cst)
  | 0 => stuck
  | n + 1 => do
    let d ← dialect
    let tps ← if d.types && (← at? "<") then pure [(← Types.typeParameters n).inField "type_parameters"]
      else pure []
    let ps ← formalParameters n
    let ret ← if d.types && (← at? ":") then pure [(← Types.returnAnnotation n).inField "return_type"]
      else pure []
    return tps ++ [ps.inField "parameters"] ++ ret

def formalParameters : Nat → P Cst
  | 0 => stuck
  | n + 1 => do
    let o ← expect "("
    let items ← parameterList n
    let c ← expect ")"
    mk "formal_parameters" ([o] ++ items ++ [c])

def parameterList : Nat → P (List Cst)
  | 0 => stuck
  | n + 1 => do
    if ← at? ")" then return []
    let p ← parameter n
    if ← at? "," then
      let c ← bump
      return [p, c] ++ (← parameterList n)
    else return [p]

def parameter : Nat → P Cst
  | 0 => stuck
  | n + 1 => do
    if !(← dialect).types then
      let start ← get
      if ← at? "@" then return ← strayParameter n
      let p ← patternWithDefault n
      if !(← at? ":") then return p
      let afterColon ← peek2
      set start
      if afterColon.text != "[" then return ← strayParameter n
      -- before a bracket, the colon is an error inside a subscript of what was read
      let e ← primary n Ctx.inner
      let colon ← skipError
      return ← chain n Ctx.inner (e.withExtra false colon) true
    let ds ← decorators n
    let mods := ds ++ (← modifiers n)
    let p ← pattern n
    let q ← accept "?"
    let ann ← if ← at? ":" then pure [(← Types.annotation n).inField "type"] else pure []
    let init ← if ← at? "=" then
        let eq ← bump
        let v ← assignment n Ctx.inner
        pure [eq, v.inField "value"]
      else pure []
    mk (if q.isEmpty then "required_parameter" else "optional_parameter")
      (mods ++ [p.inField "pattern"] ++ q ++ ann ++ init)

/-- In a plain script, a parameter after tokens that begin none, such as a decorator or a
pattern with a type: the last pattern before a comma or the closing parenthesis is the
parameter, and the tokens before it, bracketed groups whole, are an error. -/
def strayParameter : Nat → P Cst
  | 0 => stuck
  | n + 1 => do
    let (junk, p) ← parameterAfterStrays n
    if junk.isEmpty then return p
    let err := Cst.node "ERROR" true true none ((junk.head?.map (·.start)).getD p.start)
      ((junk.getLast?.map (·.stop)).getD p.start) junk
    return p.withExtra true err

/-- The tokens up to a pattern that a comma or the closing parenthesis follows, and that
pattern. -/
def parameterAfterStrays : Nat → P (List Cst × Cst)
  | 0 => stuck
  | n + 1 => do
    let t ← peek
    if t.kind == .eof || (t.kind == .punct && (t.text == ")" || t.text == ",")) then stuck
    if t.kind == .word || t.text == "[" || t.text == "\x7b" then
      let found ← attempt (do
        let p ← patternWithDefault n
        if !((← at? ",") || (← at? ")")) then stuck
        pure p)
      if let some p := found then return ([], p)
    let skipped ← if t.kind == .punct && ["(", "[", "\x7b"].contains t.text then
        skipGroup (← src).size 0
      else pure [← bump]
    let (junk, p) ← parameterAfterStrays n
    return (skipped ++ junk, p)

def modifiers : Nat → P (List Cst)
  | 0 => stuck
  | n + 1 => do
    let t ← peek
    let t2 ← peek2
    let patternFollows := t2.kind == .word || t2.text == "\x7b" || t2.text == "[" || t2.text == "..."
    if t.kind == .word && patternFollows then
      match t.text with
      | "public" | "private" | "protected" =>
        let m ← mk "accessibility_modifier" [← bump]
        return m :: (← modifiers n)
      | "override" =>
        let m ← mk "override_modifier" [← bump]
        return m :: (← modifiers n)
      | "readonly" => return (← bump) :: (← modifiers n)
      | _ => return []
    else return []

def conditional : Nat → Ctx → P Cst
  | 0, _ => stuck
  | n + 1, ctx => do
    ternaryRest n ctx (← binary n ctx 1)

def ternaryRest : Nat → Ctx → Cst → P Cst
  | 0, _, c => return c
  | n + 1, ctx, c => do
    if ← at? "?" then
      let q ← peek
      -- in typed scripts a question mark right before a dot chains optionally, also before
      -- a digit
      if (← dialect).types && (← src).isAt q.stop '.' then
        set (q.stop + 1)
        stuck
      let q ← bump
      let pos ← get
      let awaitsColon := fun (e : Env) => { e with colonEnds := true }
      let th ← withReader awaitsColon (assignment n Ctx.inner)
      -- an arrow function whose return type took the colon was a parenthesized consequence
      let th ← if !(← at? ":") && th.kind == "arrow_function" &&
          th.children.any (·.field == some "return_type") then
          set pos
          withReader awaitsColon (conditional n Ctx.inner)
        else pure th
      let colon ← expect ":"
      let el ← assignment n ctx
      mk "ternary_expression" [c.inField "condition", q, th.inField "consequence", colon,
        el.inField "alternative"]
    else return c

def binary : Nat → Ctx → Nat → P Cst
  | 0, _, _ => stuck
  | n + 1, ctx, minPrec => do
    let before ← get
    let left ← unary n ctx
    let left ← withReader (fun e => { e with operandStart := before }) (strayOperand n ctx left)
    binaryRest n ctx minPrec left

/-- An operand `p` followed by another operand with no operator between them. The second is
skipped as an error when a closing bracket or comma follows it and it is no longer than `p`, or
when `=` follows it, it is shorter than `p` and `p` opens the statement;
otherwise, when the second operand reaches the end of the statement or a closing bracket, `p`
becomes an error and the second takes its place. In a statement, which a missing semicolon can
end before the second operand, `p` is given up only where that costs less, and never where it
opens the statement: the statement decides that. -/
def strayOperand : Nat → Ctx → Cst → P Cst
  | 0, _, p => return p
  | n + 1, ctx, p => do
    let before := (← read).operandStart
    let s ← peek
    let text ← src
    if !startsOperand s || (ctx.asi && (← canEnd .expression)) then return p
    let width := text.byte s.stop - text.byte s.start
    let t2 ← peek2
    if (closesOperand t2 && width ≤ p.stop - p.start) ||
        (t2.kind == .punct && t2.text == "=" && width < p.stop - p.start &&
          before == (← read).statementStart) then
      let e ← skipError
      return p.withExtra false e
    if ctx.asi && (before == (← read).statementStart || (← dropCost before) ≥ missingCost) then
      return p
    match ← attempt (strayRun n ctx [p]) with
    | some q => return q
    | none => return p

/-- Operands that follow the strays `errs` with no operator between them: each but the last
joins the error, and the last, which must reach the end of the statement or a closing bracket,
stands in their place. A keyword there is only a name. -/
def strayRun : Nat → Ctx → List Cst → P Cst
  | 0, _, _ => stuck
  | n + 1, ctx, errs => do
    let q ← unary n ctx
    if (← canEnd .expression) || (← atCloser) then
      let first := (errs.head?.map (·.start)).getD q.start
      let last := (errs.getLast?.map (·.stop)).getD q.start
      return q.withExtra true (Cst.node "ERROR" true true none first last errs)
    let t ← peek
    if startsOperand t || t.kind == .word then strayRun n ctx (errs ++ [q]) else stuck

/-- The right operand of a binary operator. Before a closing bracket it is a missing name, but
not before the brace that closes a block, which ends no expression; a punctuator that starts
no operand is skipped as an error when one follows it. -/
def rightOperand : Nat → Ctx → Nat → P Cst
  | 0, _, _ => stuck
  | n + 1, ctx, prec => do
    let t ← peek
    if ← atCloser then
      if t.text != "," && !(ctx.asi && t.text == "\x7d") then return ← missing "identifier" true
    -- an operand that can be assigned to takes an assignment that follows it
    if t.kind == .punct && !startsExpression t && startsExpression (← peek2) then
      let e ← skipError
      let r ← assignTail n ctx (← binary n ctx prec)
      return r.withExtra true e
    assignTail n ctx (← binary n ctx prec)

/-- The operators and right operands after a left operand. A string or number standing between
an operand and an operator is skipped as an error, and the expression goes on. -/
def binaryRest : Nat → Ctx → Nat → Cst → P Cst
  | 0, _, _, _ => stuck
  | n + 1, ctx, minPrec, left => do
    let t ← peek
    let d ← dialect
    if ctx.asi && (← canEnd .expression) then return left
    if d.types && t.kind == .word && (t.text == "as" || t.text == "satisfies") &&
        typeOpPrec ≥ minPrec then
      let kw ← bump
      let ty ← if t.text == "as" && (← at? "const") then bump
        else withReader (fun e => { e with typeLineEnds := false }) (Types.type_ n)
      let e ← mk (t.text ++ "_expression") [left, kw, ty]
      return ← binaryRest n ctx minPrec e
    let strays : List Cst ← if binaryPrec t ctx.allowIn == none && (t.kind == .string || t.kind == .number) &&
        (binaryPrec (← peek2) ctx.allowIn).any (· ≥ minPrec) then pure [← skipError]
      -- in a plain script a colon that nothing awaits, with a word after it, is an error before
      -- an operator that goes on
      else if !d.types && !(← read).colonEnds && t.kind == .punct && t.text == ":" &&
          (← peek2).kind == .word &&
          (binaryPrec (scan (← src) (← peek2).stop) ctx.allowIn).any (· ≥ minPrec) then
        let colon ← skipError
        let w ← skipError
        pure [Cst.node "ERROR" true true none colon.start w.stop (colon.children ++ w.children)]
      else pure []
    match binaryPrec (← peek) ctx.allowIn with
    | none => return left
    | some p =>
      if p < minPrec then return left
      let r ← attemptE (do
        let op ← bump
        let right ← rightOperand n ctx (if p == 12 then p else p + 1)
        pure (op, right))
      match r with
      | .error e => if e.atEnd then throw e else return left
      | .ok (op, right) =>
        let e ← mk "binary_expression"
          ([left.inField "left"] ++ strays ++ [op.inField "operator", right.inField "right"])
        binaryRest n ctx minPrec e

def unary : Nat → Ctx → P Cst
  | 0, _ => stuck
  | n + 1, ctx => do
    let t ← peek
    let d ← dialect
    if (t.kind == .punct || t.kind == .word) && unaryOps.contains t.text then
      let op ← bump
      -- tokens that start no operand are errors before the argument
      let junk ← if startsExpression (← peek) then pure [] else
        match ← attempt (skipToExpression n) with
        | some js => pure js
        | none => pure []
      -- an argument that can be assigned to takes an assignment that follows it
      let arg ← assignTail n ctx (← unary n ctx)
      let err := if junk.isEmpty then [] else
        [Cst.node "ERROR" true true none ((junk.head?.map (·.start)).getD 0)
          ((junk.getLast?.map (·.stop)).getD 0) junk]
      mk "unary_expression" ([op.inField "operator"] ++ err ++ [arg.inField "argument"])
    else if t.kind == .punct && (t.text == "++" || t.text == "--") then
      let op ← bump
      let arg ← unary n ctx
      mk "update_expression" [op.inField "operator", arg.inField "argument"]
    else if t.kind == .word && t.text == "await" && (startsExpression (← peek2) || (← junkAfter t)) then
      let kw ← bump
      let junk ← operatorJunk t
      let t2 ← peek
      let arg ← if d.types && t2.kind == .word && t2.text == "using" then usingDeclaration n ctx
        else assignTail n ctx (← unary n ctx)
      mk "await_expression" ([kw] ++ junk ++ [arg])
    else if d.angleCasts && t.kind == .punct && t.text == "<" then
      let args ← if (← peek2).text == "const" then
          let o ← bump
          let c ← bump
          mk "type_arguments" [o, c, ← expectGt]
        else Types.typeArguments n
      let e ← unary n ctx
      mk "type_assertion" [args, e]
    else suffixed n ctx

def suffixed : Nat → Ctx → P Cst
  | 0, _ => stuck
  | n + 1, ctx => do
    let e ← callMember n ctx
    let t ← peek
    if t.kind == .punct && (t.text == "++" || t.text == "--") &&
        !(ctx.asi && (← canEnd .expression)) then
      let op ← bump
      mk "update_expression" [e.inField "argument", op.inField "operator"]
    else return e

def callMember : Nat → Ctx → P Cst
  | 0, _ => stuck
  | n + 1, ctx => do
    chain n ctx (← primary n ctx) true

/-- Calls, member accesses, subscripts and non-null assertions after an expression; calls
only where `calls` allows them. -/
def chain : Nat → Ctx → Cst → Bool → P Cst
  | 0, _, _, _ => stuck
  | n + 1, ctx, e, calls => do
    let t ← peek
    let d ← dialect
    if ctx.asi && (← canEnd .expression) then return e
    if t.kind == .punct then
      match t.text with
      | "." =>
        let dot ← bump
        let prop ← if (← peek).kind == .punct && (← peek2).kind == .word then do
            let e ← skipError
            pure ((← memberName).withExtra true e)
          else memberName
        let m ← mk "member_expression" [e.inField "object", dot, prop.inField "property"]
        chain n ctx m calls
      | "?." =>
        let oc ← bumpAs "optional_chain"
        if ← at? "(" then
          if !calls then stuck
          let args ← arguments n
          -- typed grammars spell the chain of an optional call as a bare token
          let oc := if d.types then Cst.leaf "?." false oc.start oc.stop
            else oc.inField "optional_chain"
          let m ← mk "call_expression" [e.inField "function", oc, args.inField "arguments"]
          chain n ctx m calls
        else if ← at? "[" then
          let o ← bump
          let i ← expressions n Ctx.inner
          let c ← expect "]"
          let m ← mk "subscript_expression" [e.inField "object", oc.inField "optional_chain", o,
            i.inField "index", c]
          chain n ctx m calls
        else
          let prop ← memberName
          let m ← mk "member_expression" [e.inField "object", oc.inField "optional_chain",
            prop.inField "property"]
          chain n ctx m calls
      | "[" =>
        let o ← bump
        let i ← expressions n Ctx.inner
        let c ← expect "]"
        let m ← mk "subscript_expression" [e.inField "object", o, i.inField "index", c]
        chain n ctx m calls
      | "(" =>
        if !calls then return e
        let args ← arguments n
        let m ← mk "call_expression" [e.inField "function", args.inField "arguments"]
        chain n ctx m calls
      | "!" =>
        if d.types then
          let b ← bump
          let m ← mk "non_null_expression" [e, b]
          chain n ctx m calls
        else return e
      | "<" =>
        if d.types && calls then
          -- type arguments followed by arguments make a call; followed by an access or by what
          -- ends the expression they instantiate a function; else the brackets compare
          match ← attempt (do
              let ta ← Types.typeArguments n
              if ← at? "(" then return (ta, some (← arguments n))
              let t ← peek
              if t.kind == .eof || (t.kind == .punct &&
                  [".", "?.", "[", ";", ")", "]", "\x7d", ",", ":"].contains t.text) then
                return (ta, none)
              stuck) with
          | some (ta, some args) =>
            let m ← mk "call_expression" [e.inField "function", ta.inField "type_arguments",
              args.inField "arguments"]
            chain n ctx m calls
          | some (ta, none) =>
            let m ← mk "instantiation_expression" [e, ta.inField "type_arguments"]
            chain n ctx m calls
          | none => return e
        else return e
      | _ => return e
    else if t.kind == .unknown && t.text == "`" then
      let tpl ← templateString n
      let m ← mk "call_expression" [e.inField "function", tpl.inField "arguments"]
      chain n ctx m calls
    else return e

def memberName : P Cst := do
  let t ← peek
  match t.kind with
  | .privateName => bumpAs "private_property_identifier"
  | .word => bumpAs "property_identifier"
  | _ => stuck

def arguments : Nat → P Cst
  | 0 => stuck
  | n + 1 => do
    let o ← expect "("
    let items ← listItems n ")" .arguments
    let c ← expect ")"
    mk "arguments" ([o] ++ items ++ [c])

def arrayElement : Nat → P Cst
  | 0 => stuck
  | n + 1 => do
    if ← at? "..." then
      let dots ← bump
      let e ← assignment n Ctx.inner
      mk "spread_element" [dots, e]
    else assignment n Ctx.inner

def newExpression : Nat → P Cst
  | 0 => stuck
  | n + 1 => do
    let kw ← bump
    if ← at? "." then
      let dot ← bump
      let p ← bump
      return ← mk "meta_property" [kw, dot, p]
    -- in typed scripts an inner new expression with arguments may itself be called
    let ctor ← if ← at? "new" then do
        let inner ← newExpression n
        if (← dialect).types && (← at? "(") then chain n Ctx.inner inner true else pure inner
      else do
        let p ← primary n Ctx.inner
        chain n Ctx.inner p false
    let d ← dialect
    let ta ← if d.types && (← at? "<") then
        match ← attempt (Types.typeArguments n) with
        | some a => pure [a.inField "type_arguments"]
        | none => pure []
      else pure []
    let args ← if ← at? "(" then pure [(← arguments n).inField "arguments"] else pure []
    mk "new_expression" ([kw, ctor.inField "constructor"] ++ ta ++ args)

def primary : Nat → Ctx → P Cst
  | 0, _ => stuck
  | n + 1, _ => do
    let t ← peek
    let d ← dialect
    match t.kind with
    | .number => bumpAs "number"
    | .string => bumpAs "string"
    | .privateName => bumpAs "private_property_identifier"
    | .word =>
      match t.text with
      | "function" => functionExpression n
      | "async" =>
        let t2 ← peek2
        if t2.text == "function" && !t2.newlineBefore then functionExpression n
        else bumpAs "identifier"
      | "class" => classExpression n []
      | "this" | "super" | "true" | "false" | "null" | "undefined" => bumpAs t.text
      | "import" =>
        if (← peek2).text == "." then
          let kw ← bump
          let dot ← bump
          let p ← bump
          mk "meta_property" [kw, dot, p]
        else bumpAs "import"
      | "new" =>
        let t2 ← peek2
        if d.types && !startsExpression t2 && t2.text != "." then bumpAs "identifier"
        else newExpression n
      | w =>
        if d.types && w == "namespace" && (← peek2).kind == .word && !(← peek2).newlineBefore then
          moduleDeclaration n "internal_module"
        else bumpAs "identifier"
    | .punct =>
      match t.text with
      | "(" => parenthesized n
      | "[" =>
        let o ← bump
        let items ← listItems n "]" .array
        let c ← expect "]"
        mk "array" ([o] ++ items ++ [c])
      | "\x7b" => objectLiteral n
      | "/" => regex
      | "/=" => regex
      | "@" => classExpression n (← decorators n)
      | "<" => if d.jsx then jsxElement n else stuck
      | _ => stuck
    | .unknown =>
      if t.text == "`" then
        let text ← src
        let charsEnd := templateCharsEnd text text.size (t.start + 1)
        -- characters that run to the end right after the backquote form no piece of a
        -- template: the backquote is given up and what follows it is read on its own
        let skipped := charsEnd == text.size && charsEnd > t.start + 1
        let r ← if skipped then pure (.error ⟨t.start, false⟩) else attemptE (templateString n)
        match r with
        | .ok tpl => return tpl
        | .error e =>
          -- a template whose pieces read up to the end sticks there
          if e.atEnd then throw e
          let e ← skipError
          return (← primary n Ctx.inner).withExtra true e
      else stuck
    | _ => stuck

def regex : P Cst := do
  let t ← peek
  match regexSpan (← src) t.start with
  | some e =>
    set e
    leafOf { t with stop := e } "regex" true
  | none => stuck

def objectLiteral : Nat → P Cst
  | 0 => stuck
  | n + 1 => do
    let o ← expect "\x7b"
    let items ← listItems n "\x7d" .object
    let c ← expect "\x7d"
    mk "object" ([o] ++ items ++ [c])

def objectMember : Nat → P Cst
  | 0 => stuck
  | n + 1 => do
    if ← at? "..." then
      let dots ← bump
      let e ← assignment n Ctx.inner
      return ← mk "spread_element" [dots, e]
    let t ← peek
    let t2 ← peek2
    if t.kind == .word && (t2.text == "," || t2.text == "\x7d") && t2.kind == .punct then
      return ← bumpAs "shorthand_property_identifier"
    if t.kind == .word && t2.text == "=" && t2.kind == .punct then
      let name ← bumpAs "shorthand_property_identifier_pattern"
      let eq ← bump
      let v ← assignment n Ctx.inner
      return ← mk "object_assignment_pattern" [name.inField "left", eq, v.inField "right"]
    match ← attempt (methodDefinition n false) with
    | some m => return m
    | none =>
      let key ← propertyName n
      let colon ← expect ":"
      let v ← assignment n Ctx.inner
      let v := if ← at? "\x7d" then dropMissingOperand v else v
      mk "pair" [key.inField "key", colon, v.inField "value"]

/-- A method: modifiers, name, signature and body. In a class, accessibility and other class
modifiers may come first. -/
def methodDefinition : Nat → Bool → P Cst
  | 0, _ => stuck
  | n + 1, inClass => do
    let mods ← methodModifiers n inClass
    let name ← propertyName n
    let junk ← if inClass then strayWords ["("] else pure []
    let q ← if (← dialect).types then accept "?" else pure []
    let tps ← plainTypeParameters (·.text == "(")
    let sig ← callSignature n
    let ret ← plainReturnType false
    let body ← statementBlock n
    let m ← mk "method_definition"
      (mods ++ [name.inField "name"] ++ junk ++ q ++ tps ++ sig ++ ret ++ [body.inField "body"])
    -- an abstract method has no body: with one, the whole method is an error
    if mods.any (·.kind == "abstract") then return Cst.node "ERROR" true true none m.start m.stop [m]
    return m

def methodModifiers : Nat → Bool → P (List Cst)
  | 0, _ => stuck
  | n + 1, inClass => do
    let t ← peek
    let t2 ← peek2
    let typed := (← dialect).types
    let modifierHere := t2.kind == .word || t2.kind == .string || t2.kind == .number ||
      t2.kind == .privateName || t2.text == "[" || t2.text == "*"
    if t.kind == .punct && t.text == "*" then return [← bump]
    -- in a class a line break after a word may end a field of that name
    if t.kind == .word && modifierHere && (!inClass || !t2.newlineBefore || t2.text == "*") then
      match t.text with
      | "get" | "set" | "async" | "static" => return (← bump) :: (← methodModifiers n inClass)
      | "public" | "private" | "protected" =>
        if inClass && typed then
          let m ← mk "accessibility_modifier" [← bump]
          return m :: (← methodModifiers n inClass)
        else return []
      | "override" =>
        if inClass && typed then
          let m ← mk "override_modifier" [← bump]
          return m :: (← methodModifiers n inClass)
        else return []
      | "readonly" | "abstract" | "declare" | "accessor" =>
        if inClass && typed then return (← bump) :: (← methodModifiers n inClass) else return []
      | _ => return []
    else return []

def templateString : Nat → P Cst
  | 0 => stuck
  | n + 1 => do
    let t ← peek
    set (t.start + 1)
    let open_ ← leafOf { t with stop := t.start + 1 } "`" false
    let parts ← templateParts n
    mk "template_string" (open_ :: parts)

def templateParts : Nat → P (List Cst)
  | 0 => stuck
  | n + 1 => do
    let s ← src
    let i ← get
    match s.get? i with
    | none => stuck
    | some '`' =>
      set (i + 1)
      return [Cst.leaf "`" false (s.byte i) (s.byte (i + 1))]
    | some '\\' =>
      match escapeEnd s i with
      | .ok e =>
        set e
        let esc := Cst.leaf "escape_sequence" true (s.byte i) (s.byte e)
        return esc :: (← templateParts n)
      | .error e =>
        -- the template reads on only where a substitution or its end follows the bad escape
        if !(s.isAt e '`' || (s.isAt e '$' && s.isAt (e + 1) '\x7b')) then stuck
        set e
        let err := Cst.node "ERROR" true true none (s.byte i) (s.byte e) []
        return err :: (← templateParts n)
    | some c =>
      if c == '$' && s.isAt (i + 1) '\x7b' then
        set (i + 2)
        let o := Cst.leaf "$\x7b" false (s.byte i) (s.byte (i + 2))
        let e ← if ← at? "\x7d" then missing "identifier" true else expressions n Ctx.inner
        let cl ← expect "\x7d"
        let sub ← mk "template_substitution" [o, e, cl]
        return sub :: (← templateParts n)
      else
        let e := templateCharsEnd s s.size i
        set e
        let frag := Cst.leaf "string_fragment" true (s.byte i) (s.byte e)
        return frag :: (← templateParts n)

def functionExpression : Nat → P Cst
  | 0 => stuck
  | n + 1 => do
    let async ← accept "async"
    let kw ← expect "function"
    let star ← accept "*"
    let name ← if (← peek).kind == .word && !(← at? "(") then pure [(← bumpAs "identifier").inField "name"]
      else pure []
    let tps ← plainTypeParameters (·.text == "(")
    let sig ← callSignature n
    let ret ← plainReturnType false
    let body ← statementBlock n
    mk (if star.isEmpty then "function_expression" else "generator_function")
      (async ++ [kw] ++ star ++ name ++ tps ++ sig ++ ret ++ [body.inField "body"])

def functionDeclaration : Nat → P Cst
  | 0 => stuck
  | n + 1 => do
    let async ← accept "async"
    let kw ← expect "function"
    let star ← accept "*"
    let t ← peek
    if t.kind != .word then stuck
    let name ← bumpAs "identifier"
    let tps ← plainTypeParameters (·.text == "(")
    let sig ← callSignature n
    if (← dialect).types && !(← at? "\x7b") then
      return ← mk "function_signature" (async ++ [kw] ++ star ++ [name.inField "name"] ++ sig ++
        (← semicolonOrSkip n .other))
    let ret ← plainReturnType false
    let body ← statementBlock n
    let parts := async ++ [kw] ++ star ++ [name.inField "name"] ++ tps ++ sig ++ ret ++
      [body.inField "body"]
    -- a body left open at the end is read as a function expression
    if body.children.getLast?.any (fun c => c.start == c.stop) then
      return ← mk "expression_statement"
        [← mk (if star.isEmpty then "function_expression" else "generator_function") parts]
    mk (if star.isEmpty then "function_declaration" else "generator_function_declaration") parts

def classDeclaration : Nat → List Cst → P Cst
  | 0, _ => stuck
  | n + 1, ds => do
    let abs ← accept "abstract"
    let kw ← expect "class"
    let d ← dialect
    let name ← bumpAs (if d.types then "type_identifier" else "identifier")
    let rest ← classRest n
    mk (if abs.isEmpty then "class_declaration" else "abstract_class_declaration")
      (ds ++ abs ++ [kw, name.inField "name"] ++ rest)

def decorators : Nat → P (List Cst)
  | 0 => stuck
  | n + 1 => do
    if !(← at? "@") then return []
    let d ← decorator n
    return d.inField "decorator" :: (← decorators n)

def decorator : Nat → P Cst
  | 0 => stuck
  | n + 1 => do
    let sign ← expect "@"
    if ← at? "(" then
      let p ← parenthesized n
      return ← mk "decorator" [sign, p]
    if !(← atWord) then stuck
    let base ← decoratorMember n (← bumpAs "identifier")
    let d ← dialect
    let call ← if ← at? "(" then
        let args ← arguments n
        pure [← mk "call_expression" [base.inField "function", args.inField "arguments"]]
      else if d.types && (← at? "<") then
        match ← attempt (do
          let ta ← Types.typeArguments n
          if !(← at? "(") then stuck
          let args ← arguments n
          pure (ta, args)) with
        | some (ta, args) =>
          pure [← mk "call_expression" [base.inField "function", ta.inField "type_arguments",
            args.inField "arguments"]]
        | none => pure []
      else pure []
    mk "decorator" [sign, call.headD base]

def decoratorMember : Nat → Cst → P Cst
  | 0, _ => stuck
  | n + 1, e => do
    if ← at? "." then
      let dot ← bump
      if !(← atWord) then stuck
      let p ← bumpAs "property_identifier"
      decoratorMember n (← mk "member_expression" [e.inField "object", dot, p.inField "property"])
    else return e

def classExpression : Nat → List Cst → P Cst
  | 0, _ => stuck
  | n + 1, ds => do
    let kw ← expect "class"
    let d ← dialect
    let t ← peek
    let name ← if t.kind == .word && t.text != "extends" && t.text != "implements" then
        pure [(← bumpAs (if d.types then "type_identifier" else "identifier")).inField "name"]
      else pure []
    let rest ← classRest n
    mk "class" (ds ++ [kw] ++ name ++ rest)

def classRest : Nat → P (List Cst)
  | 0 => stuck
  | n + 1 => do
    let d ← dialect
    let tps ← if d.types && (← at? "<") then pure [(← Types.typeParameters n).inField "type_parameters"]
      else plainTypeParameters fun u => u.text == "\x7b" || u.text == "extends" || u.text == "implements"
    let heritage ← if (← at? "extends") || (d.types && (← at? "implements")) then
        pure [← classHeritage n]
      else pure []
    let junk ← plainClassJunk
    let body ← classBody n
    return tps ++ heritage ++ junk ++ [body.inField "body"]

def classHeritage : Nat → P Cst
  | 0 => stuck
  | n + 1 => do
    let d ← dialect
    if !d.types then
      let kw ← expect "extends"
      let e ← callMember n Ctx.inner
      return ← mk "class_heritage" [kw, e]
    let ext ← if ← at? "extends" then
        let kw ← bump
        pure [← mk "extends_clause" (kw :: (← extendsList n))]
      else pure []
    let impl ← if ← at? "implements" then
        let kw ← bump
        pure [← mk "implements_clause" (kw :: (← Types.typeList n))]
      else pure []
    mk "class_heritage" (ext ++ impl)

def extendsList : Nat → P (List Cst)
  | 0 => stuck
  | n + 1 => do
    let e ← callMember n Ctx.inner
    let ta ← if ← at? "<" then pure [(← Types.typeArguments n).inField "type_arguments"]
      else pure []
    if ← at? "," then
      let c ← bump
      return [e.inField "value"] ++ ta ++ [c] ++ (← extendsList n)
    else return [e.inField "value"] ++ ta

def classBody : Nat → P Cst
  | 0 => stuck
  | n + 1 => do
    let o ← expect "\x7b"
    let ms ← classMembers n (some (← get))
    let c ← if (← peek).kind == .eof then missing "\x7d" false else expect "\x7d"
    mk "class_body" ([o] ++ ms ++ [c])

def classMembers : Nat → Option Nat → P (List Cst)
  | 0, _ => stuck
  | n + 1, opening => do
    if (← at? "\x7d") || (← peek).kind == .eof then return []
    if ← at? ";" then return (← bump) :: (← classMembers n none)
    if (← at? "static") && (← peek2).text == "\x7b" then
      let kw ← bump
      let b ← statementBlock n
      let blk ← mk "class_static_block" [kw, b.inField "body"]
      return blk.inField "member" :: (← classMembers n none)
    let d ← dialect
    let t ← peek
    -- the keyword accessor before a parameter list gives up the member, its body included
    if d.types && t.kind == .word && t.text == "accessor" && (← peek2).text == "(" then
      let junk ← skipBalanced (← src).size 0
      let err := Cst.node "ERROR" true true none ((junk.head?.map (·.start)).getD 0)
        ((junk.getLast?.map (·.stop)).getD 0) junk
      return err :: (← classMembers n opening)
    let sig ← if !d.types then pure none
      else if t.text == "[" then attempt (Types.indexSignature n [])
      else if t.text == "readonly" && (← peek2).text == "[" then
        attempt (do let ro ← bump; Types.indexSignature n [ro])
      else pure none
    if let some sig := sig then
      let sep ← accept ","
      let sep ← if sep.isEmpty then semicolonOrSkip n .other else pure sep
      return [sig] ++ sep ++ (← classMembers n none)
    let ds ← decorators n
    match ← attempt (methodDefinition n true) with
    | some m =>
      let semi ← accept ";"
      let m := if d.types then m.inField "member" else (m.withFront ds).inField "member"
      return (if d.types then ds else []) ++ [m] ++ semi ++ (← classMembers n none)
    | none =>
    if !ds.isEmpty then
      let f ← fieldDefinition n
      let semi ← semicolonOrSkip n (fieldTail f)
      return [(f.withFront ds).inField "member"] ++ semi ++ (← classMembers n none)
    match ← (if (← dialect).types then attempt (methodSignature n) else pure none) with
    | some m =>
      let semi ← accept ","
      let semi ← if semi.isEmpty then semicolonOrSkip n .other else pure semi
      return [m] ++ semi ++ (← classMembers n none)
    | none =>
      let f ← match ← attemptE (fieldDefinition n) with
        | .ok f => pure f
        | .error e =>
          -- a member that fails at its first token gives that token up
          if e.atEnd || e.pos != t.start then throw e
          let err ← skipError
          return err :: (← classMembers n opening)
      let t ← peek
      -- before a closing brace where no semicolon may be left out, the field is given up as an
      -- error where that costs less than a missing semicolon
      if t.kind == .punct && t.text == "\x7d" && !(← canEnd (fieldTail f)) then
        let s ← src
        if errorCost s 1 f.start f.stop < missingCost then
          let err := Cst.node "ERROR" true true none f.start f.stop [f]
          return err :: (← classMembers n none)
        return [f.inField "member", ← missing ";" false] ++ (← classMembers n none)
      -- in a plain class, tokens that no field can go on with are skipped up to a semicolon,
      -- which ends the field, or up to the start of a member, the field then given up as well
      if !(← dialect).types && !(← at? ";") && !(← canEnd (fieldTail f)) && !startsMember t &&
          t.kind != .eof then
        let junk ← skipUntil n (fun u => u.kind == .punct && (u.text == ";" || u.text == "\x7d") ||
          resumesMember u)
        if ← at? ";" then
          return [f.inField "member"] ++ junk ++ [← bump] ++ (← classMembers n none)
        let stop := (junk.getLast?.map (·.stop)).getD f.stop
        return Cst.node "ERROR" true true none f.start stop (f :: junk) :: (← classMembers n none)
      if !(← at? ";") && !(← canEnd (fieldTail f)) && startsMember t then
        -- another member follows with no semicolon between them
        match opening with
        | some o =>
          if f.children.length == 1 && (← dropCost o) < missingCost then
            let err := Cst.node "ERROR" true true none f.start f.stop [f]
            return err :: (← classMembers n opening)
        | none => pure ()
        let semi ← missing ";" false
        return [f.inField "member", semi] ++ (← classMembers n none)
      let semi ← semicolonOrSkip n (fieldTail f)
      return [f.inField "member"] ++ semi ++ (← classMembers n none)

def methodSignature : Nat → P Cst
  | 0 => stuck
  | n + 1 => do
    let mods ← methodModifiers n true
    let name ← propertyName n
    let q ← accept "?"
    let sig ← callSignature n
    if ← at? "\x7b" then stuck
    let kind := if mods.any (·.kind == "abstract") then "abstract_method_signature" else "method_signature"
    mk kind (mods ++ [name.inField "name"] ++ q ++ sig)

def fieldDefinition : Nat → P Cst
  | 0 => stuck
  | n + 1 => do
    let d ← dialect
    let mods ← fieldModifiers n
    -- in a typed class abstract is only a modifier, and so is accessor where it leads the
    -- field, even before a line break; a colon between it and the name is an error
    let t ← peek
    if d.types && t.kind == .word && t.text == "abstract" then stuck
    let leads := mods.all fun m => m.kind == "accessibility_modifier" || m.kind == "declare"
    let (mods, gap) ← if d.types && t.kind == .word && t.text == "accessor" && leads then
        let kw ← bump
        let gap ← if (← at? ":") && (← peek2).kind == .word then pure [← skipError] else pure []
        let u ← peek
        if !(u.kind == .word || u.kind == .string || u.kind == .number || u.kind == .privateName ||
            u.text == "[") then
          set t.start
          stuck
        pure (mods ++ [kw], gap)
      else pure (mods, [])
    let name ← propertyName n
    let junk ← strayWords ["="]
    let mark ← if d.types then (do if ← at? "?" then pure [← bump] else accept "!") else pure []
    let ann ← if d.types && (← at? ":") then pure [(← Types.annotation n).inField "type"] else pure []
    let init ← if ← at? "=" then
        let eq ← bump
        let v ← assignment n Ctx.statement
        pure [eq, v.inField "value"]
      else pure []
    if d.types then
      mk "public_field_definition" (mods ++ gap ++ [name.inField "name"] ++ junk ++ mark ++ ann ++ init)
    else mk "field_definition" (mods ++ [name.inField "property"] ++ junk ++ init)

def fieldModifiers : Nat → P (List Cst)
  | 0 => stuck
  | n + 1 => do
    let t ← peek
    let t2 ← peek2
    let nameFollows := t2.kind == .word || t2.kind == .string || t2.kind == .number ||
      t2.kind == .privateName || t2.text == "["
    if t.kind == .word && nameFollows && !t2.newlineBefore && ((← dialect).types || t.text == "static") then
      match t.text with
      | "public" | "private" | "protected" =>
        let m ← mk "accessibility_modifier" [← bump]
        return m :: (← fieldModifiers n)
      | "override" =>
        let m ← mk "override_modifier" [← bump]
        return m :: (← fieldModifiers n)
      | "static" | "readonly" | "abstract" | "declare" =>
        return (← bump) :: (← fieldModifiers n)
      | _ => return []
    else return []

def exportStatement : Nat → List Cst → P Cst
  | 0, _ => stuck
  | n + 1, ds => do
    let kw ← bump
    let t ← peek
    if t.text == "default" && t.kind == .word then
      let dflt ← bump
      let t2 ← peek
      let t3 ← peek2
      let named := (t2.text == "function" && (t3.kind == .word || t3.text == "*")) ||
        (t2.text == "async" && t3.text == "function") ||
        (t2.text == "class" && t3.kind == .word && t3.text != "extends") ||
        ((← dialect).types && t3.kind == .word &&
          ["interface", "enum", "abstract", "declare", "namespace", "module"].contains t2.text)
      if named then
        if let some d ← attempt (declaration n) then
          return ← mk "export_statement" (ds ++ [kw, dflt, d.inField "declaration"])
      let v ← expressions n Ctx.statement
      return ← mk "export_statement"
        (ds ++ [kw, dflt, v.inField "value"] ++ (← semicolonOrSkip n .expression))
    -- typed scripts may export only the types of a list; before a star the word is an error
    let ty ← if (← dialect).types && t.text == "type" && (← peek2).text == "\x7b" then
        pure [← bump]
      else if (← dialect).types && t.text == "type" && (← peek2).text == "*" then
        pure [← skipError]
      else pure []
    if ← at? "*" then
      let star ← bump
      let ns ← if ← at? "as" then
          let a ← bump
          let nm ← bumpAs "identifier"
          pure [← mk "namespace_export" [star, a, nm]]
        else pure [star]
      let fr ← fromClause n
      return ← mk "export_statement" (ds ++ [kw] ++ ty ++ ns ++ fr ++ (← semicolonOrSkip n .other))
    if t.text == "as" && t.kind == .word && (← peek2).text == "namespace" then
      let a ← bump
      let ns ← bump
      let nm ← bumpAs "identifier"
      return ← mk "export_statement" (ds ++ [kw, a, ns, nm] ++ (← semicolonOrSkip n .other))
    if ← at? "\x7b" then
      let clause ← exportClause n
      let fr ← if ← at? "from" then fromClause n else pure []
      return ← mk "export_statement"
        (ds ++ [kw] ++ ty ++ [clause] ++ fr ++ (← semicolonOrSkip n .other))
    if t.text == "=" && t.kind == .punct then
      let eq ← bump
      let e ← expressions n Ctx.statement
      return ← mk "export_statement" (ds ++ [kw, eq, e] ++ (← semicolonOrSkip n .expression))
    let d ← declaration n
    mk "export_statement" (ds ++ [kw, d.inField "declaration"])

def fromClause : Nat → P (List Cst)
  | 0 => stuck
  | _ + 1 => do
    let f ← expect "from"
    let s ← if (← peek).kind == .string then bumpAs "string" else stuck
    return [f, s.inField "source"]

def exportClause : Nat → P Cst
  | 0 => stuck
  | n + 1 => do
    let o ← expect "\x7b"
    let items ← specifiers n "export_specifier"
    let c ← expect "\x7d"
    mk "export_clause" ([o] ++ items ++ [c])

def specifiers : Nat → String → P (List Cst)
  | 0, _ => stuck
  | n + 1, kind => do
    if ← at? "\x7d" then return []
    let t2 ← peek2
    let modifier ← if (← dialect).types && ((← at? "type") || (kind == "import_specifier" && (← at? "typeof"))) &&
        (t2.kind == .string || (t2.kind == .word && t2.text != "as")) then pure [← bump]
      else pure []
    let t ← peek
    let name ← if t.kind == .string then bumpAs "string" else bumpAs "identifier"
    let renamed ← if ← at? "as" then
        let a ← bump
        let nm ← if (← peek).kind == .string then bumpAs "string" else bumpAs "identifier"
        pure [a, nm.inField "alias"]
      else pure []
    let sp ← mk kind (modifier ++ [name.inField "name"] ++ renamed)
    if ← at? "," then
      let c ← bump
      return [sp, c] ++ (← specifiers n kind)
    else return [sp]

def importStatement : Nat → P Cst
  | 0 => stuck
  | n + 1 => do
    let d ← dialect
    if d.types && (← peek2).kind == .word then
      if let some a ← attempt (importAlias n) then return a
    let kw ← bump
    let ty ← if d.types && (← at? "type") && (← peek2).text != "from" then pure [← bump] else pure []
    if (← peek).kind == .string then
      let s ← bumpAs "string"
      let attr ← importAttribute n
      return ← mk "import_statement" ([kw] ++ ty ++ [s.inField "source"] ++ attr ++
        (← semicolonOrSkip n .other))
    if d.types && (← atWord) && (← peek2).text == "=" then
      let name ← bumpAs "identifier"
      let eq ← bump
      let req ← expect "require"
      let o ← expect "("
      let s ← if (← peek).kind == .string then bumpAs "string" else stuck
      let c ← expect ")"
      let clause ← mk "import_require_clause" [name, eq, req, o, s.inField "source", c]
      return ← mk "import_statement" ([kw] ++ ty ++ [clause] ++ (← semicolonOrSkip n .other))
    let clause ← importClause n
    let fr ← fromClause n
    let attr ← importAttribute n
    mk "import_statement" ([kw] ++ ty ++ [clause] ++ fr ++ attr ++ (← semicolonOrSkip n .other))

/-- The attributes `with \x7b type: 'json' \x7d` of an import, if written; typed scripts also
take the older spelling `assert`. -/
def importAttribute : Nat → P (List Cst)
  | 0 => stuck
  | n + 1 => do
    let t ← peek
    let older := (← dialect).types && t.text == "assert"
    if t.kind == .word && (t.text == "with" || older) && (← peek2).text == "\x7b" &&
        !(← canEnd .other) then
      let kw ← bump
      let o ← objectLiteral n
      return [← mk "import_attribute" [kw, o]]
    else return []

/-- An alias `import A = B.C` of a namespace; a call such as `require(...)` on the right makes
it no alias. -/
def importAlias : Nat → P Cst
  | 0 => stuck
  | n + 1 => do
    let kw ← expect "import"
    if !(← atWord) then stuck
    let name ← bumpAs "identifier"
    let eq ← expect "="
    if !(← atWord) then stuck
    let target ← dottedIdentifier n (← bumpAs "identifier")
    if ← at? "(" then stuck
    mk "import_alias" ([kw, name, eq, target] ++ (← semicolonOrSkip n .other))

def importClause : Nat → P Cst
  | 0 => stuck
  | n + 1 => do
    let first ← if (← peek).kind == .word && !(← at? "from") then
        let i ← bumpAs "identifier"
        if ← at? "," then
          let c ← bump
          pure [i, c]
        else pure [i]
      else pure []
    let more ← if ← at? "*" then
        let star ← bump
        let a ← expect "as"
        let nm ← bumpAs "identifier"
        pure [← mk "namespace_import" [star, a, nm]]
      else if ← at? "\x7b" then
        let o ← bump
        let items ← specifiers n "import_specifier"
        let c ← expect "\x7d"
        pure [← mk "named_imports" ([o] ++ items ++ [c])]
      else pure []
    if first.isEmpty && more.isEmpty then stuck
    mk "import_clause" (first ++ more)

def interfaceDeclaration : Nat → P Cst
  | 0 => stuck
  | n + 1 => do
    let kw ← bump
    let name ← bumpAs "type_identifier"
    let tps ← if ← at? "<" then pure [(← Types.typeParameters n).inField "type_parameters"] else pure []
    let ext ← if ← at? "extends" then
        let e ← bump
        pure [← mk "extends_type_clause" (e :: (← Types.namedList n))]
      else pure []
    let body ← Types.objectType n "interface_body"
    mk "interface_declaration" ([kw, name.inField "name"] ++ tps ++ ext ++ [body.inField "body"])

def typeAliasDeclaration : Nat → P Cst
  | 0 => stuck
  | n + 1 => do
    let kw ← bump
    let name ← bumpAs "type_identifier"
    let tps ← if ← at? "<" then pure [(← Types.typeParameters n).inField "type_parameters"] else pure []
    let eq ← expect "="
    let v ← Types.type_ n
    mk "type_alias_declaration" ([kw, name.inField "name"] ++ tps ++ [eq, v.inField "value"] ++
      (← semicolonOrSkip n .type))

def enumDeclaration : Nat → P Cst
  | 0 => stuck
  | n + 1 => do
    let c ← accept "const"
    let kw ← expect "enum"
    let name ← bumpAs "identifier"
    let o ← expect "\x7b"
    let ms ← enumMembers n
    let cl ← expect "\x7d"
    let body ← mk "enum_body" ([o] ++ ms ++ [cl])
    mk "enum_declaration" (c ++ [kw, name.inField "name", body.inField "body"])

def enumMembers : Nat → P (List Cst)
  | 0 => stuck
  | n + 1 => do
    if ← at? "\x7d" then return []
    let name ← propertyName n
    let m ← if ← at? "=" then
        let eq ← bump
        let v ← assignment n Ctx.inner
        mk "enum_assignment" [name.inField "name", eq, v.inField "value"]
      else pure (name.inField "name")
    if ← at? "," then
      let c ← bump
      return [m, c] ++ (← enumMembers n)
    else return [m]

def moduleDeclaration : Nat → String → P Cst
  | 0, _ => stuck
  | n + 1, kind => do
    let kw ← bump
    let t ← peek
    let name ← if t.kind == .string then bumpAs "string" else do
      let first ← bumpAs "identifier"
      dottedIdentifier n first
    let body ← if ← at? "\x7b" then pure [(← statementBlock n).inField "body"] else pure []
    mk kind ([kw, name.inField "name"] ++ body)

/-- A dotted name `a.b.c` after its first part: each part after a dot is a property, and a dotted
name standing left of a dot is a member expression. -/
def dottedIdentifier : Nat → Cst → P Cst
  | 0, _ => stuck
  | n + 1, left => do
    if ← at? "." then
      let dot ← bump
      if !(← atWord) then stuck
      let p ← bumpAs "property_identifier"
      let obj := if left.kind == "nested_identifier" then left.rename "member_expression" else left
      dottedIdentifier n (← mk "nested_identifier" [obj.inField "object", dot, p.inField "property"])
    else return left

def jsxElement : Nat → P Cst
  | 0 => stuck
  | n + 1 => do
    let lt ← expect "<"
    if ← at? ">" then
      let gt ← bump
      let opening ← mk "jsx_opening_element" [lt, gt]
      let kids ← jsxChildren n
      let closing ← jsxClosing n
      return ← mk "jsx_element" ([opening.inField "open_tag"] ++ kids ++ [closing.inField "close_tag"])
    let name ← jsxName n
    let targs ← if (← dialect).types && (← at? "<") then
        pure [(← Types.typeArguments n).inField "type_arguments"]
      else pure []
    let attrs ← jsxAttributes n
    if ← at? "/" then
      let sl ← bump
      let gt ← expectGt
      return ← mk "jsx_self_closing_element" ([lt, name.inField "name"] ++ targs ++ attrs ++ [sl, gt])
    let gt ← expectGt
    let opening ← mk "jsx_opening_element" ([lt, name.inField "name"] ++ targs ++ attrs ++ [gt])
    let kids ← jsxChildren n
    let closing ← jsxClosing n
    mk "jsx_element" ([opening.inField "open_tag"] ++ kids ++ [closing.inField "close_tag"])

def jsxName : Nat → P Cst
  | 0 => stuck
  | n + 1 => do
    let t ← peek
    let first ← jsxIdentifier "identifier"
    if (← at? ".") && first.stop == (← src).byte t.stop then
      jsxMember n first
    else if ← at? ":" then
      let colon ← bump
      let second ← jsxIdentifier "identifier"
      -- a namespaced name has no members
      if ← at? "." then stuck
      mk "jsx_namespace_name" [first, colon, second]
    else return first

def jsxMember : Nat → Cst → P Cst
  | 0, _ => stuck
  | n + 1, obj => do
    if ← at? "." then
      let dot ← bump
      let p ← bumpAs "property_identifier"
      jsxMember n (← mk "member_expression" [obj.inField "object", dot, p.inField "property"])
    else return obj

/-- A JSX identifier: a word, or where longer, a name of ASCII letters, digits, underscores
and dollar signs that holds a dash and may hold more dashes. -/
def jsxIdentifier (kind : String) : P Cst := do
  let t ← peek
  if t.kind != .word then stuck
  let s ← src
  let ascii (c : Char) : Bool := c.isAlphanum && c.toNat < 128 || c == '_' || c == '$'
  let head := scanWhile s ascii s.size t.start
  let e := if s.isAt head '-' then scanWhile s (fun c => ascii c || c == '-') s.size head else t.stop
  let e := max e t.stop
  set e
  leafOf { t with stop := e } kind true

def jsxAttributes : Nat → P (List Cst)
  | 0 => stuck
  | n + 1 => do
    let t ← peek
    let quoted := (← quoteAt).isSome
    if !quoted && t.kind == .word then
      let name ← jsxIdentifier "property_identifier"
      let name ← if ← at? ":" then
          let colon ← bump
          let second ← jsxIdentifier "identifier"
          mk "jsx_namespace_name" [name.rename "identifier", colon, second]
        else pure name
      let value ← if ← at? "=" then
          let eq ← bump
          let v ← jsxAttributeValue n
          pure [eq, v]
        else pure []
      let a ← mk "jsx_attribute" ([name] ++ value)
      return a.inField "attribute" :: (← jsxAttributes n)
    else if !quoted && t.text == "\x7b" && t.kind == .punct then
      let e ← jsxExpression n
      return e.inField "attribute" :: (← jsxAttributes n)
    else if !quoted && (t.text == "/" || t.kind == .eof || (t.kind == .punct && t.text.startsWith ">")) then
      return []
    else
      -- a stray token, and with it a slash, is skipped up to the next name, brace or `>`
      let junk ← jsxStrays n
      let err := Cst.node "ERROR" true true none ((junk.head?.map (·.start)).getD 0)
        ((junk.getLast?.map (·.stop)).getD 0) junk
      return err :: (← jsxAttributes n)

/-- Skips tokens inside a JSX tag up to a name, a brace or `>`, and gives them back; gets stuck
at the end. -/
def jsxStrays : Nat → P (List Cst)
  | 0 => stuck
  | n + 1 => do
    if let some k ← quoteAt then
      let s ← src
      set (k + 1)
      return Cst.leaf "\"" false (s.byte k) (s.byte (k + 1)) :: (← jsxStrays n)
    let t ← peek
    if t.kind == .eof then stuck
    if t.kind == .word || t.text == "\x7b" || (t.kind == .punct && t.text.startsWith ">") then return []
    let c ← bump
    return c :: (← jsxStrays n)

def jsxAttributeValue : Nat → P Cst
  | 0 => stuck
  | n + 1 => do
    let t ← peek
    let s ← src
    if let some k ← quoteAt then
      match jsxStringEnd s (s.get? k |>.getD '"') s.size (k + 1) with
      | some e =>
        set e
        return Cst.leaf "string" true (s.byte k) (s.byte e)
      | none => stuck
    else if t.text == "\x7b" then jsxExpression n
    else if t.text == "<" then jsxElement n
    else stuck

def jsxExpression : Nat → P Cst
  | 0 => stuck
  | n + 1 => do
    let o ← expect "\x7b"
    if ← at? "\x7d" then return ← mk "jsx_expression" [o, ← bump]
    let e ← if ← at? "..." then
        let dots ← bump
        let x ← assignment n Ctx.inner
        mk "spread_element" [dots, x]
      else expressions n Ctx.inner
    let c ← expect "\x7d"
    mk "jsx_expression" [o, e, c]

/-- The children of a JSX element up to its closing tag. Text runs up to a brace, an angle
bracket or an ampersand, blanks included, unless it is only line feeds and indentation. A stray
closing angle bracket or brace begins an error that runs, token by token, up to the next tag or
expression. -/
def jsxChildren : Nat → P (List Cst)
  | 0 => stuck
  | n + 1 => do
    let s ← src
    let i ← get
    let stop := scanWhile s (!isJsxTextStop ·) s.size i
    if jsxTextCounts s stop (stop - i) i false then
      set stop
      let txt := Cst.leaf "jsx_text" true (s.byte i) (s.byte stop)
      return txt :: (← jsxChildren n)
    let i := scanWhile s isSpace s.size i
    set i
    match s.get? i with
    | some '<' =>
      if (← peek2).text == "/" then return []
      let el ← jsxElement n
      return el :: (← jsxChildren n)
    | some '\x7b' =>
      let e ← jsxExpression n
      return e :: (← jsxChildren n)
    | some '&' =>
      match entityEnd s i with
      | some e =>
        set e
        let r := Cst.leaf "html_character_reference" true (s.byte i) (s.byte e)
        return r :: (← jsxChildren n)
      | none =>
        -- an ampersand that starts no character reference begins an error up to the next tag
        -- or expression; a number in it restarts the expression the element stands in
        if numberBeforeTag s s.size i then stuck
        let junk ← skipToTag n
        let e := Cst.node "ERROR" true true none (s.byte i) (junk.getLast?.map (·.stop) |>.getD (s.byte i)) junk
        return e :: (← jsxChildren n)
    | some '>' | some '\x7d' =>
      let junk ← skipToTag n
      let e := Cst.node "ERROR" true true none (s.byte i) (junk.getLast?.map (·.stop) |>.getD (s.byte i)) junk
      return e :: (← jsxChildren n)
    | _ => stuck

def skipToTag : Nat → P (List Cst)
  | 0 => stuck
  | n + 1 => do
    let t ← bump
    let u ← peek
    if u.kind == .eof then stuck
    if u.kind == .punct && (u.text == "<" || u.text == "\x7b") then return [t]
    return t :: (← skipToTag n)

def jsxClosing : Nat → P Cst
  | 0 => stuck
  | n + 1 => do
    let lt ← expect "<"
    let sl ← expect "/"
    let name ← if ← at? ">" then pure [] else closingName n
    let gt ← expectGt
    mk "jsx_closing_element" ([lt, sl] ++ name ++ [gt])

/-- The name of a closing tag, which `>` must follow: where it does not, tokens are given up as
errors one by one up to a word that it follows, which is then the name. -/
def closingName : Nat → P (List Cst)
  | 0 => stuck
  | n + 1 => do
    let named ← attempt (do
      let nm ← jsxName n
      let t ← peek
      if !(t.kind == .punct && t.text.startsWith ">") then stuck
      pure nm)
    if let some nm := named then return [nm.inField "name"]
    let t ← peek
    if t.kind == .eof || (t.kind == .punct && t.text.startsWith ">") then stuck
    let e ← skipError
    return e :: (← closingWord n)

/-- After tokens given up in a closing tag: more tokens given up as errors, up to a word that
`>` follows, which is the name. -/
def closingWord : Nat → P (List Cst)
  | 0 => stuck
  | n + 1 => do
    let t ← peek
    let t2 ← peek2
    if t.kind == .word && t2.kind == .punct && t2.text.startsWith ">" then
      return [(← bumpAs "identifier").inField "name"]
    if t.kind == .eof || (t.kind == .punct && t.text.startsWith ">") then stuck
    let e ← skipError
    return e :: (← closingWord n)

end

/-- The end of a line that starts with `#!` at `i`, as a character index: it runs to the next
line feed. -/
def hashBangLineEnd (s : Source) (i : Nat) : Nat := scanWhile s (· != '\n') s.size (i + 2)

/-- The pieces of a script from here to its end, after `opened`, the pieces read since the script
or its last line `#!...` began. Such a line may open a script; where one stands later at the
start of a statement, either it is skipped as an error, or everything read since the script or
the last such line began is given up as one error and the line opens the script anew, whichever
costs less. -/
def program (n : Nat) : Nat → List Cst → P (List Cst)
  | 0, opened => return opened
  | fuel + 1, opened => do
    let stmts ← statements n [] (some (← get))
    let s ← src
    let t ← peek
    let region := opened ++ stmts
    if t.kind == .eof then return region
    let e := hashBangLineEnd s t.start
    let line := Cst.leaf "hash_bang_line" true (s.byte t.start) (s.byte e)
    set e
    match region.head?, region.getLast? with
    | some a, some b =>
      if errorCost s region.length a.start b.stop ≤ errorCost s 1 line.start line.stop then
        return Cst.node "ERROR" true true none a.start b.stop region :: (← program n fuel [line])
      else
        program n fuel (region ++ [Cst.node "ERROR" true true none line.start line.stop [line]])
    | _, _ => program n fuel [line]

end SyntaxEdit.Syntax.Script
