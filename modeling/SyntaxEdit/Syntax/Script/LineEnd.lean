import SyntaxEdit.Syntax.Scan

namespace SyntaxEdit.Syntax

/-- What stands last before a possible end of statement: an expression, after which a binary
operator could still follow; a type; or anything else, such as a keyword, a name being declared
or a module path, after which no operator can follow. -/
inductive Tail where
  | expression
  | type
  | other
  deriving DecidableEq, Repr

inductive Gap where
  /-- at a slash that opens no comment -/
  | refused
  /-- right after a block comment that no further comment follows, when only the first
  comments were to be read; `broke` tells whether a line break stood inside the comments -/
  | afterBlock (k : Nat) (broke : Bool)
  /-- at `k`, the first character that is neither a blank nor in a comment -/
  | reached (k : Nat)
  deriving Repr

/-- Reads blanks and comments from `q` as the plain rule does. With `early` it stops right
after a block comment that no further comment follows; `broke` tells whether a line break stood
inside the block comments read so far. An unclosed block comment runs to the end. -/
def plainGap (src : Source) (early : Bool) : Nat → Nat → Bool → Gap
  | 0, q, _ => .reached q
  | fuel + 1, q, broke =>
    let q := scanWhile src isAsciiBlank src.size q
    if src.isAt q '/' && src.isAt (q + 1) '/' then
      plainGap src early fuel (scanWhile src (!isLineBreak ·) src.size (q + 2)) broke
    else if src.isAt q '/' && src.isAt (q + 1) '*' then
      match blockCommentEnd src src.size (q + 2) with
      | some e =>
        let broke := broke || (List.range (e - q)).any fun k => (src.get? (q + k)).any isLineBreak
        if early && !src.isAt e '/' then .afterBlock e broke
        else plainGap src early fuel e broke
      | none => .reached src.size
    else if src.isAt q '/' then .refused
    else .reached q

/-- Reads blanks and comments from `q` as the typed rule does: where they end, or `none` at a
slash that opens no comment. -/
def typedGap (src : Source) : Nat → Nat → Option Nat
  | 0, q => some q
  | fuel + 1, q =>
    let q := scanWhile src isAsciiBlank src.size q
    if src.isAt q '/' && src.isAt (q + 1) '/' then
      typedGap src fuel (scanWhile src (· != '\n') src.size (q + 2))
    else if src.isAt q '/' && src.isAt (q + 1) '*' then
      match blockCommentEnd src src.size (q + 2) with
      | some e => typedGap src fuel e
      | none => some src.size
    else if src.isAt q '/' then none
    else some q

/-- Whether `++`, `--`, a unary `!`, or a word other than `in` and `instanceof` stands at `j`,
the first character of a new line: these start a new statement, while `+`, `-`, `!=`, `in` and
`instanceof` continue the line. `none` for any other character. -/
def startsNewLine (s : Source) (j : Nat) : Option Bool :=
  match s.get? j with
  | some '+' => some (s.isAt (j + 1) '+')
  | some '-' => some (s.isAt (j + 1) '-')
  | some '!' => some (!s.isAt (j + 1) '=')
  | some 'i' =>
    if !s.isAt (j + 1) 'n' then some true
    else if !((s.get? (j + 2)).any Char.isAlpha) then some false
    else if s.hasAt (j + 2) "stanceof" then some ((s.get? (j + 10)).any Char.isAlpha)
    else some true
  | _ => none

/-- Whether the plain rule lets a line end when `j` is the first place after the line break
that is no blank and no comment: operators, brackets and backquotes there continue the line,
a number such as `.5` starts a new one. -/
def plainBreakEnds (s : Source) (j : Nat) : Bool :=
  match s.get? j with
  | some c =>
    if ",:;*%><=[(?^|&/`".toList.contains c then false
    else if c == '.' then (s.get? (j + 1)).any Char.isDigit
    else (startsNewLine s j).getD true
  | none => true

/-- Whether the typed rule lets a line end when `j` is the first place after the line break
that is no blank and no comment. A bracket or parenthesis there starts a new statement only
where `operand` is false, that is where no binary operator could follow. -/
def typedBreakEnds (s : Source) (operand : Bool) (j : Nat) : Bool :=
  match s.get? j with
  | some c =>
    if "`,.;*%><=?^|&/:".toList.contains c then false
    else if c == '(' || c == '[' then !operand
    else (startsNewLine s j).getD true
  | none => true

/-- Whether the plain rule ends a statement right at `p`; `operand` tells whether a binary
operator could follow there. -/
def plainEndsAt (src : Source) (operand : Bool) : Nat → Nat → Bool
  | 0, _ => false
  | fuel + 1, p =>
    -- the checks that follow a run of comments, and that every blank goes through
    let rest (k : Nat) : Bool :=
      match src.get? k with
      | none => false
      | some c =>
        if c == '\x7d' then true
        else if isLineBreak c then
          match plainGap src false src.size (k + 1) false with
          | .reached j => plainBreakEnds src j
          | _ => false
        else if isAsciiBlank c then plainEndsAt src operand fuel (k + 1)
        else false
    -- after no operator, a comment that breaks the line ends the statement before it
    let decides (k : Nat) : Bool := !operand && !(src.isAt k ',' || src.isAt k '=')
    match src.get? p with
    | none => true
    | some c =>
      if c == '/' then
        match plainGap src true src.size p false with
        | .refused => false
        | .reached k => decides k || rest k
        | .afterBlock k broke => (broke && decides k) || rest k
      else rest p

/-- Whether the typed rule ends a statement right at `p`; `operand` tells whether a binary
operator could follow there. A closing brace followed by a colon ends it only there, as in a
conditional whose branch is an object. -/
def typedEndsAt (src : Source) (operand : Bool) : Nat → Nat → Bool
  | 0, _ => false
  | fuel + 1, p =>
    match src.get? p with
    | none => true
    | some c =>
      if c == '\x7d' then
        if src.isAt (scanWhile src isAsciiBlank src.size (p + 1)) ':' then operand else true
      else if c == '\n' then
        match typedGap src src.size (p + 1) with
        | some j => typedBreakEnds src operand j
        | none => false
      else if isAsciiBlank c then typedEndsAt src operand fuel (p + 1)
      else false

/-- Where a statement whose last token ends at `i` may end with no semicolon written, after a
part of kind `tail`, under the typed rule or the plain one: at `i`, or after the comments that
follow when the rule declines before them and accepts after one of them; `none` where it may
not end. -/
def leftOutAt (src : Source) (typed : Bool) (tail : Tail) : Nat → Nat → Option Nat
  | 0, _ => none
  | fuel + 1, i =>
    let operand := tail == .expression
    let ends :=
      if typed then typedEndsAt src operand src.size i else plainEndsAt src operand src.size i
    if ends then some i
    else
      let q := scanWhile src isSpace src.size i
      if src.isAt q '/' && src.isAt (q + 1) '/' then
        leftOutAt src typed tail fuel (lineCommentEnd src (q + 2))
      else if src.isAt q '/' && src.isAt (q + 1) '*' then
        match blockCommentEnd src src.size (q + 2) with
        | some e => leftOutAt src typed tail fuel e
        | none => none
      else none

end SyntaxEdit.Syntax
