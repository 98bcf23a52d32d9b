import SyntaxEdit.Text.Blank

namespace SyntaxEdit.Syntax

structure Source where
  chars : Array Char
  offsets : Array Nat

namespace Source

def offsetsFrom : List Char → Nat → List Nat
  | [], b => [b]
  | c :: cs, b => b :: offsetsFrom cs (b + c.utf8Size)

def ofString (s : String) : Source := ⟨s.toList.toArray, (offsetsFrom s.toList 0).toArray⟩

def size (src : Source) : Nat := src.chars.size

def get? (src : Source) (i : Nat) : Option Char := src.chars[i]?

def isAt (src : Source) (i : Nat) (c : Char) : Bool := src.get? i == some c

def byte (src : Source) (i : Nat) : Nat := src.offsets.getD (min i src.size) 0

/-- The index of the first character in `[lo, hi)` whose byte offset is at least `b`, or `hi`;
offsets grow with the index, so halving the range finds it. -/
def indexFrom (src : Source) (b : Nat) : Nat → Nat → Nat → Nat
  | 0, lo, _ => lo
  | fuel + 1, lo, hi =>
    if hi ≤ lo then lo
    else
      let mid := (lo + hi) / 2
      if src.byte mid < b then indexFrom src b fuel (mid + 1) hi else indexFrom src b fuel lo mid

def indexOfByte (src : Source) (b : Nat) : Nat := indexFrom src b 64 0 src.size

def rowsBetween (src : Source) (a b : Nat) : Nat :=
  let i := src.indexOfByte a
  (List.range (src.indexOfByte b - i)).countP fun k => src.isAt (i + k) '\n'

def text (src : Source) (i j : Nat) : String := String.ofList ((src.chars.extract i j).toList)

def hasAt (src : Source) (i : Nat) (w : String) : Bool :=
  (w.toList.zipIdx.all fun (c, k) => src.isAt (i + k) c)

end Source

def isSpace (c : Char) : Bool :=
  Text.isBlank c || c == '﻿' || c == '⁠' || c == '​'

def isLineBreak (c : Char) : Bool := c == '\n' || c == ' ' || c == ' '

def isWordStop (c : Char) : Bool :=
  c.toNat < 0x20 || isSpace c || ":;`\"'@#.,|^&<=>+-*/\\%?!~()[]\x7b\x7d".toList.contains c

def isWordPart (c : Char) : Bool := !isWordStop c

def isWordStart (c : Char) : Bool := isWordPart c && !c.isDigit

def isHexDigit (c : Char) : Bool := c.isDigit || ('a' ≤ c && c ≤ 'f') || ('A' ≤ c && c ≤ 'F')

def scanWhile (src : Source) (p : Char → Bool) : Nat → Nat → Nat
  | 0, i => i
  | fuel + 1, i =>
    match src.get? i with
    | some c => if p c then scanWhile src p fuel (i + 1) else i
    | none => i

/-- The end of a Unicode escape `\uXXXX` or `\u\x7bX...\x7d` at `i`, if one is there; a word may
spell its characters this way. -/
def unicodeEscapeEnd (src : Source) (i : Nat) : Option Nat :=
  if src.isAt i '\\' && src.isAt (i + 1) 'u' then
    if src.isAt (i + 2) '\x7b' then
      let j := scanWhile src isHexDigit src.size (i + 3)
      if j > i + 3 && src.isAt j '\x7d' then some (j + 1) else none
    else if (List.range 4).all fun k => (src.get? (i + 2 + k)).any isHexDigit then some (i + 6)
    else none
  else none

def wordEnd (src : Source) : Nat → Nat → Nat
  | 0, i => i
  | fuel + 1, i =>
    match src.get? i with
    | some c =>
      if isWordPart c then wordEnd src fuel (i + 1)
      else
        match unicodeEscapeEnd src i with
        | some j => wordEnd src fuel j
        | none => i
    | none => i

def wordStartsAt (src : Source) (i : Nat) : Bool :=
  (src.get? i).any isWordStart || (unicodeEscapeEnd src i).isSome

/-- The index after the end of a block comment whose body starts at `i`; `none` when it is
never closed, and then it is no comment. -/
def blockCommentEnd (src : Source) : Nat → Nat → Option Nat
  | 0, _ => none
  | fuel + 1, i =>
    match src.get? i with
    | none => none
    | some '*' => if src.isAt (i + 1) '/' then some (i + 2) else blockCommentEnd src fuel (i + 1)
    | some _ => blockCommentEnd src fuel (i + 1)

/-- Where a string whose line ended before `i` closes: blanks may stand before its closing
quote, and so may one word, which is then an error inside the string; `none` if anything else
comes first. -/
def stringResumes (src : Source) (q : Char) (i : Nat) : Option Nat :=
  let j := scanWhile src isSpace src.size i
  let k := scanWhile src isWordPart src.size j
  let m := scanWhile src isSpace src.size k
  if src.isAt j q then some (j + 1)
  else if k > j && src.isAt m q then some (m + 1)
  else none

/-- The end of a string literal opened by `q` whose body starts at `i`; `none` if a line ends
first and the string does not close right after it. -/
def stringEnd (src : Source) (q : Char) : Nat → Nat → Option Nat
  | 0, _ => none
  | fuel + 1, i =>
    match src.get? i with
    | none => none
    | some c =>
      if c == q then some (i + 1)
      else if c == '\\' then
        if src.isAt (i + 1) '\r' && src.isAt (i + 2) '\n' then stringEnd src q fuel (i + 3)
        else stringEnd src q fuel (i + 2)
      else if c == '\n' || c == '\r' then stringResumes src q i
      else stringEnd src q fuel (i + 1)

def hexRun (src : Source) (i m : Nat) : Nat :=
  min m (scanWhile src isHexDigit src.size i - i)

/-- Reads the escape sequence whose backslash is at `i`: where it ends if it is well formed, or
else where reading it failed. After the backslash stands one character other than `x`, `u` and
an octal digit; one to three octal digits; `x` and two hex digits; `u` and four hex digits, or
hex digits in braces; or a carriage return and a line break. -/
def escapeEnd (src : Source) (i : Nat) : Except Nat Nat :=
  match src.get? (i + 1) with
  | none => .error (i + 1)
  | some c =>
    if c == 'x' then
      let k := hexRun src (i + 2) 2
      if k == 2 then .ok (i + 4) else .error (i + 2 + k)
    else if c == 'u' then
      if src.isAt (i + 2) '\x7b' then
        let e := scanWhile src isHexDigit src.size (i + 3)
        if e > i + 3 && src.isAt e '\x7d' then .ok (e + 1) else .error e
      else
        let k := hexRun src (i + 2) 4
        if k == 4 then .ok (i + 6) else .error (i + 2 + k)
    else if '0' ≤ c && c ≤ '7' then
      .ok (min (scanWhile src (fun d => '0' ≤ d && d ≤ '7') src.size (i + 1)) (i + 4))
    else if c == '\r' && (src.get? (i + 2)).any isLineBreak then .ok (i + 3)
    else .ok (i + 2)

/-- The end of a JSX string whose body starts at `i`: the next quote `q`, wherever it stands,
for such strings know no escapes. -/
def jsxStringEnd (src : Source) (q : Char) : Nat → Nat → Option Nat
  | 0, _ => none
  | fuel + 1, i =>
    match src.get? i with
    | none => none
    | some c => if c == q then some (i + 1) else jsxStringEnd src q fuel (i + 1)

def lineCommentEnd (src : Source) (i : Nat) : Nat :=
  scanWhile src (fun c => !isLineBreak c && c != '\r') src.size i

/-- Skips blanks and comments from `i`; also tells whether a line break was among the blanks.
A string whose line ends before its closing quote is skipped too, up to the line's end: it
cannot be read as a token. Where `html` holds, `<!--` and `-->` also start comments that run to
the end of the line. -/
def skipTrivia (src : Source) (html : Bool) : Nat → Nat → Bool → Nat × Bool
  | 0, i, nl => (i, nl)
  | fuel + 1, i, nl =>
    match src.get? i with
    | none => (i, nl)
    | some c =>
      if isSpace c then skipTrivia src html fuel (i + 1) (nl || isLineBreak c)
      else if c == '/' && src.isAt (i + 1) '/' then
        skipTrivia src html fuel (lineCommentEnd src (i + 2)) nl
      else if html && (src.hasAt i "<!--" || src.hasAt i "-->") then
        skipTrivia src html fuel (scanWhile src (!isLineBreak ·) src.size (i + 3)) nl
      else if c == '/' && src.isAt (i + 1) '*' then
        match blockCommentEnd src src.size (i + 2) with
        | some e => skipTrivia src html fuel e nl
        | none => (i, nl)
      else if (c == '"' || c == '\'') && (stringEnd src c src.size (i + 1)).isNone then
        skipTrivia src html fuel (scanWhile src (fun d => d != '\n' && d != '\r') src.size (i + 1)) nl
      else (i, nl)

/-- The position after the markup comments (`<!--` or `-->` up to the end of the line) that
stand next after `i`, or `i` itself if none does. -/
def markupCommentsEnd (src : Source) : Nat → Nat → Nat
  | 0, i => i
  | fuel + 1, i =>
    let k := (skipTrivia src false src.size i false).1
    if src.hasAt k "<!--" || src.hasAt k "-->" then
      markupCommentsEnd src fuel (scanWhile src (!isLineBreak ·) src.size (k + 3))
    else i

/-- The ASCII blanks: the only blanks that may stand between a statement and the line feed
that ends it where no semicolon is written. -/
def isAsciiBlank (c : Char) : Bool :=
  c == ' ' || c == '\t' || c == '\n' || c == '\r' || c.toNat == 11 || c.toNat == 12

inductive TokKind where
  | word
  | number
  | string
  | privateName
  | punct
  | unknown
  | eof
  deriving DecidableEq, Repr

structure Token where
  kind : TokKind
  text : String
  start : Nat
  stop : Nat
  newlineBefore : Bool
  deriving Repr

def punctuators : List String :=
  [">>>=", "...", "===", "!==", "**=", "<<=", ">>=", ">>>", "&&=", "||=", "??=",
   "=>", "==", "!=", "<=", ">=", "&&", "||", "??", "?.", "++", "--", "+=", "-=", "*=", "/=",
   "%=", "&=", "|=", "^=", "**", "<<", ">>", "\x7b", "\x7d", "(", ")", "[", "]", ";", ",", "<", ">",
   "+", "-", "*", "/", "%", "&", "|", "^", "!", "~", "?", ":", "=", ".", "@", "#"]

/-- The end of digits of class `p` from `i` on, where single underscores may separate two
digits. -/
def digitRunEnd (src : Source) (p : Char → Bool) : Nat → Nat → Nat
  | 0, i => i
  | fuel + 1, i =>
    if (src.get? i).any p then digitRunEnd src p fuel (i + 1)
    else if src.isAt i '_' && (src.get? (i + 1)).any p then digitRunEnd src p fuel (i + 2)
    else i

def digitsEnd (src : Source) (p : Char → Bool) (i : Nat) : Option Nat :=
  if (src.get? i).any p then some (digitRunEnd src p src.size (i + 1)) else none

def prefixedEnd (src : Source) (marks : List Char) (p : Char → Bool) (i : Nat) : Option Nat :=
  if src.isAt i '0' && (src.get? (i + 1)).any marks.contains then digitsEnd src p (i + 2)
  else none

def isNonZeroDigit (c : Char) : Bool := '1' ≤ c && c ≤ '9'

/-- The end of the integer part of a decimal at `i`: `0`, or an optional `0`, a digit other
than zero and more digits, perhaps after an underscore. -/
def integerPartEnd (src : Source) (i : Nat) : Option Nat :=
  let tail (e : Nat) : Nat :=
    if src.isAt e '_' then (digitsEnd src Char.isDigit (e + 1)).getD e
    else (digitsEnd src Char.isDigit e).getD e
  match src.get? i with
  | some '0' => if (src.get? (i + 1)).any isNonZeroDigit then some (tail (i + 2)) else some (i + 1)
  | some c => if isNonZeroDigit c then some (tail (i + 1)) else none
  | none => none

def exponentEnd (src : Source) (i : Nat) : Option Nat :=
  if src.isAt i 'e' || src.isAt i 'E' then
    digitsEnd src Char.isDigit (if src.isAt (i + 1) '+' || src.isAt (i + 1) '-' then i + 2 else i + 1)
  else none

/-- The end of a number at `i`: the longest of the hexadecimal, binary, octal and decimal forms
and of the big integers, which end in `n`. -/
def numberEnd (src : Source) (i : Nat) : Nat :=
  let withExp (e : Nat) : Nat := (exponentEnd src e).getD e
  let hex := prefixedEnd src ['x', 'X'] isHexDigit i
  let bin := prefixedEnd src ['b', 'B'] (fun c => c == '0' || c == '1') i
  let oct := prefixedEnd src ['o', 'O'] (fun c => '0' ≤ c && c ≤ '7') i
  let digits := digitsEnd src Char.isDigit i
  let pointed := (integerPartEnd src i).bind fun e =>
    if src.isAt e '.' then some (withExp ((digitsEnd src Char.isDigit (e + 1)).getD (e + 1))) else none
  let leadingPoint := if src.isAt i '.' then (digitsEnd src Char.isDigit (i + 1)).map withExp else none
  let scaled := (integerPartEnd src i).bind (exponentEnd src)
  let big := [hex, bin, oct, digits].filterMap fun e =>
    e.bind fun e => if src.isAt e 'n' then some (e + 1) else none
  ([hex, bin, oct, digits, pointed, leadingPoint, scaled].filterMap id ++ big).foldl max (i + 1)

def operandWords : List String :=
  ["typeof", "void", "delete", "await", "new", "throw", "in", "instanceof", "of", "case", "extends"]

/-- Whether the token that ends at `i` leaves a statement or an operand to come, so that no
statement can end there: the start of the source, a semicolon or brace, an opening bracket, a
comma, an operator other than `++`, `--` and `/`, or a word such as `typeof`. Markup comments
are read only there. -/
def expectsOperand (src : Source) (i : Nat) : Bool :=
  i == 0 ||
    match src.get? (i - 1) with
    | none => true
    | some c =>
      if ";\x7b\x7d([,=:?~!*%^&|<.".toList.contains c then true
      else if c == '>' then !src.isAt (i - 2) '/'
      else if c == '+' || c == '-' then !src.isAt (i - 2) c
      else operandWords.any fun w =>
        i ≥ w.length && src.hasAt (i - w.length) w &&
          (i == w.length || !(src.get? (i - w.length - 1)).any isWordPart)

/-- The token at `i`, after blanks and comments; `nl` says whether a line break came before.
Markup comments are read only where a statement or operand must follow. -/
def scan (src : Source) (i : Nat) : Token :=
  let html := expectsOperand src i
  let (s, nl) := skipTrivia src html src.size i false
  let mk (k : TokKind) (t : Nat) : Token := ⟨k, src.text s t, s, t, nl⟩
  match src.get? s with
  | none => mk .eof s
  | some c =>
    if c.isDigit || (c == '.' && (src.get? (s + 1)).any Char.isDigit) then mk .number (numberEnd src s)
    else if c == '"' || c == '\'' then
      mk .string ((stringEnd src c src.size (s + 1)).getD (s + 1))
    else if c == '#' && wordStartsAt src (s + 1) then
      mk .privateName (wordEnd src src.size (s + 1))
    else if wordStartsAt src s then mk .word (wordEnd src src.size s)
    -- trivia stop short of a block comment only where it is never closed; where an operand
    -- must follow, its slash opens a pattern that runs to the end
    else if c == '/' && src.isAt (s + 1) '*' && html then mk .unknown src.size
    else
      match punctuators.find? (src.hasAt s ·) with
      | some p =>
        if p == "?." && (src.get? (s + 2)).any Char.isDigit then mk .punct (s + 1)
        else mk .punct (s + p.length)
      | none => mk .unknown (s + 1)

/-- The end of a regular expression whose body starts at `i` (after the opening slash), flags
included; `none` if a line feed or the end comes first. Flags are lowercase letters. -/
def regexEnd (src : Source) : Nat → Nat → Bool → Option Nat
  | 0, _, _ => none
  | fuel + 1, i, inClass =>
    match src.get? i with
    | none => none
    | some c =>
      if c == '\n' then none
      else if c == '\\' then
        if (src.get? (i + 1)).any (· != '\n') then regexEnd src fuel (i + 2) inClass else none
      else if inClass then regexEnd src fuel (i + 1) (c != ']')
      else if c == '[' then regexEnd src fuel (i + 1) true
      else if c == '/' then some (scanWhile src (fun d => 'a' ≤ d && d ≤ 'z') src.size (i + 1))
      else regexEnd src fuel (i + 1) false

def regexBreak (src : Source) : Nat → Nat → Bool → Option Nat
  | 0, _, _ => none
  | fuel + 1, i, inClass =>
    match src.get? i with
    | none => none
    | some c =>
      if c == '\n' then some i
      else if c == '\\' then regexBreak src fuel (i + 2) inClass
      else if inClass then regexBreak src fuel (i + 1) (c != ']')
      else if c == '[' then regexBreak src fuel (i + 1) true
      else if c == '/' then none
      else regexBreak src fuel (i + 1) false

def templateCharsEnd (src : Source) : Nat → Nat → Nat
  | 0, i => i
  | fuel + 1, i =>
    match src.get? i with
    | none => i
    | some c =>
      if c == '`' || c == '\\' || (c == '$' && src.isAt (i + 1) '{') then i
      else templateCharsEnd src fuel (i + 1)

def isJsxTextStop (c : Char) : Bool := "\x7b\x7d<>&".toList.contains c || c == '\x00'

def isJsxBlank (c : Char) : Bool :=
  c == ' ' || c == '\t' || c == '\n' || c == '\r' || c == '\x0b' || c == '\x0c'

/-- Whether the characters of `[i, stop)` make JSX text: some character in them is neither a
line feed nor a blank that follows a line feed through blanks only. Text that is only
indentation between tags is no text. -/
def jsxTextCounts (src : Source) (stop : Nat) : Nat → Nat → Bool → Bool
  | 0, _, _ => false
  | fuel + 1, i, atLineStart =>
    if stop ≤ i then false
    else match src.get? i with
      | none => false
      | some c =>
        if c == '\n' then jsxTextCounts src stop fuel (i + 1) true
        else if atLineStart && isJsxBlank c then jsxTextCounts src stop fuel (i + 1) true
        else true

/-- The end of a character reference at `i`: `&name;` with up to 30 letters, `&#` and up to five
digits, or `&#x` and up to six hex digits, then `;`. -/
def entityEnd (src : Source) (i : Nat) : Option Nat :=
  if !src.isAt i '&' then none
  else
    let body (p : Char → Bool) (j max : Nat) : Option Nat :=
      let e := scanWhile src p max j
      if j < e && src.isAt e ';' then some (e + 1) else none
    if src.isAt (i + 1) '#' then
      if src.isAt (i + 2) 'x' || src.isAt (i + 2) 'X' then body isHexDigit (i + 3) 6
      else body Char.isDigit (i + 2) 5
    else body Char.isAlpha (i + 1) 30

end SyntaxEdit.Syntax
