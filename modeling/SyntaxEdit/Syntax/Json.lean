import SyntaxEdit.Syntax.Scan
import SyntaxEdit.Syntax.Concrete

namespace SyntaxEdit.Syntax.Json

inductive Tok where
  | openBrace
  | closeBrace
  | openBracket
  | closeBracket
  | comma
  | colon
  | string
  | number
  | keyword
  | invalid
  | eof
  deriving DecidableEq, Repr

structure Lexeme where
  tok : Tok
  start : Nat
  stop : Nat
  deriving Repr

def skipTrivia (src : Source) : Nat → Nat → Nat
  | 0, i => i
  | fuel + 1, i =>
    match src.get? i with
    | none => i
    | some c =>
      if Text.isBlank c then skipTrivia src fuel (i + 1)
      else if c == '/' && src.isAt (i + 1) '/' then
        skipTrivia src fuel (scanWhile src (· != '\n') src.size (i + 2))
      else if c == '/' && src.isAt (i + 1) '*' then
        match blockCommentEnd src src.size (i + 2) with
        | some e => skipTrivia src fuel e
        | none => i
      else i

/-- The end of a string whose body starts at `i`: after the closing quote, or the end of the
source when the quote is missing. A backslash escapes the character after it. -/
def stringEnd (src : Source) : Nat → Nat → Nat
  | 0, i => i
  | fuel + 1, i =>
    match src.get? i with
    | none => i
    | some '"' => i + 1
    | some '\\' => if i + 1 < src.size then stringEnd src fuel (i + 2) else i + 1
    | some _ => stringEnd src fuel (i + 1)

def numberEnd (src : Source) (i : Nat) : Option Nat :=
  let j := if src.isAt i '-' then i + 1 else i
  let whole : Option Nat :=
    if src.isAt j '0' then some (j + 1)
    else if (src.get? j).any isNonZeroDigit then some (scanWhile src Char.isDigit src.size (j + 1))
    else none
  whole.map fun e =>
    let f := if src.isAt e '.' then scanWhile src Char.isDigit src.size (e + 1) else e
    let k := if src.isAt (f + 1) '-' then f + 2 else f + 1
    if (src.isAt f 'e' || src.isAt f 'E') && (src.get? k).any Char.isDigit then
      scanWhile src Char.isDigit src.size k
    else f

def tokenAt (src : Source) (s : Nat) : Option (Tok × Nat) :=
  match src.get? s with
  | none => some (.eof, s)
  | some c =>
    if c == '\x7b' then some (.openBrace, s + 1)
    else if c == '\x7d' then some (.closeBrace, s + 1)
    else if c == '[' then some (.openBracket, s + 1)
    else if c == ']' then some (.closeBracket, s + 1)
    else if c == ',' then some (.comma, s + 1)
    else if c == ':' then some (.colon, s + 1)
    else if c == '"' then some (.string, stringEnd src src.size (s + 1))
    else if c == '-' || c.isDigit then (numberEnd src s).map (.number, ·)
    else if src.hasAt s "true" || src.hasAt s "null" then some (.keyword, s + 4)
    else if src.hasAt s "false" then some (.keyword, s + 5)
    else none

def somethingAt (src : Source) (s : Nat) : Bool :=
  (tokenAt src s).isSome || (src.isAt s '/' && src.isAt (s + 1) '/') ||
    (src.isAt s '/' && src.isAt (s + 1) '*' && (blockCommentEnd src src.size (s + 2)).isSome)

/-- How far a failed attempt to read a token at `s` gets: to the end for a block comment that is
never closed, else one character. -/
def failedEnd (src : Source) (s : Nat) : Nat :=
  if src.isAt s '/' && src.isAt (s + 1) '*' then src.size else s + 1

/-- The end of a run of characters that starts no token, from `e`: blanks inside the run belong
to it, blanks after it do not. -/
def invalidEnd (src : Source) : Nat → Nat → Nat
  | 0, e => e
  | fuel + 1, e =>
    let q := scanWhile src Text.isBlank src.size e
    if somethingAt src q then e else invalidEnd src fuel (max (q + 1) (failedEnd src q))

def tokenize (src : Source) : Nat → Nat → List Lexeme
  | 0, i => [⟨.eof, i, i⟩]
  | fuel + 1, i =>
    let s := skipTrivia src src.size i
    match tokenAt src s with
    | some (.eof, _) => [⟨.eof, s, s⟩]
    | some (k, e) => ⟨k, s, e⟩ :: tokenize src fuel e
    | none =>
      let e := invalidEnd src src.size (failedEnd src s)
      ⟨.invalid, s, e⟩ :: tokenize src fuel e

structure Doc where
  src : Source
  toks : Array Lexeme

namespace Doc

def ofSource (src : Source) : Doc := ⟨src, (tokenize src (src.size + 1) 0).toArray⟩

def token (d : Doc) (i : Nat) : Lexeme := d.toks.getD i ⟨.eof, d.src.size, d.src.size⟩

def tok (d : Doc) (i : Nat) : Tok := (d.token i).tok

def startByte (d : Doc) (i : Nat) : Nat := d.src.byte (d.token i).start

def stopByte (d : Doc) (i : Nat) : Nat := d.src.byte (d.token i).stop

def gapByte (d : Doc) (i : Nat) : Nat := if i = 0 then 0 else d.stopByte (i - 1)

def text (d : Doc) (i : Nat) : String := d.src.text (d.token i).start (d.token i).stop

def leaf (d : Doc) (i : Nat) : Cst :=
  let s := d.startByte i
  let e := d.stopByte i
  match d.tok i with
  | .string => Cst.leaf "string" true s e
  | .number => Cst.leaf "number" true s e
  | .keyword => Cst.leaf (d.text i) true s e
  | .invalid => Cst.node "ERROR" true true none s e []
  | _ => Cst.leaf (d.text i) false s e

def rows (d : Doc) (a b : Nat) : Nat :=
  (d.src.chars.toList.zip d.src.offsets.toList).countP fun (c, o) => c == '\n' && a ≤ o && o < b

def errorCost (d : Doc) (n a b : Nat) : Nat := 100 * n + (b - a) + 30 * d.rows a b

end Doc

def errorOf (cs : List Cst) : Cst :=
  match cs.head?, cs.getLast? with
  | some a, some b => Cst.node "ERROR" true true none a.start b.stop cs
  | _, _ => Cst.node "ERROR" true true none 0 0 cs

def Tok.startsValue : Tok → Bool
  | .string | .number | .keyword | .openBrace | .openBracket => true
  | _ => false

def Tok.isLiteral : Tok → Bool
  | .number | .keyword => true
  | _ => false

def Tok.isScalar : Tok → Bool
  | .string | .number | .keyword => true
  | _ => false

inductive Shape where
  | array
  | object
  deriving DecidableEq, Repr

def Shape.closer : Shape → Tok
  | .array => .closeBracket
  | .object => .closeBrace

def Shape.kind : Shape → String
  | .array => "array"
  | .object => "object"

def Shape.startsItem (s : Shape) (t : Tok) : Bool :=
  match s with
  | .array => t.startsValue
  | .object => t == .string

inductive Slot where
  | first
  | afterItem
  | afterComma
  | afterKey
  | afterColon
  deriving DecidableEq, Repr

/-- A list being read: the token index of its opening bracket; the children so far, last first;
where it stands; how many items it has read since it last started over, and where that was (a
length of `acc` and a token index); where its pending key is; and the tokens skipped since it
last fit, last first. -/
structure ListState where
  opener : Nat
  acc : List Cst
  slot : Slot
  count : Nat
  base : Nat
  baseTok : Nat
  keyAt : Nat
  keySlot : Slot
  errs : List Cst

namespace ListState

def initial (i : Nat) : ListState := ⟨i, [], .first, 0, 0, i + 1, 0, .first, []⟩

def placeErrors (st : ListState) : ListState :=
  if st.errs.isEmpty then st else { st with acc := errorOf st.errs.reverse :: st.acc, errs := [] }

def skip (st : ListState) (c : Cst) : ListState := { st with errs := c :: st.errs }

/-- The state where everything read since the list last started over becomes one error, and the
list starts over after it at token `i`. -/
def startOver (st : ListState) (i : Nat) : ListState :=
  let popped := st.acc.take (st.acc.length - st.base)
  let rest := st.acc.drop (st.acc.length - st.base)
  let acc := errorOf (popped.reverse ++ st.errs.reverse) :: rest
  { st with acc, slot := .first, count := 0, base := acc.length, baseTok := i, errs := [] }

def dropComma (st : ListState) : ListState :=
  match st.acc with
  | c :: rest => { st with acc := errorOf (c :: st.errs.reverse) :: rest, slot := .afterItem, errs := [] }
  | [] => { st with slot := .afterItem }

/-- The state where the pending key, and what follows it, becomes an error with the skipped
tokens; the list stands where the key was read. -/
def dropKey (st : ListState) : ListState :=
  let popped := st.acc.take (st.acc.length - st.keyAt)
  let rest := st.acc.drop (st.acc.length - st.keyAt)
  { st with acc := errorOf (popped.reverse ++ st.errs.reverse) :: rest, slot := st.keySlot,
            errs := [] }

def item (st : ListState) (c : Cst) : ListState :=
  { st with acc := c :: st.acc, slot := .afterItem, count := st.count + 1 }

def pair (st : ListState) (v : Cst) : ListState :=
  let parts := (st.acc.take (st.acc.length - st.keyAt)).reverse
  let rest := st.acc.drop (st.acc.length - st.keyAt)
  { st with acc := rest }.item (Cst.build "pair" v.stop (parts ++ [v.inField "value"]))

end ListState

def fits (shape : Shape) (slot : Slot) (t : Tok) : Bool :=
  match slot with
  | .first => shape.startsItem t || t == shape.closer
  | .afterItem => t == .comma || t == shape.closer
  | .afterComma => shape.startsItem t
  | .afterKey => t == .colon
  | .afterColon => t.startsValue

/-- Whether a value after the items of a list, where a comma is missing, is better skipped
than taken in place of those items: skipping must not look dearer than popping while the
choice is made, and must leave the smaller error. Tokens already skipped after the items count
on both sides. -/
def skipsStray (d : Doc) (st : ListState) (i : Nat) : Bool :=
  let popStart := d.startByte st.baseTok
  let popStop := d.gapByte i
  let skipped := st.errs.length
  let popped := 2 * st.count - 1 + skipped
  let dropCost := d.errorCost popped popStart popStop
  match st.errs.getLast? with
  | some e =>
    -- the value joins the tokens already skipped after the items
    d.errorCost (skipped + 1) e.start (d.stopByte i) < dropCost
  | none =>
    let skipGuess := d.errorCost 1 popStop (d.stopByte i)
    let skipCost := d.errorCost 1 (d.startByte i) (d.stopByte i)
    skipGuess ≤ dropCost && skipCost < dropCost

/-- Whether skipping numbers and keywords from token `i + k` on inside an object, after `skipped` skipped trees
from byte `start`, comes to cost more than `bound` before anything else comes. -/
def outgrows (d : Doc) (skipped start bound i : Nat) : Nat → Nat → Bool
  | 0, _ => false
  | fuel + 1, k =>
    (d.tok (i + k)).isLiteral &&
      (bound < d.errorCost (skipped + k + 1) start (d.stopByte (i + k)) ||
        outgrows d skipped start bound i fuel (k + 1))

/-- Whether an object standing at the top of a document is given up when a number or keyword
comes at token `i` where no value can stand. Recovery may take those that follow as further
values of the document, with all of the object read so far, from its brace on, as one error;
the version that skips them inside the object instead is dropped as soon as it costs more. -/
def abandons (d : Doc) (st : ListState) (i : Nat) : Bool :=
  let kept := (st.acc.filter (!·.extra)).length
  let skipped := (st.errs.filter (!·.extra)).length
  let popEnd := match st.errs.head? with
    | some e => e.stop
    | none => d.gapByte i
  let dropCost := d.errorCost (kept + 1 + skipped) (d.startByte st.opener) popEnd
  let skipStart := match st.errs.getLast? with
    | some e => e.start
    | none => d.startByte i
  outgrows d skipped skipStart dropCost i d.toks.size 0

/-- How the reading of a list ends: closed, with its children and the index after them, or
abandoned before token `next`, its children so far then being an error. -/
inductive Ending where
  | closed (cs : List Cst) (next : Nat)
  | abandoned (cs : List Cst) (next : Nat)

mutual

/-- The value that starts at token `i` and the index after it; `none` if none starts there.
`outer` is the list the value stands in, if any. -/
def value (d : Doc) (outer : Option Shape) : Nat → Nat → Option (Cst × Nat)
  | 0, _ => none
  | fuel + 1, i =>
    match d.tok i with
    | .string | .number | .keyword => some (d.leaf i, i + 1)
    | .openBracket => some (list d .array outer fuel i)
    | .openBrace => some (list d .object outer fuel i)
    | _ => none

/-- The list whose opening bracket is token `i`, and the index after it; an abandoned list is
an error. -/
def list (d : Doc) (shape : Shape) (outer : Option Shape) : Nat → Nat → Cst × Nat
  | 0, i => (d.leaf i, i + 1)
  | fuel + 1, i =>
    match items d shape outer fuel (i + 1) (ListState.initial i) with
    | .closed cs j => (Cst.build shape.kind (d.startByte i) (d.leaf i :: cs), j)
    | .abandoned cs j => (errorOf (d.leaf i :: cs), j)

/-- The children of a list from token `i` on, its closing bracket included, and the index after
them. -/
def items (d : Doc) (shape : Shape) (outer : Option Shape) :
    Nat → Nat → ListState → Ending
  | 0, i, st => .closed st.placeErrors.acc.reverse i
  | fuel + 1, i, st =>
    let t := d.tok i
    let missing (kind : String) (named : Bool) : Cst :=
      Cst.leaf kind named (d.gapByte i) (d.gapByte i)
    let closeMissing (st : ListState) : Ending :=
      .closed (missing (if shape == .array then "]" else "\x7d") false :: st.placeErrors.acc).reverse i
    let outerCloses := outer.any (fun o => t == o.closer) && t != shape.closer
    let readItem (st : ListState) : Ending :=
      match shape with
      | .object =>
        items d shape outer fuel (i + 1)
          { st with acc := (d.leaf i).inField "key" :: st.acc, slot := .afterKey,
                    keyAt := st.acc.length, keySlot := st.slot }
      | .array =>
        match value d (some shape) fuel i with
        | some (v, j) =>
          if v.kind == "ERROR" && d.tok j == .eof then .abandoned (v :: st.acc).reverse j
          else items d shape outer fuel j (st.item v)
        | none => items d shape outer fuel (i + 1) (st.skip (d.leaf i))
    if shape == .object && outer.isNone && st.slot != .afterColon && t.isLiteral &&
        abandons d st i then
      .abandoned (st.acc.reverse ++ st.errs.reverse) i
    else if !st.errs.isEmpty then
      if t == .eof then .abandoned (st.acc.reverse ++ st.errs.reverse) i
      else if fits shape st.slot t then items d shape outer fuel i st.placeErrors
      else if st.slot == .afterComma && (t == .comma || t == shape.closer) then
        items d shape outer fuel i st.dropComma
      else if st.slot == .afterItem && shape.startsItem t then
        if shape == .array && t.isScalar && (d.tok (i + 1) == .comma || d.tok (i + 1) == shape.closer) &&
            skipsStray d st i then
          items d shape outer fuel (i + 1) (st.skip (d.leaf i))
        else items d shape outer fuel i (st.startOver i)
      else if (st.slot == .afterKey || st.slot == .afterColon) &&
          (t == .string || ((t == .comma || t == shape.closer) && st.keySlot == .afterComma) ||
            (t == shape.closer && st.keySlot == .first)) then
        items d shape outer fuel i st.dropKey
      else items d shape outer fuel (i + 1) (st.skip (d.leaf i))
    else
      match st.slot with
      | .first =>
        if shape.startsItem t then readItem st
        else if t == shape.closer then .closed (d.leaf i :: st.acc).reverse (i + 1)
        else if t == .eof || outerCloses then closeMissing st
        else items d shape outer fuel (i + 1) (st.skip (d.leaf i))
      | .afterItem =>
        if t == .comma then items d shape outer fuel (i + 1) { st with acc := d.leaf i :: st.acc, slot := .afterComma }
        else if t == shape.closer then .closed (d.leaf i :: st.acc).reverse (i + 1)
        else if t == .eof || outerCloses then closeMissing st
        else if shape.startsItem t then
          if shape == .array && t.isScalar && (d.tok (i + 1) == .comma || d.tok (i + 1) == shape.closer) &&
              skipsStray d st i then
            items d shape outer fuel (i + 1) (st.skip (d.leaf i))
          else
            match items d shape outer fuel i (st.startOver i) with
            | .closed cs j =>
              -- an array at the top that would still miss its bracket ends here instead
              if shape == .array && outer.isNone && cs.getLast?.any (fun c => c.start == c.stop) then
                closeMissing st
              else .closed cs j
            | .abandoned cs j =>
              if shape == .array && outer.isNone then closeMissing st else .abandoned cs j
        else items d shape outer fuel (i + 1) (st.skip (d.leaf i))
      | .afterComma =>
        if shape.startsItem t then readItem st
        else if t == shape.closer || t == .eof then
          if shape == .array && st.count ≥ 2 then
            items d shape outer fuel i (st.item (missing "number" true))
          else items d shape outer fuel i st.dropComma
        else if t == .comma then
          if shape == .array && st.count ≥ 2 then
            items d shape outer fuel (i + 1) (st.skip (d.leaf i))
          else items d shape outer fuel i st.dropComma
        else items d shape outer fuel (i + 1) (st.skip (d.leaf i))
      | .afterKey =>
        if t == .colon then items d shape outer fuel (i + 1) { st with acc := d.leaf i :: st.acc, slot := .afterColon }
        else if t == .string || ((t == .comma || t == shape.closer) && st.keySlot == .afterComma) ||
            (t == shape.closer && st.keySlot == .first) then
          items d shape outer fuel i st.dropKey
        else if t == .eof then items d shape outer fuel i st.dropKey
        else items d shape outer fuel (i + 1) (st.skip (d.leaf i))
      | .afterColon =>
        if t.startsValue then
          match value d (some shape) fuel i with
          | some (v, j) =>
            if v.kind == "ERROR" && d.tok j == .eof then
              .abandoned ((v :: st.acc).reverse ++ st.errs.reverse) j
            else items d shape outer fuel j (st.pair v)
          | none => items d shape outer fuel (i + 1) (st.skip (d.leaf i))
        else if t == .comma || t == shape.closer || t == .eof then
          items d shape outer fuel i (st.pair (missing "number" true))
        else items d shape outer fuel (i + 1) (st.skip (d.leaf i))

end

def values (d : Doc) (fuel : Nat) : Nat → Nat → List Cst
  | 0, _ => []
  | steps + 1, i =>
    if d.tok i == .eof then []
    else
      match value d none fuel i with
      | some (v, j) => v :: values d fuel steps j
      | none => errorOf [d.leaf i] :: values d fuel steps (i + 1)

def parse (src : Source) : List Cst :=
  let d := Doc.ofSource src
  values d (5 * (d.toks.size + 2)) (d.toks.size + 1) 0

end SyntaxEdit.Syntax.Json
