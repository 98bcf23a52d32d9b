import SyntaxEdit.Syntax.Script.Cursor

namespace SyntaxEdit.Syntax.Words

/-- How tightly a binary operator binds, loosest `1`; `none` for tokens that are no binary
operator. `in` counts only where it is allowed. -/
def binaryPrec (t : Token) (allowIn : Bool) : Option Nat :=
  if t.kind == .punct then
    match t.text with
    | "??" => some 1
    | "||" => some 2
    | "&&" => some 3
    | "|" => some 4
    | "^" => some 5
    | "&" => some 6
    | "==" | "!=" | "===" | "!==" => some 7
    | "<" | ">" | "<=" | ">=" => some 8
    | "<<" | ">>" | ">>>" => some 9
    | "+" | "-" => some 10
    | "*" | "/" | "%" => some 11
    | "**" => some 12
    | _ => none
  else if t.kind == .word then
    match t.text with
    | "instanceof" => some 8
    | "in" => if allowIn then some 8 else none
    | _ => none
  else none

def typeOpPrec : Nat := 8

def compoundAssign : List String :=
  ["+=", "-=", "*=", "/=", "%=", "^=", "&=", "|=", ">>=", ">>>=", "<<=", "**=", "&&=", "||=", "??="]

/-- Whether a token can go on with an expression that precedes it: a binary or assignment
operator, a member access, a call or subscript, a conditional, or an update. -/
def continuesExpression (t : Token) : Bool :=
  (binaryPrec t true).isSome || (t.kind == .punct &&
    (["=", "?", ".", "?.", "(", "[", "++", "--", "=>"].contains t.text || compoundAssign.contains t.text))

def unaryOps : List String := ["!", "~", "-", "+", "typeof", "void", "delete"]

def statementWords : List String :=
  ["if", "for", "while", "do", "try", "switch", "return", "throw", "break", "continue",
   "debugger", "with", "var", "const", "function", "class", "export", "import", "else",
   "case", "default", "catch", "finally"]

def startsExpression (t : Token) : Bool :=
  match t.kind with
  | .word => !(["in", "instanceof", "of", "else", "case", "default", "catch", "finally"].contains t.text)
  | .number | .string | .privateName => true
  | .punct => ["(", "[", "\x7b", "/", "/=", "!", "~", "+", "-", "++", "--", "<", "..."].contains t.text
  | .unknown => t.text == "`"
  | .eof => false

/-- Whether a token can open a statement: what opens an expression, a semicolon or a
decorator. -/
def startsStatement (t : Token) : Bool :=
  startsExpression t || (t.kind == .punct && [";", "@"].contains t.text)

/-- Whether a token starts an operand by itself: a name, a number, a string or a template. Words
that join two operands, such as `in` and `as`, do not. -/
def startsOperand (t : Token) : Bool :=
  match t.kind with
  | .word => !(["in", "instanceof", "of", "as", "satisfies", "else", "case", "default", "catch",
      "finally", "if", "for", "while", "do", "return", "throw", "break", "continue", "var", "let",
      "const", "function", "class", "import", "export", "try", "switch", "with", "debugger",
      "extends", "implements", "from", "yield", "await", "new", "typeof", "void", "delete",
      "async", "get", "set", "static", "type", "interface", "enum", "declare", "namespace",
      "module", "abstract", "keyof", "readonly", "is", "asserts", "infer", "unique"].contains t.text)
  | .number | .string => true
  | .unknown => t.text == "`"
  | _ => false

def closesOperand (t : Token) : Bool :=
  t.kind == .punct && [")", "]", "\x7d", ","].contains t.text

/-- Whether a token can start a member of a class: a name of any kind, a computed name, a
generator's star or a decorator. -/
def startsMember (t : Token) : Bool :=
  match t.kind with
  | .word | .number | .string | .privateName => true
  | .punct => ["[", "*", "@"].contains t.text
  | _ => false

def memberModifiers : List String :=
  ["static", "public", "private", "protected", "readonly", "abstract", "override", "declare",
   "accessor", "async", "get", "set"]

end SyntaxEdit.Syntax.Words
