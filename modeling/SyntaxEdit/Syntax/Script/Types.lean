import SyntaxEdit.Syntax.Script.Cursor

namespace SyntaxEdit.Syntax.Types

open P

def predefined : List String :=
  ["any", "number", "boolean", "string", "symbol", "void", "unknown", "never", "object"]

def reservedWords : List String :=
  ["break", "case", "catch", "class", "const", "continue", "debugger", "default", "delete", "do",
   "else", "enum", "export", "extends", "finally", "for", "function", "if", "import", "in",
   "instanceof", "new", "return", "super", "switch", "throw", "try", "var",
   "while", "with"]

def commaList (p : P (List Cst)) (close : String) : Nat → P (List Cst)
  | 0 => stuck
  | n + 1 => do
    if ← at? close then return []
    let x ← p
    if ← at? "," then
      let c ← bump
      return x ++ [c] ++ (← commaList p close n)
    else return x

/-- A destructuring pattern of a parameter in a signature: a name, or braces or brackets around
patterns, where braces may also hold pairs `key: pattern`. -/
def bindingPattern : Nat → P Cst
  | 0 => stuck
  | n + 1 => do
    let t ← peek
    if t.kind == .punct && t.text == "\x7b" then
      let o ← bump
      let items ← commaList (do
          if !(← atWord) then stuck
          if (← peek2).text == ":" then
            let k ← bumpAs "property_identifier"
            let c ← bump
            let v ← bindingPattern n
            return [← mk "pair_pattern" [k.inField "key", c, v.inField "value"]]
          else return [← bumpAs "shorthand_property_identifier_pattern"]) "\x7d" n
      let c ← expect "\x7d"
      mk "object_pattern" ([o] ++ items ++ [c])
    else if t.kind == .punct && t.text == "[" then
      let o ← bump
      let items ← commaList (do return [← bindingPattern n]) "]" n
      let c ← expect "]"
      mk "array_pattern" ([o] ++ items ++ [c])
    else if t.kind == .word then bumpAs "identifier"
    else stuck

def accessChain : Nat → Cst → P Cst
  | 0, e => return e
  | n + 1, e => do
    if (← at? ".") && (← peek2).kind == .word then
      let dot ← bump
      let prop ← bumpAs "property_identifier"
      accessChain n (← mk "member_expression" [e.inField "object", dot, prop.inField "property"])
    else return e

/-- A computed member name `[e]`, where `e` is a string, a number, or a name followed by
property accesses, as in `[Symbol.iterator]`. -/
def computedName : P Cst := do
  let o ← expect "["
  let t ← peek
  let e ← match t.kind with
    | .string => bumpAs "string"
    | .number => bumpAs "number"
    | .word => accessChain (← src).size (← bumpAs "identifier")
    | _ => stuck
  let c ← expect "]"
  mk "computed_property_name" [o, e, c]

mutual

def annotation : Nat → P Cst
  | 0 => stuck
  | n + 1 => do
    let colon ← expect ":"
    mk "type_annotation" [colon, ← type_ n]

def type_ : Nat → P Cst
  | 0 => stuck
  | n + 1 => do
    let t ← peek
    if t.text == "(" || t.text == "<" then
      if let some f ← attempt (functionType n) then return f
    if t.kind == .word && (t.text == "new" || (t.text == "abstract" && (← peek2).text == "new")) then
      let abs ← if t.text == "abstract" then pure [← bump] else pure []
      let kw ← bump
      let tps ← if ← at? "<" then pure [(← typeParameters n).inField "type_parameters"] else pure []
      let params ← parameters n
      let arrow ← expect "=>"
      return ← mk "constructor_type" (abs ++ [kw] ++ tps ++ [params.inField "parameters", arrow,
        (← type_ n).inField "type"])
    let u ← unionType n
    if ← at? "extends" then
      let kw ← bump
      let r ← unionType n
      let q ← expect "?"
      let c ← type_ n
      let colon ← expect ":"
      let a ← type_ n
      return ← mk "conditional_type" [u.inField "left", kw, r.inField "right", q,
        c.inField "consequence", colon, a.inField "alternative"]
    return u

def functionType : Nat → P Cst
  | 0 => stuck
  | n + 1 => do
    let tps ← if ← at? "<" then pure [(← typeParameters n).inField "type_parameters"] else pure []
    let params ← parameters n
    let arrow ← expect "=>"
    let r ← returnType n
    mk "function_type" (tps ++ [params.inField "parameters", arrow, r.inField "return_type"])

/-- What a function returns: a type, a type predicate `x is T`, or an assertion `asserts x` or
`asserts x is T`. -/
def returnType : Nat → P Cst
  | 0 => stuck
  | n + 1 => do
    let t ← peek
    let t2 ← peek2
    if t.kind == .word && t.text == "asserts" && t2.kind == .word && !t2.newlineBefore then
      let kw ← bump
      let target ← if (← peek2).text == "is" then typePredicate n
        else if ← at? "this" then bumpAs "this" else bumpAs "identifier"
      mk "asserts" [kw, target]
    else if t.kind == .word && t2.kind == .word && t2.text == "is" && !t2.newlineBefore then
      typePredicate n
    else type_ n

def typePredicate : Nat → P Cst
  | 0 => stuck
  | n + 1 => do
    let name ← if ← at? "this" then bumpAs "this" else bumpAs "identifier"
    let kw ← bump
    let ty ← type_ n
    mk "type_predicate" [name.inField "name", kw, ty.inField "type"]

def unionType : Nat → P Cst
  | 0 => stuck
  | n + 1 => do
    let first ← if ← at? "|" then
        let bar ← bump
        mk "union_type" [bar, ← intersectionType n]
      else intersectionType n
    unionRest n first

def unionRest : Nat → Cst → P Cst
  | 0, _ => stuck
  | n + 1, left => do
    if ← at? "|" then
      let bar ← bump
      let r ← intersectionType n
      unionRest n (← mk "union_type" [left, bar, r])
    else return left

def intersectionType : Nat → P Cst
  | 0 => stuck
  | n + 1 => do
    let first ← if ← at? "&" then
        let amp ← bump
        mk "intersection_type" [amp, ← suffixedType n]
      else suffixedType n
    intersectionRest n first

def intersectionRest : Nat → Cst → P Cst
  | 0, _ => stuck
  | n + 1, left => do
    if ← at? "&" then
      let amp ← bump
      let r ← suffixedType n
      intersectionRest n (← mk "intersection_type" [left, amp, r])
    else return left

def suffixedType : Nat → P Cst
  | 0 => stuck
  | n + 1 => do suffixRest n (← primaryType n)

def suffixRest : Nat → Cst → P Cst
  | 0, _ => stuck
  | n + 1, t => do
    let next ← peek
    if next.text == "[" && next.kind == .punct && !(← typeMayEnd) then
      let o ← bump
      if ← at? "]" then
        let c ← bump
        suffixRest n (← mk "array_type" [t, o, c])
      else
        let i ← type_ n
        let c ← expect "]"
        suffixRest n (← mk "lookup_type" [t, o, i, c])
    else return t

def namedType : Nat → P Cst
  | 0 => stuck
  | n + 1 => do
    let first ← peek
    let name ← if (← peek2).text == "." then
        let m ← bumpAs "identifier"
        dottedName n m
      else bumpAs "type_identifier"
    let t ← peek
    if t.text == "<" && t.kind == .punct && !t.newlineBefore then
      let args ← typeArguments n
      mk "generic_type" [name.inField "name", args.inField "type_arguments"]
    else
      let _ := first
      return name

def dottedName : Nat → Cst → P Cst
  | 0, _ => stuck
  | n + 1, left => do
    let dot ← expect "."
    if (← peek2).text == "." then
      let m ← bumpAs "property_identifier"
      let obj := if left.kind == "nested_identifier" then left.rename "member_expression" else left
      let inner ← mk "nested_identifier" [obj.inField "object", dot, m.inField "property"]
      dottedName n inner
    else
      let nm ← bumpAs "type_identifier"
      mk "nested_type_identifier" [left.inField "module", dot, nm.inField "name"]

def primaryType : Nat → P Cst
  | 0 => stuck
  | n + 1 => do
    let t ← peek
    match t.kind with
    | .string => mk "literal_type" [← bumpAs "string"]
    | .number => mk "literal_type" [← bumpAs "number"]
    | .punct =>
      if t.text == "(" then
        let o ← bump
        let inner ← type_ n
        let c ← expect ")"
        mk "parenthesized_type" [o, inner, c]
      else if t.text == "\x7b" then objectType n "object_type"
      else if t.text == "[" then
        let o ← bump
        let items ← commaList (do return [← tupleMember n]) "]" n
        let c ← expect "]"
        mk "tuple_type" ([o] ++ items ++ [c])
      else if t.text == "-" && (← peek2).kind == .number then
        let minus ← bump
        let num ← bumpAs "number"
        mk "literal_type" [← mk "unary_expression" [minus.inField "operator", num.inField "argument"]]
      else stuck
    | .unknown => if t.text == "`" then templateLiteralType n else stuck
    | .word =>
      if predefined.contains t.text && (← peek2).text != "." then
        bumpAs "predefined_type"
      else if t.text == "unique" && (← peek2).text == "symbol" then
        let u ← bump
        mk "predefined_type" [u, ← bump]
      else if t.text == "import" && (← peek2).text == "(" then importType n
      else if t.text == "true" || t.text == "false" || t.text == "null" || t.text == "undefined" then
        mk "literal_type" [← bumpAs t.text]
      else if t.text == "this" then bumpAs "this_type"
      else if t.text == "typeof" then
        let kw ← bump
        let target ← typeQueryTarget n
        mk "type_query" [kw, target]
      else if t.text == "keyof" then
        let kw ← bump
        mk "index_type_query" [kw, ← suffixedType n]
      else if t.text == "readonly" then
        let kw ← bump
        mk "readonly_type" [kw, ← suffixedType n]
      else if t.text == "infer" then
        let kw ← bump
        let name ← bumpAs "type_identifier"
        let bound ← attempt (do
          let ext ← expect "extends"
          let ty ← unionType n
          pure [ext, ty])
        mk "infer_type" ([kw, name] ++ bound.getD [])
      else if reservedWords.contains t.text then stuck
      else namedType n
    | _ => stuck

def typeQueryTarget : Nat → P Cst
  | 0 => stuck
  | n + 1 => do
    if (← at? "import") && (← peek2).text == "(" then return ← importType n
    let first ← bumpAs "identifier"
    let target ← queryRest n first
    if (← at? "<") && !(← peek).newlineBefore then
      if let some args ← attempt (typeArguments n) then
        return ← mk "instantiation_expression"
          [target.inField "function", args.inField "type_arguments"]
    return target

def importType : Nat → P Cst
  | 0 => stuck
  | n + 1 => do
    let kw ← bumpAs "import"
    let o ← expect "("
    let s ← if (← peek).kind == .string then bumpAs "string" else stuck
    let c ← expect ")"
    let args ← mk "arguments" [o, s, c]
    let call ← mk "call_expression" [kw.inField "function", args.inField "arguments"]
    queryRest n call

def templateLiteralType : Nat → P Cst
  | 0 => stuck
  | n + 1 => do
    let t ← peek
    set (t.start + 1)
    let o ← leafOf { t with stop := t.start + 1 } "`" false
    mk "template_literal_type" (o :: (← templateTypeParts n))

/-- The parts of a template literal type after its opening backquote, the closing one
included: text, escapes, and types in `$\x7b...\x7d`. -/
def templateTypeParts : Nat → P (List Cst)
  | 0 => stuck
  | n + 1 => do
    let s ← src
    let i ← get
    match s.get? i with
    | none => stuck
    | some '`' =>
      set (i + 1)
      return [Cst.leaf "`" false (s.byte i) (s.byte (i + 1))]
    | some '\\' =>
      let e := min (i + 2) s.size
      set e
      return Cst.leaf "escape_sequence" true (s.byte i) (s.byte e) :: (← templateTypeParts n)
    | some c =>
      if c == '$' && s.isAt (i + 1) '\x7b' then
        set (i + 2)
        let o := Cst.leaf "$\x7b" false (s.byte i) (s.byte (i + 2))
        let ty ← type_ n
        let cl ← expect "\x7d"
        let part ← mk "template_type" [o, ty, cl]
        return part :: (← templateTypeParts n)
      else
        let e := templateCharsEnd s s.size i
        set e
        return Cst.leaf "string_fragment" true (s.byte i) (s.byte e) :: (← templateTypeParts n)

def queryRest : Nat → Cst → P Cst
  | 0, _ => stuck
  | n + 1, obj => do
    if ← at? "." then
      let dot ← bump
      let prop ← bumpAs "property_identifier"
      queryRest n (← mk "member_expression" [obj.inField "object", dot, prop.inField "property"])
    else return obj

def tupleMember : Nat → P Cst
  | 0 => stuck
  | n + 1 => do
    if ← at? "..." then
      let labelled ← if (← peek2).kind == .word then attempt (do
          let dots ← bump
          let nm ← bumpAs "identifier"
          if !(← at? ":") then stuck
          let ann ← annotation n
          mk "required_parameter" [(← mk "rest_pattern" [dots, nm]).inField "name", ann.inField "type"])
        else pure none
      match labelled with
      | some m => return m
      | none =>
        let dots ← bump
        mk "rest_type" [dots, ← type_ n]
    else
      let named ← if (← atWord) then attempt (do
          let nm ← bumpAs "identifier"
          let q ← accept "?"
          if !(← at? ":") then stuck
          let ann ← annotation n
          mk (if q.isEmpty then "required_parameter" else "optional_parameter")
            ([nm.inField "name"] ++ q ++ [ann.inField "type"]))
        else pure none
      match named with
      | some m => return m
      | none =>
        let t ← type_ n
        if ← at? "?" then mk "optional_type" [t, ← bump] else return t

def typeArguments : Nat → P Cst
  | 0 => stuck
  | n + 1 => do
    let o ← expect "<"
    let items ← commaList (do return [← type_ n]) ">" n
    let c ← expectGt
    mk "type_arguments" ([o] ++ items ++ [c])

def typeParameters : Nat → P Cst
  | 0 => stuck
  | n + 1 => do
    let o ← expect "<"
    let items ← commaList (do return (← typeParameter n) :: (← strayWords n)) ">" n
    let c ← expectGt
    mk "type_parameters" ([o] ++ items ++ [c])

/-- Words after a type parameter that belong to none, such as a second variance word, skipped
as errors. -/
def strayWords : Nat → P (List Cst)
  | 0 => stuck
  | n + 1 => do
    if (← atWord) && !(← at? "extends") then return (← skipError) :: (← strayWords n)
    else return []

def typeParameter : Nat → P Cst
  | 0 => stuck
  | n + 1 => do
    let c ← accept "const"
    let name ← bumpAs "type_identifier"
    let cons ← if ← at? "extends" then
        let kw ← bump
        pure [(← mk "constraint" [kw, ← type_ n]).inField "constraint"]
      else pure []
    let dflt ← if ← at? "=" then
        let eq ← bump
        pure [(← mk "default_type" [eq, ← type_ n]).inField "value"]
      else pure []
    mk "type_parameter" (c ++ [name.inField "name"] ++ cons ++ dflt)

def parameters : Nat → P Cst
  | 0 => stuck
  | n + 1 => do
    let o ← expect "("
    let items ← commaList (do return [← parameter n]) ")" n
    let c ← expect ")"
    mk "formal_parameters" ([o] ++ items ++ [c])

def parameter : Nat → P Cst
  | 0 => stuck
  | n + 1 => do
    let pat ← if ← at? "..." then
        let dots ← bump
        mk "rest_pattern" [dots, ← bumpAs "identifier"]
      else if ← at? "this" then bumpAs "this"
      else bindingPattern n
    let q ← accept "?"
    let ann ← if ← at? ":" then pure [(← annotation n).inField "type"] else pure []
    mk (if q.isEmpty then "required_parameter" else "optional_parameter")
      ([pat.inField "pattern"] ++ q ++ ann)

def callSignature : Nat → P (List Cst)
  | 0 => stuck
  | n + 1 => do
    let tps ← if ← at? "<" then pure [(← typeParameters n).inField "type_parameters"] else pure []
    let ps ← parameters n
    let ret ← if ← at? ":" then pure [(← annotation n).inField "return_type"] else pure []
    return tps ++ [ps.inField "parameters"] ++ ret

def objectType : Nat → String → P Cst
  | 0, _ => stuck
  | n + 1, kind => do
    let o ← expect "\x7b"
    let ms ← members n
    let c ← if kind == "interface_body" && (← peek).kind == .eof then missing "\x7d" false
      else expect "\x7d"
    mk kind ([o] ++ ms ++ [c])

def members : Nat → P (List Cst)
  | 0 => stuck
  | n + 1 => do
    if (← at? "\x7d") || (← peek).kind == .eof then return []
    if ← at? "," then return [← bump] ++ (← members n)
    if ← at? ";" then return [← bump] ++ (← members n)
    let m ← member n
    let sep ← if ← at? "," then pure [← bump] else if ← at? ";" then pure [← bump]
      else match ← leftOut .type with
        | some semi => pure semi
        | none => stuck
    return [m] ++ sep ++ (← members n)

def member : Nat → P Cst
  | 0 => stuck
  | n + 1 => do
    let t ← peek
    let t2 ← peek2
    if t.text == "(" || t.text == "<" then mk "call_signature" (← callSignature n)
    else if t.kind == .word && t.text == "new" && (t2.text == "(" || t2.text == "<") then
      let kw ← bump
      mk "construct_signature" (kw :: (← callSignature n))
    else if t.kind == .punct && (t.text == "-" || t.text == "+") && t2.text == "readonly" then
      let sign ← bump
      let ro ← bump
      indexSignature n [sign.inField "sign", ro]
    else
      -- a bracket opens an index signature, or else a computed name
      if t.kind == .punct && t.text == "[" then
        if let some sig ← attempt (indexSignature n []) then return sig
      if t.kind == .word && t.text == "readonly" && t2.text == "[" then
        if let some sig ← attempt (do let ro ← bump; indexSignature n [ro]) then return sig
      let ro ← if t.text == "readonly" && (t2.kind != .punct || t2.text == "[") then pure [← bump]
        else pure []
      let accessor ← if ro.isEmpty && t.kind == .word && (t.text == "get" || t.text == "set") &&
          (t2.kind != .punct || t2.text == "[") then pure [← bump] else pure []
      let name ← propertyName
      let q ← accept "?"
      let next ← peek
      if next.text == "(" || next.text == "<" || !accessor.isEmpty then
        mk "method_signature" (accessor ++ [name.inField "name"] ++ q ++ (← callSignature n))
      else
        let ann ← if ← at? ":" then pure [(← annotation n).inField "type"] else pure []
        mk "property_signature" (ro ++ [name.inField "name"] ++ q ++ ann)

/-- An index signature `[k: string]: T` or a mapped type `[K in keyof T as U]?: T[K]`, after the
modifiers `pre`. -/
def indexSignature : Nat → List Cst → P Cst
  | 0, _ => stuck
  | n + 1, pre => do
    let o ← expect "["
    if !(← atWord) then stuck
    let inner ← if (← peek2).text == "in" then
        let name ← bumpAs "type_identifier"
        let kw ← bump
        let ty ← type_ n
        let renamed ← if ← at? "as" then
            let a ← bump
            pure [a, (← type_ n).inField "alias"]
          else pure []
        pure [← mk "mapped_type_clause" ([name.inField "name", kw, ty.inField "type"] ++ renamed)]
      else
        let name ← bumpAs "identifier"
        let colon ← expect ":"
        let kt ← type_ n
        pure [name.inField "name", colon, kt.inField "index_type"]
    let c ← expect "]"
    let ann ← indexAnnotation n
    mk "index_signature" (pre ++ [o] ++ inner ++ [c, ann.inField "type"])

/-- The type of an index signature: `: T`, or `?: T`, `-?: T` and `+?: T`, which make the
members optional, required, or optional again. -/
def indexAnnotation : Nat → P Cst
  | 0 => stuck
  | n + 1 => do
    let t ← peek
    if t.text == ":" then annotation n
    else if t.text == "?" then
      let q ← bump
      let c ← expect ":"
      mk "opting_type_annotation" [q, c, ← type_ n]
    else if t.text == "-" || t.text == "+" then
      let sign ← bump
      let q ← expect "?"
      let c ← expect ":"
      mk (if t.text == "-" then "omitting_type_annotation" else "adding_type_annotation")
        [sign, q, c, ← type_ n]
    else stuck

def propertyName : P Cst := do
  let t ← peek
  match t.kind with
  | .string => bumpAs "string"
  | .number => bumpAs "number"
  | .word => bumpAs "property_identifier"
  | .privateName => bumpAs "private_property_identifier"
  | _ => if t.text == "[" then computedName else stuck

end

def typeList : Nat → P (List Cst)
  | 0 => stuck
  | n + 1 => do
    let t ← type_ n
    if ← at? "," then
      let c ← bump
      return [t, c] ++ (← typeList n)
    else return [t]

def namedList : Nat → P (List Cst)
  | 0 => stuck
  | n + 1 => do
    let t ← namedType n
    if ← at? "," then
      let c ← bump
      return [t.inField "type", c] ++ (← namedList n)
    else return [t.inField "type"]

/-- A return type after `:`: a type, a type predicate `x is T`, or an assertion `asserts x` or
`asserts x is T`. -/
def returnAnnotation (n : Nat) : P Cst := do
  let colon ← expect ":"
  let r ← returnType n
  let kind := if r.kind == "asserts" then "asserts_annotation"
    else if r.kind == "type_predicate" then "type_predicate_annotation"
    else "type_annotation"
  mk kind [colon, r]

end SyntaxEdit.Syntax.Types
