import SyntaxEdit.Text.Letter

namespace SyntaxEdit

inductive Language where
  | typeScript
  | tsx
  | javaScript
  | jsx
  | json
  | jsonc
  deriving DecidableEq, Repr

inductive ScriptKind where
  | ts
  | tsx
  | js
  | jsx
  | json
  deriving DecidableEq, Repr

inductive Grammar where
  | typeScript
  | tsx
  | javaScript
  | json
  deriving DecidableEq, Repr

namespace Language

def ofId? : String → Option Language
  | "typescript" => some .typeScript
  | "typescriptreact" => some .tsx
  | "javascript" => some .javaScript
  | "javascriptreact" => some .jsx
  | "json" => some .json
  | "jsonc" => some .jsonc
  | _ => none

def ofExtension? (ext : String) : Option Language :=
  match String.ofList ((ext.toList.dropWhile (· == '.')).flatMap Text.lowerOf) with
  | "ts" | "mts" | "cts" => some .typeScript
  | "tsx" => some .tsx
  | "js" | "mjs" | "cjs" => some .javaScript
  | "jsx" => some .jsx
  | "json" => some .json
  | "jsonc" => some .jsonc
  | _ => none

/-- The file name of a path: its last component, where `.` components do not count and `..`
or a bare root name no file. -/
def fileName? (path : String) : Option String :=
  match ((path.splitOn "/").filter fun p => p != "" && p != ".").getLast? with
  | some ".." => none
  | some p => some p
  | none => none

/-- The extension of a path: what follows the last dot of its file name, unless that dot opens
the name. -/
def extension? (path : String) : Option String := do
  let name ← fileName? path
  let cs := name.toList
  let k ← cs.reverse.findIdx? (· == '.')
  let dot := cs.length - 1 - k
  if dot == 0 then none else some (String.ofList (cs.drop (dot + 1)))

def detect (languageId fileName : String) : Except String Language :=
  match ofId? languageId with
  | some l => .ok l
  | none =>
    match ofExtension? ((extension? fileName).getD "") with
    | some l => .ok l
    | none => .error s!"Unsupported language: {languageId}"

def scriptKind : Language → ScriptKind
  | .typeScript => .ts
  | .tsx => .tsx
  | .javaScript => .js
  | .jsx => .jsx
  | .json | .jsonc => .json

def isJson (l : Language) : Bool := l.scriptKind == .json

def grammar : Language → Grammar
  | .typeScript => .typeScript
  | .tsx | .jsx => .tsx
  | .javaScript => .javaScript
  | .json | .jsonc => .json

def name : Language → String
  | .typeScript => "TypeScript"
  | .tsx => "Tsx"
  | .javaScript => "JavaScript"
  | .jsx => "Jsx"
  | .json => "Json"
  | .jsonc => "Jsonc"

end Language

def ScriptKind.name : ScriptKind → String
  | .ts => "Ts"
  | .tsx => "Tsx"
  | .js => "Js"
  | .jsx => "Jsx"
  | .json => "Json"

end SyntaxEdit
