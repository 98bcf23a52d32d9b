import SyntaxEdit.Json.Record
import SyntaxEdit.Editor

namespace SyntaxEdit.Rpc

def asString : JsonValue → Option String
  | .str s => some s
  | _ => none

def asBool : JsonValue → Option Bool
  | .bool b => some b
  | _ => none

def asOffset : JsonValue → Option Nat
  | .num (.int i) => if 0 ≤ i then some i.toNat else none
  | _ => none

def asByte (v : JsonValue) : Option Nat := do
  let n ← asOffset v
  if n < 256 then some n else none

/-- The fields `names` of a record, each as written or missing: the last member of each name of
an object, or the items of an array by position. An array longer than the record, and a value
of any other kind, is no record. -/
def recordFields (names : List String) : JsonValue → Option (List (Option JsonValue))
  | .obj ms => some (names.map (JsonValue.lookup ms))
  | .arr xs =>
    if xs.length ≤ names.length then some ((List.range names.length).map (xs[·]?)) else none
  | _ => none

def required {α : Type} (f : JsonValue → Option α) (v : Option JsonValue) : Option α :=
  v.bind f

def optional {α : Type} (f : JsonValue → Option α) : Option JsonValue → Option (Option α)
  | none | some .null => some none
  | some v => (f v).map some

/-- A field with a default: missing gives the default, and a value that is present, null
included, must decode. -/
def defaulted {α : Type} (d : α) (f : JsonValue → Option α) : Option JsonValue → Option α
  | none => some d
  | some v => f v

structure Document where
  text : String
  languageId : String
  fileName : String
  deriving DecidableEq, Repr

structure ExecuteParams where
  command : String
  document : Document
  selections : List Selection
  options : Option EditorOptions
  clipboard : Option String
  deriving Repr

def selectionOf? (v : JsonValue) : Option Selection := do
  match ← recordFields ["anchor", "active"] v with
  | [a, b] => pure ⟨← required asOffset a, ← required asOffset b⟩
  | _ => none

def optionsOf? (v : JsonValue) : Option EditorOptions := do
  match ← recordFields ["tabSize", "insertSpaces"] v with
  | [t, s] => pure ⟨← required asByte t, ← required asBool s⟩
  | _ => none

def documentOf? (v : JsonValue) : Option Document := do
  match ← recordFields ["text", "languageId", "fileName"] v with
  | [t, l, f] =>
    pure ⟨← required asString t, ← required asString l, ← defaulted "" asString f⟩
  | _ => none

def selectionsOf? : JsonValue → Option (List Selection)
  | .arr xs => xs.mapM selectionOf?
  | _ => none

def executeParamsOf? (v : JsonValue) : Option ExecuteParams := do
  match ← recordFields ["command", "document", "selections", "options", "clipboard"] v with
  | [c, d, s, o, k] =>
    pure ⟨← required asString c, ← required documentOf? d, ← required selectionsOf? s,
      ← optional optionsOf? o, ← optional asString k⟩
  | _ => none

structure Request where
  id : Option JsonValue
  method : String
  params : JsonValue
  deriving Repr

def idOf : JsonValue → Option JsonValue
  | .null => none
  | v => some v

def requestFields : List String := ["jsonrpc", "id", "method", "params"]

/-- Reads a request: an object with string `jsonrpc` and `method`, or the array
`[jsonrpc, id, method, params?]`. -/
def requestOf? : JsonValue → Option Request
  | .obj ms => do
    if requestFields.any fun k => (ms.filter (·.1 == k)).length > 1 then none
    let _ ← required asString (JsonValue.lookup ms "jsonrpc")
    let method ← required asString (JsonValue.lookup ms "method")
    let id := (JsonValue.lookup ms "id").bind idOf
    pure ⟨id, method, (JsonValue.lookup ms "params").getD .null⟩
  | .arr [j, i, m] => do
    let _ ← asString j
    pure ⟨idOf i, ← asString m, .null⟩
  | .arr [j, i, m, p] => do
    let _ ← asString j
    pure ⟨idOf i, ← asString m, p⟩
  | _ => none

end SyntaxEdit.Rpc
