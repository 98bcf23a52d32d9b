import SyntaxEdit.Rpc.Request
import SyntaxEdit.Command.Registry

namespace SyntaxEdit.Rpc

def parseError : Int := -32700
def methodNotFound : Int := -32601
def invalidParams : Int := -32602
def internalError : Int := -32603

structure RpcError where
  code : Int
  message : Option String
  deriving DecidableEq, Repr

structure Response where
  id : Option JsonValue
  outcome : Except RpcError JsonValue

def intJson (i : Int) : JsonValue := .num (.int i)

def RpcError.toJson (e : RpcError) : JsonValue :=
  .obj ([("code", intJson e.code)] ++
    (e.message.map fun m => [("message", JsonValue.str m)]).getD [])

def Response.toJson (r : Response) : JsonValue :=
  .obj ([("jsonrpc", .str "2.0")] ++ (r.id.map fun v => [("id", v.canonical)]).getD [] ++
    match r.outcome with
    | .ok v => [("result", v)]
    | .error e => [("error", e.toJson)])

def selectionJson (s : Selection) : JsonValue :=
  .obj [("anchor", intJson s.anchor), ("active", intJson s.active)]

def hostCommandJson : HostCommand → JsonValue
  | .copyLinesDown s => .obj [("command", .str "copyLinesDown"), ("selection", selectionJson s)]
  | .duplicateSelection s =>
    .obj [("command", .str "duplicateSelection"), ("selection", selectionJson s)]
  | .formatSelection s => .obj [("command", .str "formatSelection"), ("selection", selectionJson s)]
  | .formatDocument => .obj [("command", .str "formatDocument")]

def definitionJson (d : CommandDefinition) : JsonValue :=
  .obj [("name", .str d.name), ("title", .str d.title), ("description", .str d.description)]

def initializeResult : JsonValue :=
  .obj [("serverInfo", .obj [("name", .str "sparrow-keys"), ("version", .str "0.1.0")]),
    ("capabilities", .obj [("commands",
      .arr (EditorCommand.all.map fun c => .str c.definition.name))])]

def listResult : JsonValue :=
  .obj [("commands", .arr (EditorCommand.all.map fun c => definitionJson c.definition))]

/-- The editor a request runs its command in: a fresh one over the request's document and
cursors, with the request's options or else `defaults`, and its clipboard or else nothing. -/
def ExecuteParams.editor (p : ExecuteParams) (defaults : EditorOptions) : Editor :=
  ⟨p.document.text, p.document.languageId, p.document.fileName, p.selections,
    p.options.getD defaults, p.clipboard.getD "", []⟩

/-- What the server asks of its JSON reader: the request a line holds, and the parameters of
`commands/execute` a request carries, each with the reader's message when it refuses them. -/
structure Reader where
  request : String → Except String Request
  executeParams : JsonValue → Except String ExecuteParams

def trimLine (line : String) : String := String.ofList (Text.trimBlank line.toList)

/-- The lines of an input: split at each `\n`, a `\r` before it dropped, and no empty line
after a final `\n`. -/
def inputLines (input : String) : List String :=
  let pieces := input.splitOn "\n"
  let pieces := if pieces.getLast? == some "" then pieces.dropLast else pieces
  pieces.map fun l => if l.endsWith "\r" then String.ofList l.toList.dropLast else l

section Serve

variable (read : Reader) (defaults : EditorOptions)

/-- Runs `commands/execute`: the named command on the request's editor. The answer is the new
text, whether it changed, and the built-in actions the command ran. Parameters the reader refuses
are answered with its message. -/
def runExecute (params : JsonValue) : Except RpcError JsonValue :=
  match read.executeParams params with
  | .error m => .error ⟨invalidParams, some ("Invalid parameters: " ++ m)⟩
  | .ok p =>
    match EditorCommand.runNamed p.command (p.editor defaults) with
    | .ok (_, h') => .ok (.obj [("text", .str h'.text),
        ("changed", .bool (h'.text != p.document.text)),
        ("hostCommands", .arr (h'.executed.map hostCommandJson))])
    | .error e@(.unknownCommand _) => .error ⟨invalidParams, some e.message⟩
    | .error e => .error ⟨internalError, some e.message⟩

def handle (req : Request) : Option Response :=
  match req.method with
  | "initialize" => some ⟨req.id, .ok initializeResult⟩
  | "notifications/initialized" | "initialized" => none
  | "commands/list" => some ⟨req.id, .ok listResult⟩
  | "commands/execute" => some ⟨req.id, runExecute read defaults req.params⟩
  | m => some ⟨req.id, .error ⟨methodNotFound, some ("Method not found: " ++ m)⟩⟩

/-- The response to one line of input, read once trimmed; blank lines get none, and a line the
reader refuses gets its message. -/
def handleLine (line : String) : Option Response :=
  if (trimLine line).isEmpty then none
  else
    match read.request (trimLine line) with
    | .error m => some ⟨none, .error ⟨parseError, some ("Parse error: " ++ m)⟩⟩
    | .ok req => handle read defaults req

def serveLines (lines : List String) : List Response :=
  lines.filterMap (handleLine read defaults)

def serve (input : String) : List Response :=
  serveLines read defaults (inputLines input)

def output (input : String) : List String :=
  (serve read defaults input).map (·.toJson.render)

end Serve

/-- The JSON reader of this library. Its messages are its own: they stand where the original
reader's wording goes. -/
def jsonReader : Reader where
  request line :=
    match (JsonValue.parseRecord requestFields line).bind requestOf? with
    | some req => .ok req
    | none => .error "expected a JSON-RPC request"
  executeParams v :=
    match executeParamsOf? v with
    | some p => .ok p
    | none => .error "expected the parameters of commands/execute"

/-- An error as the tests record it. A reader's wording is no part of the program, so a parse
error is recorded without its message and a refused parameter list by the fixed opening of its
message alone. -/
def RpcError.recorded (e : RpcError) : RpcError :=
  if e.code = parseError then ⟨e.code, none⟩
  else if e.code = invalidParams ∧ (e.message.getD "").startsWith "Invalid parameters: " then
    ⟨e.code, some "Invalid parameters"⟩
  else e

/-- `commands/execute` as the tests run it: with the JSON reader of this library, its errors as
they are recorded. -/
def execute (defaults : EditorOptions) (params : JsonValue) : Except RpcError JsonValue :=
  (runExecute jsonReader defaults params).mapError RpcError.recorded

/-- The responses to a whole input as the tests read them back from the lines written with the
JSON reader of this library: errors as they are recorded, and each number through its printed
form and the reader's parse of it, which need not give back the same float. -/
def transcript (defaults : EditorOptions) (input : String) : List JsonValue :=
  ((serve jsonReader defaults input).map fun r =>
    ({ r with outcome := r.outcome.mapError RpcError.recorded } : Response).toJson.render).filterMap
    JsonValue.parse

end SyntaxEdit.Rpc
