import SyntaxEdit.Rpc.Server

namespace SyntaxEdit.Cli

inductive Invocation where
  | serve (defaults : EditorOptions)
  | help
  | usageError (message : String)
  deriving DecidableEq, Repr

def usage : String := "Usage: sparrow-keys <COMMAND>"

def helpText : String :=
  "Syntax-aware duplicate and debug-log editor commands\n\n" ++ usage ++ "\n\n" ++
  "Commands:\n" ++
  "  serve  Start the command server (JSON-RPC over stdio)\n" ++
  "  help   Print this message or the help of the given subcommand(s)\n\n" ++
  "Options:\n" ++
  "  -h, --help  Print help"

def tabSizeOf (v : String) : Option Nat := do
  let n ← v.toNat?
  if n < 256 then some n else none

def serveOptions : List String → EditorOptions → Invocation
  | [], o => .serve o
  | "--insert-tabs" :: rest, o => serveOptions rest { o with insertSpaces := false }
  | "--tab-size" :: v :: rest, o =>
    match tabSizeOf v with
    | some n => serveOptions rest { o with tabSize := n }
    | none => .usageError ("invalid value '" ++ v ++ "' for '--tab-size <TAB_SIZE>'")
  | a :: rest, o =>
    if a == "-h" || a == "--help" then .help
    else if a.startsWith "--tab-size=" then
      let v := String.ofList (a.toList.drop 11)
      match tabSizeOf v with
      | some n => serveOptions rest { o with tabSize := n }
      | none => .usageError ("invalid value '" ++ v ++ "' for '--tab-size <TAB_SIZE>'")
    else .usageError ("unexpected argument '" ++ a ++ "' found")

def parseArgs : List String → Invocation
  | "serve" :: rest => serveOptions rest EditorOptions.standard
  | ["help"] | ["-h"] | ["--help"] => .help
  | [] => .usageError "a subcommand is required"
  | a :: _ => .usageError ("unrecognized subcommand '" ++ a ++ "'")

def chomp (line : String) : String :=
  let cs := line.toList
  let cs := if cs.getLast? == some '\n' then cs.dropLast else cs
  let cs := if cs.getLast? == some '\r' then cs.dropLast else cs
  String.ofList cs

end SyntaxEdit.Cli

open SyntaxEdit

partial def serveLoop (defaults : EditorOptions) (stdin stdout : IO.FS.Stream) : IO Unit := do
  let line ← stdin.getLine
  if line.isEmpty then return
  match Rpc.handleLine Rpc.jsonReader defaults (Cli.chomp line) with
  | some r =>
    stdout.putStrLn r.toJson.render
    stdout.flush
  | none => pure ()
  serveLoop defaults stdin stdout

def main (args : List String) : IO UInt32 := do
  match Cli.parseArgs args with
  | .serve d =>
    serveLoop d (← IO.getStdin) (← IO.getStdout)
    return 0
  | .help =>
    IO.println Cli.helpText
    return 0
  | .usageError m =>
    IO.eprintln ("error: " ++ m ++ "\n\n" ++ Cli.usage ++ "\n\nFor more information, try '--help'.")
    return 2
