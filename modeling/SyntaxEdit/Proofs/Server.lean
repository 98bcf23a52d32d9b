import SyntaxEdit.Rpc.Server
import SyntaxEdit.Proofs.Command
import Mathlib.Data.List.Forall2

namespace SyntaxEdit.Rpc

def notifications : List String := ["initialized", "notifications/initialized"]

def knownMethods : List String := ["initialize", "commands/list", "commands/execute"]

def codeOf : Except RpcError JsonValue → Option Int
  | .ok _ => none
  | .error e => some e.code

def Response.code? (r : Response) : Option Int := codeOf r.outcome

variable (read : Reader)

def Reader.requestOf? (l : String) : Option Request := (read.request (trimLine l)).toOption

theorem Reader.requestOf?_of_error {l : String} {m : String}
    (h : read.request (trimLine l) = .error m) : read.requestOf? l = none := by
  simp [Reader.requestOf?, h, Except.toOption]

theorem Reader.requestOf?_of_ok {l : String} {req : Request}
    (h : read.request (trimLine l) = .ok req) : read.requestOf? l = some req := by
  simp [Reader.requestOf?, h, Except.toOption]

/-- The code `commands/execute` answers with: parameters that do not read or name no command are
invalid, and a command that runs ends in a result or fails. -/
def executeCode (d : EditorOptions) (v : JsonValue) : Option Int :=
  match read.executeParams v with
  | .error _ => some invalidParams
  | .ok p =>
    match EditorCommand.ofName? p.command with
    | none => some invalidParams
    | some c =>
      match c.run.run (p.editor d) with
      | .ok _ => none
      | .error _ => some internalError

def methodCode (d : EditorOptions) (req : Request) : Option Int :=
  if req.method = "initialize" ∨ req.method = "commands/list" then none
  else if req.method = "commands/execute" then executeCode read d req.params
  else some methodNotFound

def requestCode (d : EditorOptions) : Option Request → Option Int
  | none => some parseError
  | some req => methodCode read d req

def lineCode (d : EditorOptions) (l : String) : Option Int := requestCode read d (read.requestOf? l)

def answers (line : String) : Bool :=
  !(trimLine line).isEmpty && !((read.requestOf? line).any fun req => notifications.contains req.method)

/-- The reader's refusals reach the client with its message: a line it cannot read as a
request, and parameters of `commands/execute` it cannot read. -/
structure PassesMessages (l : String) (r : Response) : Prop where
  request : ∀ m, read.request (trimLine l) = .error m →
    r.outcome = .error ⟨parseError, some ("Parse error: " ++ m)⟩
  params : ∀ req m, read.request (trimLine l) = .ok req → req.method = "commands/execute" →
    read.executeParams req.params = .error m →
      r.outcome = .error ⟨invalidParams, some ("Invalid parameters: " ++ m)⟩

/-- `r` is the right response to the line `l`: it carries the line's id, its code tells exactly
which of the ways of answering a line applied, and the reader's refusals come with its message. -/
structure Answers (d : EditorOptions) (l : String) (r : Response) : Prop
    extends PassesMessages read l r where
  id : r.id = (read.requestOf? l).bind (·.id)
  unreadable : r.code? = some parseError ↔ read.requestOf? l = none
  unknownMethod : r.code? = some methodNotFound ↔
    ∃ req, read.requestOf? l = some req ∧ req.method ∉ knownMethods
  badParams : r.code? = some invalidParams ↔
    ∃ req, read.requestOf? l = some req ∧ req.method = "commands/execute" ∧
      ∀ p, read.executeParams req.params = .ok p → EditorCommand.ofName? p.command = none
  commandFailed : r.code? = some internalError ↔
    ∃ req p c e, read.requestOf? l = some req ∧ req.method = "commands/execute" ∧
      read.executeParams req.params = .ok p ∧ EditorCommand.ofName? p.command = some c ∧
      c.run.run (p.editor d) = .error e
  succeeded : r.code? = none ↔
    ∃ req, read.requestOf? l = some req ∧ (req.method = "initialize" ∨
      req.method = "commands/list" ∨ req.method = "commands/execute" ∧
        ∃ p c o h', read.executeParams req.params = .ok p ∧
          EditorCommand.ofName? p.command = some c ∧ c.run.run (p.editor d) = .ok (o, h'))

/-- The code of an execution. An unknown command is refused before it runs, and a command that
runs never fails with that error, so a failed command is always an internal error. -/
theorem codeOf_runExecute (d : EditorOptions) (v : JsonValue) :
    codeOf (runExecute read d v) = executeCode read d v := by
  cases hp : read.executeParams v with
  | error m => simp [runExecute, executeCode, hp, codeOf]
  | ok p =>
    cases hc : EditorCommand.ofName? p.command with
    | none => simp [runExecute, executeCode, hp, EditorCommand.runNamed, hc, codeOf]
    | some c =>
      cases hr : c.run.run (p.editor d) with
      | ok res => simp [runExecute, executeCode, hp, EditorCommand.runNamed, hc, hr, codeOf]
      | error e =>
        cases e with
        | unknownCommand n => exact absurd hr (EditorM.failsOnDocument_run c _ n)
        | host e => simp [runExecute, executeCode, hp, EditorCommand.runNamed, hc, hr, codeOf]
        | edit e => simp [runExecute, executeCode, hp, EditorCommand.runNamed, hc, hr, codeOf]

/-- A request gets no response exactly when it is a notification; otherwise its response has its
id and its method's code, and `commands/execute` is answered by the execution. -/
theorem handle_cases (d : EditorOptions) (req : Request) :
    handle read d req = none ∧ req.method ∈ notifications ∨
      ∃ r, handle read d req = some r ∧ req.method ∉ notifications ∧ r.id = req.id ∧
        codeOf r.outcome = methodCode read d req ∧
        (req.method = "commands/execute" → r.outcome = runExecute read d req.params) := by
  unfold handle
  split
  · next h => exact .inr ⟨_, rfl, by simp [notifications, h], rfl,
      by simp [methodCode, codeOf, h], by simp [h]⟩
  · next h => exact .inl ⟨rfl, by simp [notifications, h]⟩
  · next h => exact .inl ⟨rfl, by simp [notifications, h]⟩
  · next h => exact .inr ⟨_, rfl, by simp [notifications, h], rfl,
      by simp [methodCode, codeOf, h], by simp [h]⟩
  · next h => exact .inr ⟨_, rfl, by simp [notifications, h], rfl, by
      rw [codeOf_runExecute]; simp [methodCode, h], fun _ => rfl⟩
  · next h₁ h₂ h₃ h₄ h₅ =>
    -- any other method: not one of the five the match names
    have hk : ¬ (req.method = "initialize" ∨ req.method = "commands/list") :=
      fun h => h.elim h₁ h₄
    exact .inr ⟨_, rfl, by simp [notifications]; exact ⟨h₃, h₂⟩, rfl,
      by rw [methodCode, if_neg hk, if_neg h₅]; rfl, fun h => absurd h h₅⟩

/-- A line gets a response exactly when `answers` says so, and the response has the line's id
and its code, and passes on the reader's messages. -/
theorem handleLine_cases (d : EditorOptions) (l : String) :
    handleLine read d l = none ∧ answers read l = false ∨
      ∃ r, handleLine read d l = some r ∧ answers read l = true ∧
        r.id = (read.requestOf? l).bind (·.id) ∧ codeOf r.outcome = lineCode read d l ∧
        PassesMessages read l r := by
  by_cases hb : (trimLine l).isEmpty
  · exact .inl ⟨by simp [handleLine, hb], by simp [answers, hb]⟩
  · cases hq : read.request (trimLine l) with
    | error m =>
      have hq' := read.requestOf?_of_error hq
      refine .inr ⟨⟨none, .error ⟨parseError, some ("Parse error: " ++ m)⟩⟩,
        by simp [handleLine, hb, hq], by simp [answers, hb, hq'], by simp [hq'],
        by simp [lineCode, requestCode, codeOf, hq'], ?_, ?_⟩
      · intro m' hm'
        rw [hq] at hm'
        cases hm'
        rfl
      · intro req m' hreq
        rw [hq] at hreq
        cases hreq
    | ok req =>
      have hq' := read.requestOf?_of_ok hq
      rcases handle_cases read d req with ⟨hn, hm⟩ | ⟨r, hr, hm, hid, hc, hex⟩
      · exact .inl ⟨by simp [handleLine, hb, hq, hn], by simp [answers, hb, hq', hm]⟩
      · refine .inr ⟨r, by simp [handleLine, hb, hq, hr], by simp [answers, hb, hq', hm],
          by simp [hq', hid], by simp [lineCode, requestCode, hq', hc], ?_, ?_⟩
        · intro m hm'
          rw [hq] at hm'
          cases hm'
        · -- refused parameters are answered by the execution with the reader's message
          intro req' m hreq hex' hp
          rw [hq] at hreq
          cases hreq
          rw [hex hex']
          simp [runExecute, hp]

/-- A response with the line's id and the line's code, which passes on the reader's messages, is
the right response to it. -/
theorem Answers.of_code {d : EditorOptions} {l : String} {r : Response}
    (hid : r.id = (read.requestOf? l).bind (·.id)) (hc : codeOf r.outcome = lineCode read d l)
    (hmsg : PassesMessages read l r) : Answers read d l r := by
  have hcode : r.code? = lineCode read d l := hc
  -- the code is settled by what the line holds: no request, or a method, and for
  -- `commands/execute` its parameters, its command and how the command ends
  cases hq : read.requestOf? l with
  | none =>
    refine ⟨hmsg, hid, ?_, ?_, ?_, ?_, ?_⟩ <;>
      simp [hcode, lineCode, requestCode, hq, parseError, methodNotFound, invalidParams,
        internalError]
  | some req =>
    by_cases hi : req.method = "initialize" ∨ req.method = "commands/list"
    · rcases hi with hm | hm <;> refine ⟨hmsg, hid, ?_, ?_, ?_, ?_, ?_⟩ <;>
        simp [hcode, lineCode, requestCode, methodCode, hq, hm, knownMethods, parseError,
          methodNotFound, invalidParams, internalError]
    · rw [not_or] at hi
      by_cases he : req.method = "commands/execute"
      · cases hp : read.executeParams req.params with
        | error m =>
          refine ⟨hmsg, hid, ?_, ?_, ?_, ?_, ?_⟩ <;>
            simp [hcode, lineCode, requestCode, methodCode, executeCode, hq, he, hp, knownMethods,
              parseError, methodNotFound, invalidParams, internalError]
        | ok p =>
          cases hn : EditorCommand.ofName? p.command with
          | none =>
            refine ⟨hmsg, hid, ?_, ?_, ?_, ?_, ?_⟩ <;>
              simp [hcode, lineCode, requestCode, methodCode, executeCode, hq, he, hp, hn,
                knownMethods, parseError, methodNotFound, invalidParams, internalError]
          | some c =>
            cases hr : c.run.run (p.editor d) with
            | ok res =>
              obtain ⟨o, h'⟩ := res
              refine ⟨hmsg, hid, ?_, ?_, ?_, ?_, ?_⟩ <;>
                simp [hcode, lineCode, requestCode, methodCode, executeCode, hq, he, hp, hn, hr,
                  knownMethods, parseError, methodNotFound, invalidParams, internalError]
            | error e =>
              refine ⟨hmsg, hid, ?_, ?_, ?_, ?_, ?_⟩ <;>
                simp [hcode, lineCode, requestCode, methodCode, executeCode, hq, he, hp, hn, hr,
                  knownMethods, parseError, methodNotFound, invalidParams, internalError]
      · have hk : req.method ∉ knownMethods := by simp [knownMethods, hi, he]
        refine ⟨hmsg, hid, ?_, ?_, ?_, ?_, ?_⟩ <;>
          simp [hcode, lineCode, requestCode, methodCode, hq, hi, he, hk, parseError,
            methodNotFound, invalidParams, internalError]

/-- Whatever JSON reader the server uses, it answers each line on its own. The responses to a
sequence of lines are, in order, one right response for each line that is neither blank nor a
notification; and so the responses to two sequences one after the other are the responses to
the first and then those to the second. -/
theorem serveLines_answers (d : EditorOptions) :
    (∀ L, List.Forall₂ (Answers read d) (L.filter (answers read)) (serveLines read d L)) ∧
      ∀ L₁ L₂, serveLines read d (L₁ ++ L₂) = serveLines read d L₁ ++ serveLines read d L₂ := by
  refine ⟨fun L => ?_, fun L₁ L₂ => List.filterMap_append⟩
  induction L with
  | nil => exact .nil
  | cons l L ih =>
    rcases handleLine_cases read d l with ⟨hn, ha⟩ | ⟨r, hr, ha, hid, hc, hmsg⟩
    · rw [List.filter_cons_of_neg (by simp [ha]), serveLines, List.filterMap_cons_none hn]
      exact ih
    · rw [List.filter_cons_of_pos ha, serveLines, List.filterMap_cons_some hr]
      exact .cons (Answers.of_code read hid hc hmsg) ih

end SyntaxEdit.Rpc
