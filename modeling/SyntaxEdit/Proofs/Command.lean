import SyntaxEdit.Command.Registry

namespace SyntaxEdit.EditorM

def FailsOnDocument {α : Type} (m : EditorM α) : Prop :=
  ∀ h n, m.run h ≠ .error (.unknownCommand n)

variable {α β : Type}

theorem failsOnDocument_pure (a : α) : FailsOnDocument (pure a : EditorM α) :=
  fun _ _ he => nomatch he

theorem failsOnDocument_get : FailsOnDocument (get : EditorM Editor) :=
  fun _ _ he => nomatch he

theorem FailsOnDocument.bind {m : EditorM α} {f : α → EditorM β} (hm : FailsOnDocument m)
    (hf : ∀ a, FailsOnDocument (f a)) : FailsOnDocument (m >>= f) := by
  intro h n he
  rw [StateT.run_bind] at he
  cases hr : m.run h with
  | error e =>
    rw [hr] at he
    cases he
    exact hm h n hr
  | ok p =>
    rw [hr] at he
    exact hf p.1 p.2 n he

theorem failsOnDocument_execute (c : HostCommand) : FailsOnDocument (execute c) :=
  fun _ _ he => nomatch he

theorem failsOnDocument_applyEdits (es : List TextEdit) : FailsOnDocument (applyEdits es) := by
  intro h n he
  simp only [applyEdits, StateT.run_bind, StateT.run_get, pure_bind] at he
  split at he
  · cases he
  · split at he <;> cases he

theorem failsOnDocument_insertSnippet (sn : Snippet) (at_ : Selection) :
    FailsOnDocument (insertSnippet sn at_) := by
  intro h n he
  simp only [insertSnippet, StateT.run_bind, StateT.run_get, pure_bind] at he
  split at he <;> cases he

theorem failsOnDocument_transformCase (convert : String → String) :
    FailsOnDocument (TransformCaseCommand.run convert) := by
  unfold TransformCaseCommand.run
  refine failsOnDocument_get.bind fun h => ?_
  dsimp only
  split
  · exact failsOnDocument_pure _
  · exact (failsOnDocument_applyEdits _).bind fun _ => failsOnDocument_pure _

theorem failsOnDocument_logCursors (tree : Syntax.SyntaxTree) (style : IndentStyle)
    (clip : String) : ∀ cs o, FailsOnDocument (InsertLogCommand.logCursors tree style clip cs o)
  | [], o => failsOnDocument_pure o
  | c :: cs, o => by
    have rest := fun o' => failsOnDocument_logCursors tree style clip cs o'
    unfold InsertLogCommand.logCursors
    dsimp only
    -- a template, no edit, or one log edit, and then the cursors after it
    split
    · exact (failsOnDocument_insertSnippet _ _).bind fun _ => (failsOnDocument_pure _).bind rest
    · split
      · exact (failsOnDocument_pure _).bind rest
      · exact (failsOnDocument_applyEdits _).bind fun _ => (failsOnDocument_pure _).bind rest

theorem failsOnDocument_insertLog (parse : Language → String → Syntax.SyntaxTree) :
    FailsOnDocument (InsertLogCommand.run parse) := by
  unfold InsertLogCommand.run
  refine failsOnDocument_get.bind fun h => ?_
  dsimp only
  split
  · exact failsOnDocument_pure _
  · split
    · exact failsOnDocument_pure _
    · refine (failsOnDocument_logCursors _ _ _ _ _).bind fun o => ?_
      split
      · exact (failsOnDocument_execute _).bind fun _ => failsOnDocument_pure _
      · exact failsOnDocument_pure _

theorem failsOnDocument_perform : ∀ a : DuplicateCommand.Handling, FailsOnDocument a.perform
  | .edits _ _ => (failsOnDocument_applyEdits _).bind fun _ =>
      (failsOnDocument_execute _).bind fun _ => failsOnDocument_pure _
  | .builtIn _ => (failsOnDocument_execute _).bind fun _ => failsOnDocument_pure _

theorem failsOnDocument_atCursors (parse : Language → String → Syntax.SyntaxTree)
    (lang : Option Language) :
    ∀ cs o, FailsOnDocument (DuplicateCommand.atCursors parse lang cs o)
  | [], o => failsOnDocument_pure o
  | c :: cs, o => by
    unfold DuplicateCommand.atCursors DuplicateCommand.atCursor
    exact (failsOnDocument_get.bind fun _ => failsOnDocument_perform _).bind fun _ =>
      failsOnDocument_atCursors parse lang cs _

theorem failsOnDocument_run (c : EditorCommand) : FailsOnDocument c.run := by
  cases c with
  | duplicate => exact failsOnDocument_get.bind fun _ => failsOnDocument_atCursors _ _ _ _
  | insertLog => exact failsOnDocument_insertLog _
  | transformCase k => exact failsOnDocument_transformCase k.convert

end SyntaxEdit.EditorM
