import SyntaxEdit.Command.InsertLog
import SyntaxEdit.Proofs.EditSet.Apply
import SyntaxEdit.Syntax.Lower

namespace SyntaxEdit.InsertLogCommand

open Syntax Text EditSet

/-- The edit a cursor asks for against the parse `tree`: on a blank line or a blank selection
the log template in place of the selection, elsewhere a log of the expression under it. -/
def cursorEdit (tree : SyntaxTree) (style : IndentStyle) (clip : String) (cursor : Selection) :
    Option TextEdit :=
  let cursor := cursor.clampTo tree.source
  if isBlankCursor tree.source cursor then
    some (.replace cursor.start cursor.stop (Log.logSnippet (some clip)).plainText "log template")
  else Log.logEdit tree cursor.start cursor.stop style

/-- The edits of the cursors of `h`, in the order the command handles them, on the parse of
the document by `parse`. -/
def handledEdits (parse : Language → String → SyntaxTree) (l : Language) (h : Editor) :
    List TextEdit :=
  (h.selections.mergeSort fun a b => b.start ≤ a.start).filterMap
    (cursorEdit (parse l h.text) h.options.indentStyle h.clipboard)

def turn (cs : List Char) (e : TextEdit) : Option (List Char) :=
  if e.start ≤ e.stop then replaceRange cs e.start e.stop e.replacement else none

def applyInTurn : List TextEdit → List Char → Option (List Char)
  | [], cs => some cs
  | e :: es, cs => (turn cs e).bind (applyInTurn es)

theorem isSome_turn_iff {cs : List Char} {e : TextEdit} :
    (turn cs e).isSome ↔ e.start ≤ e.stop ∧ isBoundary cs e.start ∧ isBoundary cs e.stop := by
  unfold turn
  split
  · next hab => rw [isSome_replaceRange_iff _ hab]; simp [hab]
  · next hab => simp [hab]

theorem applyInTurn_eq_applyEach {es : List TextEdit} (cs : List Char)
    (h : ∀ e ∈ es, e.start ≤ e.stop) : applyInTurn es cs = applyEach es cs := by
  induction es generalizing cs with
  | nil => rfl
  | cons e es ih =>
    simp only [applyInTurn, applyEach, turn, if_pos (h e (List.mem_cons_self ..)),
      Option.bind_eq_bind]
    congr
    funext cs'
    exact ih cs' fun e' he' => h e' (List.mem_cons_of_mem e he')

theorem applyInTurn_eq_none {es : List TextEdit} {e : TextEdit} (cs : List Char) (he : e ∈ es)
    (hrev : e.stop < e.start) : applyInTurn es cs = none := by
  induction es generalizing cs with
  | nil => cases he
  | cons e' es ih =>
    simp only [applyInTurn]
    rcases List.mem_cons.1 he with rfl | he
    · simp [turn, Nat.not_le_of_lt hrev]
    · cases turn cs e' with
      | none => rfl
      | some cs' => exact ih cs' he

theorem checkRange_eq_ok_iff {h : Editor} {a b : Nat} :
    h.checkRange a b = .ok () ↔
      a ≤ b ∧ isBoundary h.text.toList a ∧ isBoundary h.text.toList b := by
  simp only [Editor.checkRange]
  split
  · next hc =>
    simp only [Bool.and_eq_true, decide_eq_true_eq] at hc
    exact iff_of_true rfl ⟨hc.1.1.1, hc.1.2, hc.2⟩
  · next hc =>
    refine iff_of_false (by simp) fun ⟨hab, ha, hb⟩ => hc ?_
    simp [hab, ha, hb, le_byteLength_of_isBoundary hb]

theorem insertSnippet_text (sn : Snippet) (c : Selection) (h : Editor) :
    ((EditorM.insertSnippet sn c).run h).toOption.map (·.2.text) =
      (turn h.text.toList (.replace c.start c.stop sn.plainText "log template")).map
        String.ofList := by
  have hturn := @isSome_turn_iff h.text.toList (.replace c.start c.stop sn.plainText "log template")
  simp only [EditorM.insertSnippet, Editor.insertSnippet, StateT.run_bind, StateT.run_get,
    pure_bind]
  by_cases hv : c.start ≤ c.stop ∧ isBoundary h.text.toList c.start ∧
      isBoundary h.text.toList c.stop
  · obtain ⟨r, hr⟩ := Option.isSome_iff_exists.1 (hturn.2 hv)
    have hrep : replaceRange h.text.toList c.start c.stop sn.plainText = some r := by
      simpa [turn, TextEdit.replace, hv.1] using hr
    rw [checkRange_eq_ok_iff.2 hv, hr]
    show some (Editor.splice h.text c.start c.stop sn.plainText) = _
    simp [Editor.splice, hrep]
  · cases hc : h.checkRange c.start c.stop with
    | ok u => exact absurd (checkRange_eq_ok_iff.1 hc) hv
    | error err =>
      rw [Option.not_isSome_iff_eq_none.1 (mt hturn.1 hv)]
      rfl

theorem applyEdits_singleton_text (e : TextEdit) (h : Editor) :
    ((EditorM.applyEdits [e]).run h).toOption.map (·.2.text) =
      (turn h.text.toList e).map String.ofList := by
  have hturn := @isSome_turn_iff h.text.toList e
  simp only [EditorM.applyEdits, build, List.mergeSort_singleton, StateT.run_bind, StateT.run_get,
    pure_bind]
  simp only [firstOutOfBounds, List.find?_singleton, firstOverlap]
  by_cases hv : e.start ≤ e.stop ∧ isBoundary h.text.toList e.start ∧
      isBoundary h.text.toList e.stop
  · obtain ⟨r, hr⟩ := Option.isSome_iff_exists.1 (hturn.2 hv)
    have hin : ¬ (e.stop < e.start ∨ size h.text < e.stop) := by
      have := le_byteLength_of_isBoundary hv.2.2
      simp only [size]
      omega
    have hrep : replaceRange h.text.toList e.start e.stop e.replacement = some r := by
      simpa [turn, hv.1] using hr
    simp only [gt_iff_lt, Bool.or_eq_true, decide_eq_true_eq, hin, if_false]
    have hcheck : ([e].forM fun e => h.checkRange e.start e.stop) = .ok () := by
      show (h.checkRange e.start e.stop >>= fun _ => pure ()) = _
      rw [checkRange_eq_ok_iff.2 hv]
      rfl
    simp only [Editor.applyEdits]
    rw [hcheck, hr]
    show some ((EditSet.apply ⟨[e]⟩ h.text).getD h.text) = some (String.ofList r)
    simp [EditSet.apply, applyEach, hrep]
  · rw [Option.not_isSome_iff_eq_none.1 (mt hturn.1 hv)]
    by_cases hin : e.stop < e.start ∨ size h.text < e.stop
    · simp only [gt_iff_lt, Bool.or_eq_true, decide_eq_true_eq, hin, if_true]
      rfl
    · simp only [gt_iff_lt, Bool.or_eq_true, decide_eq_true_eq, hin, if_false]
      cases hc : h.checkRange e.start e.stop with
      | ok u => exact absurd (checkRange_eq_ok_iff.1 hc) hv
      | error err =>
        have hcheck : ([e].forM fun e => h.checkRange e.start e.stop) = .error err := by
          show (h.checkRange e.start e.stop >>= fun _ => pure ()) = _
          rw [hc]
          rfl
        simp only [Editor.applyEdits]
        rw [hcheck]
        rfl

theorem bind_text {α β ε : Type} {x : Except ε (α × Editor)}
    {k : α × Editor → Except ε (β × Editor)} {F : String → Option String}
    (hk : ∀ p, (k p).toOption.map (·.2.text) = F p.2.text) :
    (x >>= k).toOption.map (·.2.text) = (x.toOption.map (·.2.text)).bind F := by
  cases x with
  | error err => rfl
  | ok p => exact hk p

theorem applyInTurn_cons_text (e : TextEdit) (es : List TextEdit) (cs : List Char) :
    ((turn cs e).map String.ofList).bind (fun t => (applyInTurn es t.toList).map String.ofList) =
      (applyInTurn (e :: es) cs).map String.ofList := by
  simp only [applyInTurn]
  cases turn cs e <;> simp

/-- Handling the cursors one at a time applies their edits in turn, each to the text the ones
before it left. -/
theorem logCursors_text (tree : SyntaxTree) (style : IndentStyle) (clip : String) :
    ∀ (cursors : List Selection) (o : CommandOutcome) (h : Editor),
      ((logCursors tree style clip cursors o).run h).toOption.map (·.2.text) =
        (applyInTurn (cursors.filterMap (cursorEdit tree style clip)) h.text.toList).map
          String.ofList
  | [], o, h => by
    show some h.text = some (String.ofList h.text.toList)
    simp
  | c :: rest, o, h => by
    -- the text the remaining cursors leave, as a function of the text they start from
    let F := fun t : String =>
      (applyInTurn (rest.filterMap (cursorEdit tree style clip)) t.toList).map String.ofList
    have ih : ∀ o h', ((logCursors tree style clip rest o).run h').toOption.map (·.2.text) =
        F h'.text := logCursors_text tree style clip rest
    simp only [logCursors, List.filterMap_cons, cursorEdit]
    by_cases hb : isBlankCursor tree.source (c.clampTo tree.source) = true
    · simp only [hb, if_true, pure_bind]
      rw [StateT.run_bind, bind_text (F := F) fun p => ih _ p.2, insertSnippet_text,
        applyInTurn_cons_text]
    · simp only [hb, Bool.false_eq_true, if_false]
      cases Log.logEdit tree (c.clampTo tree.source).start (c.clampTo tree.source).stop style with
      | none => simpa using ih o h
      | some e =>
        simp only [pure_bind]
        rw [StateT.run_bind, bind_text (F := F) fun p => ih _ p.2, applyEdits_singleton_text,
          applyInTurn_cons_text]

/-- With a document in a script language, the command leaves the text its cursors' edits give
when applied in turn, in the order it handles the cursors. -/
theorem run_text (parse : Language → String → SyntaxTree) {h : Editor} {l : Language}
    (hl : Language.detect h.languageId h.fileName = .ok l) (hj : l.isJson = false) :
    ((run parse).run h).toOption.map (·.2.text) =
      (applyInTurn (handledEdits parse l h) h.text.toList).map String.ofList := by
  simp only [run, StateT.run_bind, StateT.run_get, pure_bind, hl, hj, Bool.false_eq_true,
    if_false]
  -- recording that the document is to be formatted leaves the text alone
  have hfmt : ∀ p : CommandOutcome × Editor,
      ((if p.1.syntaxEdits + p.1.fallbacks > 0 then do EditorM.execute .formatDocument; pure p.1
        else pure p.1).run p.2).toOption.map (fun q : CommandOutcome × Editor => q.2.text) =
        some p.2.text := by
    intro p
    split <;> rfl
  rw [bind_text hfmt, logCursors_text, Option.bind_fun_some]
  rfl

theorem priority_beforeEdit (t : SyntaxTree) (text : String) (i : Nat) (returns : Bool) :
    (LogSite.beforeEdit t text i returns).priority = 0 := by
  simp only [LogSite.beforeEdit]
  split <;> rfl

theorem priority_materialize (t : SyntaxTree) (text : String) (site : LogSite) :
    (LogSite.materialize t text site).priority = 0 := by
  cases site with
  | before i returns => exact priority_beforeEdit t text i returns
  | after i =>
    simp only [LogSite.materialize]
    split <;> rfl
  | inside i =>
    simp only [LogSite.materialize]
    split
    · exact priority_beforeEdit t text _ false
    · rfl

/-- Every edit a cursor asks for has priority `0`, so an edit set keeps insertions at one offset
in the order they are listed. -/
theorem priority_cursorEdit {tree : SyntaxTree} {style : IndentStyle} {clip : String}
    {c : Selection} {e : TextEdit} (h : cursorEdit tree style clip c = some e) :
    e.priority = 0 := by
  simp only [cursorEdit] at h
  split at h
  · cases h
    rfl
  · simp only [Log.logEdit, Option.bind_eq_bind, Option.bind_eq_some_iff, Option.pure_def,
      Option.some.injEq] at h
    obtain ⟨_, _, _, _, site, _, rfl⟩ := h
    exact priority_materialize tree _ site

theorem toOption_build_eq_none {es : List TextEdit} {n : Nat} (h : ¬ ∀ e ∈ es, InBounds n e) :
    (build es n).toOption = none := by
  cases hb : build es n with
  | error _ => rfl
  | ok S => exact absurd ((build_isOk_iff es n).1 ⟨S, hb⟩).1 h

/-- Edits of priority `0` applied in turn, each at or before the ones before it, give what their
edit set gives, listed the other way round: the same text, and a failure exactly where the set
is refused or cuts a character. -/
theorem applyInTurn_eq_apply {es : List TextEdit} {src : String}
    (hd : es.Pairwise fun a b => b.stop ≤ a.start) (hp : ∀ e ∈ es, e.priority = 0) :
    (applyInTurn es src.toList).map String.ofList =
      (build es.reverse (size src)).toOption.bind (·.apply src) := by
  by_cases hr : ∀ e ∈ es, e.start ≤ e.stop
  · have hr' : ∀ e ∈ es.reverse, e.start ≤ e.stop := fun e he => hr e (List.mem_reverse.1 he)
    have hf : Follows 0 es.reverse :=
      follows_of_pairwise (fun e he => ⟨Nat.zero_le _, hr' e he⟩) (List.pairwise_reverse.2 hd)
    rw [applyInTurn_eq_applyEach _ hr]
    by_cases hin : ∀ e ∈ es, e.stop ≤ size src
    · -- listed the other way round the edits are already in the order of an edit set
      have hsorted : es.reverse.Pairwise fun a b => before a b :=
        hf.pairwise.imp_of_mem fun ha hb hab => before_of_stop_le_start (hr' _ ha) (hr' _ hb) hab
          (by simp [hp _ (List.mem_reverse.1 ha), hp _ (List.mem_reverse.1 hb)])
      obtain ⟨S, hS⟩ := (build_isOk_iff es.reverse (size src)).2
        ⟨fun e he => ⟨hr' e he, hin e (List.mem_reverse.1 he)⟩, hf.pairwise_compatible⟩
      have hedits : S.edits = es.reverse := by
        rw [(build_eq_ok hS).1, List.mergeSort_of_pairwise hsorted]
      rw [hS]
      show _ = (applyEach S.edits.reverse src.toList).map String.ofList
      rw [hedits, List.reverse_reverse]
    · -- an edit ends past the text: the set is refused, and that end is no boundary
      obtain ⟨e, he, hgt⟩ : ∃ e ∈ es, size src < e.stop := by simpa using hin
      rw [toOption_build_eq_none fun hall => Nat.not_le_of_lt hgt
        (hall e (List.mem_reverse.2 he)).2]
      have hsplice : applyEach es.reverse.reverse ([] ++ src.toList) =
          (spliceFrom es.reverse 0 ([] ++ src.toList)).map ([] ++ ·) :=
        applyEach_reverse_eq_spliceFrom hf rfl
      rw [List.reverse_reverse, List.nil_append] at hsplice
      have hcut : spliceFrom es.reverse 0 src.toList = none := by
        refine Option.not_isSome_iff_eq_none.1 fun hs => ?_
        have hb := ((isSome_spliceFrom_iff hf).1 hs).2 e (List.mem_reverse.2 he)
        exact Nat.not_le_of_lt hgt (le_byteLength_of_isBoundary hb.2)
      rw [hsplice, hcut]
      rfl
  · obtain ⟨e, he, hlt⟩ : ∃ e ∈ es, e.stop < e.start := by simpa using hr
    rw [applyInTurn_eq_none _ he hlt, toOption_build_eq_none fun hall => Nat.not_le_of_lt hlt
      (hall e (List.mem_reverse.2 he)).1]
    rfl

/-- When the edit of every cursor lies at or before the edits of the cursors handled before it,
logging at the cursors one at a time leaves the text that applying all their edits at once as
one edit set gives, and fails exactly where that fails. -/
theorem run_eq_apply_of_descending (parse : Language → String → SyntaxTree) {h : Editor}
    {l : Language} (hl : Language.detect h.languageId h.fileName = .ok l) (hj : l.isJson = false)
    (hd : (handledEdits parse l h).Pairwise fun a b => b.stop ≤ a.start) :
    ((run parse).run h).toOption.map (·.2.text) =
      (build (handledEdits parse l h).reverse (size h.text)).toOption.bind
        (·.apply h.text) := by
  rw [run_text parse hl hj]
  refine applyInTurn_eq_apply hd fun e he => ?_
  obtain ⟨c, -, hc⟩ := List.mem_filterMap.1 he
  exact priority_cursorEdit hc

def twoLineStatements : SyntaxTree :=
  ⟨"a;\nb;", [⟨.expressionStatement, "expression_statement", .statement, 0, 2, 0, some 0, #[]⟩,
    ⟨.identifier, "identifier", .other, 0, 1, 0, some 1, #[]⟩,
    ⟨.expressionStatement, "expression_statement", .statement, 3, 5, 2, some 0, #[]⟩,
    ⟨.identifier, "identifier", .other, 3, 4, 2, some 3, #[]⟩].foldl pushNode
    #[⟨.sourceFile, "program", .root, 0, 5, 0, none, #[]⟩]⟩

/-- Carets on `a` and on `b` in `a;` and `b;` on two lines: the log of `b` goes after `b;`, past
the log of `a` after `a;`, so the two edits descend in the order the cursors are handled. -/
theorem run_eq_apply_of_descending_two_lines :
    let h : Editor :=
      { Editor.ofDocument "a;\nb;" "typescript" "" with selections := [.caret 3, .caret 0] }
    Language.detect h.languageId h.fileName = .ok .typeScript ∧
      Language.typeScript.isJson = false ∧
      (handledEdits (fun _ _ => twoLineStatements) .typeScript h).Pairwise
        (fun a b => b.stop ≤ a.start) ∧
      ((run fun _ _ => twoLineStatements).run h).toOption.map (·.2.text) =
        (build (handledEdits (fun _ _ => twoLineStatements) .typeScript h).reverse
          (size h.text)).toOption.bind (·.apply h.text) := by
  intro h
  have hd : (handledEdits (fun _ _ => twoLineStatements) .typeScript h).Pairwise
      (fun a b => b.stop ≤ a.start) := by
    unfold handledEdits
    rw [List.mergeSort_of_pairwise (by decide)]
    decide +kernel
  exact ⟨rfl, rfl, hd, run_eq_apply_of_descending _ rfl rfl hd⟩

end SyntaxEdit.InsertLogCommand
