import Mathlib.Data.List.Forall2
import SyntaxEdit.Command.Duplicate
import SyntaxEdit.Proofs.Duplicate
import SyntaxEdit.Proofs.InsertLog

namespace SyntaxEdit

open Text Syntax EditSet

namespace Selection

theorem isBoundary_clampTo (c : Selection) (src : String) :
    isBoundary src.toList (c.clampTo src).anchor ∧ isBoundary src.toList (c.clampTo src).active :=
  ⟨isBoundary_floorBoundary _ _, isBoundary_floorBoundary _ _⟩

theorem isBoundary_start_stop {s : Selection} {cs : List Char} (ha : isBoundary cs s.anchor)
    (hb : isBoundary cs s.active) :
    isBoundary cs s.start ∧ isBoundary cs s.stop ∧ s.start ≤ s.stop := by
  unfold start stop
  rcases Nat.le_total s.anchor s.active with h | h
  · simp [ha, hb, h]
  · simp [ha, hb, h]

theorem isBoundary_clampTo_start_stop (c : Selection) (src : String) :
    isBoundary src.toList (c.clampTo src).start ∧ isBoundary src.toList (c.clampTo src).stop ∧
      (c.clampTo src).start ≤ (c.clampTo src).stop :=
  isBoundary_start_stop (c.isBoundary_clampTo src).1 (c.isBoundary_clampTo src).2

end Selection

namespace Editor

structure CopiesRead (h : Editor) (sel : Selection) : Prop where
  /-- Copying lines down reads from the start of the first line the clamped selection touches
  to the end of the last, and inserts at that end. -/
  lines : ∃ first last, lineStart h.text (sel.clampTo h.text).start = some first ∧
    lineEnd h.text (sel.clampTo h.text).stop = some last ∧
    (sliceBytes h.text.toList first last).isSome ∧
    ∀ r, (replaceRange h.text.toList last last r).isSome
  /-- Duplicating a selection reads the clamped selection and inserts the copy at its end. -/
  selection :
    (sliceBytes h.text.toList (sel.clampTo h.text).start (sel.clampTo h.text).stop).isSome ∧
    ∀ r, (replaceRange h.text.toList (sel.clampTo h.text).stop (sel.clampTo h.text).stop r).isSome

theorem copiesRead (h : Editor) (sel : Selection) : CopiesRead h sel := by
  obtain ⟨hs, he, hse⟩ := sel.isBoundary_clampTo_start_stop h.text
  refine ⟨?_, (isSome_sliceBytes_iff hse).2 ⟨hs, he⟩,
    fun r => (isSome_replaceRange_iff r (Nat.le_refl _)).2 ⟨he, he⟩⟩
  obtain ⟨first, e₁, hf, he₁, hfs, -, hfe₁, hbf, -⟩ := exists_lineBounds hs
  obtain ⟨-, last, -, hl, -, hel, -, -, hbl⟩ := exists_lineBounds he
  -- the end of the last line lies at most one byte (a carriage return) before the selection's
  -- end, so past the first line's start unless both ends are one offset
  have hfl : first ≤ last := by
    rcases Nat.lt_or_eq_of_le hse with hlt | heq
    · omega
    · rw [heq, hl, Option.some.injEq] at he₁
      exact he₁ ▸ hfe₁
  exact ⟨first, last, hf, hl, (isSome_sliceBytes_iff hfl).2 ⟨hbf, hbl⟩,
    fun r => (isSome_replaceRange_iff r (Nat.le_refl last)).2 ⟨hbl, hbl⟩⟩

@[simp] theorem executed_execute (h : Editor) (c : HostCommand) :
    (h.execute c).executed = h.executed ++ [c] := by
  cases c with
  | duplicateSelection sel =>
    simp only [execute]
    split_ifs <;> rfl
  | _ => rfl

theorem forM_checkRange_ok {h : Editor} : ∀ {l : List TextEdit},
    (∀ d ∈ l, d.start ≤ d.stop ∧ isBoundary h.text.toList d.start ∧
      isBoundary h.text.toList d.stop) →
    l.forM (fun e => h.checkRange e.start e.stop) = .ok ()
  | [], _ => rfl
  | d :: l, hl => by
    rw [List.forM_eq_forM, List.forM_cons,
      InsertLogCommand.checkRange_eq_ok_iff.2 (hl d (List.mem_cons_self ..))]
    exact forM_checkRange_ok fun d' hd' => hl d' (List.mem_cons_of_mem d hd')

end Editor

def HostCommand.isFormatSelection : HostCommand → Bool
  | .formatSelection _ => true
  | _ => false

namespace EditorM

theorem run_execute (c : HostCommand) (h : Editor) :
    (execute c).run h = .ok ((), h.execute c) := rfl

/-- Insertions between characters, each within the text, always apply: they form an edit set,
the document accepts every range of it, and the set's application is defined. -/
theorem run_applyEdits_of_insertions {es : List TextEdit} {h : Editor}
    (hi : ∀ d ∈ es,
      d.start = d.stop ∧ d.stop ≤ Text.size h.text ∧ isBoundary h.text.toList d.start) :
    ∃ S out, build es (Text.size h.text) = .ok S ∧ S.apply h.text = some out ∧
      (applyEdits es).run h = .ok ((), { h with text := out }) := by
  obtain ⟨S, hS, hperm, out, hout, -⟩ := build_insertions hi
  have hchecks : S.edits.forM (fun e => h.checkRange e.start e.stop) = .ok () :=
    Editor.forM_checkRange_ok fun d hd => by
      obtain ⟨hss, -, hb⟩ := hi d (hperm.mem_iff.1 hd)
      exact ⟨hss ▸ Nat.le_refl _, hb, hss ▸ hb⟩
  refine ⟨S, out, hS, hout, ?_⟩
  simp only [applyEdits, StateT.run_bind, StateT.run_get, pure_bind, hS, Editor.applyEdits,
    hchecks, hout]
  rfl

end EditorM

/-- The edits that duplicate syntax in a well-shaped tree are insertions between characters of
its source. -/
theorem Duplicate.duplicateEdits_insertions {t : SyntaxTree} (ht : t.WellShaped) (s e : Nat) :
    ∀ d ∈ Duplicate.duplicateEdits t s e,
      d.start = d.stop ∧ d.stop ≤ Text.size t.source ∧ isBoundary t.source.toList d.start := by
  intro d hd
  obtain ⟨d', hd', hs, hst, -⟩ := mem_dedupEdits hd
  obtain ⟨i, -, hdi⟩ := List.mem_flatMap.1 hd'
  obtain ⟨hss, ho⟩ := Duplicate.createEditsAux_nodeInsertion t _ i d' hdi
  obtain ⟨hb, hle⟩ := ho.boundary ht
  refine ⟨by rw [hs, hst, hss], ?_, hs ▸ hb⟩
  rw [hst, ← hss]
  exact hle

namespace DuplicateCommand

/-- Snapping the caret at `o` reads its line on both sides of it and lands on a boundary of that
line: no further back than the line's start, no further on than its end, or than the caret when
the caret sits between a carriage return and its line feed. -/
def SnapsWithinLine (src : String) (o : Nat) : Prop :=
  ∃ ls le, lineStart src o = some ls ∧ lineEnd src o = some le ∧
    (sliceBytes src.toList ls o).isSome ∧ (sliceBytes src.toList o (max le o)).isSome ∧
    ls ≤ snapCaret src o ∧ snapCaret src o ≤ max le o ∧ isBoundary src.toList (snapCaret src o)

/-- A caret on a boundary snaps within its line. After a comma it steps back over the comma, a
single byte; before blanks it steps over them, a prefix of the rest of the line. -/
theorem snapsWithinLine {src : String} {o : Nat} (ho : isBoundary src.toList o) :
    SnapsWithinLine src o := by
  obtain ⟨ls, le, hls, hle, hlso, -, -, hbls, hble⟩ := exists_lineBounds ho
  have hmax : isBoundary src.toList (max le o) := by
    rcases Nat.le_total le o with h | h
    · rwa [Nat.max_eq_right h]
    · rwa [Nat.max_eq_left h]
  obtain ⟨left, hleft⟩ := Option.isSome_iff_exists.1 ((isSome_sliceBytes_iff hlso).2 ⟨hbls, ho⟩)
  obtain ⟨right, hright⟩ := Option.isSome_iff_exists.1
    ((isSome_sliceBytes_iff (Nat.le_max_right le o)).2 ⟨ho, hmax⟩)
  refine ⟨ls, le, hls, hle, by simp [hleft], by simp [hright], ?_⟩
  obtain ⟨P, Q, hPQ, hP, hPl⟩ := exists_of_sliceBytes hleft
  obtain ⟨P', Q', hPQ', hP', hPr⟩ := exists_of_sliceBytes hright
  simp only [snapCaret, hls, hle, Option.getD_some, hleft, hright]
  split_ifs with hcomma hspace
  · -- the left part ends with the comma; the caret lands just before it
    simp only [Bool.and_eq_true, beq_iff_eq] at hcomma
    obtain ⟨L, rfl⟩ := List.getLast?_eq_some_iff.1 hcomma.1
    have hcut : byteLength (P ++ L) = o - 1 := by
      simp only [byteLength_append, byteLength_cons, byteLength_nil] at hPl ⊢
      have : Char.utf8Size ',' = 1 := rfl
      omega
    refine ⟨by simp only [byteLength_append] at hcut; omega, by omega,
      (isBoundary_iff _ _).2 ⟨P ++ L, ',' :: Q, by simp [hPQ], hcut⟩⟩
  · -- the caret steps over the blanks that open the right part
    have hsplit := List.takeWhile_append_dropWhile (p := isBlank) (l := right)
    have hlen : byteLength right - byteLength (right.dropWhile isBlank) =
        byteLength (right.takeWhile isBlank) := by
      rw [← congrArg byteLength hsplit, byteLength_append]
      omega
    rw [hlen]
    have hbound : isBoundary src.toList (o + byteLength (right.takeWhile isBlank)) :=
      (isBoundary_iff _ _).2 ⟨P' ++ right.takeWhile isBlank, right.dropWhile isBlank ++ Q', by
        rw [hPQ']
        nth_rewrite 1 [← hsplit]
        simp only [List.append_assoc], by
        rw [byteLength_append, hP']⟩
    have htw : byteLength (right.takeWhile isBlank) ≤ byteLength right := by
      rw [← congrArg byteLength hsplit, byteLength_append]
      omega
    exact ⟨by omega, by omega, hbound⟩
  · exact ⟨hlso, Nat.le_max_right le o, ho⟩

/-- Every slice the duplicate command takes at cursor `c` in the text `src` before it snaps or
parses is defined: the cursor clamped onto boundaries, the caret's line for the blank-line test,
and the selected text for the blank-selection test. -/
structure CursorReads (src : String) (c : Selection) : Prop where
  clamped : isBoundary src.toList (c.clampTo src).anchor ∧
    isBoundary src.toList (c.clampTo src).active
  blankLine : (isBlankLine src (c.clampTo src).active).isSome
  selected : (sliceBytes src.toList (c.clampTo src).start (c.clampTo src).stop).isSome

theorem cursorReads (src : String) (c : Selection) : CursorReads src c := by
  obtain ⟨hs, he, hse⟩ := c.isBoundary_clampTo_start_stop src
  have hclamp := c.isBoundary_clampTo src
  exact ⟨hclamp, by simpa [isBlankLine] using isSome_lineText hclamp.2,
    (isSome_sliceBytes_iff hse).2 ⟨hs, he⟩⟩

/-- The action that ends the handling of cursor `c`: formatting it after a syntax edit, or one of
the two fallbacks, on `c` clamped to the text it was handled in. -/
def EndsCursor (c : Selection) (cmd : HostCommand) : Prop :=
  ∃ src, cmd = .formatSelection (c.clampTo src) ∨ cmd = .copyLinesDown (c.clampTo src) ∨
    cmd = .duplicateSelection (c.clampTo src)

variable (parse : Language → String → SyntaxTree)

/-- The range the duplicate rules read for cursor `c` in `src`: the caret snapped onto the node
it most likely means, or the selection, once clamped onto boundaries. -/
def readRange (src : String) (c : Selection) : Nat × Nat :=
  if (c.clampTo src).isEmpty then
    (snapCaret src (c.clampTo src).active, snapCaret src (c.clampTo src).active)
  else ((c.clampTo src).start, (c.clampTo src).stop)

/-- A cursor is handled by the syntax edits of the range it is read as, in the tree of the text
in a known language, or by one of the two fallbacks, always on the cursor clamped to the text. -/
theorem handling_cases (lang : Option Language) (src : String) (c : Selection) :
    (∃ l, lang = some l ∧ handling parse lang src c =
        .edits (Duplicate.duplicateEdits (parse l src) (readRange src c).1 (readRange src c).2)
          (c.clampTo src)) ∨
      handling parse lang src c = .builtIn (.copyLinesDown (c.clampTo src)) ∨
      handling parse lang src c = .builtIn (.duplicateSelection (c.clampTo src)) := by
  dsimp only [handling]
  split
  · exact .inr (.inl rfl)
  split
  · exact .inr (.inr rfl)
  cases lang with
  | none => exact .inr (.inl rfl)
  | some l =>
    dsimp only
    -- at a caret or over a selection: the edits there, else one of the two fallbacks
    split
    all_goals
      next hc =>
      split_ifs
      · exact .inl ⟨l, rfl, by simp [readRange, hc]⟩
      · exact .inr (.inr rfl)
      · exact .inr (.inl rfl)

theorem run_perform_edits {es : List TextEdit} {h : Editor}
    (hi : ∀ d ∈ es, d.start = d.stop ∧ d.stop ≤ Text.size h.text ∧ isBoundary h.text.toList d.start)
    (sel : Selection) :
    ∃ h', (Handling.edits es sel).perform.run h = .ok (true, h') ∧
      h'.executed = h.executed ++ [.formatSelection sel] := by
  obtain ⟨S, out, -, -, hrun⟩ := EditorM.run_applyEdits_of_insertions hi
  refine ⟨({ h with text := out }).execute (.formatSelection sel), ?_, Editor.executed_execute _ _⟩
  simp only [Handling.perform, StateT.run_bind, hrun, EditorM.run_execute]
  rfl

/-- One cursor, read with a parser whose trees are well shaped over the text they read: its
handling always runs, and records exactly one action, which ends the cursor; the result says
whether that action formats after a syntax edit. -/
theorem run_atCursor (hparse : ∀ l src, (parse l src).source = src ∧ (parse l src).WellShaped)
    (lang : Option Language) (c : Selection) (h : Editor) :
    ∃ cmd h', (atCursor parse lang c).run h = .ok (cmd.isFormatSelection, h') ∧
      h'.executed = h.executed ++ [cmd] ∧ EndsCursor c cmd := by
  have hrun : (atCursor parse lang c).run h = (handling parse lang h.text c).perform.run h := rfl
  rcases handling_cases parse lang h.text c with ⟨l, -, hh⟩ | hh | hh
  · -- the syntax edits of the text as it stands are insertions into it
    obtain ⟨hsrc, hws⟩ := hparse l h.text
    have hi := Duplicate.duplicateEdits_insertions hws (readRange h.text c).1 (readRange h.text c).2
    rw [hsrc] at hi
    obtain ⟨h', hp, hex⟩ := run_perform_edits hi (c.clampTo h.text)
    exact ⟨.formatSelection (c.clampTo h.text), h', by rw [hrun, hh, hp]; rfl, hex, h.text,
      .inl rfl⟩
  · exact ⟨.copyLinesDown (c.clampTo h.text), _, by rw [hrun, hh]; rfl,
      Editor.executed_execute _ _, h.text, .inr (.inl rfl)⟩
  · exact ⟨.duplicateSelection (c.clampTo h.text), _, by rw [hrun, hh]; rfl,
      Editor.executed_execute _ _, h.text, .inr (.inr rfl)⟩

/-- Cursors in turn, each against the text the ones before it left: the run never fails, records
one ending action per cursor, and counts the formatting ones as syntax edits and the others as
fallbacks. -/
theorem run_atCursors (hparse : ∀ l src, (parse l src).source = src ∧ (parse l src).WellShaped)
    (lang : Option Language) :
    ∀ (cs : List Selection) (o : CommandOutcome) (h : Editor), ∃ o' h' cmds,
      (atCursors parse lang cs o).run h = .ok (o', h') ∧ h'.executed = h.executed ++ cmds ∧
      List.Forall₂ EndsCursor cs cmds ∧
      o'.syntaxEdits = o.syntaxEdits + cmds.countP HostCommand.isFormatSelection ∧
      o'.fallbacks = o.fallbacks + cmds.countP (fun cmd => !cmd.isFormatSelection)
  | [], o, h => ⟨o, h, [], rfl, by simp, .nil, by simp, by simp⟩
  | c :: cs, o, h => by
    obtain ⟨cmd, h₁, hrun, hex, hends⟩ := run_atCursor parse hparse lang c h
    obtain ⟨o', h', cmds, hrest, hex', hall, hs, hf⟩ := run_atCursors hparse lang cs
      (if cmd.isFormatSelection then { o with syntaxEdits := o.syntaxEdits + 1 }
        else { o with fallbacks := o.fallbacks + 1 }) h₁
    refine ⟨o', h', cmd :: cmds, ?_, by rw [hex', hex, List.append_assoc]; rfl, .cons hends hall,
      ?_, ?_⟩
    · simp only [atCursors, StateT.run_bind, hrun]
      exact hrest
    · cases hc : cmd.isFormatSelection <;> simp [hc] at hs ⊢ <;> omega
    · cases hc : cmd.isFormatSelection <;> simp [hc] at hf ⊢ <;> omega

theorem run_run (h : Editor) :
    (run parse).run h = (atCursors parse (Language.detect h.languageId h.fileName).toOption
      (h.selections.mergeSort fun a b => b.active ≤ a.active) {}).run h := by
  simp only [run, StateT.run_bind, StateT.run_get, pure_bind]

structure HandlesEveryCursor (h : Editor) : Prop where
  /-- It returns a result, having recorded one ending action per cursor, in the order it takes
  the cursors; the actions that format are its syntax edits, the others its fallbacks. -/
  runs : ∃ o h' cmds, (run parse).run h = .ok (o, h') ∧ h'.executed = h.executed ++ cmds ∧
    List.Forall₂ EndsCursor (h.selections.mergeSort fun a b => b.active ≤ a.active) cmds ∧
    cmds.length = h.selections.length ∧
    o.syntaxEdits = cmds.countP HostCommand.isFormatSelection ∧
    o.syntaxEdits + o.fallbacks = h.selections.length
  /-- At any cursor, in any text the cursors before it left, the slices read before snapping
  and parsing are defined. -/
  cursorReads : ∀ src c, CursorReads src c
  /-- A caret on a boundary snaps onto a boundary within its line. -/
  snaps : ∀ src o, isBoundary src.toList o → SnapsWithinLine src o
  /-- The built-in copies read only defined slices. -/
  copies : ∀ h' sel, Editor.CopiesRead h' sel
  /-- What the syntax rules read in any reading is defined: whether two offsets of nodes share
  a line, the indentation at one, and the text between them, which holds each node's text. -/
  treeReads : ∀ l src a b, Duplicate.NodeOffset (parse l src) a →
    Duplicate.NodeOffset (parse l src) b → (sameLine src a b).isSome ∧
      (lineIndent src a).isSome ∧ (a ≤ b → (sliceBytes src.toList a b).isSome)
  /-- The syntax edits of any reading form an edit set, and applying it is defined. -/
  edits : ∀ l src s e, ∃ S out,
    build (Duplicate.duplicateEdits (parse l src) s e) (Text.size src) = .ok S ∧
      S.apply src = some out

/-- The duplicate command, reading with any parser whose trees are well shaped over the text
they read, on any editor and any cursors: it never fails and never cuts a text where it cannot
be cut, and each cursor ends in exactly one action, so syntax edits and fallbacks add up to the
number of cursors. -/
theorem run_handles_every_cursor
    (hparse : ∀ l src, (parse l src).source = src ∧ (parse l src).WellShaped) (h : Editor) :
    HandlesEveryCursor parse h := by
  refine ⟨?_, cursorReads, fun _ _ ho => snapsWithinLine ho, Editor.copiesRead, ?_, ?_⟩
  · obtain ⟨o, h', cmds, hrun, hex, hall, hs, hf⟩ := run_atCursors parse hparse
      (Language.detect h.languageId h.fileName).toOption
      (h.selections.mergeSort fun a b => b.active ≤ a.active) {} h
    have hlen : cmds.length = h.selections.length := by
      rw [← hall.length_eq, List.length_mergeSort]
    refine ⟨o, h', cmds, (run_run parse h).trans hrun, hex, hall, hlen, by simpa using hs, ?_⟩
    -- every action either formats or does not
    have hsplit := List.length_eq_countP_add_countP HostCommand.isFormatSelection (l := cmds)
    simp only [Bool.not_eq_true, Bool.decide_eq_false] at hsplit
    rw [hs, hf, ← hlen, hsplit]
    simp
  · intro l src a b ha hb
    obtain ⟨hsrc, hws⟩ := hparse l src
    obtain ⟨hba, -⟩ := ha.boundary hws
    obtain ⟨hbb, -⟩ := hb.boundary hws
    rw [hsrc] at hba hbb
    exact ⟨isSome_sameLine hba hbb, isSome_lineIndent hba,
      fun hab => (isSome_sliceBytes_iff hab).2 ⟨hba, hbb⟩⟩
  · intro l src s e
    obtain ⟨hsrc, hws⟩ := hparse l src
    have hi := Duplicate.duplicateEdits_insertions hws s e
    rw [hsrc] at hi
    obtain ⟨S, hS, -, out, hout, -⟩ := build_insertions hi
    exact ⟨S, out, hS, hout⟩

def flatParse (_ : Language) (src : String) : SyntaxTree :=
  ⟨src, #[⟨.sourceFile, "program", .root, 0, Text.size src, 0, none, #[]⟩]⟩

theorem flatParse_wellShaped (l : Language) (src : String) :
    (flatParse l src).source = src ∧ (flatParse l src).WellShaped :=
  ⟨rfl, SyntaxTree.WellShaped.of_arenaWf (ArenaWf.single rfl rfl
    ⟨Nat.le_refl 0, Nat.zero_le _, Nat.le_refl _, isBoundary_zero _, isBoundary_zero _,
      isBoundary_byteLength _⟩) rfl rfl rfl rfl⟩

/-- Two cursors in a plain-text document, one a reversed selection, read by a parser that sees
no syntax. -/
theorem run_handles_every_cursor_plain_text :
    (∀ l src, (flatParse l src).source = src ∧ (flatParse l src).WellShaped) ∧
      HandlesEveryCursor flatParse
        ⟨"ab\ncd", "plaintext", "notes.txt", [⟨5, 0⟩, ⟨1, 1⟩], EditorOptions.standard, "", []⟩ :=
  ⟨flatParse_wellShaped, run_handles_every_cursor flatParse flatParse_wellShaped _⟩

end DuplicateCommand

end SyntaxEdit
