import SyntaxEdit.Command.TransformCase
import SyntaxEdit.Proofs.DuplicateCommand

namespace SyntaxEdit

open Text EditSet

namespace EditorM

/-- Edits within the text and between characters are refused exactly when two of them are
incompatible, and otherwise applied at once: the text becomes the splice of the set's edits. -/
theorem run_applyEdits_of_ranges {es : List TextEdit} {h : Editor}
    (hr : ∀ e ∈ es, e.start ≤ e.stop ∧ e.stop ≤ size h.text ∧ isBoundary h.text.toList e.start ∧
      isBoundary h.text.toList e.stop) :
    (¬ es.Pairwise Compatible → ∃ a b, (applyEdits es).run h = .error (.edit (.overlapping a b))) ∧
    (es.Pairwise Compatible → ∃ S out, build es (size h.text) = .ok S ∧ S.splice h.text = some out ∧
      (applyEdits es).run h = .ok ((), { h with text := out })) := by
  have hin : ∀ e ∈ es, InBounds (size h.text) e := fun e he => ⟨(hr e he).1, (hr e he).2.1⟩
  refine ⟨fun hc => ?_, fun hc => ?_⟩
  · obtain ⟨a, b, hab⟩ := (build_overlapping_iff es (size h.text)).2 ⟨hin, hc⟩
    refine ⟨a, b, ?_⟩
    simp only [applyEdits, StateT.run_bind, StateT.run_get, pure_bind, hab]
    rfl
  · obtain ⟨S, hS⟩ := (build_isOk_iff es (size h.text)).2 ⟨hin, hc⟩
    have hmem : ∀ e, e ∈ S.edits ↔ e ∈ es := fun e => (sortsStably_of_build hS).perm.mem_iff
    -- every end of an edit is a boundary, so the set applies, and applies as its splice
    have happly := apply_eq_splice hS
    obtain ⟨out, hout⟩ : ∃ out, S.apply h.text = some out := by
      refine Option.isSome_iff_exists.1 (Option.ne_none_iff_isSome.1 fun hnone => ?_)
      obtain ⟨e, he, hcut⟩ := happly.1.1 hnone
      obtain ⟨-, -, hbs, hbe⟩ := hr e he
      rcases hcut with hcut | hcut
      · rw [hbs] at hcut; cases hcut
      · rw [hbe] at hcut; cases hcut
    have hchecks : S.edits.forM (fun e => h.checkRange e.start e.stop) = .ok () :=
      Editor.forM_checkRange_ok fun d hd => by
        obtain ⟨hle, -, hbs, hbe⟩ := hr d ((hmem d).1 hd)
        exact ⟨hle, hbs, hbe⟩
    refine ⟨S, out, hS, happly.2 ▸ hout, ?_⟩
    simp only [applyEdits, StateT.run_bind, StateT.run_get, pure_bind, hS, Editor.applyEdits,
      hchecks, hout]
    rfl

end EditorM

namespace TransformCaseCommand

/-- A selection gets a replacement exactly when, clamped onto boundaries, it is not empty and
`convert` changes its text; the replacement puts the converted text in place of the clamped
range. -/
theorem editFor_eq_some_iff {convert : String → String} {text : String} {sel : Selection}
    {e : TextEdit} :
    editFor convert text sel = some e ↔
      (sel.clampTo text).start < (sel.clampTo text).stop ∧
      ∃ before, slice? text (sel.clampTo text).start (sel.clampTo text).stop = some before ∧
        convert before ≠ before ∧
        e = .replace (sel.clampTo text).start (sel.clampTo text).stop (convert before)
          "transform case" := by
  unfold editFor
  generalize sel.clampTo text = c
  have hempty : c.isEmpty = true ↔ ¬ c.start < c.stop := by
    simp only [Selection.isEmpty, Selection.start, Selection.stop, beq_iff_eq]
    omega
  by_cases hc : c.isEmpty = true
  · simp [hc, hempty.1 hc]
  · have hlt : c.start < c.stop := Classical.not_not.1 (mt hempty.2 hc)
    simp only [hc, Bool.false_eq_true, if_false, Option.bind_eq_bind, Option.bind_eq_some_iff, hlt,
      true_and]
    constructor
    · rintro ⟨before, hb, he⟩
      split at he
      · simp at he
      · next hne =>
        exact ⟨before, hb, by simpa using hne, (Option.some.inj he).symm⟩
    · rintro ⟨before, hb, hne, rfl⟩
      exact ⟨before, hb, by simp [hne]⟩

/-- A replacement lies within the text, runs from a boundary to a boundary, and replaces at least
one byte. -/
theorem editFor_range {convert : String → String} {text : String} {sel : Selection}
    {e : TextEdit} (h : editFor convert text sel = some e) :
    e.start < e.stop ∧ e.stop ≤ size text ∧ isBoundary text.toList e.start ∧
      isBoundary text.toList e.stop := by
  obtain ⟨hlt, before, -, -, rfl⟩ := editFor_eq_some_iff.1 h
  obtain ⟨hbs, hbe, -⟩ := sel.isBoundary_clampTo_start_stop text
  exact ⟨hlt, le_byteLength_of_isBoundary hbe, hbs, hbe⟩

def replacements (convert : String → String) (h : Editor) : List TextEdit :=
  h.selections.filterMap (editFor convert h.text)

theorem mem_replacements_range {convert : String → String} {h : Editor} {e : TextEdit}
    (he : e ∈ replacements convert h) :
    e.start ≤ e.stop ∧ e.stop ≤ size h.text ∧ isBoundary h.text.toList e.start ∧
      isBoundary h.text.toList e.stop := by
  obtain ⟨sel, -, hsel⟩ := List.mem_filterMap.1 he
  obtain ⟨hlt, hle, hbs, hbe⟩ := editFor_range hsel
  exact ⟨Nat.le_of_lt hlt, hle, hbs, hbe⟩

theorem run_run (convert : String → String) (h : Editor) :
    (run convert).run h = if (replacements convert h).isEmpty then .ok ({}, h)
      else ((EditorM.applyEdits (replacements convert h)).run h).bind fun p =>
        .ok ({ transformed := (replacements convert h).length }, p.2) := by
  unfold run replacements
  simp only [StateT.run_bind, StateT.run_get, pure_bind]
  by_cases hE : (h.selections.filterMap (editFor convert h.text)).isEmpty = true
  · simp only [hE, if_true]
    rfl
  · simp only [hE, Bool.false_eq_true, if_false, StateT.run_bind]
    rfl

theorem splice_of_edits_nil {S : EditSet} (hS : S.edits = []) (src : String) :
    S.splice src = some src := by
  simp [EditSet.splice, hS, spliceFrom, dropBytes, splitBytes]

/-- Whatever the conversion, the command clamps every selection onto boundaries and keeps the
non-empty ones whose text it changes, each converted as it reads in the text as it was. When two kept ranges
are incompatible it refuses them all with an overlap; the run then gives back no editor, so the
document stays as it was. Otherwise it replaces all kept ranges at once, their edits spliced into
the text in order of position, and counts them. -/
theorem run_replaces_all_or_none (convert : String → String) (h : Editor) :
    (∀ sel e, editFor convert h.text sel = some e ↔
      (sel.clampTo h.text).start < (sel.clampTo h.text).stop ∧
      ∃ before, slice? h.text (sel.clampTo h.text).start (sel.clampTo h.text).stop =
          some before ∧ convert before ≠ before ∧
        e = .replace (sel.clampTo h.text).start (sel.clampTo h.text).stop (convert before)
          "transform case") ∧
    (¬ (replacements convert h).Pairwise Compatible →
      ∃ a b, (run convert).run h = .error (.edit (.overlapping a b))) ∧
    ((replacements convert h).Pairwise Compatible →
      ∃ sorted out, sorted.Perm (replacements convert h) ∧ Follows 0 sorted ∧
        spliceFrom sorted 0 h.text.toList = some out.toList ∧
        (run convert).run h =
          .ok ({ transformed := (replacements convert h).length }, { h with text := out })) := by
  obtain ⟨hbad, hgood⟩ := EditorM.run_applyEdits_of_ranges fun _ => mem_replacements_range
  refine ⟨fun _ _ => editFor_eq_some_iff, fun hc => ?_, fun hc => ?_⟩
  · -- an incompatible pair needs two edits, so the command reaches the edit set
    have hne : (replacements convert h).isEmpty = false := by
      cases hE : replacements convert h with
      | nil => rw [hE] at hc; exact absurd List.Pairwise.nil hc
      | cons e es => rfl
    obtain ⟨a, b, hab⟩ := hbad hc
    refine ⟨a, b, ?_⟩
    rw [run_run]
    simp only [hne, Bool.false_eq_true, if_false, hab]
    rfl
  · obtain ⟨S, out, hS, hsplice, happ⟩ := hgood hc
    obtain ⟨out', hout', rfl⟩ := Option.map_eq_some_iff.1 hsplice
    refine ⟨S.edits, String.ofList out', (sortsStably_of_build hS).perm, (follows_of_build hS).1,
      by rw [String.toList_ofList]; exact hout', ?_⟩
    rw [run_run]
    cases hE : (replacements convert h).isEmpty with
    | true =>
      -- no selection is kept: the text is spliced with nothing and stays as it was
      have hnil : replacements convert h = [] := List.isEmpty_iff.1 hE
      have hSnil : S.edits = [] := by rw [(build_eq_ok hS).1, hnil, List.mergeSort_nil]
      have htext : String.ofList out' = h.text :=
        Option.some.inj (hsplice.symm.trans (splice_of_edits_nil hSnil h.text))
      simp only [if_true, htext, hnil]
      rfl
    | false =>
      simp only [Bool.false_eq_true, if_false, happ]
      rfl

end TransformCaseCommand

end SyntaxEdit
