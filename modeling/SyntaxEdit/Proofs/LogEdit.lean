import SyntaxEdit.Proofs.LogSite
import SyntaxEdit.Proofs.Line
import SyntaxEdit.Proofs.EditSet.Apply

namespace SyntaxEdit

open Syntax SyntaxTree Text EditSet

namespace Syntax.SyntaxTree

def BlocksOpenWithBrace (t : SyntaxTree) : Prop :=
  ∀ i < t.nodes.size, (t.get i).kind = .block →
    sliceBytes t.source.toList (t.get i).start ((t.get i).start + 1) = some ['{']

instance (t : SyntaxTree) : Decidable t.BlocksOpenWithBrace :=
  inferInstanceAs (Decidable (∀ i < t.nodes.size, (t.get i).kind = .block →
    sliceBytes t.source.toList (t.get i).start ((t.get i).start + 1) = some ['{']))

theorem BlocksOpenWithBrace.isBoundary_succ {t : SyntaxTree} (hb : t.BlocksOpenWithBrace)
    {i : Nat} (hk : (t.get i).kind = .block) :
    isBoundary t.source.toList ((t.get i).start + 1) := by
  have hi : i < t.nodes.size := by
    by_contra hi
    have hget : t.get i = default := by simp [get, Array.getD, hi]
    rw [hget] at hk
    cases hk
  exact (isBoundary_of_sliceBytes (hb i hi hk)).2.2

end Syntax.SyntaxTree

namespace TextEdit

/-- The edit keeps to the text `src`: it does not end before it starts, and both its ends fall
between characters. -/
def FitsIn (src : String) (d : TextEdit) : Prop :=
  d.start ≤ d.stop ∧ isBoundary src.toList d.start ∧ isBoundary src.toList d.stop

theorem fitsIn_insert {src : String} {o : Nat} (ho : isBoundary src.toList o)
    (text label : String) : (insert o text label).FitsIn src :=
  ⟨Nat.le_refl o, ho, ho⟩

theorem FitsIn.build_singleton {src : String} {d : TextEdit} (h : d.FitsIn src) :
    build [d] (Text.size src) = .ok ⟨[d]⟩ := by
  have hin : ¬ (d.start > d.stop ∨ d.stop > Text.size src) := by
    have := h.1
    have := le_byteLength_of_isBoundary h.2.2
    simp only [Text.size]
    omega
  simp [build, List.mergeSort_singleton, firstOutOfBounds, firstOverlap, hin]

theorem FitsIn.isSome_apply_singleton {src : String} {d : TextEdit} (h : d.FitsIn src) :
    (EditSet.apply ⟨[d]⟩ src).isSome := by
  obtain ⟨out, hout⟩ := Option.isSome_iff_exists.1
    ((isSome_replaceRange_iff d.replacement h.1).2 ⟨h.2.1, h.2.2⟩)
  simp [EditSet.apply, applyEach, hout]

end TextEdit

namespace IndentStyle

theorem infix_reindent {piece : List Char} {text : String} (hp : piece <:+: text.toList)
    (hn : '\n' ∉ piece) (anchor : String) (style : IndentStyle) :
    piece <:+: (reindent text anchor style).toList := by
  obtain ⟨a, b, hab⟩ := hp
  have hind := indented_reindent text anchor style
  rw [← hab] at hind
  obtain ⟨m, hm, hpm⟩ := hind.middle
  rwa [hpm.eq_of_not_mem hn] at hm

end IndentStyle

namespace LogSite

open TextEdit

variable {t : SyntaxTree}

theorem fitsIn_replace_node (ht : t.WellShaped) (i : Nat) (text label : String) :
    (replace (t.get i).fullStart (t.get i).stop text label).FitsIn t.source :=
  have hs := ht.spans_get i
  ⟨Nat.le_trans hs.fullStart_le hs.start_le, hs.fullStart_boundary, hs.stop_boundary⟩

theorem beforeEdit_fitsIn (ht : t.WellShaped) (text : String) (i : Nat) (r : Bool) :
    (beforeEdit t text i r).FitsIn t.source := by
  by_cases hin : t.inBlockLike i
  · simp only [beforeEdit, hin, if_true]
    exact fitsIn_insert (ht.spans_get i).start_boundary _ _
  · simp only [beforeEdit, hin, Bool.false_eq_true, if_false]
    exact fitsIn_replace_node ht i _ _

theorem materialize_fitsIn (ht : t.WellShaped) (hb : t.BlocksOpenWithBrace) (text : String) :
    ∀ site, (materialize t text site).FitsIn t.source
  | .before i r => beforeEdit_fitsIn ht text i r
  | .after i => by
    simp only [materialize]
    split
    · exact fitsIn_insert (ht.spans_get i).stop_boundary _ _
    · exact fitsIn_replace_node ht i _ _
  | .inside i => by
    simp only [materialize]
    split
    · exact beforeEdit_fitsIn ht text _ false
    · -- an empty block takes the log right after its brace, any other body at its end
      split
      · next hk => exact fitsIn_insert (hb.isBoundary_succ (by simpa using hk)) _ _
      · exact fitsIn_insert (ht.spans_get i).stop_boundary _ _

theorem beforeEdit_carries (t : SyntaxTree) (text : String) (i : Nat) (r : Bool) :
    text.toList <:+: (beforeEdit t text i r).replacement.toList := by
  by_cases hin : t.inBlockLike i
  · exact ⟨[], ("\n" ++ if r then "return " else "").toList, by simp [beforeEdit, hin, TextEdit.insert]⟩
  · exact ⟨" \x7b\n".toList, ("\n" ++ (if r then "return " else "") ++ t.text i ++ "\n\x7d").toList,
      by simp [beforeEdit, hin, TextEdit.replace]⟩

theorem materialize_carries (t : SyntaxTree) (text : String) :
    ∀ site, text.toList <:+: (materialize t text site).replacement.toList
  | .before i r => beforeEdit_carries t text i r
  | .after i => by
    simp only [materialize]
    split
    · exact ⟨"\n".toList, [], by simp [TextEdit.insert]⟩
    · exact ⟨(" \x7b\n" ++ t.text i ++ "\n").toList, "\n\x7d".toList, by simp [TextEdit.replace]⟩
  | .inside i => by
    simp only [materialize]
    split
    · exact beforeEdit_carries t text _ false
    · exact ⟨"\n".toList, [], by simp [TextEdit.insert]⟩

end LogSite

namespace Log

open LogSite TextEdit

variable {t : SyntaxTree}

theorem debugStatement_opens (t : SyntaxTree) (i : Nat) :
    "console.debug('*** ".toList <+: (debugStatement t i).toList := by
  unfold debugStatement
  dsimp only
  -- a key-value pair or a plain expression: either way the text opens the same
  split <;>
  · rw [String.append_assoc, String.append_assoc, String.append_assoc, String.toList_append]
    exact List.prefix_append _ _

/-- A log edit is the edit of a site for the debug statement of a node, re-indented for the
line its start lies on. -/
theorem logEdit_eq_some {s e : Nat} {style : IndentStyle} {d : TextEdit}
    (h : logEdit t s e style = some d) :
    ∃ edit, (∃ expr site, edit = materialize t (debugStatement t expr) site) ∧
      d = { edit with replacement :=
        IndentStyle.reindent edit.replacement ((lineIndent t.source edit.start).getD "") style } := by
  simp only [logEdit, Option.bind_eq_bind, Option.bind_eq_some_iff, Option.pure_def,
    Option.some.injEq] at h
  obtain ⟨_, -, expr, -, site, -, rfl⟩ := h
  exact ⟨_, ⟨expr, site, rfl⟩, rfl⟩

/-- Logging never cuts a character. In a well shaped tree whose blocks open with `{`, whatever
the selection, past the end, reversed or inside a character, and whatever the indentation: the
text of every node can be cut out, and a log edit lies inside the source on character
boundaries, so the indentation of its line can be read; it forms an edit set on its own, it
applies, and it carries the start of the debug statement. -/
theorem logEdit_applies (ht : t.WellShaped) (hb : t.BlocksOpenWithBrace) (s e : Nat)
    (style : IndentStyle) :
    (∀ i < t.nodes.size, (t.text? i).isSome) ∧
      ∀ d, logEdit t s e style = some d →
        (lineIndent t.source d.start).isSome ∧ d.start ≤ d.stop ∧ d.stop ≤ Text.size t.source ∧
        isBoundary t.source.toList d.start ∧ isBoundary t.source.toList d.stop ∧
        build [d] (Text.size t.source) = .ok ⟨[d]⟩ ∧ (EditSet.apply ⟨[d]⟩ t.source).isSome ∧
        "console.debug('*** ".toList <:+: d.replacement.toList := by
  refine ⟨fun i hi => (ht.isSome_text? hi).1, fun d h => ?_⟩
  obtain ⟨edit, ⟨expr, site, rfl⟩, rfl⟩ := logEdit_eq_some h
  have hfit := materialize_fitsIn ht hb (debugStatement t expr) site
  have hfit' : FitsIn t.source { materialize t (debugStatement t expr) site with
      replacement := IndentStyle.reindent (materialize t (debugStatement t expr) site).replacement
        ((lineIndent t.source (materialize t (debugStatement t expr) site).start).getD "")
        style } := hfit
  -- the statement has no line break, so re-indenting leaves its opening words in one piece
  have hpiece := (debugStatement_opens t expr).isInfix.trans (materialize_carries t _ site)
  exact ⟨isSome_lineIndent hfit.2.1, hfit.1, le_byteLength_of_isBoundary hfit.2.2, hfit.2.1,
    hfit.2.2, hfit'.build_singleton, hfit'.isSome_apply_singleton,
    IndentStyle.infix_reindent hpiece (by decide) _ _⟩

/-- In `function f(a) {}` the log of the parameter `a` goes right after the opening brace of the
empty body, an offset at which no node starts or ends. -/
theorem logEdit_applies_empty_body :
    let t := LogSite.oneParameterFunction
    let d : TextEdit := ⟨15, 15, "\nconsole.debug('*** a »', a)", "log inside", 0⟩
    t.WellShaped ∧ t.BlocksOpenWithBrace ∧ logEdit t 11 11 (.spaces 2) = some d ∧
      (lineIndent t.source d.start).isSome ∧ build [d] (Text.size t.source) = .ok ⟨[d]⟩ ∧
      (EditSet.apply ⟨[d]⟩ t.source).isSome := by
  intro t d
  have ht : t.WellShaped := LogSite.oneParameterFunction_wellShaped
  have hb : t.BlocksOpenWithBrace := by decide +kernel
  have h : logEdit t 11 11 (.spaces 2) = some d := by decide +kernel
  obtain ⟨hi, -, -, -, -, hset, happ, -⟩ := (logEdit_applies ht hb 11 11 (.spaces 2)).2 d h
  exact ⟨ht, hb, h, hi, hset, happ⟩

end Log

end SyntaxEdit
