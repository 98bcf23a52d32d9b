import SyntaxEdit.Indent
import SyntaxEdit.Text.Blank

namespace SyntaxEdit

open Text

/-- `out` re-emits `src` with only indentation added: after each line break of `src` it may put
spaces and tabs, and nothing else changes. -/
inductive Indented : List Char → List Char → Prop
  | nil : Indented [] []
  | char {c : Char} {src out : List Char} :
      c ≠ '\n' → Indented src out → Indented (c :: src) (c :: out)
  | newline {src out ind : List Char} : (∀ w ∈ ind, isIndentChar w) → Indented src out →
      Indented ('\n' :: src) ('\n' :: (ind ++ out))

namespace Indented

theorem refl : ∀ cs : List Char, Indented cs cs
  | [] => .nil
  | c :: cs => by
    by_cases h : c = '\n'
    · subst h
      exact .newline (fun w (hw : w ∈ []) => by cases hw) (refl cs)
    · exact .char h (refl cs)

theorem append {a a' b b' : List Char} (ha : Indented a a') (hb : Indented b b') :
    Indented (a ++ b) (a' ++ b') := by
  induction ha with
  | nil => exact hb
  | char hc _ ih => exact .char hc ih
  | newline hi _ ih => simpa using Indented.newline hi ih

theorem split {a b out : List Char} (h : Indented (a ++ b) out) :
    ∃ a' b', out = a' ++ b' ∧ Indented a a' ∧ Indented b b' := by
  induction a generalizing out with
  | nil => exact ⟨[], out, rfl, .nil, h⟩
  | cons c a ih =>
    rw [List.cons_append] at h
    cases h with
    | char hc h' =>
      obtain ⟨a', b', rfl, ha, hb⟩ := ih h'
      exact ⟨c :: a', b', rfl, .char hc ha, hb⟩
    | @newline _ out ind hi h' =>
      obtain ⟨a', b', rfl, ha, hb⟩ := ih h'
      exact ⟨'\n' :: (ind ++ a'), b', by simp, .newline hi ha, hb⟩

theorem middle {a m b out : List Char} (h : Indented (a ++ m ++ b) out) :
    ∃ m', m' <:+: out ∧ Indented m m' := by
  obtain ⟨am', b', rfl, ham, -⟩ := h.split
  obtain ⟨a', m', rfl, -, hm⟩ := ham.split
  exact ⟨m', ⟨a', b', rfl⟩, hm⟩

theorem sublist {src out : List Char} (h : Indented src out) : src.Sublist out := by
  induction h with
  | nil => exact .slnil
  | char _ _ ih => exact ih.cons_cons _
  | newline _ _ ih => exact (ih.trans (List.sublist_append_right _ _)).cons_cons _

theorem eq_of_not_mem {src out : List Char} (h : Indented src out) (hn : '\n' ∉ src) :
    out = src := by
  induction h with
  | nil => rfl
  | char _ _ ih => rw [ih fun h => hn (List.mem_cons_of_mem _ h)]
  | newline _ _ _ => exact absurd List.mem_cons_self hn

end Indented

namespace IndentStyle

theorem isIndentChar_of_mem_unit (style : IndentStyle) {w : Char} (hw : w ∈ style.unit.toList) :
    isIndentChar w := by
  cases style with
  | spaces n =>
    simp only [unit, String.toList_ofList, List.mem_replicate] at hw
    simp [hw.2, isIndentChar]
  | tabs =>
    have : w = '\t' := by simpa [unit] using hw
    simp [this, isIndentChar]

/-- Joining lines with a line break and indentation after each re-emits the lines joined with
bare line breaks. -/
theorem indented_indentRest (style : IndentStyle) (first : List Char) :
    ∀ (rest : List (List Char)) (opens : Bool) (depth : Nat),
      Indented (['\n'].intercalate (first :: rest))
        (first ++ (indentRest style.unit (rest.map String.ofList) opens depth).toList)
  | [], _, _ => by simpa [indentRest] using Indented.refl first
  | line :: rest, opens, depth => by
    -- the break before `line` gets the indentation; the lines after it, by induction
    have ih := indented_indentRest style line rest
    have hnl : "\n".toList = ['\n'] := rfl
    rw [List.intercalate_cons_cons]
    simp only [List.map_cons, indentRest, String.toList_append, String.toList_join,
      String.toList_ofList, hnl, List.append_assoc, List.singleton_append]
    have hind : ∀ w ∈ (List.replicate (if (String.ofList line).startsWith "\x7d" then
        (if opens then depth + 1 else depth) - 1 else if opens then depth + 1 else depth)
          style.unit).flatMap String.toList, isIndentChar w := by
      intro w hw
      obtain ⟨u, hu, hw⟩ := List.mem_flatMap.1 hw
      rw [(List.mem_replicate.1 hu).2] at hw
      exact style.isIndentChar_of_mem_unit hw
    exact (Indented.refl first).append (Indented.newline hind (ih _ _))

theorem indented_reindent (text anchor : String) (style : IndentStyle) :
    Indented text.toList (reindent text anchor style).toList := by
  obtain ⟨first, rest, hsplit⟩ : ∃ first rest, text.toList.splitOn '\n' = first :: rest :=
    List.exists_cons_of_ne_nil (List.splitOn_ne_nil _ _)
  have htext : text.toList = ['\n'].intercalate (first :: rest) := by
    rw [← hsplit, List.intercalate_splitOn]
  simp only [reindent, hsplit, List.map_cons, String.toList_append, String.toList_ofList]
  rw [htext]
  exact style.indented_indentRest first rest _ _

end IndentStyle

end SyntaxEdit
