import SyntaxEdit.Duplicate
import SyntaxEdit.Proofs.Lower
import SyntaxEdit.Proofs.Line
import SyntaxEdit.Proofs.EditSet.Insert

namespace SyntaxEdit

namespace TextEdit

theorem mem_firstOfEach {es kept : List TextEdit} {d : TextEdit}
    (h : d ∈ firstOfEach es kept) : d ∈ kept ∨ d ∈ es := by
  induction es generalizing kept with
  | nil => simpa [firstOfEach] using h
  | cons e es ih =>
    simp only [firstOfEach] at h
    split at h
    · exact (ih h).imp_right (List.mem_cons_of_mem e)
    · rcases ih h with h | h
      · rcases List.mem_cons.1 h with rfl | h
        · exact .inr (List.mem_cons_self ..)
        · exact .inl h
      · exact .inr (List.mem_cons_of_mem e h)

theorem pairwise_firstOfEach {es kept : List TextEdit}
    (hk : kept.reverse.Pairwise fun a b => sameChange a b = false) :
    (firstOfEach es kept).Pairwise fun a b => sameChange a b = false := by
  induction es generalizing kept with
  | nil => simpa [firstOfEach] using hk
  | cons e es ih =>
    simp only [firstOfEach]
    split
    · exact ih hk
    · next hany =>
      apply ih
      rw [List.reverse_cons, List.pairwise_append]
      refine ⟨hk, List.pairwise_singleton _ _, fun a ha b hb => ?_⟩
      rw [List.mem_singleton] at hb
      subst hb
      rw [Bool.not_eq_true, List.any_eq_false] at hany
      exact Bool.eq_false_iff.2 (hany a (List.mem_reverse.1 ha))

theorem mem_rank {es : List TextEdit} {k : Nat} {d : TextEdit} (h : d ∈ rank es k) :
    ∃ d' ∈ es, ∃ q : Int, d = { d' with priority := q } := by
  induction es generalizing k with
  | nil => simp [rank] at h
  | cons e es ih =>
    simp only [rank, List.mem_cons] at h
    rcases h with rfl | h
    · exact ⟨e, List.mem_cons_self .., k, rfl⟩
    · obtain ⟨d', hd', q, rfl⟩ := ih h
      exact ⟨d', List.mem_cons_of_mem e hd', q, rfl⟩

theorem pairwise_rank {es : List TextEdit} {k : Nat}
    (h : es.Pairwise fun a b => sameChange a b = false) :
    (rank es k).Pairwise fun a b => sameChange a b = false := by
  induction es generalizing k with
  | nil => exact .nil
  | cons e es ih =>
    rw [List.pairwise_cons] at h
    simp only [rank, List.pairwise_cons]
    refine ⟨fun b hb => ?_, ih h.2⟩
    obtain ⟨b', hb', q, rfl⟩ := mem_rank hb
    exact h.1 b' hb'

end TextEdit

theorem mem_dedupEdits {es : List TextEdit} {d : TextEdit} (h : d ∈ dedupEdits es) :
    ∃ d' ∈ es, d.start = d'.start ∧ d.stop = d'.stop ∧ d.replacement = d'.replacement := by
  obtain ⟨d', hd', q, rfl⟩ := TextEdit.mem_rank h
  rcases TextEdit.mem_firstOfEach hd' with h' | h'
  · simp at h'
  · exact ⟨d', h', rfl, rfl, rfl⟩

theorem pairwise_dedupEdits (es : List TextEdit) :
    (dedupEdits es).Pairwise fun a b => TextEdit.sameChange a b = false :=
  TextEdit.pairwise_rank (TextEdit.pairwise_firstOfEach (by simp))

namespace Duplicate

open SyntaxEdit.Syntax Text EditSet

variable (t : SyntaxTree)

def NodeOffset (o : Nat) : Prop :=
  ∃ j, o = (t.get j).fullStart ∨ o = (t.get j).start ∨ o = (t.get j).stop

def NodeInsertion (d : TextEdit) : Prop := d.start = d.stop ∧ NodeOffset t d.start

/-- Where one step of the climb at node `i` under `p` inserts: at the full start, start or end of
`i`, or, when `p` is a binary expression, at the full start of one of its operands. -/
def StepInsertion (i : Nat) (d : TextEdit) : Prop :=
  d.start = d.stop ∧ ∃ p, t.parent? i = some p ∧
    ((d.start = (t.get i).fullStart ∨ d.start = (t.get i).start ∨ d.start = (t.get i).stop) ∨
      (t.get p).kind = .binaryExpression ∧ ∃ o ∈ t.children p, d.start = (t.get o).fullStart)

theorem StepInsertion.nodeInsertion {i : Nat} {d : TextEdit} (h : StepInsertion t i d) :
    NodeInsertion t d := by
  obtain ⟨hss, p, -, hi | ⟨-, o, -, ho⟩⟩ := h
  · exact ⟨hss, i, hi⟩
  · exact ⟨hss, o, .inl ho⟩

theorem createEditsAux_succ (fuel i : Nat) :
    (∃ p, t.parent? i = some p ∧ createEditsAux t (fuel + 1) i = createEditsAux t fuel p) ∨
      ∀ d ∈ createEditsAux t (fuel + 1) i, StepInsertion t i d := by
  simp only [createEditsAux]
  split
  · simp
  · rename_i p hp
    have atNode : ∀ o s l, (o = (t.get i).fullStart ∨ o = (t.get i).start ∨ o = (t.get i).stop) →
        StepInsertion t i (TextEdit.insert o s l) := fun o s l ho => ⟨rfl, p, hp, .inl ho⟩
    split
    · next es hes =>
      refine .inr fun d hd => ?_
      simp only [parenthesizeArrowParameter] at hes
      split_ifs at hes
      cases hes
      simp only [List.mem_cons, List.not_mem_nil, or_false] at hd
      rcases hd with rfl | rfl
      · exact atNode _ _ _ (.inr (.inl rfl))
      · exact atNode _ _ _ (.inr (.inr rfl))
    split
    · exact .inr (by simpa using atNode _ _ _ (.inl rfl))
    split
    · next e he =>
      -- a repeated operand: the operand is the node itself or the right one
      refine .inr ?_
      simp only [List.mem_singleton, forall_eq]
      split_ifs at he with hbin
      · simp [Option.bind_eq_some_iff, Option.pure_def] at he
        obtain ⟨op, -, -, rfl⟩ := he
        exact atNode _ _ _ (.inl rfl)
      · simp [Option.bind_eq_some_iff, Option.pure_def] at he
        obtain ⟨op, -, -, o, ho, rfl⟩ := he
        exact ⟨rfl, p, hp, .inr ⟨by simpa using hbin, o,
          List.mem_of_find?_eq_some ho, rfl⟩⟩
    have atStart : ∀ s l, ∀ d ∈ [TextEdit.insert (t.get i).start s l], StepInsertion t i d := by
      intro s l
      simpa using atNode _ s l (.inr (.inl rfl))
    split_ifs
    · exact .inr (atStart _ _)
    · exact .inr (atStart _ _)
    · exact .inr (atStart _ _)
    · exact .inl ⟨p, hp, rfl⟩
    · exact .inr (atStart _ _)
    · exact .inl ⟨p, hp, rfl⟩
    · exact .inr (atStart _ _)
    · exact .inl ⟨p, hp, rfl⟩

theorem createEditsAux_nodeInsertion :
    ∀ fuel i, ∀ d ∈ createEditsAux t fuel i, NodeInsertion t d
  | 0, _ => by simp [createEditsAux]
  | fuel + 1, i => by
    rcases createEditsAux_succ t fuel i with ⟨p, -, hp⟩ | h
    · rw [hp]
      exact createEditsAux_nodeInsertion fuel p
    · exact fun d hd => (h d hd).nodeInsertion

variable {t}

theorem NodeOffset.boundary (ht : t.WellShaped) {o : Nat} (h : NodeOffset t o) :
    isBoundary t.source.toList o ∧ o ≤ Text.size t.source := by
  obtain ⟨j, hj⟩ := h
  have hs := ht.spans_get j
  have h1 := hs.fullStart_le
  have h2 := hs.start_le
  have h3 := hs.stop_le
  rcases hj with rfl | rfl | rfl
  · exact ⟨hs.fullStart_boundary, by unfold Text.size; omega⟩
  · exact ⟨hs.start_boundary, by unfold Text.size; omega⟩
  · exact ⟨hs.stop_boundary, h3⟩

/-- What duplicating `[s, e]` in `t` does. Everything it reads between offsets of nodes can be
cut out, so it never fails; it only inserts, between characters of the source, and never the
same text twice at one offset; the edits always form an edit set of the same edits, and applying
it gives the source with their texts woven in, longer by exactly their bytes. -/
structure InsertsOnly (t : SyntaxTree) (s e : Nat) : Prop where
  reads : ∀ a b, NodeOffset t a → NodeOffset t b →
    (sameLine t.source a b).isSome ∧ (lineIndent t.source a).isSome ∧
      (a ≤ b → (sliceBytes t.source.toList a b).isSome)
  insertions : ∀ d ∈ duplicateEdits t s e,
    d.start = d.stop ∧ d.start ≤ Text.size t.source ∧ isBoundary t.source.toList d.start
  distinct : (duplicateEdits t s e).Pairwise fun a b =>
    ¬ (a.start = b.start ∧ a.replacement = b.replacement)
  applied : ∃ S, build (duplicateEdits t s e) (Text.size t.source) = .ok S ∧
    S.edits.Perm (duplicateEdits t s e) ∧
    ∃ out, S.apply t.source = some out ∧ Inserts 0 S.edits t.source.toList out.toList ∧
      Text.size out = Text.size t.source + (S.edits.map fun d => Text.size d.replacement).sum

/-- Duplication in a well shaped tree, at any pair of offsets, past the end or reversed: it only
inserts copies, and they always apply. -/
theorem duplicateEdits_insertsOnly (ht : t.WellShaped) (s e : Nat) : InsertsOnly t s e := by
  have hins : ∀ d ∈ duplicateEdits t s e,
      d.start = d.stop ∧ d.start ≤ Text.size t.source ∧ isBoundary t.source.toList d.start := by
    intro d hd
    obtain ⟨d', hd', hs, hst, -⟩ := mem_dedupEdits hd
    obtain ⟨i, -, hdi⟩ := List.mem_flatMap.1 hd'
    obtain ⟨hss, ho⟩ := createEditsAux_nodeInsertion t _ i d' hdi
    obtain ⟨hb, hle⟩ := ho.boundary ht
    exact ⟨by rw [hs, hst, hss], hs ▸ hle, hs ▸ hb⟩
  refine ⟨fun a b ha hb => ?_, hins, ?_, ?_⟩
  · obtain ⟨hba, -⟩ := ha.boundary ht
    obtain ⟨hbb, -⟩ := hb.boundary ht
    exact ⟨isSome_sameLine hba hbb, isSome_lineIndent hba,
      fun hab => (isSome_sliceBytes_iff hab).2 ⟨hba, hbb⟩⟩
  · -- insertions of one text at one offset would make the same change
    refine (pairwise_dedupEdits _).imp_of_mem fun ha hb hab hsame => ?_
    obtain ⟨hs, hr⟩ := hsame
    have hsa := (hins _ ha).1
    have hsb := (hins _ hb).1
    simp [TextEdit.sameChange, hs, hr, ← hsa, ← hsb] at hab
  · obtain ⟨S, hS, hperm, out, hout, hw⟩ := build_insertions fun d hd =>
      ⟨(hins d hd).1, (hins d hd).1 ▸ (hins d hd).2.1, (hins d hd).2.2⟩
    exact ⟨S, hS, hperm, out, hout, hw, hw.byteLength_eq⟩

/-- A one-statement source `a;`: the statement is copied onto the next line. -/
theorem duplicateEdits_insertsOnly_statement :
    let t : SyntaxTree := ⟨"a;", pushNode #[⟨.sourceFile, "program", .root, 0, 2, 0, none, #[]⟩]
      ⟨.expressionStatement, "expression_statement", .statement, 0, 2, 0, some 0, #[]⟩⟩
    t.WellShaped ∧ InsertsOnly t 0 0 := by
  intro t
  have ht : t.WellShaped := .of_checkShape (by decide)
  exact ⟨ht, duplicateEdits_insertsOnly ht 0 0⟩

end Duplicate

end SyntaxEdit
