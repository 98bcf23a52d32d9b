import Mathlib.Logic.Relation
import SyntaxEdit.Locate
import SyntaxEdit.Proofs.Subtree

namespace SyntaxEdit.Locate

open SyntaxEdit.Syntax SyntaxTree

variable {t : SyntaxTree}

/-- Node `n` is one a selection `[s, e]` collects below `p`: it lies strictly below `p` and
within the selection, and no node strictly between `p` and `n` does. -/
def SelectedBelow (t : SyntaxTree) (s e p n : Nat) : Prop :=
  Below t.parent? n p ∧ t.within n s e ∧
    ∀ a, Below t.parent? n a → Below t.parent? a p → t.within a s e = false

/-- A node is selected below `p` exactly when it is a child of `p` within the selection, or it
is selected below a child of `p` that is not. -/
theorem selectedBelow_iff (ht : t.WellShaped) {s e p n : Nat} :
    SelectedBelow t s e p n ↔ ∃ c ∈ t.children p,
      (t.within c s e ∧ n = c) ∨ (t.within c s e = false ∧ SelectedBelow t s e c n) := by
  constructor
  · rintro ⟨hnp, hin, hout⟩
    obtain ⟨c, hc, hcn⟩ := exists_child_of_below hnp
    refine ⟨c, (ht.mem_children p c).2 hc, ?_⟩
    rcases hcn.eq_or_below with rfl | hnc
    · exact .inl ⟨hin, rfl⟩
    · -- the child on the way down lies between `p` and `n`, so it is out of the selection
      exact .inr ⟨hout c hnc (below_of_parent hc), hnc, hin,
        fun a hna hac => hout a hna (hac.trans (below_of_parent hc))⟩
  · rintro ⟨c, hc, ⟨hin, rfl⟩ | ⟨hcout, hnc, hin, hout⟩⟩
    · have hcp := (ht.mem_children p _).1 hc
      exact ⟨below_of_parent hcp, hin,
        fun a hca hap => absurd hap (ht.not_below_of_below_child hcp hca)⟩
    · have hcp := (ht.mem_children p c).1 hc
      refine ⟨hnc.trans (below_of_parent hcp), hin, fun a hna hap => ?_⟩
      -- `a` and `c` both hold `n`; below `p`, `a` cannot lie above `c`
      rcases hna.ancestorOrSelf.total hnc.ancestorOrSelf with hac | hca
      · rcases hac.eq_or_below with rfl | hca
        · exact hcout
        · exact absurd hap (ht.not_below_of_below_child hcp hca)
      · rcases hca.eq_or_below with rfl | hac
        · exact hcout
        · exact hout a hna hac

/-- The nodes collected below `p` are those selected below it, in increasing order of id, as
long as the fuel covers the ids after `p`. -/
theorem collectWithin_spec (ht : t.WellShaped) (s e : Nat) :
    ∀ f p, t.nodes.size - p ≤ f →
      (∀ n, n ∈ collectWithin t f p s e ↔ SelectedBelow t s e p n) ∧
        (collectWithin t f p s e).Pairwise (· < ·)
  | 0, p, hf => by
    refine ⟨fun n => ⟨fun h => by simp [collectWithin] at h, fun ⟨hnp, _⟩ => ?_⟩,
      by simp [collectWithin]⟩
    have := ht.lt_of_below hnp
    have := ht.lt_size_of_below hnp
    omega
  | f + 1, p, hf => by
    -- every child comes after `p`, so the fuel left covers the ids after it
    have ih : ∀ c ∈ t.children p, (∀ n, n ∈ collectWithin t f c s e ↔ SelectedBelow t s e c n) ∧
        (collectWithin t f c s e).Pairwise (· < ·) := fun c hc => by
      have := (ht.lt_of_mem_children hc).1
      exact collectWithin_spec ht s e f c (by omega)
    -- what a child contributes lies in its subtree
    have hsub : ∀ c ∈ t.children p, ∀ x ∈ (if t.within c s e then [c] else collectWithin t f c s e),
        AncestorOrSelf t.parent? c x := fun c hc x hx => by
      split at hx
      · rw [List.mem_singleton.1 hx]
        exact .refl
      · exact ((ih c hc).1 x |>.1 hx).1.ancestorOrSelf
    refine ⟨fun n => ?_, ?_⟩
    · rw [collectWithin, List.mem_flatMap, selectedBelow_iff ht]
      refine exists_congr fun c => and_congr_right fun hc => ?_
      by_cases hw : t.within c s e
      · simp [hw]
      · rw [if_neg hw, (ih c hc).1 n]
        simp [hw]
    · rw [collectWithin, List.pairwise_flatMap]
      refine ⟨fun c hc => ?_, (ht.children_sorted p).imp_of_mem fun hc hd hcd x hx y hy => ?_⟩
      · split
        · exact List.pairwise_singleton _ _
        · exact (ih c hc).2
      · -- the subtree of an earlier child ends before a later child begins
        have hcp := (ht.mem_children p _).1 hc
        have hdp := (ht.mem_children p _).1 hd
        exact Nat.lt_of_lt_of_le (ht.lt_of_ancestorOrSelf_of_siblings hcp hdp hcd (hsub _ hc x hx))
          (ht.le_of_ancestorOrSelf (hsub _ hd y hy))

/-- A selection `[s, e]` with `s ≠ e` means exactly the nodes below the root inside it whose
ancestors below the root are not, each once and in pre-order (the order of ids). They never
nest: each ends where the leading trivia of every later one begin, or before. A selection that
ends before it starts means no node. -/
theorem matchingNodes_selection (ht : t.WellShaped) {s e : Nat} (hse : s ≠ e) :
    (∀ n, n ∈ matchingNodes t s e ↔ SelectedBelow t s e 0 n) ∧
      (matchingNodes t s e).Pairwise (· < ·) ∧
      (matchingNodes t s e).Pairwise (fun a b => (t.get a).stop ≤ (t.get b).fullStart) ∧
      (e < s → matchingNodes t s e = []) := by
  have hm : matchingNodes t s e = collectWithin t t.nodes.size 0 s e := by
    simp [matchingNodes, hse]
  obtain ⟨hmem, hsorted⟩ := collectWithin_spec ht s e t.nodes.size 0 (Nat.sub_le _ _)
  rw [hm]
  refine ⟨hmem, hsorted, ?_, fun hes => List.eq_nil_iff_forall_not_mem.2 fun n hn => ?_⟩
  · -- no node collected holds another: the other would have an ancestor in the selection
    refine hsorted.imp_of_mem fun ha hb hab =>
      ht.stop_le_fullStart hab (ht.lt_size_of_below ((hmem _).1 hb).1) fun hanc => ?_
    obtain ⟨ha0, hain, -⟩ := (hmem _).1 ha
    obtain ⟨-, -, hbout⟩ := (hmem _).1 hb
    rcases hanc.eq_or_below with rfl | hba
    · exact Nat.lt_irrefl _ hab
    · rw [hbout _ hba ha0] at hain
      cases hain
  · obtain ⟨-, hin, -⟩ := (hmem n).1 hn
    have := (ht.spans_get n).start_le
    simp only [SyntaxTree.within, Bool.and_eq_true, decide_eq_true_eq] at hin
    omega

/-- In `foo(alpha, beta, gamma)` the selection from `alpha` to the end of `beta` means the two
arguments, and nothing of the call around them. -/
theorem matchingNodes_selection_arguments :
    let t : SyntaxTree := ⟨"foo(alpha, beta, gamma)",
      pushNode (pushNode (pushNode (pushNode (pushNode (pushNode
        #[⟨.sourceFile, "program", .root, 0, 23, 0, none, #[]⟩]
        ⟨.expressionStatement, "expression_statement", .statement, 0, 23, 0, some 0, #[]⟩)
        ⟨.callExpression, "call_expression", .other, 0, 23, 0, some 1, #[]⟩)
        ⟨.identifier, "identifier", .callee, 0, 3, 0, some 2, #[]⟩)
        ⟨.identifier, "identifier", .argument, 4, 9, 4, some 2, #[]⟩)
        ⟨.identifier, "identifier", .argument, 11, 15, 10, some 2, #[]⟩)
        ⟨.identifier, "identifier", .argument, 17, 22, 16, some 2, #[]⟩⟩
    t.WellShaped ∧ (4 : Nat) ≠ 15 ∧ matchingNodes t 4 15 = [4, 5] ∧
      ∀ n, n ∈ matchingNodes t 4 15 ↔ SelectedBelow t 4 15 0 n := by
  intro t
  have ht : t.WellShaped := .of_checkShape (by decide)
  exact ⟨ht, by decide, by decide +kernel, (matchingNodes_selection ht (by decide)).1⟩

/-- One step of the walk: `c` is the first child of `p`, in document order, that covers
`[s, e]`. -/
def FirstCovering (t : SyntaxTree) (s e p c : Nat) : Prop :=
  t.covers c s e ∧ ∃ pre post, t.children p = pre ++ c :: post ∧
    ∀ x ∈ pre, t.covers x s e = false

theorem firstCovering_iff {s e p c : Nat} :
    FirstCovering t s e p c ↔ (t.children p).find? (t.covers · s e) = some c := by
  simp [FirstCovering, List.find?_eq_some_iff_append]

theorem exists_find?_of_transGen {s e p r : Nat}
    (h : Relation.TransGen (FirstCovering t s e) p r) :
    ∃ c, (t.children p).find? (t.covers · s e) = some c ∧
      Relation.ReflTransGen (FirstCovering t s e) c r := by
  obtain ⟨c, hc, hrest⟩ := Relation.TransGen.head'_iff.1 h
  exact ⟨c, firstCovering_iff.1 hc, hrest⟩

theorem covers_of_transGen {s e p r : Nat} (h : Relation.TransGen (FirstCovering t s e) p r) :
    t.covers r s e = true := by
  cases h with
  | single h => exact h.1
  | tail _ h => exact h.1

/-- Below `p` the search for the deepest covering node returns the end of the walk from `p`, or
nothing when no child of `p` covers the range, as long as the fuel covers the ids after `p`. -/
theorem smallestCovering_spec (ht : t.WellShaped) (s e : Nat) :
    ∀ f p, t.nodes.size - p ≤ f →
      (smallestCovering t f p s e = none ↔ ∀ c ∈ t.children p, t.covers c s e = false) ∧
      ∀ r, smallestCovering t f p s e = some r ↔
        Relation.TransGen (FirstCovering t s e) p r ∧ ∀ c ∈ t.children r, t.covers c s e = false
  | 0, p, hf => by
    -- past the last node there are no children
    have hnone : ∀ c ∈ t.children p, False := fun c hc => by
      have := ht.lt_of_mem_children hc
      omega
    refine ⟨⟨fun _ c hc => (hnone c hc).elim, fun _ => rfl⟩, fun r => ⟨(fun h => by cases h), ?_⟩⟩
    rintro ⟨h, -⟩
    obtain ⟨c, hc, -⟩ := exists_find?_of_transGen h
    exact (hnone c (List.mem_of_find?_eq_some hc)).elim
  | f + 1, p, hf => by
    rw [smallestCovering]
    cases hfind : (t.children p).find? (t.covers · s e) with
    | none =>
      refine ⟨by simpa using List.find?_eq_none.1 hfind, fun r => ⟨(fun h => by cases h), ?_⟩⟩
      rintro ⟨h, -⟩
      obtain ⟨c, hc, -⟩ := exists_find?_of_transGen h
      rw [hc] at hfind
      cases hfind
    | some c =>
      dsimp only
      have hstep : FirstCovering t s e p c := firstCovering_iff.2 hfind
      have ih := smallestCovering_spec ht s e f c
        (by have := (ht.lt_of_mem_children (List.mem_of_find?_eq_some hfind)).1; omega)
      refine ⟨⟨(fun h => by cases h), fun h => ?_⟩,
        fun r => ⟨fun h => ?_, fun ⟨hwalk, hleaf⟩ => ?_⟩⟩
      · have := h c (List.mem_of_find?_eq_some hfind)
        rw [hstep.1] at this
        cases this
      · -- the walk goes on from `c`, or stops there
        cases hsc : smallestCovering t f c s e with
        | none =>
          rw [hsc, Option.getD_none, Option.some.injEq] at h
          subst h
          exact ⟨.single hstep, ih.1.1 hsc⟩
        | some r' =>
          rw [hsc, Option.getD_some, Option.some.injEq] at h
          subst h
          obtain ⟨hwalk, hleaf⟩ := (ih.2 r').1 hsc
          exact ⟨.head hstep hwalk, hleaf⟩
      · -- the walk is determined: its first step is `c`
        obtain ⟨c', hc', hrest⟩ := exists_find?_of_transGen hwalk
        rw [hc'] at hfind
        cases hfind
        rcases Relation.reflTransGen_iff_eq_or_transGen.1 hrest with rfl | hrest
        · rw [ih.1.2 hleaf]
          rfl
        · rw [(ih.2 r).2 ⟨hrest, hleaf⟩]
          rfl

theorem deepestContaining_eq_smallestCovering (f p a : Nat) :
    deepestContaining t f p a = smallestCovering t f p a a := by
  induction f generalizing p with
  | zero => rfl
  | succ f ih =>
    -- a node contains `a` exactly when it covers `[a, a]`
    have hca : (t.contains · a) = (t.covers · a a) := rfl
    simp only [deepestContaining, smallestCovering, hca, ih]

theorem matchingNodes_caret (a : Nat) : matchingNodes t a a = (smallestNode t a a).toList := by
  simp [matchingNodes, smallestNode, deepestContaining_eq_smallestCovering]

/-- The deepest node covering `[s, e]` ends the walk from the root that steps to the first
covering child each time; there is none exactly when no child of the root covers the range. The
node found covers the range and none of its children does. At every caret duplication means
this node, or nothing when there is none: so on an offset that two siblings share, both start
from the first sibling. -/
theorem smallestNode_walk (ht : t.WellShaped) (s e : Nat) :
    (smallestNode t s e = none ↔ ∀ c ∈ t.children 0, t.covers c s e = false) ∧
      (∀ r, smallestNode t s e = some r ↔
        Relation.TransGen (FirstCovering t s e) 0 r ∧ ∀ c ∈ t.children r, t.covers c s e = false) ∧
      (∀ r, smallestNode t s e = some r → t.covers r s e = true) ∧
      ∀ a, matchingNodes t a a = (smallestNode t a a).toList := by
  obtain ⟨hnone, hsome⟩ := smallestCovering_spec ht s e t.nodes.size 0 (Nat.sub_le _ _)
  exact ⟨hnone, hsome, fun r h => covers_of_transGen ((hsome r).1 h).1, matchingNodes_caret⟩

/-- In `a+b` the caret between `a` and `+` lies on both; duplication and logging both take `a`,
the first of them. -/
theorem smallestNode_walk_shared_boundary :
    let t : SyntaxTree := ⟨"a+b",
      pushNode (pushNode (pushNode (pushNode (pushNode
        #[⟨.sourceFile, "program", .root, 0, 3, 0, none, #[]⟩]
        ⟨.expressionStatement, "expression_statement", .statement, 0, 3, 0, some 0, #[]⟩)
        ⟨.binaryExpression, "binary_expression", .other, 0, 3, 0, some 1, #[]⟩)
        ⟨.identifier, "identifier", .left, 0, 1, 0, some 2, #[]⟩)
        ⟨.operator, "+", .operator, 1, 2, 1, some 2, #[]⟩)
        ⟨.identifier, "identifier", .right, 2, 3, 2, some 2, #[]⟩⟩
    t.WellShaped ∧ t.covers 4 1 1 = true ∧ smallestNode t 1 1 = some 3 ∧
      matchingNodes t 1 1 = [3] := by
  intro t
  have ht : t.WellShaped := .of_checkShape (by decide)
  have hsm : smallestNode t 1 1 = some 3 := by decide +kernel
  refine ⟨ht, by decide +kernel, hsm, ?_⟩
  rw [(smallestNode_walk ht 1 1).2.2.2 1, hsm]
  rfl

end SyntaxEdit.Locate
