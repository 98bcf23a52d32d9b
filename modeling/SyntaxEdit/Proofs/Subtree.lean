import SyntaxEdit.Proofs.Lower

namespace SyntaxEdit.Syntax

section Links

variable {par : Nat → Option Nat}

theorem Below.ancestorOrSelf {m n : Nat} (h : Below par m n) : AncestorOrSelf par n m :=
  let ⟨_, hp, ha⟩ := h
  .up hp ha

theorem below_of_parent {c p : Nat} (h : par c = some p) : Below par c p := ⟨p, h, .refl⟩

theorem Below.of_ancestorOrSelf {a b c : Nat} (hab : Below par a b)
    (hcb : AncestorOrSelf par c b) : Below par a c :=
  let ⟨q, hq, hbq⟩ := hab
  ⟨q, hq, hbq.trans hcb⟩

theorem Below.trans {a b c : Nat} (hab : Below par a b) (hbc : Below par b c) : Below par a c :=
  hab.of_ancestorOrSelf hbc.ancestorOrSelf

theorem AncestorOrSelf.eq_or_below {a m : Nat} (h : AncestorOrSelf par a m) :
    a = m ∨ Below par m a := by
  cases h with
  | refl => exact .inl rfl
  | up hp ha => exact .inr ⟨_, hp, ha⟩

theorem AncestorOrSelf.total {a b n : Nat} (ha : AncestorOrSelf par a n)
    (hb : AncestorOrSelf par b n) : AncestorOrSelf par a b ∨ AncestorOrSelf par b a := by
  induction ha generalizing b with
  | refl => exact .inr hb
  | up hp ha ih =>
    cases hb with
    | refl => exact .inl (.up hp ha)
    | up hq hb =>
      -- a node has one parent, so both chains go on from the same node
      rw [hp] at hq
      cases hq
      exact ih hb

theorem exists_child_of_below {n p : Nat} (h : Below par n p) :
    ∃ c, par c = some p ∧ AncestorOrSelf par c n := by
  obtain ⟨q, hq, hpq⟩ := h
  induction hpq generalizing n with
  | refl => exact ⟨n, hq, .refl⟩
  | up hm _ ih =>
    obtain ⟨c, hc, hcm⟩ := ih hm
    exact ⟨c, hc, .up hq hcm⟩

end Links

namespace SyntaxTree.WellShaped

variable {t : SyntaxTree}

theorem lt_of_below (ht : t.WellShaped) {m n : Nat} (h : Below t.parent? m n) : n < m := by
  obtain ⟨p, hp, ha⟩ := h
  exact Nat.lt_of_le_of_lt (ht.le_of_ancestorOrSelf ha) (ht.lt_of_parent hp).1

theorem lt_size_of_below (ht : t.WellShaped) {m n : Nat} (h : Below t.parent? m n) :
    m < t.nodes.size :=
  let ⟨_, hp, _⟩ := h
  (ht.lt_of_parent hp).2

theorem lt_of_mem_children (ht : t.WellShaped) {p c : Nat} (hc : c ∈ t.children p) :
    p < c ∧ c < t.nodes.size :=
  ht.lt_of_parent ((ht.mem_children p c).1 hc)

theorem not_below_of_below_child (ht : t.WellShaped) {c p a : Nat} (hcp : t.parent? c = some p)
    (hca : Below t.parent? c a) : ¬ Below t.parent? a p := fun hap => by
  obtain ⟨q, hq, haq⟩ := hca
  rw [hcp] at hq
  cases hq
  have := ht.le_of_ancestorOrSelf haq
  have := ht.lt_of_below hap
  omega

theorem below_of_between (ht : t.WellShaped) {m n i : Nat} (hm : Below t.parent? m n)
    (hni : n < i) (him : i ≤ m) : Below t.parent? i n := by
  obtain ⟨k, hk⟩ := ht.preorder n (Nat.lt_trans (ht.lt_of_below hm) (ht.lt_size_of_below hm))
  have := (hk m).1 hm
  exact (hk i).2 ⟨hni, by omega⟩

theorem lt_of_ancestorOrSelf_of_siblings (ht : t.WellShaped) {p c d x : Nat}
    (hc : t.parent? c = some p) (hd : t.parent? d = some p) (hcd : c < d)
    (hx : AncestorOrSelf t.parent? c x) : x < d := by
  rcases hx.eq_or_below with rfl | hx
  · exact hcd
  -- `d` is no descendant of `c`: nothing lies between `d` and its parent
  have hnd : ¬ Below t.parent? d c := fun h => ht.not_below_of_below_child hd h (below_of_parent hc)
  exact Nat.lt_of_not_le fun hdx => hnd (ht.below_of_between hx hcd hdx)

theorem stop_le_of_ancestorOrSelf (ht : t.WellShaped) {a m : Nat}
    (h : AncestorOrSelf t.parent? a m) : (t.get m).stop ≤ (t.get a).stop := by
  induction h with
  | refl => exact Nat.le_refl _
  | up hp _ ih => exact Nat.le_trans (ht.nested _ _ hp).2 ih

theorem fullStart_le_of_ancestorOrSelf (ht : t.WellShaped) {a m : Nat}
    (h : AncestorOrSelf t.parent? a m) : (t.get a).fullStart ≤ (t.get m).fullStart := by
  induction h with
  | refl => exact Nat.le_refl _
  | up hp _ ih => exact Nat.le_trans ih (ht.nested _ _ hp).1

/-- Of two nodes neither of which holds the other, the one with the smaller id ends where the
leading trivia of the other begin, or before. -/
theorem stop_le_fullStart (ht : t.WellShaped) {a b : Nat} (hab : a < b) (hb : b < t.nodes.size)
    (hna : ¬ AncestorOrSelf t.parent? a b) : (t.get a).stop ≤ (t.get b).fullStart := by
  induction b using Nat.strong_induction_on with
  | _ b ih =>
    obtain ⟨q, hq, hqb⟩ := ht.parent_lt b (by omega) hb
    rcases Nat.lt_trichotomy a q with haq | rfl | hqa
    · -- `a` comes before the parent of `b`, which is no descendant of `a` either
      have hnq : ¬ AncestorOrSelf t.parent? a q := fun h => hna (.up hq h)
      exact Nat.le_trans (ih q hqb haq (by omega) hnq) (ht.nested b q hq).1
    · exact absurd (.up hq .refl) hna
    · -- `a` lies between the parent of `b` and `b`, so under an earlier sibling of `b`
      obtain ⟨c, hc, hca⟩ :=
        exists_child_of_below (ht.below_of_between (below_of_parent hq) hqa (Nat.le_of_lt hab))
      have hcb : c < b := Nat.lt_of_le_of_lt (ht.le_of_ancestorOrSelf hca) hab
      exact Nat.le_trans (ht.stop_le_of_ancestorOrSelf hca) (ht.siblings c b q hc hq hcb)

end SyntaxTree.WellShaped

end SyntaxEdit.Syntax
