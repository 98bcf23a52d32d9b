import SyntaxEdit.Proofs.Arena

namespace SyntaxEdit.Syntax

theorem isBlockLike_of_roleFor {pk : NodeKind} {raw : String} {field : Option String}
    {k : String} (h : roleFor pk raw field k = .statement) : pk.isBlockLike := by
  unfold roleFor at h
  -- only the `body` of a switch case, and a child in no field of a source file or a block, is a
  -- statement
  split at h <;> (try split at h) <;> (try split at h) <;> simp_all [NodeKind.isBlockLike]

theorem hoistedRole_ne_statement (raw : String) (field : Option String) (k : String) :
    hoistedRole raw field k ≠ some .statement := by
  unfold hoistedRole
  split <;> (try split) <;> simp

def ArenaStatementsInBlocks (acc : Array SyntaxNode) : Prop :=
  ∀ i, (acc.getD i default).role = .statement →
    ∃ p, parentIn acc i = some p ∧ p < acc.size ∧ (acc.getD p default).kind.isBlockLike

/-- Adding a node keeps every statement under a block-like node, if the new node is no statement
or its parent is block-like. -/
theorem ArenaStatementsInBlocks.push {acc : Array SyntaxNode} {n : SyntaxNode}
    (h : ArenaStatementsInBlocks acc)
    (hn : n.role = .statement →
      ∃ p, n.parent = some p ∧ p < acc.size ∧ (acc.getD p default).kind.isBlockLike) :
    ArenaStatementsInBlocks (pushNode acc n) := by
  have hk := Keeps.pushNode acc n
  intro i hi
  by_cases hnew : i = acc.size
  · subst hnew
    rw [getD_pushNode, if_pos rfl] at hi
    obtain ⟨p, hp, hlt, hb⟩ := hn hi
    refine ⟨p, by rw [parentIn_pushNode, if_pos rfl, hp], ?_, by rw [hk.kind_eq hlt]; exact hb⟩
    rw [size_pushNode]
    omega
  · have hrole : (acc.getD i default).role = .statement := by
      rw [getD_pushNode, if_neg hnew] at hi
      split at hi <;> exact hi
    obtain ⟨p, hp, hlt, hb⟩ := h i hrole
    refine ⟨p, by rw [parentIn_pushNode, if_neg hnew, hp], ?_, by rw [hk.kind_eq hlt]; exact hb⟩
    rw [size_pushNode]
    omega

mutual

/-- Lowering a node under `P` in a role that is a statement only if `P` is block-like keeps
every statement under a block-like node. -/
theorem lowerNode_statementsInBlocks :
    ∀ (c : Cst) (P : Nat) (role : Role) (fs : Nat) (acc : Array SyntaxNode),
      ArenaStatementsInBlocks acc → P < acc.size →
      (role = .statement → (acc.getD P default).kind.isBlockLike) →
      ArenaStatementsInBlocks (lowerNode c P role fs acc) ∧ Keeps acc (lowerNode c P role fs acc)
  | .node k named extra field s t kids, P, role, fs, acc, h, hP, hrole => by
    let n : SyntaxNode := ⟨NodeKind.ofRaw k, k, role, s, t, min fs s, some P, #[]⟩
    have h₁ : ArenaStatementsInBlocks (pushNode acc n) :=
      h.push fun hr => ⟨P, rfl, hP, hrole hr⟩
    have hk₁ := Keeps.pushNode acc n
    simp only [lowerNode]
    split
    · exact ⟨h₁, hk₁⟩
    · -- the children hang under the new node, whose kind the role rules see
      have h₂ := lowerChildren_statementsInBlocks kids acc.size (NodeKind.ofRaw k) k fs none none
        (pushNode acc n) h₁ (by rw [size_pushNode]; omega) (by rw [getD_pushNode, if_pos rfl])
        (by simp)
      exact ⟨h₂.1, hk₁.trans h₂.2⟩

/-- Lowering the children of a node into `P`, of kind `pk`, with an override that is no
statement keeps every statement under a block-like node. -/
theorem lowerChildren_statementsInBlocks :
    ∀ (kids : List Cst) (P : Nat) (pk : NodeKind) (raw : String) (base : Nat)
      (ov : Option Role) (prevEnd : Option Nat) (acc : Array SyntaxNode),
      ArenaStatementsInBlocks acc → P < acc.size → (acc.getD P default).kind = pk →
      ov ≠ some .statement →
      ArenaStatementsInBlocks (lowerChildren kids P pk raw base ov prevEnd acc) ∧
        Keeps acc (lowerChildren kids P pk raw base ov prevEnd acc)
  | [], _, _, _, _, _, _, acc, h, _, _, _ => ⟨h, Keeps.refl acc⟩
  | .node k named extra field s t kids :: rest, P, pk, raw, base, ov, prevEnd, acc, h, hP, hpk,
      hov => by
    -- after a child, the rest go into the same parent, which keeps its kind
    have cont : ∀ pe acc₁, ArenaStatementsInBlocks acc₁ ∧ Keeps acc acc₁ →
        ArenaStatementsInBlocks (lowerChildren rest P pk raw base ov pe acc₁) ∧
          Keeps acc (lowerChildren rest P pk raw base ov pe acc₁) := by
      rintro pe acc₁ ⟨h₁, hk₁⟩
      have h₂ := lowerChildren_statementsInBlocks rest P pk raw base ov pe acc₁ h₁
        (Nat.lt_of_lt_of_le hP hk₁.size_le) (by rw [hk₁.kind_eq hP, hpk]) hov
      exact ⟨h₂.1, hk₁.trans h₂.2⟩
    simp only [lowerChildren]
    split
    · exact cont prevEnd acc ⟨h, Keeps.refl acc⟩
    · split
      · refine cont _ _ ?_
        split
        · exact ⟨h, Keeps.refl acc⟩
        · split
          · next r hr =>
            exact lowerChildren_statementsInBlocks kids P pk k _ (some r) none acc h hP hpk
              fun he => hoistedRole_ne_statement raw field k (hr.trans he)
          · refine lowerNode_statementsInBlocks _ P _ _ acc h hP fun hr => ?_
            rw [hpk]
            cases ov with
            | none => exact isBlockLike_of_roleFor hr
            | some r => exact absurd (congrArg some hr) hov
      · refine cont _ _ ?_
        split
        · exact ⟨h.push (fun hr => by cases hr), Keeps.pushNode _ _⟩
        · exact ⟨h, Keeps.refl acc⟩

end

namespace SyntaxTree

/-- Every node in the role of a statement has a block-like parent: a source file, a block or
a switch case. -/
def StatementsInBlocks (t : SyntaxTree) : Prop :=
  ∀ i < t.nodes.size, (t.get i).role = .statement → t.inBlockLike i

instance (t : SyntaxTree) : Decidable t.StatementsInBlocks :=
  inferInstanceAs (Decidable (∀ i < t.nodes.size, (t.get i).role = .statement → t.inBlockLike i))

theorem ofConcrete_statementsInBlocks (src : String) (root : Cst) :
    (ofConcrete src root).StatementsInBlocks := by
  let r : SyntaxNode :=
    ⟨.sourceFile, root.kind, .root, min root.start (Text.size src), Text.size src, 0, none, #[]⟩
  have h₀ : ArenaStatementsInBlocks #[r] := by
    intro i hi
    cases i with
    | zero => cases hi
    | succ i => simp [Array.getD] at hi; cases hi
  have h := (lowerChildren_statementsInBlocks root.children 0 .sourceFile root.kind 0 none none
    #[r] h₀ Nat.zero_lt_one rfl (by simp)).1
  intro i _ hi
  obtain ⟨p, hp, -, hb⟩ := h i hi
  have hp' : (ofConcrete src root).parent? i = some p := hp
  simp only [inBlockLike, hp']
  exact hb

end SyntaxTree

end SyntaxEdit.Syntax
