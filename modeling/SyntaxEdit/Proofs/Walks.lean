import Mathlib.Data.List.Basic
import SyntaxEdit.Duplicate
import SyntaxEdit.LogSite
import SyntaxEdit.Proofs.Lower

namespace SyntaxEdit.Syntax.SyntaxTree

/-- The links lowering leaves in a tree: a node comes after its parent, and a node lists among
its children only nodes that name it as their parent. -/
structure ParentsFirst (t : SyntaxTree) : Prop where
  parent_lt : ∀ i p, t.parent? i = some p → p < i
  parent?_of_mem_children : ∀ p c, c ∈ t.children p → t.parent? c = some p

variable {t : SyntaxTree}

theorem get_of_size_le {i : Nat} (h : t.nodes.size ≤ i) : t.get i = default := by
  simp [get, Array.getD, Nat.not_lt.2 h]

theorem parent?_of_size_le {i : Nat} (h : t.nodes.size ≤ i) : t.parent? i = none := by
  rw [parent?, get_of_size_le h]
  rfl

theorem children_of_size_le {i : Nat} (h : t.nodes.size ≤ i) : t.children i = [] := by
  rw [children, get_of_size_le h]
  rfl

theorem lt_size_of_parent? {i p : Nat} (h : t.parent? i = some p) : i < t.nodes.size :=
  Nat.lt_of_not_le fun hi => by simp [parent?_of_size_le hi] at h

theorem WellShaped.parentsFirst (ht : t.WellShaped) : t.ParentsFirst where
  parent_lt _ _ h := (ht.lt_of_parent h).1
  parent?_of_mem_children p c := (ht.mem_children p c).1

/-- Only the nodes of the arena need checking, so whether a tree puts parents first can be
computed. -/
theorem parentsFirst_iff : t.ParentsFirst ↔ ∀ i < t.nodes.size,
    (∀ p ∈ t.parent? i, p < i) ∧ ∀ c ∈ t.children i, t.parent? c = some i := by
  constructor
  · intro ht i _
    exact ⟨fun p hp => ht.parent_lt i p hp, fun c hc => ht.parent?_of_mem_children i c hc⟩
  · intro h
    refine ⟨fun i p hp => (h i (lt_size_of_parent? hp)).1 p hp, fun p c hc => ?_⟩
    by_cases hps : p < t.nodes.size
    · exact (h p hps).2 c hc
    · simp [children_of_size_le (Nat.le_of_not_lt hps)] at hc

instance (t : SyntaxTree) : Decidable t.ParentsFirst := decidable_of_iff _ parentsFirst_iff.symm

theorem ParentsFirst.lt_of_mem_children (ht : t.ParentsFirst) {p c : Nat}
    (hc : c ∈ t.children p) : p < c ∧ c < t.nodes.size :=
  have hp := ht.parent?_of_mem_children p c hc
  ⟨ht.parent_lt c p hp, lt_size_of_parent? hp⟩

section Walks

variable {β : Type}

/-- `F fuel i` climbs: one more unit of fuel at node `i` is spent on a call at `i`'s parent, if
any, so the answer at `i` depends on the rest of the walk only through the answer there. -/
def ClimbsToParent (t : SyntaxTree) (F : Nat → Nat → β) : Prop :=
  ∀ i f f', (∀ p, t.parent? i = some p → F f p = F f' p) → F (f + 1) i = F (f' + 1) i

/-- `F fuel n` descends: one more unit of fuel at node `n` is spent on calls at `n`'s children,
and out of fuel it answers as at a node without children. -/
def DescendsToChildren (t : SyntaxTree) (F : Nat → Nat → β) : Prop :=
  (∀ n, t.children n = [] → F 0 n = F 1 n) ∧
    ∀ n f f', (∀ c ∈ t.children n, F f c = F f' c) → F (f + 1) n = F (f' + 1) n

/-- A climb from node `i` takes at most `i + 1` steps (one, past the last node), so any fuel
above that gives the same answer. -/
theorem ClimbsToParent.fuel_eq {F : Nat → Nat → β} (hF : ClimbsToParent t F)
    (hlt : ∀ i p, t.parent? i = some p → p < i) (i : Nat) :
    ∀ f f', min i t.nodes.size < f → min i t.nodes.size < f' → F f i = F f' i := by
  induction i using Nat.strong_induction_on with
  | _ i ih =>
    intro f f' hf hf'
    obtain ⟨a, rfl⟩ : ∃ a, f = a + 1 := ⟨f - 1, by omega⟩
    obtain ⟨b, rfl⟩ : ∃ b, f' = b + 1 := ⟨f' - 1, by omega⟩
    refine hF i a b fun p hp => ?_
    -- the parent comes before `i`, and both lie in the arena
    have hpi := hlt i p hp
    have hi := lt_size_of_parent? hp
    exact ih p hpi a b (by omega) (by omega)

/-- A walk down from node `n` takes at most as many steps as there are ids from `n` to the end
of the arena, so any fuel that covers them gives the same answer. -/
theorem DescendsToChildren.fuel_eq {F : Nat → Nat → β} (hF : DescendsToChildren t F)
    (ht : t.ParentsFirst) (n : Nat) :
    ∀ f f', t.nodes.size - n ≤ f → t.nodes.size - n ≤ f' → F f n = F f' n := by
  -- induction on the number of ids left from `n` to the end of the arena
  obtain ⟨k, hk⟩ : ∃ k, t.nodes.size - n = k := ⟨_, rfl⟩
  induction k using Nat.strong_induction_on generalizing n with
  | _ k ih =>
    intro f f' hf hf'
    by_cases hn : n < t.nodes.size
    · obtain ⟨a, rfl⟩ : ∃ a, f = a + 1 := ⟨f - 1, by omega⟩
      obtain ⟨b, rfl⟩ : ∃ b, f' = b + 1 := ⟨f' - 1, by omega⟩
      refine hF.2 n a b fun c hc => ?_
      obtain ⟨hnc, hcs⟩ := ht.lt_of_mem_children hc
      exact ih (t.nodes.size - c) (by omega) c rfl a b (by omega) (by omega)
    · -- past the last node there are no children: every fuel answers as at a leaf
      have hleaf := children_of_size_le (Nat.le_of_not_lt hn)
      have hone : ∀ f, F f n = F 1 n
        | 0 => hF.1 n hleaf
        | a + 1 => hF.2 n a 0 (by simp [hleaf])
      rw [hone f, hone f']

end Walks

end SyntaxEdit.Syntax.SyntaxTree

namespace SyntaxEdit

open Syntax SyntaxTree

variable (t : SyntaxTree)

theorem Duplicate.createEditsAux_climbs : ClimbsToParent t (Duplicate.createEditsAux t) := by
  intro i f f' h
  simp only [Duplicate.createEditsAux]
  cases hp : (t.get i).parent with
  | none => rfl
  | some p => simp only [h p hp]

/-- Widening to an expression climbs: a property widens to its access, and a node that is
neither expression nor statement defers to its parent. -/
theorem Locate.expressionNodeAux_climbs : ClimbsToParent t (Locate.expressionNodeAux t) := by
  intro i f f' h
  simp only [Locate.expressionNodeAux]
  cases hp : (t.get i).parent with
  | none => rfl
  | some p => simp only [Option.bind_eq_bind, Option.bind_some, h p hp]

theorem LogSite.resolveAux_climbs : ClimbsToParent t (LogSite.resolveAux t) := by
  intro i f f' h
  simp only [LogSite.resolveAux]
  cases hp : (t.get i).parent with
  | none => rfl
  | some p => simp only [Option.bind_eq_bind, Option.bind_some, h p hp]

theorem Locate.deepestContaining_descends (o : Nat) :
    DescendsToChildren t fun f n => Locate.deepestContaining t f n o := by
  refine ⟨fun n hn => by simp [Locate.deepestContaining, hn], fun n f f' h => ?_⟩
  simp only [Locate.deepestContaining]
  cases hc : (t.children n).find? (t.contains · o) with
  | none => rfl
  | some c => simp only [h c (List.mem_of_find?_eq_some hc)]

theorem Locate.smallestCovering_descends (s e : Nat) :
    DescendsToChildren t fun f n => Locate.smallestCovering t f n s e := by
  refine ⟨fun n hn => by simp [Locate.smallestCovering, hn], fun n f f' h => ?_⟩
  simp only [Locate.smallestCovering]
  cases hc : (t.children n).find? (t.covers · s e) with
  | none => rfl
  | some c => simp only [h c (List.mem_of_find?_eq_some hc)]

theorem Locate.collectWithin_descends (s e : Nat) :
    DescendsToChildren t fun f n => Locate.collectWithin t f n s e := by
  refine ⟨fun n hn => by simp [Locate.collectWithin, hn], fun n f f' h => ?_⟩
  simp only [Locate.collectWithin]
  exact List.flatMap_congr fun c hc => by simp only [h c hc]

namespace Syntax.SyntaxTree

/-- What the walks over a tree do with their fuel. The climbs call themselves only at the parent
and end within one step more than the id they start from; materializing a site at the top of a
block moves once, to right before the block's first statement; the walks down from the root
call themselves only at children and end within the arena's size. -/
structure WalksEnd (t : SyntaxTree) : Prop where
  createEdits_climbs : ClimbsToParent t (Duplicate.createEditsAux t)
  createEdits_fuel : ∀ i f, i < f → Duplicate.createEditsAux t f i = Duplicate.createEdits t i
  expressionNode_climbs : ClimbsToParent t (Locate.expressionNodeAux t)
  expressionNode_fuel : ∀ i f, i < f → Locate.expressionNodeAux t f i = Locate.expressionNode t i
  resolve_climbs : ClimbsToParent t (LogSite.resolveAux t)
  resolve_fuel : ∀ i f, i < f → LogSite.resolveAux t f i = LogSite.resolve t i
  materialize_inside : ∀ text i c, t.child? i .statement = some c →
    LogSite.materialize t text (.inside i) = LogSite.materialize t text (.before c false)
  deepestContaining_descends :
    ∀ o, DescendsToChildren t fun f n => Locate.deepestContaining t f n o
  deepestContaining_fuel : ∀ o f, t.nodes.size ≤ f →
    Locate.deepestContaining t f 0 o = Locate.deepestContaining t t.nodes.size 0 o
  smallestCovering_descends :
    ∀ s e, DescendsToChildren t fun f n => Locate.smallestCovering t f n s e
  smallestCovering_fuel : ∀ s e f, t.nodes.size ≤ f →
    Locate.smallestCovering t f 0 s e = Locate.smallestCovering t t.nodes.size 0 s e
  collectWithin_descends :
    ∀ s e, DescendsToChildren t fun f n => Locate.collectWithin t f n s e
  collectWithin_fuel : ∀ s e f, t.nodes.size ≤ f →
    Locate.collectWithin t f 0 s e = Locate.collectWithin t t.nodes.size 0 s e

/-- In a tree that puts parents first, every walk ends before its fuel runs out. -/
theorem walks_end_within_fuel {t : SyntaxTree} (ht : t.ParentsFirst) : t.WalksEnd where
  createEdits_climbs := Duplicate.createEditsAux_climbs t
  createEdits_fuel i f hf :=
    (Duplicate.createEditsAux_climbs t).fuel_eq ht.parent_lt i f _ (by omega) (by omega)
  expressionNode_climbs := Locate.expressionNodeAux_climbs t
  expressionNode_fuel i f hf :=
    (Locate.expressionNodeAux_climbs t).fuel_eq ht.parent_lt i f _ (by omega) (by omega)
  resolve_climbs := LogSite.resolveAux_climbs t
  resolve_fuel i f hf :=
    (LogSite.resolveAux_climbs t).fuel_eq ht.parent_lt i f _ (by omega) (by omega)
  materialize_inside text i c hc := by simp [LogSite.materialize, hc]
  deepestContaining_descends := Locate.deepestContaining_descends t
  deepestContaining_fuel o f hf :=
    (Locate.deepestContaining_descends t o).fuel_eq ht 0 f _ (by omega) (by omega)
  smallestCovering_descends := Locate.smallestCovering_descends t
  smallestCovering_fuel s e f hf :=
    (Locate.smallestCovering_descends t s e).fuel_eq ht 0 f _ (by omega) (by omega)
  collectWithin_descends := Locate.collectWithin_descends t
  collectWithin_fuel s e f hf :=
    (Locate.collectWithin_descends t s e).fuel_eq ht 0 f _ (by omega) (by omega)

/-- The call `f(a)` as lowering builds it puts parents first, so its walks end. -/
theorem walks_end_within_fuel_call :
    let t : SyntaxTree := ⟨"f(a)", #[
      ⟨.sourceFile, "program", .root, 0, 4, 0, none, #[1]⟩,
      ⟨.expressionStatement, "expression_statement", .statement, 0, 4, 0, some 0, #[2]⟩,
      ⟨.callExpression, "call_expression", .other, 0, 4, 0, some 1, #[3, 4]⟩,
      ⟨.identifier, "identifier", .callee, 0, 1, 0, some 2, #[]⟩,
      ⟨.identifier, "identifier", .argument, 2, 3, 2, some 2, #[]⟩]⟩
    t.ParentsFirst ∧ t.WalksEnd := by
  intro t
  have ht : t.ParentsFirst := by decide
  exact ⟨ht, walks_end_within_fuel ht⟩

end Syntax.SyntaxTree

end SyntaxEdit
