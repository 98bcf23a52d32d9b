import Mathlib.Data.Nat.Find
import SyntaxEdit.Syntax.Lower

namespace SyntaxEdit.Syntax

open Text

def parentIn (acc : Array SyntaxNode) (i : Nat) : Option Nat := (acc.getD i default).parent

inductive AncestorOrSelf (par : Nat → Option Nat) (a : Nat) : Nat → Prop
  | refl : AncestorOrSelf par a a
  | up {m p : Nat} : par m = some p → AncestorOrSelf par a p → AncestorOrSelf par a m

theorem AncestorOrSelf.trans {par : Nat → Option Nat} {a b m : Nat}
    (hbm : AncestorOrSelf par b m) (hab : AncestorOrSelf par a b) : AncestorOrSelf par a m := by
  induction hbm with
  | refl => exact hab
  | up hp _ ih => exact .up hp ih

/-- Where a node sits in a source `src`: its leading trivia, start and end come in order, end
inside the source and fall between characters. -/
structure Spans (src : List Char) (n : SyntaxNode) : Prop where
  fullStart_le : n.fullStart ≤ n.start
  start_le : n.start ≤ n.stop
  stop_le : n.stop ≤ byteLength src
  fullStart_boundary : isBoundary src n.fullStart
  start_boundary : isBoundary src n.start
  stop_boundary : isBoundary src n.stop

instance (src : List Char) (n : SyntaxNode) : Decidable (Spans src n) :=
  decidable_of_iff (n.fullStart ≤ n.start ∧ n.start ≤ n.stop ∧ n.stop ≤ byteLength src ∧
      isBoundary src n.fullStart ∧ isBoundary src n.start ∧ isBoundary src n.stop)
    ⟨fun ⟨h₁, h₂, h₃, h₄, h₅, h₆⟩ => ⟨h₁, h₂, h₃, h₄, h₅, h₆⟩,
      fun ⟨h₁, h₂, h₃, h₄, h₅, h₆⟩ => ⟨h₁, h₂, h₃, h₄, h₅, h₆⟩⟩

structure ArenaWf (src : List Char) (acc : Array SyntaxNode) : Prop where
  nonempty : 0 < acc.size
  root_parent : parentIn acc 0 = none
  parent_lt : ∀ i, 0 < i → i < acc.size → ∃ p, parentIn acc i = some p ∧ p < i
  /-- A node's parent is the node just before it or an ancestor of that node. -/
  preorder : ∀ i, 0 < i → i < acc.size →
    ∃ p, parentIn acc i = some p ∧ AncestorOrSelf (parentIn acc) p (i - 1)
  children : ∀ p, (acc.getD p default).children.toList =
    (List.range acc.size).filter fun c => parentIn acc c == some p
  spans : ∀ i < acc.size, Spans src (acc.getD i default)
  nested : ∀ i p, parentIn acc i = some p →
    (acc.getD p default).fullStart ≤ (acc.getD i default).fullStart ∧
      (acc.getD i default).stop ≤ (acc.getD p default).stop
  siblings : ∀ i j p, parentIn acc i = some p → parentIn acc j = some p → i < j →
    (acc.getD i default).stop ≤ (acc.getD j default).fullStart

theorem parentIn_of_size_le {acc : Array SyntaxNode} {i : Nat} (h : acc.size ≤ i) :
    parentIn acc i = none := by
  simp only [parentIn, Array.getD_eq_getD_getElem?, Array.getElem?_eq_none h, Option.getD_none]
  rfl

theorem ArenaWf.parent_lt' {src : List Char} {acc : Array SyntaxNode} (hw : ArenaWf src acc)
    {i p : Nat} (h : parentIn acc i = some p) : p < i ∧ i < acc.size := by
  have hi : i < acc.size := by
    by_cases hi : i < acc.size
    · exact hi
    · simp [parentIn_of_size_le (Nat.le_of_not_lt hi)] at h
  have hi0 : 0 < i := by
    cases i with
    | zero => simp [hw.root_parent] at h
    | succ i => omega
  obtain ⟨q, hq, hlt⟩ := hw.parent_lt i hi0 hi
  rw [h] at hq
  cases hq
  exact ⟨hlt, hi⟩

theorem ArenaWf.le_of_ancestorOrSelf {src : List Char} {acc : Array SyntaxNode}
    (hw : ArenaWf src acc) {a m : Nat} (h : AncestorOrSelf (parentIn acc) a m) : a ≤ m := by
  induction h with
  | refl => exact Nat.le_refl _
  | up hp _ ih =>
    have := (hw.parent_lt' hp).1
    omega

structure Keeps (acc acc' : Array SyntaxNode) : Prop where
  size_le : acc.size ≤ acc'.size
  same : ∀ i < acc.size, { acc'.getD i default with children := #[] } =
    { acc.getD i default with children := #[] }

theorem Keeps.kind_eq {acc acc' : Array SyntaxNode} (h : Keeps acc acc') {i : Nat}
    (hi : i < acc.size) : (acc'.getD i default).kind = (acc.getD i default).kind := by
  simpa using congrArg SyntaxNode.kind (h.same i hi)

theorem Keeps.role_eq {acc acc' : Array SyntaxNode} (h : Keeps acc acc') {i : Nat}
    (hi : i < acc.size) : (acc'.getD i default).role = (acc.getD i default).role := by
  simpa using congrArg SyntaxNode.role (h.same i hi)

theorem Keeps.refl (acc : Array SyntaxNode) : Keeps acc acc := ⟨Nat.le_refl _, fun _ _ => rfl⟩

theorem Keeps.trans {acc acc' acc'' : Array SyntaxNode} (h₁ : Keeps acc acc')
    (h₂ : Keeps acc' acc'') : Keeps acc acc'' :=
  ⟨Nat.le_trans h₁.size_le h₂.size_le, fun i hi =>
    (h₂.same i (Nat.lt_of_lt_of_le hi h₁.size_le)).trans (h₁.same i hi)⟩

theorem Keeps.parentIn_eq {acc acc' : Array SyntaxNode} (h : Keeps acc acc') {i : Nat}
    (hi : i < acc.size) : parentIn acc' i = parentIn acc i := by
  simpa [parentIn] using congrArg SyntaxNode.parent (h.same i hi)

theorem Keeps.fullStart_eq {acc acc' : Array SyntaxNode} (h : Keeps acc acc') {i : Nat}
    (hi : i < acc.size) : (acc'.getD i default).fullStart = (acc.getD i default).fullStart := by
  simpa using congrArg SyntaxNode.fullStart (h.same i hi)

theorem Keeps.stop_eq {acc acc' : Array SyntaxNode} (h : Keeps acc acc') {i : Nat}
    (hi : i < acc.size) : (acc'.getD i default).stop = (acc.getD i default).stop := by
  simpa using congrArg SyntaxNode.stop (h.same i hi)

theorem Keeps.start_eq {acc acc' : Array SyntaxNode} (h : Keeps acc acc') {i : Nat}
    (hi : i < acc.size) : (acc'.getD i default).start = (acc.getD i default).start := by
  simpa using congrArg SyntaxNode.start (h.same i hi)

theorem Keeps.spans {src : List Char} {acc acc' : Array SyntaxNode} (h : Keeps acc acc') {i : Nat}
    (hi : i < acc.size) (hs : Spans src (acc.getD i default)) :
    Spans src (acc'.getD i default) := by
  obtain ⟨h1, h2, h3, h4, h5, h6⟩ := hs
  rw [← h.fullStart_eq hi, ← h.start_eq hi, ← h.stop_eq hi] at *
  exact ⟨h1, h2, h3, h4, h5, h6⟩

theorem Keeps.ancestorOrSelf {src : List Char} {acc acc' : Array SyntaxNode}
    (h : Keeps acc acc') (hw : ArenaWf src acc) {a m : Nat}
    (ham : AncestorOrSelf (parentIn acc) a m) (hm : m < acc.size) :
    AncestorOrSelf (parentIn acc') a m := by
  induction ham with
  | refl => exact .refl
  | up hp _ ih =>
    have hlt := (hw.parent_lt' hp).1
    exact .up ((h.parentIn_eq hm).trans hp) (ih (by omega))

theorem parentIn_single {r : SyntaxNode} (hp : r.parent = none) (i : Nat) :
    parentIn #[r] i = none := by
  cases i with
  | zero => exact hp
  | succ i => exact parentIn_of_size_le (by simp)

theorem ArenaWf.single {src : List Char} {r : SyntaxNode} (hp : r.parent = none)
    (hc : r.children = #[]) (hs : Spans src r) : ArenaWf src #[r] where
  nonempty := Nat.zero_lt_one
  root_parent := hp
  parent_lt := fun i h0 h1 => absurd h1 (by simp; omega)
  preorder := fun i h0 h1 => absurd h1 (by simp; omega)
  children := fun p => by
    rw [List.filter_eq_nil_iff.2 fun c _ => by simp [parentIn_single hp]]
    cases p with
    | zero => simp [hc]
    | succ p => simp; rfl
  spans := fun i hi => by
    obtain rfl : i = 0 := by simpa using hi
    exact hs
  nested := fun i p h => by simp [parentIn_single hp] at h
  siblings := fun i j p h => by simp [parentIn_single hp] at h

theorem size_pushNode (acc : Array SyntaxNode) (n : SyntaxNode) :
    (pushNode acc n).size = acc.size + 1 := by
  unfold pushNode
  split <;> simp

theorem getD_pushNode (acc : Array SyntaxNode) (n : SyntaxNode) (i : Nat) :
    (pushNode acc n).getD i default =
      if i = acc.size then n
      else if n.parent = some i ∧ i < acc.size then
        { acc.getD i default with children := (acc.getD i default).children.push acc.size }
      else acc.getD i default := by
  unfold pushNode
  split
  · next p hp =>
    simp only [Array.getD_eq_getD_getElem?, Array.getElem?_push, Array.size_modify,
      Array.getElem?_modify, hp, Option.some.injEq]
    by_cases hi : i = acc.size
    · simp [hi]
    · by_cases hpi : p = i
      · subst hpi
        by_cases hlt : p < acc.size <;> simp [hi, hlt]
      · simp [hi, hpi]
  · next hp =>
    by_cases hi : i = acc.size <;> simp [Array.getElem?_push, hp, hi]

theorem parentIn_pushNode (acc : Array SyntaxNode) (n : SyntaxNode) (i : Nat) :
    parentIn (pushNode acc n) i = if i = acc.size then n.parent else parentIn acc i := by
  unfold parentIn
  rw [getD_pushNode]
  split
  · rfl
  · split <;> rfl

theorem Keeps.pushNode (acc : Array SyntaxNode) (n : SyntaxNode) : Keeps acc (pushNode acc n) := by
  refine ⟨by simp [size_pushNode], fun i hi => ?_⟩
  rw [getD_pushNode, if_neg (Nat.ne_of_lt hi)]
  split <;> rfl

theorem ArenaWf.lt_of_ancestorOrSelf_last {src : List Char} {acc : Array SyntaxNode}
    (hw : ArenaWf src acc) {P : Nat} (h : AncestorOrSelf (parentIn acc) P (acc.size - 1)) :
    P < acc.size := by
  have := hw.le_of_ancestorOrSelf h
  have := hw.nonempty
  omega

theorem filter_parentIn_pushNode {src : List Char} {acc : Array SyntaxNode} {n : SyntaxNode}
    {P : Nat} (hw : ArenaWf src acc) (hP : n.parent = some P) (p : Nat) :
    (List.range (acc.size + 1)).filter (fun c => parentIn (pushNode acc n) c == some p) =
      (acc.getD p default).children.toList ++ (if P = p then [acc.size] else []) := by
  rw [hw.children p, List.range_succ, List.filter_append]
  congr 1
  · apply List.filter_congr
    intro c hc
    rw [parentIn_pushNode, if_neg (Nat.ne_of_lt (List.mem_range.1 hc))]
  · by_cases h : P = p <;> simp [parentIn_pushNode, hP, h]

/-- Only nodes of the arena have parents, so a fact about the children of `P` is checked on the
nodes of the arena. -/
theorem ArenaWf.siblings_of_lt {src : List Char} {acc : Array SyntaxNode} (hw : ArenaWf src acc)
    {P x : Nat} (h : ∀ c < acc.size, parentIn acc c = some P → (acc.getD c default).stop ≤ x) :
    ∀ c, parentIn acc c = some P → (acc.getD c default).stop ≤ x :=
  fun c hc => h c (hw.parent_lt' hc).2 hc

/-- Adding a node under an ancestor of the last node keeps the arena well formed, once the new
node sits inside its parent and after its earlier siblings. -/
theorem ArenaWf.push {src : List Char} {acc : Array SyntaxNode} {n : SyntaxNode} {P : Nat}
    (hw : ArenaWf src acc) (hP : n.parent = some P)
    (hanc : AncestorOrSelf (parentIn acc) P (acc.size - 1)) (hc : n.children = #[])
    (hs : Spans src n) (hfs : (acc.getD P default).fullStart ≤ n.fullStart)
    (hstop : n.stop ≤ (acc.getD P default).stop)
    (hsib : ∀ c, parentIn acc c = some P → (acc.getD c default).stop ≤ n.fullStart) :
    ArenaWf src (pushNode acc n) := by
  have hPlt := hw.lt_of_ancestorOrSelf_last hanc
  have hk := Keeps.pushNode acc n
  have hnew : (pushNode acc n).getD acc.size default = n := by rw [getD_pushNode, if_pos rfl]
  refine ⟨by simp [size_pushNode], ?_, ?_, ?_, ?_, ?_, ?_, ?_⟩
  · rw [hk.parentIn_eq hw.nonempty]
    exact hw.root_parent
  · intro i hi0 hi
    rw [size_pushNode] at hi
    rw [parentIn_pushNode]
    split
    · next h => exact ⟨P, hP, h ▸ hPlt⟩
    · exact hw.parent_lt i hi0 (by omega)
  · intro i hi0 hi
    rw [size_pushNode] at hi
    by_cases h : i = acc.size
    · subst h
      refine ⟨P, by simp [parentIn_pushNode, hP], ?_⟩
      exact hk.ancestorOrSelf hw hanc (by omega)
    · obtain ⟨p, hp, ha⟩ := hw.preorder i hi0 (by omega)
      exact ⟨p, (hk.parentIn_eq (by omega)).trans hp, hk.ancestorOrSelf hw ha (by omega)⟩
  · intro p
    rw [size_pushNode, filter_parentIn_pushNode hw hP p, getD_pushNode]
    by_cases h1 : p = acc.size
    · subst h1
      simp [hc, Nat.ne_of_lt hPlt]
      rfl
    · rw [if_neg h1]
      by_cases h2 : P = p
      · subst h2
        rw [if_pos ⟨hP, hPlt⟩, if_pos rfl]
        simp
      · rw [if_neg (fun h => h2 (Option.some.inj (hP.symm.trans h.1))), if_neg h2,
          List.append_nil]
  · intro i hi
    rw [size_pushNode] at hi
    by_cases h : i = acc.size
    · subst h
      rwa [hnew]
    · exact hk.spans (by omega) (hw.spans i (by omega))
  · intro i p h
    rw [parentIn_pushNode] at h
    split at h
    · next hi =>
      subst hi
      rw [hnew]
      cases hP.symm.trans h
      rw [hk.fullStart_eq hPlt, hk.stop_eq hPlt]
      exact ⟨hfs, hstop⟩
    · obtain ⟨hpi, hi⟩ := hw.parent_lt' h
      rw [hk.fullStart_eq (by omega), hk.fullStart_eq hi, hk.stop_eq hi, hk.stop_eq (by omega)]
      exact hw.nested i p h
  · intro i j p hi hj hij
    rw [parentIn_pushNode] at hi hj
    have hi' : parentIn acc i = some p := by
      split at hi
      · next h =>
        rw [if_neg (by omega), parentIn_of_size_le (by omega)] at hj
        cases hj
      · exact hi
    obtain ⟨-, hilt⟩ := hw.parent_lt' hi'
    rw [hk.stop_eq hilt]
    split at hj
    · next h =>
      subst h
      rw [hnew]
      cases hP.symm.trans hj
      exact hsib i hi'
    · obtain ⟨-, hjlt⟩ := hw.parent_lt' hj
      rw [hk.fullStart_eq hjlt]
      exact hw.siblings i j p hi' hj hij

def Below (par : Nat → Option Nat) (m n : Nat) : Prop :=
  ∃ p, par m = some p ∧ AncestorOrSelf par n p

theorem ArenaWf.lt_of_below {src : List Char} {acc : Array SyntaxNode} (hw : ArenaWf src acc)
    {m n : Nat} (h : Below (parentIn acc) m n) : n < m := by
  obtain ⟨p, hp, ha⟩ := h
  have := (hw.parent_lt' hp).1
  have := hw.le_of_ancestorOrSelf ha
  omega

theorem ArenaWf.below_of_between {src : List Char} {acc : Array SyntaxNode}
    (hw : ArenaWf src acc) {n i : Nat} :
    ∀ m, Below (parentIn acc) m n → n < i → i ≤ m → Below (parentIn acc) i n := by
  intro m
  induction m with
  | zero => intro _ hni him; omega
  | succ m ih =>
    intro hb hni him
    by_cases hi : i = m + 1
    · exact hi ▸ hb
    obtain ⟨p, hp, hnp⟩ := hb
    obtain ⟨q, hq, hqm⟩ := hw.preorder (m + 1) (by omega) (hw.parent_lt' hp).2
    rw [hp] at hq
    cases hq
    -- the parent of `m + 1` is an ancestor of `m`, so `n` is one too
    have hnm : AncestorOrSelf (parentIn acc) n m := hqm.trans hnp
    cases hnm with
    | refl => omega
    | up hr ha => exact ih ⟨_, hr, ha⟩ hni (by omega)

theorem ArenaWf.below_block {src : List Char} {acc : Array SyntaxNode} (hw : ArenaWf src acc)
    {n : Nat} (hn : n < acc.size) :
    ∃ k, ∀ m, Below (parentIn acc) m n ↔ n < m ∧ m ≤ n + k := by
  classical
  have hex : ∃ j, n < j ∧ ¬ Below (parentIn acc) j n :=
    ⟨acc.size, hn, fun ⟨p, hp, _⟩ => by simp [parentIn_of_size_le (Nat.le_refl _)] at hp⟩
  obtain ⟨hlt, hnot⟩ := Nat.find_spec hex
  refine ⟨Nat.find hex - n - 1, fun m => ⟨fun hb => ?_, fun ⟨hnm, hmk⟩ => ?_⟩⟩
  · have hnm := hw.lt_of_below hb
    have hm : m < Nat.find hex :=
      Nat.lt_of_not_le fun hge => hnot (hw.below_of_between m hb hlt hge)
    omega
  · have hmin := Nat.find_min hex (show m < Nat.find hex by omega)
    exact Classical.byContradiction fun hb => hmin ⟨hnm, hb⟩

def reachesUp (par : Nat → Option Nat) (a : Nat) : Nat → Nat → Bool
  | 0, m => a == m
  | fuel + 1, m => a == m || (par m).any (reachesUp par a fuel)

theorem AncestorOrSelf.of_reachesUp {par : Nat → Option Nat} {a : Nat} :
    ∀ {fuel m : Nat}, reachesUp par a fuel m = true → AncestorOrSelf par a m
  | 0, m, h => by
    rw [reachesUp, beq_iff_eq] at h
    exact h ▸ .refl
  | fuel + 1, m, h => by
    simp only [reachesUp, Bool.or_eq_true, beq_iff_eq] at h
    rcases h with rfl | h
    · exact .refl
    · cases hp : par m with
      | none => simp [hp] at h
      | some p =>
        rw [hp, Option.any_some] at h
        exact .up hp (of_reachesUp h)

/-- Whether `n` can be pushed onto `acc` as `ArenaWf.push` asks: childless, under a node on the
path to the last node, inside that node and after its other children. -/
def pushOk (src : List Char) (acc : Array SyntaxNode) (n : SyntaxNode) : Bool :=
  match n.parent with
  | none => false
  | some P =>
    reachesUp (parentIn acc) P acc.size (acc.size - 1) && n.children.isEmpty &&
      decide (Spans src n) && decide ((acc.getD P default).fullStart ≤ n.fullStart) &&
      decide (n.stop ≤ (acc.getD P default).stop) &&
      (List.range acc.size).all fun c =>
        parentIn acc c != some P || decide ((acc.getD c default).stop ≤ n.fullStart)

def pushesOk (src : List Char) : Array SyntaxNode → List SyntaxNode → Bool
  | _, [] => true
  | acc, n :: ns => pushOk src acc n && pushesOk src (pushNode acc n) ns

theorem ArenaWf.push_of_pushOk {src : List Char} {acc : Array SyntaxNode} {n : SyntaxNode}
    (hw : ArenaWf src acc) (h : pushOk src acc n = true) : ArenaWf src (pushNode acc n) := by
  unfold pushOk at h
  split at h
  · cases h
  · next P hP =>
    simp only [Bool.and_eq_true, decide_eq_true_eq, List.all_eq_true, List.mem_range,
      Bool.or_eq_true, bne_iff_ne, ne_eq] at h
    obtain ⟨⟨⟨⟨⟨hanc, hc⟩, hs⟩, hfs⟩, hstop⟩, hsib⟩ := h
    exact hw.push hP (.of_reachesUp hanc) (by simpa using hc) hs hfs hstop
      (hw.siblings_of_lt fun c hc hp => (hsib c hc).resolve_left (not_not.2 hp))

theorem ArenaWf.pushAll {src : List Char} {ns : List SyntaxNode} :
    ∀ {acc : Array SyntaxNode}, ArenaWf src acc → pushesOk src acc ns = true →
      ArenaWf src (ns.foldl pushNode acc) := by
  induction ns with
  | nil => exact fun hw _ => hw
  | cons n ns ih =>
    intro acc hw h
    simp only [pushesOk, Bool.and_eq_true] at h
    exact ih (hw.push_of_pushOk h.1) h.2

theorem Keeps.pushAll (ns : List SyntaxNode) :
    ∀ acc : Array SyntaxNode, Keeps acc (ns.foldl Syntax.pushNode acc) := by
  induction ns with
  | nil => exact Keeps.refl
  | cons n ns ih => exact fun acc => (Keeps.pushNode acc n).trans (ih _)

end SyntaxEdit.Syntax
