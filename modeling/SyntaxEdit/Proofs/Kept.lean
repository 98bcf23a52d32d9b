import Mathlib.Data.List.Forall2
import SyntaxEdit.Proofs.Arena

namespace SyntaxEdit.Syntax

def bumpHead : List Nat → List Nat
  | [] => []
  | i :: p => (i + 1) :: p

theorem bumpHead_injective : Function.Injective bumpHead := by
  intro p q h
  cases p <;> cases q <;> simp_all [bumpHead]

namespace Cst

/-- Whether the children of the node may be kept: it is named, no extra, no trivia and no
leaf. -/
def opens (c : Cst) : Bool := c.named && !c.extra && !isTrivia c.kind && !isLeafKind c.kind

/-- Whether `c`, a child of a node of kind `raw`, is a wrapper whose contents are hoisted: an
argument list, a parameter list, an `else` branch, or the parentheses around the condition of an
`if`, `while` or `do`. -/
def hoists (raw : String) (c : Cst) : Bool :=
  c.kind == "arguments" || c.kind == "formal_parameters" || c.kind == "else_clause" ||
    (c.kind == "parenthesized_expression" && c.field == some "condition" &&
      (raw == "if_statement" || raw == "while_statement" || raw == "do_statement"))

def wrapperRole (k : String) : Role :=
  if k == "arguments" then .argument
  else if k == "formal_parameters" then .parameter
  else if k == "else_clause" then .else_
  else .condition

/-- Whether `c`, a child of a node of kind `raw`, is kept: it is named, no extra, no trivia and
no wrapper, or it is the anonymous token in the operator field of a binary expression. -/
def keptChild (raw : String) (c : Cst) : Bool :=
  (c.named && !c.extra && !isTrivia c.kind && !hoists raw c) ||
    (!c.named && c.field == some "operator" && raw == "binary_expression")

mutual

def paths : Cst → List (List Nat)
  | node _ _ _ _ _ _ kids => pathsIn kids

/-- The paths of the nodes of a forest, in document order: each tree before the next, and a
node before the nodes below it. -/
def pathsIn : List Cst → List (List Nat)
  | [] => []
  | c :: cs => [0] :: (paths c).map (0 :: ·) ++ (pathsIn cs).map bumpHead

end

def getIn (cs : List Cst) : List Nat → Option Cst
  | [] => none
  | i :: p => cs[i]?.bind fun d => match p with
    | [] => some d
    | _ :: _ => getIn d.children p

/-- Whether the node at path `p` of the forest `cs`, children of a node of kind `raw`, is kept:
every node above it opens and it is kept as a child. -/
def keptIn (raw : String) (cs : List Cst) : List Nat → Bool
  | [] => false
  | i :: p => cs[i]?.any fun d => match p with
    | [] => keptChild raw d
    | _ :: _ => d.opens && keptIn d.kind d.children p

def keptList (raw : String) (cs : List Cst) : List (List Nat) := (pathsIn cs).filter (keptIn raw cs)

/-- The nearest kept node strictly above path `p`: going down the path, the last kept node
passed. -/
def nearestIn (raw : String) (cs : List Cst) : List Nat → Option (List Nat)
  | [] => none
  | i :: p => cs[i]?.bind fun d => match p with
    | [] => none
    | _ :: _ => ((if d.opens then nearestIn d.kind d.children p else none).map (i :: ·)).or
        (if keptChild raw d then some [i] else none)

/-- The role handed to the node at path `p` of the forest `cs` by the wrapper it sits in: `ov`
for a node of the forest itself, which sits in the forest's own wrapper if any. -/
def contentRole (raw : String) (cs : List Cst) (ov : Option Role) : List Nat → Option Role
  | [] => none
  | i :: p => match p with
    | [] => ov
    | _ :: _ => cs[i]?.bind fun d =>
      contentRole d.kind d.children (if hoists raw d then some (wrapperRole d.kind) else none) p

theorem paths_eq (c : Cst) : c.paths = pathsIn c.children := by
  cases c
  rfl

variable {raw : String} {c : Cst} {cs : List Cst} {p q : List Nat}

theorem getIn_cons_zero (hp : p ≠ []) : getIn (c :: cs) (0 :: p) = getIn c.children p := by
  cases p with
  | nil => exact absurd rfl hp
  | cons j p => rfl

theorem getIn_cons_bumpHead (hp : p ≠ []) : getIn (c :: cs) (bumpHead p) = getIn cs p := by
  cases p with
  | nil => exact absurd rfl hp
  | cons i p => rfl

theorem keptIn_cons_zero (hp : p ≠ []) :
    keptIn raw (c :: cs) (0 :: p) = (c.opens && keptIn c.kind c.children p) := by
  cases p with
  | nil => exact absurd rfl hp
  | cons j p => rfl

theorem keptIn_cons_bumpHead (hp : p ≠ []) :
    keptIn raw (c :: cs) (bumpHead p) = keptIn raw cs p := by
  cases p with
  | nil => exact absurd rfl hp
  | cons i p => rfl

theorem nearestIn_cons_zero (hp : p ≠ []) :
    nearestIn raw (c :: cs) (0 :: p) =
      ((if c.opens then nearestIn c.kind c.children p else none).map (0 :: ·)).or
        (if keptChild raw c then some [0] else none) := by
  cases p with
  | nil => exact absurd rfl hp
  | cons j p => rfl

theorem nearestIn_cons_bumpHead (hp : p ≠ []) :
    nearestIn raw (c :: cs) (bumpHead p) = (nearestIn raw cs p).map bumpHead := by
  cases p with
  | nil => exact absurd rfl hp
  | cons i p =>
    simp only [bumpHead, nearestIn, List.getElem?_cons_succ]
    cases cs[i]? with
    | none => rfl
    | some d =>
      cases p with
      | nil => rfl
      | cons j p =>
        simp only [Option.bind_some]
        cases (if d.opens then nearestIn d.kind d.children (j :: p) else none) <;>
          cases keptChild raw d <;> simp [bumpHead]

theorem contentRole_cons_zero (ov : Option Role) (hp : p ≠ []) :
    contentRole raw (c :: cs) ov (0 :: p) =
      contentRole c.kind c.children
        (if hoists raw c then some (wrapperRole c.kind) else none) p := by
  cases p with
  | nil => exact absurd rfl hp
  | cons j p => rfl

theorem contentRole_cons_bumpHead (ov : Option Role) (hp : p ≠ []) :
    contentRole raw (c :: cs) ov (bumpHead p) = contentRole raw cs ov p := by
  cases p with
  | nil => exact absurd rfl hp
  | cons i p => cases p <;> rfl

theorem ne_nil_of_mem_pathsIn : ∀ {cs : List Cst} {p : List Nat}, p ∈ pathsIn cs → p ≠ []
  | [], _, h => by simp [pathsIn] at h
  | c :: cs, p, h => by
    simp only [pathsIn, List.cons_append, List.mem_cons, List.mem_append, List.mem_map] at h
    rcases h with rfl | ⟨q, -, rfl⟩ | ⟨q, hq, rfl⟩
    · simp
    · simp
    · have := ne_nil_of_mem_pathsIn hq
      cases q <;> simp_all [bumpHead]

theorem cons_mem_pathsIn : ∀ {cs : List Cst} {i : Nat} {d : Cst} {p : List Nat},
    cs[i]? = some d → (p = [] ∨ p ∈ pathsIn d.children) → i :: p ∈ pathsIn cs
  | c :: cs, 0, d, p, hd, hp => by
    obtain rfl : c = d := by simpa using hd
    rcases hp with rfl | hp
    · simp [pathsIn]
    · simp [pathsIn, paths_eq, hp]
  | c :: cs, i + 1, d, p, hd, hp => by
    have hd' : cs[i]? = some d := by simpa using hd
    have ih := cons_mem_pathsIn hd' hp
    simp only [pathsIn, List.cons_append, List.mem_cons, List.mem_append, List.mem_map]
    exact .inr (.inr ⟨i :: p, ih, rfl⟩)

theorem mem_pathsIn_of_keptIn : ∀ {raw : String} {cs : List Cst} {p : List Nat},
    keptIn raw cs p = true → p ∈ pathsIn cs
  | _, _, [], h => by simp [keptIn] at h
  | raw, cs, i :: p, h => by
    simp only [keptIn, Option.any_eq_true] at h
    obtain ⟨d, hd, hk⟩ := h
    refine cons_mem_pathsIn hd ?_
    cases p with
    | nil => exact .inl rfl
    | cons j p =>
      simp only [Bool.and_eq_true] at hk
      exact .inr (mem_pathsIn_of_keptIn hk.2)

theorem mem_keptList : p ∈ keptList raw cs ↔ keptIn raw cs p = true := by
  simp only [keptList, List.mem_filter, and_iff_right_iff_imp]
  exact mem_pathsIn_of_keptIn

/-- The kept nodes of the first tree of a forest: its root, if kept as a child, then the kept
nodes below it, if it opens. -/
def firstKept (raw : String) (c : Cst) : List (List Nat) :=
  (if keptChild raw c then [[0]] else []) ++
    (if c.opens then (keptList c.kind c.children).map (0 :: ·) else [])

theorem keptList_cons :
    keptList raw (c :: cs) = firstKept raw c ++ (keptList raw cs).map bumpHead := by
  have hfirst : keptIn raw (c :: cs) [0] = keptChild raw c := rfl
  have hbelow : (c.paths.map (0 :: ·)).filter (keptIn raw (c :: cs)) =
      if c.opens then (keptList c.kind c.children).map (0 :: ·) else [] := by
    have hk : ∀ p ∈ pathsIn c.children,
        (keptIn raw (c :: cs) ∘ (0 :: ·)) p = (c.opens && keptIn c.kind c.children p) :=
      fun p hp => keptIn_cons_zero (ne_nil_of_mem_pathsIn hp)
    rw [List.filter_map, paths_eq, List.filter_congr hk]
    cases c.opens <;> simp [keptList]
  have hrest : ((pathsIn cs).map bumpHead).filter (keptIn raw (c :: cs)) =
      (keptList raw cs).map bumpHead := by
    have hk : ∀ p ∈ pathsIn cs, (keptIn raw (c :: cs) ∘ bumpHead) p = keptIn raw cs p :=
      fun p hp => keptIn_cons_bumpHead (ne_nil_of_mem_pathsIn hp)
    rw [List.filter_map, keptList, List.filter_congr hk]
  rw [keptList, pathsIn, List.cons_append, List.filter_cons, hfirst, List.filter_append, hbelow,
    hrest, firstKept]
  cases keptChild raw c <;> simp

theorem firstKept_of_skipped (hk : keptChild raw c = false) (ho : c.opens = false) :
    firstKept raw c = [] := by
  simp [firstKept, hk, ho]

theorem keptIn_singleton (i : Nat) : keptIn raw cs [i] = cs[i]?.any (keptChild raw) := rfl

theorem keptIn_cons_cons (i j : Nat) (p : List Nat) :
    keptIn raw cs (i :: j :: p) =
      cs[i]?.any fun d => d.opens && keptIn d.kind d.children (j :: p) :=
  rfl

theorem nearestIn_cons_cons (i j : Nat) (p : List Nat) :
    nearestIn raw cs (i :: j :: p) = cs[i]?.bind fun d =>
      ((if d.opens then nearestIn d.kind d.children (j :: p) else none).map (i :: ·)).or
        (if keptChild raw d then some [i] else none) :=
  rfl

theorem ne_nil_of_keptIn (h : keptIn raw cs p = true) : p ≠ [] := by
  rintro rfl
  simp [keptIn] at h

theorem nearestIn_spec : ∀ {raw : String} {cs : List Cst} {p q : List Nat},
    nearestIn raw cs p = some q → keptIn raw cs q = true ∧ q <+: p ∧ q.length < p.length
  | _, _, [], _, h => by simp [nearestIn] at h
  | _, _, [_], _, h => by simp [nearestIn] at h
  | raw, cs, i :: j :: p, q, h => by
    rw [nearestIn_cons_cons, Option.bind_eq_some_iff] at h
    obtain ⟨d, hd, h⟩ := h
    cases hn : (if d.opens then nearestIn d.kind d.children (j :: p) else none) with
    | some r =>
      -- the nearest kept node lies below `d`
      rw [hn, Option.map_some, Option.some_or] at h
      cases h
      have hopen : d.opens = true := by
        by_contra hne
        simp [hne] at hn
      rw [if_pos hopen] at hn
      obtain ⟨hk, hpre, hlen⟩ := nearestIn_spec hn
      obtain ⟨r₀, r, rfl⟩ := List.exists_cons_of_ne_nil (ne_nil_of_keptIn hk)
      refine ⟨?_, List.cons_prefix_cons.2 ⟨rfl, hpre⟩, by simpa using hlen⟩
      simp only [keptIn_cons_cons, hd, Option.any_some, hopen, hk, Bool.and_self]
    | none =>
      -- no kept node below `d` lies above the path: `d` itself is the nearest
      rw [hn, Option.map_none, Option.none_or] at h
      split at h
      · next hkc =>
        cases h
        refine ⟨?_, List.cons_prefix_cons.2 ⟨rfl, List.nil_prefix⟩, by simp⟩
        simp only [keptIn_singleton, hd, Option.any_some, hkc]
      · cases h

def wrapperKind (k : String) : Bool :=
  k == "arguments" || k == "formal_parameters" || k == "else_clause" ||
    k == "parenthesized_expression"

mutual

/-- Every operator token below the node is no extra and sits in no wrapper, as in every tree
a parser builds. -/
def operatorsPlaced : Cst → Bool
  | node k _ _ _ _ _ kids => operatorsPlacedIn k kids

/-- Every operator token in or below the forest, children of a node of kind `raw`, is no extra
and sits in no wrapper. -/
def operatorsPlacedIn (raw : String) : List Cst → Bool
  | [] => true
  | c :: cs =>
    (c.named || c.field != some "operator" || (!c.extra && !wrapperKind raw)) &&
      c.operatorsPlaced && operatorsPlacedIn raw cs

end

def keptPaths (root : Cst) : List (List Nat) :=
  if root.opens then keptList root.kind root.children else []

theorem hoistedRole_eq (raw : String) (c : Cst) :
    hoistedRole raw c.field c.kind = if c.hoists raw then some (wrapperRole c.kind) else none := by
  unfold hoistedRole hoists wrapperRole
  split <;> simp_all

theorem wrapperKind_of_hoists (h : c.hoists raw = true) : wrapperKind c.kind = true := by
  unfold hoists at h
  unfold wrapperKind
  simp only [Bool.or_eq_true, Bool.and_eq_true] at h
  rcases h with ((h | h) | h) | ⟨⟨h, -⟩, -⟩ <;> simp [h]

theorem opens_of_hoists (h : c.hoists raw = true) (hn : c.named = true) (he : c.extra = false) :
    c.opens = true ∧ keptChild raw c = false := by
  -- a wrapper kind is neither trivia nor a leaf kind
  have hkind : isTrivia c.kind = false ∧ isLeafKind c.kind = false := by
    have hw := wrapperKind_of_hoists h
    simp only [wrapperKind, Bool.or_eq_true, beq_iff_eq] at hw
    rcases hw with ((hw | hw) | hw) | hw <;> rw [hw] <;> decide
  simp [opens, keptChild, hn, he, hkind.1, hkind.2, h]

theorem hoists_of_hoistedRole {r : Role} (h : hoistedRole raw c.field c.kind = some r) :
    c.hoists raw = true ∧ wrapperRole c.kind = r := by
  rw [hoistedRole_eq] at h
  split at h
  · exact ⟨‹_›, Option.some.inj h⟩
  · cases h

theorem hoists_eq_false_of_hoistedRole (h : hoistedRole raw c.field c.kind = none) :
    c.hoists raw = false := by
  rw [hoistedRole_eq] at h
  split at h
  · cases h
  · next hno => simpa using hno

theorem firstKept_of_extra
    (hop : (c.named || c.field != some "operator" || (!c.extra && !wrapperKind raw)) = true)
    (he : c.extra = true) : firstKept raw c = [] := by
  refine firstKept_of_skipped ?_ (by simp [opens, he])
  cases hn : c.named <;> simp_all [keptChild]

theorem firstKept_of_trivia (hn : c.named = true) (ht : isTrivia c.kind = true) :
    firstKept raw c = [] :=
  firstKept_of_skipped (by simp [keptChild, hn, ht]) (by simp [opens, ht])

theorem keptChild_of_named (hn : c.named = true) (he : c.extra = false)
    (ht : isTrivia c.kind = false) (hh : c.hoists raw = false) : keptChild raw c = true := by
  simp [keptChild, hn, he, ht, hh]

end Cst

theorem ofRaw_eq_binaryExpression {raw : String} :
    NodeKind.ofRaw raw = .binaryExpression ↔ raw = "binary_expression" := by
  constructor
  · intro h
    unfold NodeKind.ofRaw at h
    split at h <;> first | rfl | cases h | (split at h <;> cases h)
  · rintro rfl
    rfl

theorem ov_eq_none_of_operator {raw : String} {ov : Option Role} {c : Cst}
    (hwr : ov.isSome = true → Cst.wrapperKind raw = true)
    (hop : (c.named || c.field != some "operator" || (!c.extra && !Cst.wrapperKind raw)) = true)
    (hn : c.named = false) (hf : c.field = some "operator") : ov = none := by
  cases ov with
  | none => rfl
  | some r => simp [hn, hf, hwr rfl] at hop

/-- An anonymous token is kept exactly when lowering, which looks at the kind of the arena
parent and not of the concrete one, makes a node for it: as no wrapper holds an operator, the
two parents are the same. -/
theorem keptChild_anonymous {pk : NodeKind} {raw : String} {ov : Option Role} {c : Cst}
    (hpk : ov = none → pk = NodeKind.ofRaw raw)
    (hwr : ov.isSome = true → Cst.wrapperKind raw = true)
    (hop : (c.named || c.field != some "operator" || (!c.extra && !Cst.wrapperKind raw)) = true)
    (hn : c.named = false) :
    Cst.keptChild raw c = (c.field == some "operator" && pk == .binaryExpression) := by
  have hk : Cst.keptChild raw c = (c.field == some "operator" && raw == "binary_expression") := by
    simp [Cst.keptChild, hn]
  rw [hk]
  by_cases hf : c.field = some "operator"
  · rw [hpk (ov_eq_none_of_operator hwr hop hn hf)]
    by_cases h : raw = "binary_expression"
    · subst h
      rfl
    · have hne : NodeKind.ofRaw raw ≠ .binaryExpression :=
        fun e => h (ofRaw_eq_binaryExpression.1 e)
      rw [beq_false_of_ne h, beq_false_of_ne hne]
  · rw [beq_false_of_ne hf]
    rfl

section Preserves

variable (Q : Array SyntaxNode → Prop)
  (hQ : ∀ acc n, n.children = #[] → Q acc → Q (pushNode acc n))
include hQ

mutual

theorem lowerNode_preserves :
    ∀ (c : Cst) (P : Nat) (role : Role) (fs : Nat) (acc : Array SyntaxNode),
      Q acc → Q (lowerNode c P role fs acc)
  | .node k named extra field s t kids, P, role, fs, acc, h => by
    have h₁ := hQ acc ⟨NodeKind.ofRaw k, k, role, s, t, min fs s, some P, #[]⟩ rfl h
    simp only [lowerNode]
    split
    · exact h₁
    · exact lowerChildren_preserves kids _ _ _ _ _ _ _ h₁

theorem lowerChildren_preserves :
    ∀ (kids : List Cst) (P : Nat) (pk : NodeKind) (raw : String) (base : Nat)
      (ov : Option Role) (prevEnd : Option Nat) (acc : Array SyntaxNode),
      Q acc → Q (lowerChildren kids P pk raw base ov prevEnd acc)
  | [], _, _, _, _, _, _, _, h => h
  | .node k named extra field s t kids :: rest, P, pk, raw, base, ov, prevEnd, acc, h => by
    simp only [lowerChildren]
    split
    · exact lowerChildren_preserves rest _ _ _ _ _ _ _ h
    · split
      · refine lowerChildren_preserves rest _ _ _ _ _ _ _ ?_
        split
        · exact h
        · split
          · exact lowerChildren_preserves kids _ _ _ _ _ _ _ h
          · exact lowerNode_preserves _ _ _ _ _ h
      · refine lowerChildren_preserves rest _ _ _ _ _ _ _ ?_
        split
        · exact hQ _ _ rfl h
        · exact h

end

end Preserves

theorem Keeps.lowerChildren (kids : List Cst) (P : Nat) (pk : NodeKind) (raw : String)
    (base : Nat) (ov : Option Role) (prevEnd : Option Nat) (acc : Array SyntaxNode) :
    Keeps acc (lowerChildren kids P pk raw base ov prevEnd acc) :=
  lowerChildren_preserves (Keeps acc) (fun _ n _ h => h.trans (Keeps.pushNode _ n)) kids P pk raw
    base ov prevEnd acc (Keeps.refl acc)

theorem Keeps.lowerNode (c : Cst) (P : Nat) (role : Role) (fs : Nat) (acc : Array SyntaxNode) :
    Keeps acc (lowerNode c P role fs acc) :=
  lowerNode_preserves (Keeps acc) (fun _ n _ h => h.trans (Keeps.pushNode _ n)) c P role fs acc
    (Keeps.refl acc)

def ChildrenSorted (acc : Array SyntaxNode) : Prop :=
  ∀ p, (acc.getD p default).children.toList.Pairwise (· < ·) ∧
    ∀ c ∈ (acc.getD p default).children.toList, c < acc.size

/-- A node appended without children comes after every node, so children lists stay
increasing. -/
theorem ChildrenSorted.pushNode {acc : Array SyntaxNode} {n : SyntaxNode}
    (hn : n.children = #[]) (h : ChildrenSorted acc) : ChildrenSorted (pushNode acc n) := by
  intro p
  rw [getD_pushNode, size_pushNode]
  split
  · simp [hn]
  · split
    · obtain ⟨hs, hlt⟩ := h p
      simp only [Array.toList_push, List.pairwise_append, List.mem_append, List.mem_singleton]
      refine ⟨⟨hs, List.pairwise_singleton _ _, fun a ha b hb => hb ▸ hlt a ha⟩, ?_⟩
      rintro c (hc | rfl)
      · exact Nat.lt_succ_of_lt (hlt c hc)
      · exact Nat.lt_succ_self _
    · obtain ⟨hs, hlt⟩ := h p
      exact ⟨hs, fun c hc => Nat.lt_succ_of_lt (hlt c hc)⟩

def added (acc acc' : Array SyntaxNode) : List SyntaxNode :=
  (List.range (acc'.size - acc.size)).map fun k =>
    { acc'.getD (acc.size + k) default with children := #[] }

theorem added_self (acc : Array SyntaxNode) : added acc acc = [] := by
  simp [added]

theorem added_pushNode (acc : Array SyntaxNode) (n : SyntaxNode) :
    added acc (pushNode acc n) = [{ n with children := #[] }] := by
  have hn : (pushNode acc n).getD acc.size default = n := by rw [getD_pushNode, if_pos rfl]
  simp only [added, size_pushNode, Nat.add_sub_cancel_left, List.range_one, List.map_cons,
    List.map_nil, Nat.add_zero, hn]

theorem Keeps.size_eq_added {acc acc' : Array SyntaxNode} (h : Keeps acc acc') :
    acc'.size = acc.size + (added acc acc').length := by
  have := h.size_le
  simp only [added, List.length_map, List.length_range]
  omega

theorem Keeps.added_append {acc acc₁ acc₂ : Array SyntaxNode} (h₁ : Keeps acc acc₁)
    (h₂ : Keeps acc₁ acc₂) : added acc acc₂ = added acc acc₁ ++ added acc₁ acc₂ := by
  have hle₁ := h₁.size_le
  have hle₂ := h₂.size_le
  have hsize : acc₂.size - acc.size = (acc₁.size - acc.size) + (acc₂.size - acc₁.size) := by
    omega
  rw [added, hsize, List.range_add, List.map_append, List.map_map]
  congr 1
  · -- the nodes of the first step are kept by the second, all but their children
    refine List.map_congr_left fun k hk => ?_
    rw [List.mem_range] at hk
    exact h₂.same _ (by omega)
  · refine List.map_congr_left fun k _ => ?_
    rw [Function.comp_apply, show acc.size + (acc₁.size - acc.size + k) = acc₁.size + k by omega]

theorem idxOf_map_of_injective {α β : Type} [BEq α] [LawfulBEq α] [BEq β] [LawfulBEq β]
    {f : α → β} (hf : Function.Injective f) (l : List α) (a : α) :
    (l.map f).idxOf (f a) = l.idxOf a := by
  induction l with
  | nil => rfl
  | cons b l ih =>
    by_cases h : b = a
    · subst h
      simp
    · rw [List.map_cons, List.idxOf_cons_ne _ fun e => h (hf e), List.idxOf_cons_ne _ h, ih]

open Cst

/-- The arena node `n` stands for the node at path `p` of the forest `kids`, children of a node
of kind `raw` lowered into arena node `P` with the new nodes numbered from `base`: it has that
node's kind and range, hangs under the arena node of the nearest kept node above it, or under
`P` if there is none, and takes the role the wrapper it sits in hands down. -/
def Stands (raw : String) (kids : List Cst) (P base : Nat) (ov : Option Role) (n : SyntaxNode)
    (p : List Nat) : Prop :=
  (getIn kids p).map (fun c => (c.kind, c.start, c.stop)) = some (n.raw, n.start, n.stop) ∧
    n.parent = some ((nearestIn raw kids p).elim P fun q => base + (keptList raw kids).idxOf q) ∧
    ∀ r, contentRole raw kids ov p = some r → n.role = r

section Stands

variable {raw : String} {c : Cst} {cs : List Cst} {P base : Nat} {ov : Option Role}
  {n : SyntaxNode} {p : List Nat}

theorem Stands.ne_nil (h : Stands raw cs P base ov n p) : p ≠ [] := by
  rintro rfl
  simp [Stands, getIn] at h

theorem bumpHead_not_mem_firstKept {q : List Nat} (hq : q ≠ []) :
    bumpHead q ∉ firstKept raw c := by
  obtain ⟨i, q, rfl⟩ := List.exists_cons_of_ne_nil hq
  simp only [bumpHead, firstKept]
  split <;> split <;> simp

theorem Stands.cons_first (hraw : n.raw = c.kind) (hs : n.start = c.start)
    (ht : n.stop = c.stop) (hpar : n.parent = some P) (hrole : ∀ r, ov = some r → n.role = r) :
    Stands raw (c :: cs) P base ov n [0] :=
  ⟨by simp [getIn, hraw, hs, ht], hpar, hrole⟩

/-- A node below the first tree of a forest stands for the same node of the forest, one level
up: its nearest kept node above is the same, or the first tree itself. -/
theorem Stands.cons_zero (hopen : c.opens = true)
    (h : Stands c.kind c.children (if keptChild raw c then base else P)
      (base + (if keptChild raw c then 1 else 0))
      (if c.hoists raw then some (wrapperRole c.kind) else none) n p) :
    Stands raw (c :: cs) P base ov n (0 :: p) := by
  have hp := h.ne_nil
  obtain ⟨hget, hpar, hrole⟩ := h
  refine ⟨by rwa [getIn_cons_zero hp], ?_,
    fun r hr => hrole r (by rwa [contentRole_cons_zero _ hp] at hr)⟩
  rw [hpar, nearestIn_cons_zero hp, if_pos hopen]
  cases hn : nearestIn c.kind c.children p with
  | some q =>
    -- the nearest kept node lies below the first tree, among its kept nodes
    obtain ⟨hk, -, -⟩ := nearestIn_spec hn
    have hq := ne_nil_of_keptIn hk
    have hmem : 0 :: q ∈ firstKept raw c := by
      simp [firstKept, hopen, mem_keptList.2 hk]
    have hidx : (firstKept raw c).idxOf (0 :: q) =
        (if keptChild raw c then 1 else 0) + (keptList c.kind c.children).idxOf q := by
      rw [firstKept, if_pos hopen, List.idxOf_append_of_notMem (by split <;> simp [hq]),
        idxOf_map_of_injective List.cons_injective]
      split <;> rfl
    simp only [Option.map_some, Option.some_or, Option.elim_some, keptList_cons,
      List.idxOf_append_of_mem hmem, hidx, Nat.add_assoc]
  | none =>
    -- no kept node lies between: the first tree is the nearest, if kept
    simp only [Option.map_none, Option.none_or]
    split
    · simp [keptList_cons, firstKept, *]
    · rfl

/-- A node of the rest of a forest stands for the same node, one sibling further along, once the
first tree's kept nodes are counted. -/
theorem Stands.cons_bumpHead (h : Stands raw cs P (base + (firstKept raw c).length) ov n p) :
    Stands raw (c :: cs) P base ov n (bumpHead p) := by
  have hp := h.ne_nil
  obtain ⟨hget, hpar, hrole⟩ := h
  refine ⟨by rwa [getIn_cons_bumpHead hp], ?_,
    fun r hr => hrole r (by rwa [contentRole_cons_bumpHead _ hp] at hr)⟩
  rw [hpar, nearestIn_cons_bumpHead hp]
  cases hn : nearestIn raw cs p with
  | none => rfl
  | some q =>
    have hq := ne_nil_of_keptIn (nearestIn_spec hn).1
    simp only [Option.map_some, Option.elim_some, keptList_cons,
      List.idxOf_append_of_notMem (bumpHead_not_mem_firstKept hq),
      idxOf_map_of_injective bumpHead_injective, Nat.add_assoc]

/-- Nodes standing for the kept nodes below the first tree of a forest, one level down, stand
for them in the forest. -/
theorem forall₂_stands_below (hopen : c.opens = true) {X : List SyntaxNode}
    (h : List.Forall₂ (Stands c.kind c.children (if keptChild raw c then base else P)
      (base + (if keptChild raw c then 1 else 0))
      (if c.hoists raw then some (wrapperRole c.kind) else none)) X (keptList c.kind c.children)) :
    List.Forall₂ (Stands raw (c :: cs) P base ov) X
      ((keptList c.kind c.children).map (0 :: ·)) := by
  rw [List.forall₂_map_right_iff]
  refine h.imp fun _ _ h => ?_
  exact h.cons_zero hopen

/-- Nodes standing for the kept nodes of the first tree, then nodes standing for those of the
rest, stand for the kept nodes of the forest. -/
theorem forall₂_stands_cons {X Y : List SyntaxNode}
    (hX : List.Forall₂ (Stands raw (c :: cs) P base ov) X (firstKept raw c))
    (hY : List.Forall₂ (Stands raw cs P (base + X.length) ov) Y (keptList raw cs)) :
    List.Forall₂ (Stands raw (c :: cs) P base ov) (X ++ Y) (keptList raw (c :: cs)) := by
  rw [keptList_cons]
  refine List.rel_append hX ?_
  rw [List.forall₂_map_right_iff]
  rw [hX.length_eq] at hY
  exact hY.imp fun _ _ h => h.cons_bumpHead

end Stands

mutual

theorem lowerNode_stands :
    ∀ (c : Cst) (P : Nat) (role : Role) (fs : Nat) (acc : Array SyntaxNode),
      c.operatorsPlaced = true →
      ∃ n rest, added acc (lowerNode c P role fs acc) = n :: rest ∧
        n.raw = c.kind ∧ n.start = c.start ∧ n.stop = c.stop ∧ n.parent = some P ∧
        n.role = role ∧
        List.Forall₂ (Stands c.kind c.children acc.size (acc.size + 1) none) rest
          (if isLeafKind c.kind then [] else keptList c.kind c.children)
  | .node k named extra field s t kids, P, role, fs, acc, hops => by
    let n : SyntaxNode := ⟨NodeKind.ofRaw k, k, role, s, t, min fs s, some P, #[]⟩
    simp only [lowerNode]
    split
    · next hleaf =>
      refine ⟨{ n with children := #[] }, [], added_pushNode acc n, rfl, rfl, rfl, rfl, rfl, ?_⟩
      simp only [Cst.kind, hleaf, if_true]
      exact .nil
    · next hleaf =>
      -- the children hang under the new node, the first of those lowering adds next
      have ih := lowerChildren_stands kids acc.size (NodeKind.ofRaw k) k fs none none
        (pushNode acc n) (fun _ => rfl) (by simp) hops
      rw [size_pushNode] at ih
      refine ⟨{ n with children := #[] }, added (pushNode acc n)
        (lowerChildren kids acc.size (NodeKind.ofRaw k) k fs none none (pushNode acc n)), ?_, rfl,
        rfl, rfl, rfl, rfl, ?_⟩
      · rw [(Keeps.pushNode acc n).added_append (Keeps.lowerChildren ..), added_pushNode]
        rfl
      · simpa only [Cst.kind, Cst.children, hleaf, Bool.false_eq_true, if_false] using ih

theorem lowerChildren_stands :
    ∀ (kids : List Cst) (P : Nat) (pk : NodeKind) (raw : String) (fs : Nat)
      (ov : Option Role) (prevEnd : Option Nat) (acc : Array SyntaxNode),
      (ov = none → pk = NodeKind.ofRaw raw) → (ov.isSome = true → wrapperKind raw = true) →
      operatorsPlacedIn raw kids = true →
      List.Forall₂ (Stands raw kids P acc.size ov)
        (added acc (lowerChildren kids P pk raw fs ov prevEnd acc)) (keptList raw kids)
  | [], _, _, _, _, _, _, acc, _, _, _ => by
    rw [lowerChildren, added_self]
    exact .nil
  | .node k named extra field s t kids :: rest, P, pk, raw, fs, ov, prevEnd, acc, hpk, hwr,
      hops => by
    simp only [operatorsPlacedIn, Bool.and_eq_true] at hops
    obtain ⟨⟨hop, hkids⟩, hrest⟩ := hops
    -- after the first child, the rest go into the same parent
    have cont : ∀ pe acc₁, Keeps acc acc₁ ∧
        List.Forall₂ (Stands raw (.node k named extra field s t kids :: rest) P acc.size ov)
          (added acc acc₁) (firstKept raw (.node k named extra field s t kids)) →
        List.Forall₂ (Stands raw (.node k named extra field s t kids :: rest) P acc.size ov)
          (added acc (lowerChildren rest P pk raw fs ov pe acc₁))
          (keptList raw (.node k named extra field s t kids :: rest)) := by
      rintro pe acc₁ ⟨hk₁, hX⟩
      have ih := lowerChildren_stands rest P pk raw fs ov pe acc₁ hpk hwr hrest
      rw [hk₁.added_append (Keeps.lowerChildren ..)]
      refine forall₂_stands_cons hX ?_
      rwa [← hk₁.size_eq_added]
    simp only [lowerChildren]
    split
    · next hex =>
      -- an extra is neither kept nor opened
      refine cont prevEnd acc ⟨Keeps.refl acc, ?_⟩
      rw [added_self, firstKept_of_extra hop hex]
      exact .nil
    · next hex =>
      rw [Bool.not_eq_true] at hex
      split
      · next hnamed =>
        refine cont _ _ ?_
        split
        · next htriv =>
          -- trivia is neither kept nor opened
          refine ⟨Keeps.refl acc, ?_⟩
          rw [added_self,
            firstKept_of_trivia (c := .node k named extra field s t kids) hnamed htriv]
          exact .nil
        · next htriv =>
          rw [Bool.not_eq_true] at htriv
          split
          · next r hr =>
            -- a wrapper: its contents come up into `P`, with the wrapper's role
            obtain ⟨hh, rfl⟩ := hoists_of_hoistedRole (c := .node k named extra field s t kids) hr
            obtain ⟨ho, hkc⟩ := opens_of_hoists hh hnamed hex
            have ih := lowerChildren_stands kids P pk k (prevEnd.getD fs) (some (wrapperRole k))
              none acc (by simp) (fun _ => wrapperKind_of_hoists hh) hkids
            refine ⟨Keeps.lowerChildren .., ?_⟩
            rw [firstKept, hkc, if_pos ho, if_neg Bool.false_ne_true, List.nil_append]
            exact forall₂_stands_below ho (by simpa [Cst.kind, Cst.children, hkc, hh] using ih)
          · next hr =>
            -- kept: its own node, then the kept nodes below it unless it is a leaf
            have hh := hoists_eq_false_of_hoistedRole (c := .node k named extra field s t kids) hr
            have hkc :=
              keptChild_of_named (c := .node k named extra field s t kids) hnamed hex htriv hh
            obtain ⟨n, below, heq, hraw, hs, ht, hpar, hrole, hbelow⟩ :=
              lowerNode_stands (.node k named extra field s t kids) P
                (ov.getD (roleFor pk raw field k)) (prevEnd.getD fs) acc hkids
            refine ⟨Keeps.lowerNode .., ?_⟩
            rw [heq, firstKept, if_pos hkc, List.singleton_append]
            refine .cons
              (Stands.cons_first hraw hs ht hpar fun r' hr' => by rw [hrole, hr']; rfl) ?_
            cases hleaf : isLeafKind k
            · have ho : (Cst.node k named extra field s t kids).opens = true := by
                simp [opens, Cst.named, Cst.extra, Cst.kind, hnamed, hex, htriv, hleaf]
              rw [if_pos ho]
              exact forall₂_stands_below ho
                (by simpa [Cst.kind, Cst.children, hkc, hh, hleaf] using hbelow)
            · have ho : (Cst.node k named extra field s t kids).opens = false := by
                simp [opens, Cst.kind, hleaf]
              simp only [Cst.kind, hleaf, if_true, List.forall₂_nil_right_iff] at hbelow
              rw [if_neg (by simp [ho]), hbelow]
              exact .nil
      · next hnamed =>
        rw [Bool.not_eq_true] at hnamed
        have hkc := keptChild_anonymous (c := .node k named extra field s t kids) hpk hwr hop hnamed
        have ho : (Cst.node k named extra field s t kids).opens = false := by
          simp [opens, Cst.named, hnamed]
        refine cont _ _ ?_
        split
        · next hpush =>
          -- the operator of a binary expression: a node of its own, in no wrapper's role
          have hf : field = some "operator" := by
            simp only [Bool.and_eq_true, beq_iff_eq] at hpush
            exact hpush.1
          have hov := ov_eq_none_of_operator (c := .node k named extra field s t kids) hwr hop
            hnamed hf
          refine ⟨Keeps.pushNode _ _, ?_⟩
          rw [added_pushNode, firstKept, if_pos (hkc.trans hpush), if_neg (by simp [ho])]
          exact .cons (Stands.cons_first rfl rfl rfl rfl fun r hr => by simp [hov] at hr) .nil
        · next hpush =>
          refine ⟨Keeps.refl acc, ?_⟩
          rw [added_self, firstKept_of_skipped (hkc.trans (Bool.eq_false_iff.2 hpush)) ho]
          exact .nil
end

theorem isTrivia_of_ofRaw_sourceFile {raw : String} (h : NodeKind.ofRaw raw = .sourceFile) :
    isTrivia raw = false ∧ isLeafKind raw = false := by
  unfold NodeKind.ofRaw at h
  split at h <;> first | decide | cases h | (split at h <;> cases h)

theorem childrenSorted_lowerChildren (kids : List Cst) (P : Nat) (pk : NodeKind) (raw : String)
    (base : Nat) (ov : Option Role) (prevEnd : Option Nat) {acc : Array SyntaxNode}
    (h : ChildrenSorted acc) : ChildrenSorted (lowerChildren kids P pk raw base ov prevEnd acc) :=
  lowerChildren_preserves ChildrenSorted (fun _ _ hn h => h.pushNode hn) kids P pk raw base ov
    prevEnd acc h

namespace SyntaxTree

/-- The arena of `t` mirrors the kept nodes of `root`, after the root node: node `k + 1` stands
for the `k`-th kept node in document order, with its kind and range, and hangs under the node
that stands for its nearest kept ancestor, or under the root; the contents of a wrapper take the
role the wrapper stands for; and every children list is increasing, so in document order. -/
structure MirrorsKept (t : SyntaxTree) (root : Cst) : Prop where
  size_eq : t.nodes.size = root.keptPaths.length + 1
  span : ∀ k (hk : k < root.keptPaths.length),
    (getIn root.children root.keptPaths[k]).map (fun c => (c.kind, c.start, c.stop)) =
      some ((t.get (k + 1)).raw, (t.get (k + 1)).start, (t.get (k + 1)).stop)
  parent : ∀ k (hk : k < root.keptPaths.length),
    t.parent? (k + 1) = some ((nearestIn root.kind root.children root.keptPaths[k]).elim 0
      fun q => root.keptPaths.idxOf q + 1)
  role : ∀ k (hk : k < root.keptPaths.length) (r : Role),
    contentRole root.kind root.children none root.keptPaths[k] = some r → (t.get (k + 1)).role = r
  sorted : ∀ i, (t.children i).Pairwise (· < ·)

/-- Lowering a tree a parser built makes exactly one node for each kept node, in document
order, with its kind and range, under the node made for its nearest kept ancestor; the contents
of a wrapper take the wrapper's role. -/
theorem ofConcrete_mirrorsKept {src : String} {root : Cst} (hnamed : root.named = true)
    (hextra : root.extra = false) (hkind : NodeKind.ofRaw root.kind = .sourceFile)
    (hops : root.operatorsPlaced = true) : (ofConcrete src root).MirrorsKept root := by
  let r : SyntaxNode :=
    ⟨.sourceFile, root.kind, .root, min root.start (Text.size src), Text.size src, 0, none, #[]⟩
  -- the root opens, so its kept nodes are those of its children's forest
  have hK : root.keptPaths = keptList root.kind root.children := by
    obtain ⟨htriv, hleaf⟩ := isTrivia_of_ofRaw_sourceFile hkind
    simp [keptPaths, opens, hnamed, hextra, htriv, hleaf]
  have hops' : operatorsPlacedIn root.kind root.children = true := by
    cases root
    exact hops
  have h := lowerChildren_stands root.children 0 .sourceFile root.kind 0 none none #[r]
    (fun _ => hkind.symm) (by simp) hops'
  have hsize :=
    (Keeps.lowerChildren root.children 0 .sourceFile root.kind 0 none none #[r]).size_eq_added
  have hlen := h.length_eq
  -- node `k + 1` of the tree is the `k`-th added node
  have hat : ∀ k (hk : k < root.keptPaths.length), Stands root.kind root.children 0 1 none
      { (ofConcrete src root).get (k + 1) with children := #[] } root.keptPaths[k] := by
    intro k hk
    simp only [hK] at hk ⊢
    have := h.get (by rw [hlen]; exact hk) hk
    simpa [added, get, ofConcrete, Nat.add_comm] using this
  have hnodes : (ofConcrete src root).nodes =
      lowerChildren root.children 0 .sourceFile root.kind 0 none none #[r] := rfl
  refine ⟨?_, fun k hk => (hat k hk).1, fun k hk => ?_, fun k hk => (hat k hk).2.2, ?_⟩
  · rw [hK, ← hlen, hnodes, hsize, Nat.add_comm]
    rfl
  · have hp := (hat k hk).2.1
    simp only [Nat.add_comm 1] at hp
    simp only [parent?, hp, hK]
  · -- every children list of the arena is increasing
    have hs : ChildrenSorted #[r] := by
      have hd : (default : SyntaxNode).children = #[] := rfl
      intro p
      cases p with
      | zero => simp [r]
      | succ p => simp [Array.getD, hd]
    intro i
    exact (childrenSorted_lowerChildren root.children 0 .sourceFile root.kind 0 none none hs i).1

/-- The call `f(a + b)` as a parser builds it: the argument list is a wrapper and the operator
is an anonymous token. -/
def callWithSum : Cst :=
  .node "program" true false none 0 8 [
    .node "expression_statement" true false none 0 8 [
      .node "call_expression" true false none 0 8 [
        .node "identifier" true false (some "function") 0 1 [],
        .node "arguments" true false (some "arguments") 1 8 [
          .node "(" false false none 1 2 [],
          .node "binary_expression" true false none 2 7 [
            .node "identifier" true false (some "left") 2 3 [],
            .node "+" false false (some "operator") 4 5 [],
            .node "identifier" true false (some "right") 6 7 []],
          .node ")" false false none 7 8 []]]]]

/-- The kept nodes of the call: the argument list and its parentheses are gone, the operator
stays. -/
example : callWithSum.keptPaths =
    [[0], [0, 0], [0, 0, 0], [0, 0, 1, 1], [0, 0, 1, 1, 0], [0, 0, 1, 1, 1], [0, 0, 1, 1, 2]] := by
  decide +kernel

theorem ofConcrete_mirrorsKept_call :
    callWithSum.named = true ∧ callWithSum.extra = false ∧
      NodeKind.ofRaw callWithSum.kind = .sourceFile ∧ callWithSum.operatorsPlaced = true ∧
      (ofConcrete "f(a + b)" callWithSum).MirrorsKept callWithSum :=
  ⟨rfl, rfl, by decide +kernel, by decide +kernel,
    ofConcrete_mirrorsKept rfl rfl (by decide +kernel) (by decide +kernel)⟩

end SyntaxTree

end SyntaxEdit.Syntax
