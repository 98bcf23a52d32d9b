import SyntaxEdit.Proofs.Arena
import SyntaxEdit.Proofs.Utf8

namespace SyntaxEdit.Syntax

open Text

namespace Cst

def InOrder : List Cst → Prop
  | a :: b :: rest => a.stop ≤ b.start ∧ InOrder (b :: rest)
  | _ => True

/-- A concrete tree as a parser builds it over the characters `src` of its source: the ends of
every node fall between characters, and the children of every node come in order and lie
within it, none of them ending before it starts. -/
inductive WellFormed (src : List Char) : Cst → Prop
  | node {kind : String} {named extra : Bool} {field : Option String} {s t : Nat}
      {kids : List Cst} :
      isBoundary src s → isBoundary src t →
      (∀ c ∈ kids, s ≤ c.start ∧ c.start ≤ c.stop ∧ c.stop ≤ t) →
      InOrder kids → (∀ c ∈ kids, WellFormed src c) →
      WellFormed src (.node kind named extra field s t kids)

def KidsFrom (src : List Char) : Nat → Nat → List Cst → Prop
  | _, _, [] => True
  | lo, hi, c :: cs =>
    lo ≤ c.start ∧ c.start ≤ c.stop ∧ c.stop ≤ hi ∧ WellFormed src c ∧ KidsFrom src c.stop hi cs

theorem WellFormed.boundaries {src : List Char} {c : Cst} (h : WellFormed src c) :
    isBoundary src c.start ∧ isBoundary src c.stop := by
  cases h with
  | node hs ht _ _ _ => exact ⟨hs, ht⟩

theorem kidsFrom_of_inOrder {src : List Char} {hi : Nat} :
    ∀ (kids : List Cst) (lo : Nat), (∀ c ∈ kids.head?, lo ≤ c.start) →
      (∀ c ∈ kids, c.start ≤ c.stop ∧ c.stop ≤ hi) → InOrder kids →
      (∀ c ∈ kids, WellFormed src c) → KidsFrom src lo hi kids
  | [], _, _, _, _, _ => trivial
  | [c], lo, hlo, hin, _, hwf =>
    ⟨hlo c rfl, (hin c (by simp)).1, (hin c (by simp)).2, hwf c (by simp), trivial⟩
  | c :: d :: rest, lo, hlo, hin, ⟨hcd, hord⟩, hwf =>
    ⟨hlo c rfl, (hin c (by simp)).1, (hin c (by simp)).2, hwf c (by simp),
      kidsFrom_of_inOrder (d :: rest) c.stop (fun e he => by cases he; exact hcd)
        (fun e he => hin e (List.mem_cons_of_mem c he)) hord
        (fun e he => hwf e (List.mem_cons_of_mem c he))⟩

theorem WellFormed.kidsFrom {src : List Char} {kind : String} {named extra : Bool}
    {field : Option String} {s t : Nat} {kids : List Cst}
    (h : WellFormed src (.node kind named extra field s t kids)) : KidsFrom src s t kids := by
  cases h with
  | node _ _ hin hord hwf =>
    exact kidsFrom_of_inOrder kids s (fun c hc => (hin c (List.mem_of_mem_head? hc)).1)
      (fun c hc => (hin c hc).2) hord hwf

end Cst

/-- What lowering into arena node `P` leaves behind, starting from the arena `acc`: a well
formed arena that keeps `acc`, whose last node lies under `P`, whose new nodes hang under `P`
or under each other, and in which the children of `P` end by `bound`. -/
structure LowerPost (src : List Char) (acc acc' : Array SyntaxNode) (P bound : Nat) : Prop where
  wf : ArenaWf src acc'
  keeps : Keeps acc acc'
  last : AncestorOrSelf (parentIn acc') P (acc'.size - 1)
  fresh : ∀ i, acc.size ≤ i → i < acc'.size → ∃ q, parentIn acc' i = some q ∧ (q = P ∨ acc.size ≤ q)
  siblings : ∀ i, parentIn acc' i = some P → (acc'.getD i default).stop ≤ bound

theorem LowerPost.stay {src : List Char} {acc : Array SyntaxNode} {P bound : Nat}
    (hw : ArenaWf src acc) (hanc : AncestorOrSelf (parentIn acc) P (acc.size - 1))
    (hsib : ∀ i, parentIn acc i = some P → (acc.getD i default).stop ≤ bound) :
    LowerPost src acc acc P bound :=
  ⟨hw, Keeps.refl acc, hanc, fun _ h₁ h₂ => absurd h₂ (Nat.not_lt_of_le h₁), hsib⟩

theorem LowerPost.mono {src : List Char} {acc acc' : Array SyntaxNode} {P b b' : Nat}
    (h : LowerPost src acc acc' P b) (hb : b ≤ b') : LowerPost src acc acc' P b' :=
  ⟨h.wf, h.keeps, h.last, h.fresh, fun i hi => Nat.le_trans (h.siblings i hi) hb⟩

theorem LowerPost.trans {src : List Char} {acc acc₁ acc₂ : Array SyntaxNode} {P b₁ b₂ : Nat}
    (h₁ : LowerPost src acc acc₁ P b₁) (h₂ : LowerPost src acc₁ acc₂ P b₂) :
    LowerPost src acc acc₂ P b₂ := by
  refine ⟨h₂.wf, h₁.keeps.trans h₂.keeps, h₂.last, fun i hi hi₂ => ?_, h₂.siblings⟩
  by_cases hi₁ : i < acc₁.size
  · obtain ⟨q, hq, hqP⟩ := h₁.fresh i hi hi₁
    exact ⟨q, (h₂.keeps.parentIn_eq hi₁).trans hq, hqP⟩
  · obtain ⟨q, hq, hqP⟩ := h₂.fresh i (Nat.le_of_not_lt hi₁) hi₂
    refine ⟨q, hq, hqP.imp_right fun h => Nat.le_trans h₁.keeps.size_le h⟩

theorem LowerPost.push {src : List Char} {acc : Array SyntaxNode} {n : SyntaxNode} {P : Nat}
    (hw : ArenaWf src acc) (hP : n.parent = some P)
    (hanc : AncestorOrSelf (parentIn acc) P (acc.size - 1)) (hc : n.children = #[])
    (hs : Spans src n) (hfs : (acc.getD P default).fullStart ≤ n.fullStart)
    (hstop : n.stop ≤ (acc.getD P default).stop)
    (hsib : ∀ c, parentIn acc c = some P → (acc.getD c default).stop ≤ n.fullStart) :
    LowerPost src acc (pushNode acc n) P n.stop := by
  have hk := Keeps.pushNode acc n
  have hnew : parentIn (pushNode acc n) acc.size = some P := by
    rw [parentIn_pushNode, if_pos rfl, hP]
  refine ⟨hw.push hP hanc hc hs hfs hstop hsib, hk, ?_, ?_, ?_⟩
  · rw [size_pushNode, Nat.add_sub_cancel]
    exact .up hnew .refl
  · intro i hi hi'
    rw [size_pushNode] at hi'
    obtain rfl : i = acc.size := by omega
    exact ⟨P, hnew, .inl rfl⟩
  · intro i hi
    by_cases h : i = acc.size
    · subst h
      rw [getD_pushNode, if_pos rfl]
    · rw [parentIn_pushNode, if_neg h] at hi
      have hlt := (hw.parent_lt' hi).2
      rw [hk.stop_eq hlt]
      exact Nat.le_trans (hsib i hi) (Nat.le_trans hs.fullStart_le hs.start_le)

/-- Lowering under a node `id` just added under `P` is lowering under `P`: what hangs under `id`
hangs under `P`. -/
theorem LowerPost.nest {src : List Char} {acc acc₁ acc₂ : Array SyntaxNode} {P b b' : Nat}
    (h₁ : LowerPost src acc acc₁ P b) (hsize : acc₁.size = acc.size + 1)
    (hid : parentIn acc₁ acc.size = some P) (h₂ : LowerPost src acc₁ acc₂ acc.size b') :
    LowerPost src acc acc₂ P b := by
  have hPlt : P < acc.size := (h₁.wf.parent_lt' hid).1
  have hid₂ : parentIn acc₂ acc.size = some P :=
    (h₂.keeps.parentIn_eq (by omega)).trans hid
  refine ⟨h₂.wf, h₁.keeps.trans h₂.keeps, h₂.last.trans (.up hid₂ .refl), ?_, ?_⟩
  · intro i hi hi₂
    by_cases h : i = acc.size
    · exact ⟨P, h ▸ hid₂, .inl rfl⟩
    · obtain ⟨q, hq, hqP⟩ := h₂.fresh i (by omega) hi₂
      exact ⟨q, hq, .inr (by omega)⟩
  · intro i hi
    by_cases h : i < acc₁.size
    · rw [h₂.keeps.stop_eq h]
      exact h₁.siblings i ((h₂.keeps.parentIn_eq h).symm.trans hi)
    · obtain ⟨q, hq, hqP⟩ := h₂.fresh i (Nat.le_of_not_lt h) (h₂.wf.parent_lt' hi).2
      rw [hi] at hq
      cases hq
      omega

mutual

/-- Lowering a kept node under `P`: it becomes the last child of `P`, its leading trivia start
at `fs`, and its children are lowered under it. -/
theorem lowerNode_post {src : List Char} :
    ∀ (c : Cst) (P : Nat) (role : Role) (fs : Nat) (acc : Array SyntaxNode),
      ArenaWf src acc → AncestorOrSelf (parentIn acc) P (acc.size - 1) → c.WellFormed src →
      fs ≤ c.start → c.start ≤ c.stop → isBoundary src fs →
      (acc.getD P default).fullStart ≤ fs → c.stop ≤ (acc.getD P default).stop →
      (∀ i, parentIn acc i = some P → (acc.getD i default).stop ≤ fs) →
      LowerPost src acc (lowerNode c P role fs acc) P c.stop
  | .node k named extra field s t kids, P, role, fs, acc, hw, hanc, hc, hfs, hst, hfb, hPf, hPs,
      hsib => by
    have hPlt := hw.lt_of_ancestorOrSelf_last hanc
    have hb := hc.boundaries
    have hmin : min fs s = fs := Nat.min_eq_left hfs
    let n : SyntaxNode := ⟨NodeKind.ofRaw k, k, role, s, t, min fs s, some P, #[]⟩
    have hspan : Spans src n := by
      refine ⟨Nat.min_le_right _ _, hst, ?_, ?_, hb.1, hb.2⟩
      · exact Nat.le_trans hPs (hw.spans P hPlt).stop_le
      · show isBoundary src (min fs s) = true
        rw [hmin]
        exact hfb
    have h₁ : LowerPost src acc (pushNode acc n) P t :=
      LowerPost.push hw rfl hanc rfl hspan (by show _ ≤ min fs s; rw [hmin]; exact hPf) hPs
        (by show ∀ i, _ → _ ≤ min fs s; rw [hmin]; exact hsib)
    have hnew : (pushNode acc n).getD acc.size default = n := by rw [getD_pushNode, if_pos rfl]
    have hid : parentIn (pushNode acc n) acc.size = some P := by
      rw [parentIn_pushNode, if_pos rfl]
    simp only [lowerNode]
    split
    · exact h₁
    · -- the children of the new node hang under it, and nothing hung under it before
      have hnone : ∀ i, parentIn (pushNode acc n) i = some acc.size →
          ((pushNode acc n).getD i default).stop ≤ fs := by
        intro i hi
        have := h₁.wf.parent_lt' hi
        rw [size_pushNode] at this
        omega
      have h₂ := lowerChildren_post kids acc.size (NodeKind.ofRaw k) k fs none none
        (pushNode acc n) s t h₁.wf (by rw [size_pushNode, Nat.add_sub_cancel]; exact .refl)
        hc.kidsFrom hfs hfb (by rw [hnew]; exact Nat.min_le_left _ _)
        (by rw [hnew]) hnone
      exact h₁.nest (size_pushNode acc n) hid h₂

/-- Lowering the children of a concrete node into `P`, from the offset `prevEnd.getD base`
where the next child's leading trivia start. -/
theorem lowerChildren_post {src : List Char} :
    ∀ (kids : List Cst) (P : Nat) (pk : NodeKind) (raw : String) (base : Nat)
      (ov : Option Role) (prevEnd : Option Nat) (acc : Array SyntaxNode) (lo hi : Nat),
      ArenaWf src acc → AncestorOrSelf (parentIn acc) P (acc.size - 1) →
      Cst.KidsFrom src lo hi kids → prevEnd.getD base ≤ lo → isBoundary src (prevEnd.getD base) →
      (acc.getD P default).fullStart ≤ prevEnd.getD base → hi ≤ (acc.getD P default).stop →
      (∀ i, parentIn acc i = some P → (acc.getD i default).stop ≤ prevEnd.getD base) →
      LowerPost src acc (lowerChildren kids P pk raw base ov prevEnd acc) P
        (max (prevEnd.getD base) hi)
  | [], _, _, _, _, _, _, acc, _, _, hw, hanc, _, _, _, _, _, hsib =>
    LowerPost.stay hw hanc fun i hi' => Nat.le_trans (hsib i hi') (Nat.le_max_left _ _)
  | .node k named extra field s t kids :: rest, P, pk, raw, base, ov, prevEnd, acc, lo, hi, hw,
      hanc, ⟨hlo, hst, hthi, hc, hrest⟩, hFlo, hFb, hPF, hhi, hsib => by
    replace hlo : lo ≤ s := hlo
    replace hst : s ≤ t := hst
    replace hthi : t ≤ hi := hthi
    have hPlt := hw.lt_of_ancestorOrSelf_last hanc
    have hb := hc.boundaries
    have hFs : prevEnd.getD base ≤ s := Nat.le_trans hFlo hlo
    have hPs : t ≤ (acc.getD P default).stop := Nat.le_trans hthi hhi
    -- after a child that ended at `t`, the rest are lowered from `t`
    have cont : ∀ acc₁, LowerPost src acc acc₁ P t →
        LowerPost src acc (lowerChildren rest P pk raw base ov (some t) acc₁) P
          (max (prevEnd.getD base) hi) := by
      intro acc₁ h₁
      have h₂ := lowerChildren_post rest P pk raw base ov (some t) acc₁ t hi h₁.wf h₁.last hrest
        (Nat.le_refl t) hb.2 (by show _ ≤ t; rw [h₁.keeps.fullStart_eq hPlt]; omega)
        (by rw [h₁.keeps.stop_eq hPlt]; exact hhi) h₁.siblings
      exact (h₁.trans h₂).mono (by show max t hi ≤ _; omega)
    have stay : LowerPost src acc acc P t :=
      LowerPost.stay hw hanc fun i hi' => by have := hsib i hi'; omega
    simp only [lowerChildren]
    split
    · exact lowerChildren_post rest P pk raw base ov prevEnd acc t hi hw hanc hrest (by omega) hFb
        hPF hhi hsib
    · split
      · apply cont
        split
        · exact stay
        · split
          · next r _ =>
            exact (lowerChildren_post kids P pk k (prevEnd.getD base) (some r) none acc s t hw
              hanc hc.kidsFrom hFs hFb hPF hPs hsib).mono
              (by show max (prevEnd.getD base) t ≤ t; omega)
          · exact lowerNode_post _ P _ _ acc hw hanc hc hFs hst hFb hPF hPs hsib
      · apply cont
        split
        · exact LowerPost.push hw rfl hanc rfl
            ⟨hFs, hst, Nat.le_trans hPs (hw.spans P hPlt).stop_le, hFb, hb.1, hb.2⟩ hPF hPs hsib
        · exact stay

end

namespace SyntaxTree

/-- The shape of a tree lowered from a concrete tree over its source. The root is node `0`, the
one node without a parent, and it spans the whole source. Every other node's parent comes
before it, lists of children are the nodes naming that parent, in order of id, and the
descendants of a node are the ids right after it. Every node lies, with its leading trivia,
inside its parent and after its earlier siblings, on character boundaries of the source. -/
structure WellShaped (t : SyntaxTree) : Prop where
  root_parent : t.parent? 0 = none
  root_kind : (t.get 0).kind = .sourceFile
  root_role : (t.get 0).role = .root
  root_fullStart : (t.get 0).fullStart = 0
  root_stop : (t.get 0).stop = Text.size t.source
  parent_lt : ∀ i, 0 < i → i < t.nodes.size → ∃ p, t.parent? i = some p ∧ p < i
  mem_children : ∀ p c, c ∈ t.children p ↔ t.parent? c = some p
  children_sorted : ∀ p, (t.children p).Pairwise (· < ·)
  preorder : ∀ n < t.nodes.size, ∃ k, ∀ m, Below t.parent? m n ↔ n < m ∧ m ≤ n + k
  spans : ∀ i < t.nodes.size, Spans t.source.toList (t.get i)
  nested : ∀ c p, t.parent? c = some p →
    (t.get p).fullStart ≤ (t.get c).fullStart ∧ (t.get c).stop ≤ (t.get p).stop
  siblings : ∀ i j p, t.parent? i = some p → t.parent? j = some p → i < j →
    (t.get i).stop ≤ (t.get j).fullStart

/-- A well formed arena over the source whose root is a source file spanning it is a well
shaped tree. -/
theorem WellShaped.of_arenaWf {t : SyntaxTree} (hw : ArenaWf t.source.toList t.nodes)
    (hkind : (t.get 0).kind = .sourceFile) (hrole : (t.get 0).role = .root)
    (hfs : (t.get 0).fullStart = 0) (hstop : (t.get 0).stop = Text.size t.source) :
    WellShaped t where
  root_parent := hw.root_parent
  root_kind := hkind
  root_role := hrole
  root_fullStart := hfs
  root_stop := hstop
  parent_lt := hw.parent_lt
  mem_children := fun p c => by
    rw [children, get, hw.children p, List.mem_filter, List.mem_range, beq_iff_eq]
    exact ⟨fun h => h.2, fun h => ⟨(hw.parent_lt' h).2, h⟩⟩
  children_sorted := fun p => by
    rw [children, get, hw.children p]
    exact List.pairwise_lt_range.filter _
  preorder := fun _ hn => hw.below_block hn
  spans := hw.spans
  nested := hw.nested
  siblings := hw.siblings

/-- Whether `r` can be the root of a tree over `src`: a parentless, childless source file that
spans it. -/
def rootOk (src : String) (r : SyntaxNode) : Bool :=
  r.kind == .sourceFile && r.role == .root && r.parent.isNone && r.children.isEmpty &&
    r.fullStart == 0 && r.stop == Text.size src && decide (Spans src.toList r)

/-- A tree whose nodes are a root and nodes pushed under it, each passing `pushOk`, is well
shaped: a witness tree is checked by evaluating `rootOk` and `pushesOk`. -/
theorem WellShaped.of_pushesOk {t : SyntaxTree} {r : SyntaxNode} {ns : List SyntaxNode}
    (hnodes : t.nodes = ns.foldl pushNode #[r])
    (h : (rootOk t.source r && pushesOk t.source.toList #[r] ns) = true) : t.WellShaped := by
  simp only [rootOk, Bool.and_eq_true, beq_iff_eq, Option.isNone_iff_eq_none,
    Array.isEmpty_iff, decide_eq_true_eq] at h
  obtain ⟨⟨⟨⟨⟨⟨⟨hkind, hrole⟩, hpar⟩, hkids⟩, hfs⟩, hstop⟩, hspans⟩, hok⟩ := h
  have hw := (ArenaWf.single hpar hkids hspans).pushAll hok
  have hk := Keeps.pushAll ns #[r]
  have h0 : 0 < #[r].size := Nat.zero_lt_one
  rw [← hnodes] at hw hk
  exact .of_arenaWf hw ((hk.kind_eq h0).trans hkind) ((hk.role_eq h0).trans hrole)
    ((hk.fullStart_eq h0).trans hfs) ((hk.stop_eq h0).trans hstop)

/-- Whether `t` is its root with the other nodes pushed under it in turn, each as `pushOk` asks:
a check that evaluates, for trees written out by hand. -/
def checkShape (t : SyntaxTree) : Bool :=
  match t.nodes.toList.map fun n => { n with children := #[] } with
  | [] => false
  | r :: ns =>
    rootOk t.source r && pushesOk t.source.toList #[r] ns && decide (t.nodes = ns.foldl pushNode #[r])

theorem WellShaped.of_checkShape {t : SyntaxTree} (h : t.checkShape = true) : t.WellShaped := by
  unfold checkShape at h
  split at h
  · cases h
  · simp only [Bool.and_eq_true, decide_eq_true_eq] at h
    exact .of_pushesOk h.2 (Bool.and_eq_true _ _ ▸ h.1)

/-- In a well shaped tree the text of every node, with or without its leading trivia, can be
cut out of the source. -/
theorem WellShaped.isSome_text? {t : SyntaxTree} (h : t.WellShaped) {i : Nat}
    (hi : i < t.nodes.size) : (t.text? i).isSome ∧ (t.fullText? i).isSome := by
  have hs := h.spans i hi
  simp only [text?, fullText?, Text.slice?, Option.isSome_map]
  exact ⟨(isSome_sliceBytes_iff hs.start_le).2 ⟨hs.start_boundary, hs.stop_boundary⟩,
    (isSome_sliceBytes_iff (Nat.le_trans hs.fullStart_le hs.start_le)).2
      ⟨hs.fullStart_boundary, hs.stop_boundary⟩⟩

/-- In a well shaped tree every id reads as a node inside the source: an id past the last node
reads as an empty node at offset `0`. -/
theorem WellShaped.spans_get {t : SyntaxTree} (h : t.WellShaped) (i : Nat) :
    Spans t.source.toList (t.get i) := by
  by_cases hi : i < t.nodes.size
  · exact h.spans i hi
  · have hget : t.get i = default := by simp [get, Array.getD, hi]
    rw [hget]
    exact ⟨Nat.le_refl 0, Nat.le_refl 0, Nat.zero_le _, isBoundary_zero _, isBoundary_zero _,
      isBoundary_zero _⟩

/-- In a well shaped tree the text of a node inside the range of another is a piece of the
other's text. -/
theorem WellShaped.text_infix {t : SyntaxTree} (h : t.WellShaped) {n i : Nat}
    (hs : (t.get n).start ≤ (t.get i).start) (he : (t.get i).stop ≤ (t.get n).stop) :
    (t.text i).toList <:+: (t.text n).toList := by
  have sn := h.spans_get n
  have si := h.spans_get i
  obtain ⟨m, hm⟩ := Option.isSome_iff_exists.1
    ((isSome_sliceBytes_iff sn.start_le).2 ⟨sn.start_boundary, sn.stop_boundary⟩)
  obtain ⟨m', hm'⟩ := Option.isSome_iff_exists.1
    ((isSome_sliceBytes_iff si.start_le).2 ⟨si.start_boundary, si.stop_boundary⟩)
  simp only [text, text?, slice?, hm, hm', Option.map_some, Option.getD_some,
    String.toList_ofList]
  exact sliceBytes_infix hs si.start_le he hm hm'

theorem WellShaped.lt_of_parent {t : SyntaxTree} (h : t.WellShaped) {i p : Nat}
    (hp : t.parent? i = some p) : p < i ∧ i < t.nodes.size := by
  have hi : i < t.nodes.size := by
    by_cases hi : i < t.nodes.size
    · exact hi
    · simp [parent?, get, Array.getD, hi] at hp
      cases hp
  have hi0 : 0 < i := by
    cases i with
    | zero => simp [h.root_parent] at hp
    | succ i => omega
  obtain ⟨q, hq, hlt⟩ := h.parent_lt i hi0 hi
  rw [hp] at hq
  cases hq
  exact ⟨hlt, hi⟩

theorem WellShaped.le_of_ancestorOrSelf {t : SyntaxTree} (h : t.WellShaped) {a m : Nat}
    (ham : AncestorOrSelf t.parent? a m) : a ≤ m := by
  induction ham with
  | refl => exact Nat.le_refl _
  | up hp _ ih => exact Nat.le_trans ih (Nat.le_of_lt (h.lt_of_parent hp).1)

theorem WellShaped.parent?_of_child? {t : SyntaxTree} (h : t.WellShaped) {p c : Nat} {r : Role}
    (hc : t.child? p r = some c) : t.parent? c = some p ∧ (t.get c).role = r :=
  ⟨(h.mem_children p c).1 (List.mem_of_find?_eq_some hc), by simpa using List.find?_some hc⟩

/-- Lowering a concrete tree that a parser built over a source, with children in order and
inside their parents and offsets between characters, gives a well shaped tree. -/
theorem ofConcrete_wellShaped {src : String} {root : Cst} (hc : root.WellFormed src.toList)
    (hlen : root.stop ≤ Text.size src) : (ofConcrete src root).WellShaped := by
  cases root with
  | node k named extra field s t kids =>
    let r : SyntaxNode :=
      ⟨.sourceFile, k, .root, min s (Text.size src), Text.size src, 0, none, #[]⟩
    have hmin : isBoundary src.toList (min s (Text.size src)) := by
      rcases Nat.le_total s (Text.size src) with h | h
      · rw [Nat.min_eq_left h]
        exact hc.boundaries.1
      · rw [Nat.min_eq_right h]
        exact isBoundary_byteLength _
    have hr : Spans src.toList r :=
      ⟨Nat.zero_le _, Nat.min_le_right _ _, Nat.le_refl _, isBoundary_zero _, hmin,
        isBoundary_byteLength _⟩
    have hw : ArenaWf src.toList #[r] := ArenaWf.single rfl rfl hr
    have hpost := lowerChildren_post kids 0 .sourceFile k 0 none none #[r] s t hw .refl
      hc.kidsFrom (Nat.zero_le _) (isBoundary_zero _) (Nat.le_refl _) hlen
      (fun i hi => by rw [parentIn_single rfl] at hi; cases hi)
    have h0 : 0 < #[r].size := Nat.zero_lt_one
    exact WellShaped.of_arenaWf hpost.wf (hpost.keeps.kind_eq h0) (hpost.keeps.role_eq h0)
      (hpost.keeps.fullStart_eq h0) (hpost.keeps.stop_eq h0)

/-- Two identifiers around a blank, the first a two-byte character. -/
theorem ofConcrete_wellShaped_two_identifiers :
    (Cst.node "program" true false none 0 4 [.node "identifier" true false none 0 2 [],
        .node "identifier" true false none 3 4 []]).WellFormed "é x".toList ∧
      (Cst.node "program" true false none 0 4 [.node "identifier" true false none 0 2 [],
        .node "identifier" true false none 3 4 []]).stop ≤ Text.size "é x" ∧
      (ofConcrete "é x" (.node "program" true false none 0 4
        [.node "identifier" true false none 0 2 [],
          .node "identifier" true false none 3 4 []])).WellShaped := by
  have hwf : (Cst.node "program" true false none 0 4 [.node "identifier" true false none 0 2 [],
      .node "identifier" true false none 3 4 []]).WellFormed "é x".toList := by
    refine .node (by decide) (by decide) (by decide) ⟨by decide, trivial⟩ ?_
    simp only [List.mem_cons, List.not_mem_nil, or_false]
    rintro c (rfl | rfl)
    · exact .node (by decide) (by decide) (by simp) trivial (by simp)
    · exact .node (by decide) (by decide) (by simp) trivial (by simp)
  exact ⟨hwf, by decide, ofConcrete_wellShaped hwf (by decide)⟩

end SyntaxTree

end SyntaxEdit.Syntax
