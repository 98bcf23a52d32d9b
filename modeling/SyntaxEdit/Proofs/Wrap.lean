import SyntaxEdit.Proofs.LogSite

namespace SyntaxEdit.LogSite

open SyntaxEdit.Syntax SyntaxTree

variable {t : SyntaxTree}

def isIteration : NodeKind → Bool
  | .whileStatement | .doStatement | .forStatement | .forInStatement => true
  | _ => false

def anchor : LogSite → Nat
  | .before i _ => i
  | .after i => i
  | .inside i => i

def wrapLabels : List String := ["wrap in block, log before", "wrap in block, log after"]

/-- A labeled statement, as lowering gives it: one of the other statements, of raw kind
`labeled_statement`. -/
def IsLabeled (t : SyntaxTree) (p : Nat) : Prop :=
  (t.get p).raw = "labeled_statement" ∧ (t.get p).kind = .otherStatement

/-- Node `m` is a loop that a label names: an iteration statement right under a labeled
statement. -/
def LabeledLoop (t : SyntaxTree) (m : Nat) : Prop :=
  isIteration (t.get m).kind ∧ ∃ p, t.parent? m = some p ∧ IsLabeled t p

/-- What the rule of node `q`, whose parent is `p`, may place: a site at `q`; a site at `p`, an
`if` or a `for … in/of`; or a site at the body of `p`, a function or a loop. -/
def RuleSite (t : SyntaxTree) (q p : Nat) (site : LogSite) : Prop :=
  site.anchor = q ∨
    site.anchor = p ∧ ((t.get p).kind = .ifStatement ∨ (t.get p).kind = .forInStatement) ∨
    ((t.get p).kind.isFunctionLike ∨ isIteration (t.get p).kind) ∧
      t.child? p .body = some site.anchor

theorem child?_body_of_map {p : Nat} {s : LogSite} {g : Nat → LogSite}
    (hg : ∀ b, (g b).anchor = b) (h : (t.child? p .body).map g = some s) :
    t.child? p .body = some s.anchor := by
  obtain ⟨b, hb, rfl⟩ := Option.map_eq_some_iff.1 h
  rw [hg, hb]

theorem child?_body_of_loopBody {p : Nat} {s : LogSite} (h : loopBody t p = some s) :
    t.child? p .body = some s.anchor := by
  simp only [loopBody, Option.bind_eq_bind, Option.bind_eq_some_iff, Option.pure_def,
    Option.some.injEq] at h
  obtain ⟨b, hb, rfl⟩ := h
  rw [hb]
  split <;> rfl

/-- One step of the climb: the node's own rule places the site, or the search goes on from its
parent. -/
theorem resolveAux_succ_cases {fuel q : Nat} {site : LogSite}
    (h : resolveAux t (fuel + 1) q = some site) :
    ∃ p, t.parent? q = some p ∧ (RuleSite t q p site ∨ resolveAux t fuel p = some site) := by
  cases hp : t.parent? q with
  | none =>
    simp only [parent?] at hp
    simp [resolveAux, hp] at h
  | some p =>
    refine ⟨p, rfl, ?_⟩
    simp only [parent?] at hp
    rw [resolveAux, hp] at h
    simp only [Option.bind_eq_bind, Option.bind_some] at h
    split at h
    · cases h
      exact .inl (.inl rfl)
    split at h
    · next s hs =>
      -- a parameter: the log goes into the body of its function
      cases h
      split at hs
      · next hfn =>
        simp only [Bool.and_eq_true] at hfn
        exact .inl (.inr (.inr ⟨.inl hfn.2, child?_body_of_map (fun _ => by split <;> rfl) hs⟩))
      · cases hs
    split at h
    · next s hs =>
      -- the rules of an `if` and of the loops
      cases h
      split at hs
      · next hk =>
        split at hs
        · cases hs
          exact .inl (.inr (.inl ⟨rfl, .inl hk⟩))
        · cases hs
      · next hk =>
        exact .inl (.inr (.inr ⟨.inr (by simp [hk, isIteration]),
          child?_body_of_map (fun _ => by split <;> rfl) hs⟩))
      · next hk =>
        exact .inl (.inr (.inr ⟨.inr (by simp [hk, isIteration]),
          child?_body_of_map (fun _ => by split <;> rfl) hs⟩))
      · next hk =>
        split at hs
        · exact .inl (.inr (.inr ⟨.inr (by simp [hk, isIteration]),
            child?_body_of_loopBody hs⟩))
        split at hs
        · cases hs
          exact .inl (.inr (.inl ⟨rfl, .inr hk⟩))
        · cases hs
      · next hk =>
        exact .inl (.inr (.inr ⟨.inr (by simp [hk, isIteration]), child?_body_of_loopBody hs⟩))
      · cases hs
    · -- a `return`, a statement in the place of one, or no rule at all
      split at h
      · cases h
      split at h
      · cases h
        exact .inl (.inl rfl)
      split at h
      · cases h
        exact .inl (.inl rfl)
      · exact .inr h

theorem resolveAux_cases : ∀ (fuel n : Nat) {site : LogSite}, resolveAux t fuel n = some site →
    ∃ q p, AncestorOrSelf t.parent? q n ∧ t.parent? q = some p ∧ RuleSite t q p site
  | 0, _, _, h => by simp [resolveAux] at h
  | f + 1, n, _, h => by
    obtain ⟨p, hp, hrule | hrest⟩ := resolveAux_succ_cases h
    · exact ⟨n, p, .refl, hp, hrule⟩
    · obtain ⟨q, p', hq, hqp, hrule⟩ := resolveAux_cases f p hrest
      exact ⟨q, p', (AncestorOrSelf.up hp .refl).trans hq, hqp, hrule⟩

/-- A wrap rewrites the node its site is placed at, from its leading trivia to its end, and
that node has no block-like parent: a site at the top of a body goes right before a statement,
which hangs under a block-like node, and so never wraps. -/
theorem materialize_wraps_anchor (ht : t.WellShaped) (hs : t.StatementsInBlocks) (text : String)
    (site : LogSite) (h : (materialize t text site).label ∈ wrapLabels) :
    (materialize t text site).start = (t.get site.anchor).fullStart ∧
      (materialize t text site).stop = (t.get site.anchor).stop ∧
      t.inBlockLike site.anchor = false := by
  cases site with
  | before i r =>
    by_cases hb : t.inBlockLike i
    · simp [materialize, beforeEdit, hb, TextEdit.insert, wrapLabels] at h
    · simp [materialize, beforeEdit, hb, TextEdit.replace, anchor]
  | after i =>
    by_cases hb : t.inBlockLike i
    · simp [materialize, hb, TextEdit.insert, wrapLabels] at h
    · simp [materialize, hb, TextEdit.replace, anchor]
  | inside i =>
    exfalso
    simp only [materialize] at h
    split at h
    · next first hfirst =>
      obtain ⟨hpar, hrole⟩ := ht.parent?_of_child? hfirst
      have hin : t.inBlockLike first = true := hs first (ht.lt_of_parent hpar).2 hrole
      simp [beforeEdit, hin, TextEdit.insert, wrapLabels] at h
    · simp [TextEdit.insert, wrapLabels] at h

/-- Every site is placed at a node that has a parent: the rule's node, the `if` or loop above
it, which is not the root, or the body of a function or a loop. -/
theorem exists_parent_of_ruleSite (ht : t.WellShaped) {q p : Nat} {site : LogSite}
    (hqp : t.parent? q = some p) (hrule : RuleSite t q p site) :
    ∃ p', t.parent? site.anchor = some p' := by
  rcases hrule with h | ⟨h, hk⟩ | ⟨-, hb⟩
  · exact ⟨p, h ▸ hqp⟩
  · -- an `if` or a loop is no source file, so it is not the root
    have hp0 : 0 < p := Nat.pos_of_ne_zero fun h0 => by
      subst h0
      rcases hk with hk | hk <;> rw [ht.root_kind] at hk <;> cases hk
    obtain ⟨p', hp', -⟩ := ht.parent_lt p hp0
      (Nat.lt_trans (ht.lt_of_parent hqp).1 (ht.lt_of_parent hqp).2)
    exact ⟨p', h ▸ hp'⟩
  · exact ⟨p, (ht.parent?_of_child? hb).1⟩

/-- Every log edit that wraps rewrites exactly one node `m`, from its leading trivia to its
end, and `m` has a parent that is not block-like. A loop that a label names is wrapped only
when the logged node lies inside it, as a log at the iterable of a labeled `for … in/of` does:
every other wrap keeps labels on their loops. -/
theorem wrap_labeledLoop_holds_node (ht : t.WellShaped) (hs : t.StatementsInBlocks) {n : Nat}
    {site : LogSite} (hres : resolve t n = some site) (text : String)
    (hwrap : (materialize t text site).label ∈ wrapLabels) :
    ∃ m p, t.parent? m = some p ∧ (t.get p).kind.isBlockLike = false ∧
      (materialize t text site).start = (t.get m).fullStart ∧
      (materialize t text site).stop = (t.get m).stop ∧
      (LabeledLoop t m → AncestorOrSelf t.parent? m n) := by
  obtain ⟨hstart, hstop, hin⟩ := materialize_wraps_anchor ht hs text site hwrap
  obtain ⟨q, p, hqn, hqp, hrule⟩ := resolveAux_cases _ n hres
  obtain ⟨p', hp'⟩ := exists_parent_of_ruleSite ht hqp hrule
  have hbl : (t.get p').kind.isBlockLike = false := by simpa [inBlockLike, hp'] using hin
  refine ⟨site.anchor, p', hp', hbl, hstart, hstop, fun hloop => ?_⟩
  obtain ⟨-, p'', hp'', hlab⟩ := hloop
  rcases hrule with h | ⟨h, -⟩ | ⟨hk, hb⟩
  · exact h ▸ hqn
  · exact h ▸ hqn.trans (.up hqp .refl)
  · -- the body of a function or a loop hangs under no labeled statement
    rw [(ht.parent?_of_child? hb).1] at hp''
    cases hp''
    rcases hk with hk | hk <;> simp [hlab.2, NodeKind.isFunctionLike, isIteration] at hk

/-- In `outer: for (const x of xs) {}` the log of the iterable `xs` wraps the labeled loop
itself, and the wrap holds `xs`. -/
theorem wrap_labeledLoop_holds_node_iterable :
    let t : SyntaxTree := ⟨"outer: for (const x of xs) \x7b\x7d",
      pushNode (pushNode (pushNode (pushNode (pushNode (pushNode
        #[⟨.sourceFile, "program", .root, 0, 29, 0, none, #[]⟩]
        ⟨.otherStatement, "labeled_statement", .statement, 0, 29, 0, some 0, #[]⟩)
        ⟨.other, "statement_identifier", .other, 0, 5, 0, some 1, #[]⟩)
        ⟨.forInStatement, "for_in_statement", .body, 7, 29, 6, some 1, #[]⟩)
        ⟨.identifier, "identifier", .left, 18, 19, 17, some 3, #[]⟩)
        ⟨.identifier, "identifier", .right, 23, 25, 22, some 3, #[]⟩)
        ⟨.block, "statement_block", .body, 27, 29, 26, some 3, #[]⟩⟩
    t.WellShaped ∧ t.StatementsInBlocks ∧ resolve t 5 = some (.before 3 false) ∧
      (materialize t "console.debug(xs)" (.before 3 false)).label ∈ wrapLabels ∧
      LabeledLoop t 3 ∧
      ∃ m p, t.parent? m = some p ∧ (t.get p).kind.isBlockLike = false ∧
        (materialize t "console.debug(xs)" (.before 3 false)).start = (t.get m).fullStart ∧
        (materialize t "console.debug(xs)" (.before 3 false)).stop = (t.get m).stop ∧
        (LabeledLoop t m → AncestorOrSelf t.parent? m 5) := by
  intro t
  have ht : t.WellShaped := .of_checkShape (by decide)
  have hs : t.StatementsInBlocks := by decide
  have hres : resolve t 5 = some (.before 3 false) := by decide +kernel
  have hwrap : (materialize t "console.debug(xs)" (.before 3 false)).label ∈ wrapLabels := by
    decide +kernel
  have hloop : LabeledLoop t 3 := ⟨rfl, 1, rfl, rfl, rfl⟩
  exact ⟨ht, hs, hres, hwrap, hloop,
    wrap_labeledLoop_holds_node ht hs hres "console.debug(xs)" hwrap⟩

end SyntaxEdit.LogSite
