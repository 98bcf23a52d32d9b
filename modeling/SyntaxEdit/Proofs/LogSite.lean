import Mathlib.Data.List.Infix
import SyntaxEdit.LogSite
import SyntaxEdit.Proofs.Indent
import SyntaxEdit.Proofs.Lower
import SyntaxEdit.Proofs.Roles

namespace SyntaxEdit.LogSite

open SyntaxEdit.Syntax SyntaxTree

variable {t : SyntaxTree}

def bindsInBody (k : NodeKind) : Bool :=
  k.isFunctionLike || k == .forStatement || k == .forInStatement

theorem isBlockLike_of_bindsInBody {k : NodeKind} (h : bindsInBody k) : k.isBlockLike = false := by
  cases k <;> simp_all [bindsInBody, NodeKind.isFunctionLike, NodeKind.isBlockLike]

/-- Node `p` is a clause of `f` whose bindings the body of `f` sees: a parameter of a function,
a clause of a `for` header, or the left side of a `for … in/of`. -/
def BindingClause (t : SyntaxTree) (f p : Nat) : Prop :=
  t.parent? p = some f ∧
    ((t.get f).kind.isFunctionLike ∧ (t.get p).role = .parameter ∨
      (t.get f).kind = .forStatement ∧ ((t.get p).role = .initializer ∨
        (t.get p).role = .condition ∨ (t.get p).role = .increment) ∨
      (t.get f).kind = .forInStatement ∧ (t.get p).role = .left)

theorem BindingClause.bindsInBody {f p : Nat} (h : BindingClause t f p) :
    bindsInBody (t.get f).kind := by
  rcases h.2 with ⟨hf, -⟩ | ⟨hf, -⟩ | ⟨hf, -⟩ <;> simp [LogSite.bindsInBody, hf]

/-- Climbing from `x` to its parent `q` finds no rule: `x` is no statement, and `q` is neither a
function, a loop nor an `if`. -/
def Passes (t : SyntaxTree) (x q : Nat) : Prop :=
  (t.get x).kind.isStatement = false ∧ LogSite.bindsInBody (t.get q).kind = false ∧
    (t.get q).kind ≠ .ifStatement ∧ (t.get q).kind ≠ .whileStatement ∧
    (t.get q).kind ≠ .doStatement

/-- The edit `e` puts the log inside the body `b`: right before its first statement, or, in a
body without statements, just after a block's opening brace or at the end of the body; or it
rewrites exactly the whole body with its leading trivia. -/
def LandsIn (t : SyntaxTree) (e : TextEdit) (b : Nat) : Prop :=
  e.start = (t.get b).fullStart ∧ e.stop = (t.get b).stop ∨
    e.start = e.stop ∧
      ((∃ c, t.child? b .statement = some c ∧ e.start = (t.get c).start) ∨
        t.child? b .statement = none ∧
          e.start = if (t.get b).kind = .block then (t.get b).start + 1 else (t.get b).stop)

theorem resolveAux_succ_of_passes {m q : Nat} (fuel : Nat) (hq : t.parent? m = some q)
    (h : Passes t m q) : resolveAux t (fuel + 1) m = resolveAux t fuel q := by
  obtain ⟨hm, hb, hif, hwh, hdo⟩ := h
  simp only [LogSite.bindsInBody, Bool.or_eq_false_iff, beq_eq_false_iff_ne, ne_eq] at hb
  obtain ⟨⟨hfn, hfor⟩, hforIn⟩ := hb
  have harrow : (t.get q).kind ≠ .arrowFunction := fun h => by
    simp [h, NodeKind.isFunctionLike] at hfn
  have hret : (t.get m).kind ≠ .returnStatement := fun h => by
    simp [h, NodeKind.isStatement] at hm
  simp only [parent?] at hq
  rw [resolveAux, hq]
  simp [harrow, hfn, hforIn, hret, hm]

/-- At a binding clause the climb stops: the site is the top of the body, or right before a
body that is no block. -/
theorem resolveAux_succ_of_bindingClause {f p b : Nat} (fuel : Nat) (hp : BindingClause t f p)
    (hb : t.child? f .body = some b) :
    resolveAux t (fuel + 1) p = some (.inside b) ∨
      ∃ r, resolveAux t (fuel + 1) p = some (.before b r) := by
  obtain ⟨hpf, hfn | hfor | hforIn⟩ := hp
  all_goals simp only [parent?] at hpf
  · -- a parameter: the rule for parameters of functions
    obtain ⟨hfn, hrole⟩ := hfn
    rw [resolveAux, hpf]
    by_cases he : (t.get b).kind.isExpression
    · exact .inr ⟨true, by simp [hfn, hrole, isParameter, hb, he]⟩
    · exact .inl (by simp [hfn, hrole, isParameter, hb, he])
  · -- a clause of a `for` header: the rule for loop bodies
    obtain ⟨hfor, -⟩ := hfor
    rw [resolveAux, hpf]
    by_cases hbl : (t.get b).kind.isBlockLike
    · exact .inl (by simp [hfor, NodeKind.isFunctionLike, loopBody, hb, hbl])
    · exact .inr ⟨false, by simp [hfor, NodeKind.isFunctionLike, loopBody, hb, hbl]⟩
  · -- the left side of a `for … in/of`: the rule for loop bodies
    obtain ⟨hforIn, hrole⟩ := hforIn
    rw [resolveAux, hpf]
    by_cases hbl : (t.get b).kind.isBlockLike
    · exact .inl (by simp [hforIn, hrole, NodeKind.isFunctionLike, loopBody, hb, hbl])
    · exact .inr ⟨false, by simp [hforIn, hrole, NodeKind.isFunctionLike, loopBody, hb, hbl]⟩

/-- Climbing from `m` inside the clause `p`, through nodes that find no rule, reaches `p`; the
fuel lasts, since each step goes to a smaller id. -/
theorem resolveAux_climb (ht : t.WellShaped) {p m : Nat} (hpm : AncestorOrSelf t.parent? p m) :
    (∀ x q, AncestorOrSelf t.parent? p x → AncestorOrSelf t.parent? x m → x ≠ p →
      t.parent? x = some q → Passes t x q) →
    ∀ fuel, m - p < fuel → ∃ k, resolveAux t fuel m = resolveAux t (k + 1) p := by
  induction hpm with
  | refl =>
    intro _ fuel hfuel
    exact ⟨fuel - 1, by rw [Nat.sub_add_cancel (by omega)]⟩
  | @up m q hmq hpq ih =>
    intro hpass fuel hfuel
    have hqm := (ht.lt_of_parent hmq).1
    have hpq' := ht.le_of_ancestorOrSelf hpq
    obtain ⟨f, rfl⟩ : ∃ f, fuel = f + 1 := ⟨fuel - 1, by omega⟩
    rw [resolveAux_succ_of_passes f hmq (hpass m q (.up hmq hpq) .refl (by omega) hmq)]
    exact ih (fun x q' hpx hxq => hpass x q' hpx ((AncestorOrSelf.up hmq .refl).trans hxq)) f
      (by omega)

/-- A site at the top of the body `b`, or right before it, gives an edit that lands in `b`: a
first statement hangs under a block-like node, so the log goes right before it, and a body
under a function or a loop is wrapped whole. -/
theorem landsIn_materialize (ht : t.WellShaped) (hs : t.StatementsInBlocks) {f b : Nat}
    (text : String) (hb : t.parent? b = some f) (hf : (t.get f).kind.isBlockLike = false)
    {site : LogSite} (hsite : site = .inside b ∨ ∃ r, site = .before b r) :
    LandsIn t (materialize t text site) b := by
  rcases hsite with rfl | ⟨r, rfl⟩
  · simp only [materialize]
    split
    · next c hc =>
      obtain ⟨hcb, hrole⟩ := ht.parent?_of_child? hc
      have hin : t.inBlockLike c = true := hs c (ht.lt_of_parent hcb).2 hrole
      have he : beforeEdit t text c false =
          TextEdit.insert (t.get c).start (text ++ "\n") "log before" := by
        simp [beforeEdit, hin]
      rw [he]
      exact .inr ⟨rfl, .inl ⟨c, hc, rfl⟩⟩
    · next hc =>
      exact .inr ⟨rfl, .inr ⟨hc, by simp [TextEdit.insert]⟩⟩
  · have hin : t.inBlockLike b = false := by simp [inBlockLike, hb, hf]
    exact .inl (by simp [materialize, beforeEdit, hin, TextEdit.replace])

/-- The log of a node inside a parameter of a function, or inside a clause of a `for` header,
lands in the body that sees the binding. This needs that nothing on the way up places it first:
the function or loop is the nearest one above the node, no statement lies between the node and
the clause, and the clause is no `if`, `while` or `do` statement. -/
theorem resolve_lands_in_binding_body (ht : t.WellShaped) (hs : t.StatementsInBlocks)
    {n p f b : Nat} (hclause : BindingClause t f p) (hbody : t.child? f .body = some b)
    (hin : AncestorOrSelf t.parent? p n)
    (hnear : ∀ m, AncestorOrSelf t.parent? p m → AncestorOrSelf t.parent? m n → m ≠ n →
      bindsInBody (t.get m).kind = false)
    (hstmt : ∀ m, AncestorOrSelf t.parent? p m → AncestorOrSelf t.parent? m n → m ≠ p →
      (t.get m).kind.isStatement = false)
    (hp : (t.get p).kind ≠ .ifStatement ∧ (t.get p).kind ≠ .whileStatement ∧
      (t.get p).kind ≠ .doStatement) (text : String) :
    ∃ site, resolve t n = some site ∧ LandsIn t (materialize t text site) b := by
  -- every step from `n` up to the clause finds no rule
  have hpass : ∀ x q, AncestorOrSelf t.parent? p x → AncestorOrSelf t.parent? x n → x ≠ p →
      t.parent? x = some q → Passes t x q := by
    intro x q hpx hxn hxp hxq
    have hpq : AncestorOrSelf t.parent? p q := by
      cases hpx with
      | refl => exact absurd rfl hxp
      | up h h' =>
        rw [hxq] at h
        cases h
        exact h'
    have hqn : AncestorOrSelf t.parent? q n := hxn.trans (.up hxq .refl)
    have hqn' : q ≠ n := by
      have := (ht.lt_of_parent hxq).1
      have := ht.le_of_ancestorOrSelf hxn
      omega
    refine ⟨hstmt x hpx hxn hxp, hnear q hpq hqn hqn', ?_⟩
    by_cases hqp : q = p
    · exact hqp ▸ hp
    · -- a node between the clause and `n` is no statement, so no `if` or loop either
      have hq := hstmt q hpq hqn hqp
      refine ⟨fun h => ?_, fun h => ?_, fun h => ?_⟩ <;> simp [h, NodeKind.isStatement] at hq
  have hfuel : n - p < t.nodes.size + 1 := by
    cases hin with
    | refl => omega
    | up hnq _ =>
      have := (ht.lt_of_parent hnq).2
      omega
  obtain ⟨k, hk⟩ := resolveAux_climb ht hin hpass _ hfuel
  have hbf := (ht.parent?_of_child? hbody).1
  have hf := isBlockLike_of_bindsInBody hclause.bindsInBody
  rcases resolveAux_succ_of_bindingClause k hclause hbody with hsite | ⟨r, hsite⟩
  · exact ⟨_, hk.trans hsite, landsIn_materialize ht hs text hbf hf (.inl rfl)⟩
  · exact ⟨_, hk.trans hsite, landsIn_materialize ht hs text hbf hf (.inr ⟨r, rfl⟩)⟩

/-- `function f(a) {}`: a declaration with one parameter and an empty body, as the TypeScript
grammar reads it. -/
def oneParameterFunction : SyntaxTree :=
  ⟨"function f(a) \x7b\x7d",
    [⟨.functionDeclaration, "function_declaration", .statement, 0, 16, 0, some 0, #[]⟩,
      ⟨.identifier, "identifier", .name, 9, 10, 8, some 1, #[]⟩,
      ⟨.parameter, "required_parameter", .parameter, 11, 12, 11, some 1, #[]⟩,
      ⟨.identifier, "identifier", .name, 11, 12, 11, some 3, #[]⟩,
      ⟨.block, "statement_block", .body, 14, 16, 13, some 1, #[]⟩].foldl pushNode
    #[⟨.sourceFile, "program", .root, 0, 16, 0, none, #[]⟩]⟩

theorem oneParameterFunction_wellShaped : oneParameterFunction.WellShaped :=
  .of_checkShape (by decide)

/-- In `function f(a) {}` the log of the parameter `a` goes into the empty body. -/
theorem resolve_lands_in_binding_body_parameter :
    let t := oneParameterFunction
    t.WellShaped ∧ t.StatementsInBlocks ∧ BindingClause t 1 3 ∧ t.child? 1 .body = some 5 ∧
      AncestorOrSelf t.parent? 3 4 ∧
      ∃ site, resolve t 4 = some site ∧ LandsIn t (materialize t "console.debug(a)" site) 5 := by
  intro t
  have ht : t.WellShaped := oneParameterFunction_wellShaped
  have hs : t.StatementsInBlocks := by decide
  have hclause : BindingClause t 1 3 := ⟨rfl, .inl ⟨rfl, rfl⟩⟩
  have hbody : t.child? 1 .body = some 5 := by decide
  have hin : AncestorOrSelf t.parent? 3 4 := .up rfl .refl
  -- the only nodes from the clause down to `a` are the clause and `a`
  have hpath : ∀ m, AncestorOrSelf t.parent? 3 m → AncestorOrSelf t.parent? m 4 → m = 3 ∨ m = 4 :=
    fun m h₁ h₂ => by
      have := ht.le_of_ancestorOrSelf h₁
      have := ht.le_of_ancestorOrSelf h₂
      omega
  refine ⟨ht, hs, hclause, hbody, hin, resolve_lands_in_binding_body ht hs hclause hbody hin
    (fun m h₁ h₂ hm => ?_) (fun m h₁ h₂ hm => ?_) (by decide) _⟩
  · obtain rfl | rfl := hpath m h₁ h₂
    · rfl
    · exact absurd rfl hm
  · obtain rfl | rfl := hpath m h₁ h₂
    · exact absurd rfl hm
    · rfl

/-- A `catch` clause has no rule: in `try {} catch (e) {} finally {}` its parameter `e` is
logged after the whole `try` statement, past the end of the `catch` body where `e` is in
scope. -/
theorem catch_binding_logged_after_try :
    let t : SyntaxTree := ⟨"try {} catch (e) {} finally {}", #[
      ⟨.sourceFile, "program", .root, 0, 30, 0, none, #[1]⟩,
      ⟨.otherStatement, "try_statement", .statement, 0, 30, 0, some 0, #[2, 3, 6]⟩,
      ⟨.block, "statement_block", .body, 4, 6, 3, some 1, #[]⟩,
      ⟨.other, "catch_clause", .other, 7, 19, 6, some 1, #[4, 5]⟩,
      ⟨.identifier, "identifier", .parameter, 14, 15, 14, some 3, #[]⟩,
      ⟨.block, "statement_block", .body, 17, 19, 16, some 3, #[]⟩,
      ⟨.other, "finally_clause", .other, 20, 30, 19, some 1, #[7]⟩,
      ⟨.block, "statement_block", .body, 28, 30, 27, some 6, #[]⟩]⟩
    t.parent? 4 = some 3 ∧ (t.get 3).raw = "catch_clause" ∧ (t.get 4).role = .parameter ∧
      t.child? 3 .body = some 5 ∧ resolve t 4 = some (.after 1) ∧
      (∀ text, (materialize t text (.after 1)).start = 30 ∧
        (materialize t text (.after 1)).stop = 30) ∧
      (t.get 5).stop = 19 := by
  intro t
  exact ⟨rfl, rfl, rfl, by decide, by decide, fun _ => ⟨rfl, rfl⟩, rfl⟩

/-- A statement on the way up to a parameter takes the log itself: in
`function f(a = class { static { g(a); } }) {}` the `a` in the class static block of the default
value is logged after `g(a);`, inside the static block and outside the body of `f`. -/
theorem static_block_in_default_logged_outside_body :
    let t : SyntaxTree := ⟨"function f(a = class \x7b static \x7b g(a); \x7d \x7d) \x7b\x7d",
      [⟨.functionDeclaration, "function_declaration", .statement, 0, 45, 0, some 0, #[]⟩,
        ⟨.identifier, "identifier", .name, 9, 10, 8, some 1, #[]⟩,
        ⟨.parameter, "required_parameter", .parameter, 11, 41, 11, some 1, #[]⟩,
        ⟨.identifier, "identifier", .name, 11, 12, 11, some 3, #[]⟩,
        ⟨.otherExpression, "class", .value, 15, 41, 14, some 3, #[]⟩,
        ⟨.other, "class_body", .body, 21, 41, 20, some 5, #[]⟩,
        ⟨.other, "class_static_block", .other, 23, 39, 22, some 6, #[]⟩,
        ⟨.block, "statement_block", .body, 30, 39, 29, some 7, #[]⟩,
        ⟨.expressionStatement, "expression_statement", .statement, 32, 37, 31, some 8, #[]⟩,
        ⟨.callExpression, "call_expression", .other, 32, 36, 31, some 9, #[]⟩,
        ⟨.identifier, "identifier", .callee, 32, 33, 31, some 10, #[]⟩,
        ⟨.identifier, "identifier", .argument, 34, 35, 34, some 10, #[]⟩,
        ⟨.block, "statement_block", .body, 43, 45, 42, some 1, #[]⟩].foldl pushNode
      #[⟨.sourceFile, "program", .root, 0, 45, 0, none, #[]⟩]⟩
    t.WellShaped ∧ t.StatementsInBlocks ∧ BindingClause t 1 3 ∧ AncestorOrSelf t.parent? 3 12 ∧
      t.child? 1 .body = some 13 ∧ resolve t 12 = some (.after 9) ∧
      ∀ text, ¬ LandsIn t (materialize t text (.after 9)) 13 := by
  intro t
  refine ⟨.of_checkShape (by decide), by decide, ⟨rfl, .inl ⟨rfl, rfl⟩⟩,
    .up rfl (.up rfl (.up rfl (.up rfl (.up rfl (.up rfl (.up rfl .refl)))))), by decide,
    by decide +kernel, fun text => ?_⟩
  have hs : (materialize t text (.after 9)).start = 37 := rfl
  have hst : (materialize t text (.after 9)).stop = 37 := rfl
  have hnone : t.child? 13 .statement = none := by decide
  simp only [LandsIn, hs, hst, hnone]
  decide

/-- The edit `e` wraps node `i`: it rewrites the node with its leading trivia, and its text holds
the node's own text. -/
def Wraps (t : SyntaxTree) (e : TextEdit) (i : Nat) : Prop :=
  e.start = (t.get i).fullStart ∧ e.stop = (t.get i).stop ∧
    ∃ pre post, e.replacement.toList = pre ++ (t.text i).toList ++ post

theorem beforeEdit_cases (t : SyntaxTree) (text : String) (i : Nat) (r : Bool) :
    (beforeEdit t text i r).start = (beforeEdit t text i r).stop ∨
      Wraps t (beforeEdit t text i r) i := by
  by_cases hb : t.inBlockLike i
  · exact .inl (by simp [beforeEdit, hb, TextEdit.insert])
  · refine .inr ⟨by simp [beforeEdit, hb, TextEdit.replace],
      by simp [beforeEdit, hb, TextEdit.replace],
      (" \x7b\n" ++ text ++ "\n" ++ if r then "return " else "").toList, "\n\x7d".toList, ?_⟩
    simp [beforeEdit, hb, TextEdit.replace, List.append_assoc]

theorem materialize_cases (t : SyntaxTree) (text : String) (site : LogSite) :
    (materialize t text site).start = (materialize t text site).stop ∨
      ∃ i, Wraps t (materialize t text site) i := by
  cases site with
  | before i r => exact (beforeEdit_cases t text i r).imp_right fun h => ⟨i, h⟩
  | after i =>
    simp only [materialize]
    split
    · exact .inl rfl
    · refine .inr ⟨i, rfl, rfl, " \x7b\n".toList, ("\n" ++ text ++ "\n\x7d").toList, ?_⟩
      simp [TextEdit.replace, List.append_assoc]
  | inside i =>
    simp only [materialize]
    split
    · next first _ => exact (beforeEdit_cases t text first false).imp_right fun h => ⟨first, h⟩
    · exact .inl rfl

theorem logEdit_cases {t : SyntaxTree} {s e : Nat} {style : IndentStyle} {d : TextEdit}
    (h : Log.logEdit t s e style = some d) :
    ∃ edit : TextEdit, (edit.start = edit.stop ∨ ∃ i, Wraps t edit i) ∧
      d.start = edit.start ∧ d.stop = edit.stop ∧
      ∃ anchor, d.replacement = IndentStyle.reindent edit.replacement anchor style := by
  simp only [Log.logEdit, Option.bind_eq_bind, Option.bind_eq_some_iff, Option.pure_def,
    Option.some.injEq] at h
  obtain ⟨_, -, expr, -, site, -, rfl⟩ := h
  exact ⟨_, materialize_cases t _ site, rfl, rfl, _, rfl⟩

/-- What the edit `d` keeps of the source: it inserts, or it rewrites a node with its leading
trivia and re-emits the node's own text with only indentation added after line breaks. So every
character of the node's text stays, in order, and the text of every node inside it comes out
re-indented the same way, unchanged when it has no line break. -/
def ReemitsAnchor (t : SyntaxTree) (d : TextEdit) : Prop :=
  d.start = d.stop ∨
    ∃ n, d.start = (t.get n).fullStart ∧ d.stop = (t.get n).stop ∧
      (t.text n).toList.Sublist d.replacement.toList ∧
      ∀ i, (t.get n).start ≤ (t.get i).start → (t.get i).stop ≤ (t.get n).stop →
        (∃ out, out <:+: d.replacement.toList ∧ Indented (t.text i).toList out) ∧
          ('\n' ∉ (t.text i).toList → (t.text i).toList <:+: d.replacement.toList)

/-- A log edit only inserts, or wraps its anchor node in a block and re-emits the node's text
re-indented: the text of every node inside the anchor, a literal among them, survives up to
indentation after its line breaks. The leading trivia, comments included, are not re-emitted. -/
theorem logEdit_reemits_anchor (ht : t.WellShaped) {s e : Nat} {style : IndentStyle}
    {d : TextEdit} (h : Log.logEdit t s e style = some d) : ReemitsAnchor t d := by
  obtain ⟨edit, hshape, hstart, hstop, anchor, hrep⟩ := logEdit_cases h
  rcases hshape with hins | ⟨n, hfs, hst, pre, post, hwrap⟩
  · exact .inl (by rw [hstart, hstop, hins])
  -- re-indenting the wrap re-emits the node's text as a piece of the new text
  have hind := IndentStyle.indented_reindent edit.replacement anchor style
  rw [hwrap, ← hrep] at hind
  obtain ⟨out, hout, hn⟩ := hind.middle
  refine .inr ⟨n, hstart.trans hfs, hstop.trans hst, hn.sublist.trans hout.sublist,
    fun i hs he => ?_⟩
  -- the text of a node inside is a piece of the node's text, so its copy is a piece of `out`
  obtain ⟨A, B, hAB⟩ := ht.text_infix hs he
  rw [← hAB] at hn
  obtain ⟨out', hout', hi⟩ := hn.middle
  refine ⟨⟨out', hout'.trans hout, hi⟩, fun hnl => ?_⟩
  rw [← hi.eq_of_not_mem hnl]
  exact hout'.trans hout

/-- In `while (y) x` the log of `x` wraps the loop body in a block and re-emits `x` on a line of
its own. -/
theorem logEdit_reemits_anchor_loop_body :
    let t : SyntaxTree := ⟨"while (y) x",
      pushNode (pushNode (pushNode (pushNode
        #[⟨.sourceFile, "program", .root, 0, 11, 0, none, #[]⟩]
        ⟨.whileStatement, "while_statement", .statement, 0, 11, 0, some 0, #[]⟩)
        ⟨.identifier, "identifier", .condition, 7, 8, 7, some 1, #[]⟩)
        ⟨.expressionStatement, "expression_statement", .body, 10, 11, 9, some 1, #[]⟩)
        ⟨.identifier, "identifier", .other, 10, 11, 9, some 3, #[]⟩⟩
    let d : TextEdit := ⟨9, 11, " \x7b\n  console.debug('*** x »', x)\n  x\n\x7d",
      "wrap in block, log before", 0⟩
    t.WellShaped ∧ Log.logEdit t 10 10 (.spaces 2) = some d ∧ ReemitsAnchor t d := by
  intro t d
  have ht : t.WellShaped := .of_checkShape (by decide)
  have h : Log.logEdit t 10 10 (.spaces 2) = some d := by decide +kernel
  exact ⟨ht, h, logEdit_reemits_anchor ht h⟩

/-- A wrap drops the comments before the node: in `while (y) /* c */ if (x) doThing()` the log
of `x` rewrites the `if` statement from the blank after `)`, and the comment is gone. -/
theorem logEdit_drops_leading_comment :
    let t : SyntaxTree := ⟨"while (y) /* c */ if (x) doThing()", #[
      ⟨.sourceFile, "program", .root, 0, 34, 0, none, #[1]⟩,
      ⟨.whileStatement, "while_statement", .statement, 0, 34, 0, some 0, #[2, 3]⟩,
      ⟨.identifier, "identifier", .condition, 7, 8, 7, some 1, #[]⟩,
      ⟨.ifStatement, "if_statement", .body, 18, 34, 9, some 1, #[4, 5]⟩,
      ⟨.identifier, "identifier", .condition, 22, 23, 22, some 3, #[]⟩,
      ⟨.expressionStatement, "expression_statement", .then_, 25, 34, 24, some 3, #[6]⟩,
      ⟨.callExpression, "call_expression", .other, 25, 34, 24, some 5, #[7]⟩,
      ⟨.identifier, "identifier", .callee, 25, 32, 24, some 6, #[]⟩]⟩
    Log.logEdit t 22 22 (.spaces 2) = some ⟨9, 34,
      " \x7b\n  console.debug('*** x »', x)\n  if (x) doThing()\n\x7d", "wrap in block, log before",
      0⟩ ∧
      Text.slice? t.source 9 34 = some " /* c */ if (x) doThing()" := by
  intro t
  exact ⟨by decide +kernel, by decide +kernel⟩

/-- A wrap re-indents every line of the node it re-emits, inside literals too: in
`while (y) f(x, tpl)`, with a template literal `tpl` over two lines, the log of `x` wraps the
call, and the literal's second line gains the indentation. -/
theorem logEdit_reindents_template_literal :
    let t : SyntaxTree := ⟨"while (y) f(x, `a\nb`)",
      [⟨.whileStatement, "while_statement", .statement, 0, 21, 0, some 0, #[]⟩,
        ⟨.identifier, "identifier", .condition, 7, 8, 7, some 1, #[]⟩,
        ⟨.expressionStatement, "expression_statement", .body, 10, 21, 9, some 1, #[]⟩,
        ⟨.callExpression, "call_expression", .other, 10, 21, 9, some 3, #[]⟩,
        ⟨.identifier, "identifier", .callee, 10, 11, 9, some 4, #[]⟩,
        ⟨.identifier, "identifier", .argument, 12, 13, 12, some 4, #[]⟩,
        ⟨.literal, "template_string", .argument, 15, 20, 14, some 4, #[]⟩].foldl pushNode
      #[⟨.sourceFile, "program", .root, 0, 21, 0, none, #[]⟩]⟩
    t.WellShaped ∧ (t.get 7).kind = .literal ∧ t.text 7 = "`a\nb`" ∧
      Log.logEdit t 12 12 (.spaces 2) = some ⟨9, 21,
        " \x7b\n  console.debug('*** x »', x)\n  f(x, `a\n  b`)\n\x7d", "wrap in block, log before",
        0⟩ ∧
      ¬ (t.text 7).toList <:+:
        " \x7b\n  console.debug('*** x »', x)\n  f(x, `a\n  b`)\n\x7d".toList := by
  intro t
  exact ⟨.of_checkShape (by decide), rfl, by decide, by decide +kernel, by decide⟩

end SyntaxEdit.LogSite
