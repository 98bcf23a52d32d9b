import SyntaxEdit.Proofs.DuplicateCommand
import SyntaxEdit.Proofs.Locate

namespace SyntaxEdit

open Text Syntax EditSet

namespace Text

/-- The texts `t` and `t'` agree below byte offset `p`: every cut at or before `p` gives the same
prefix of both, or fails in both. -/
def AgreeBelow (p : Nat) (t t' : List Char) : Prop := ∀ q ≤ p, takeBytes t q = takeBytes t' q

variable {p : Nat} {t t' t'' : List Char}

theorem AgreeBelow.refl (p : Nat) (t : List Char) : AgreeBelow p t t := fun _ _ => rfl

theorem AgreeBelow.symm (h : AgreeBelow p t t') : AgreeBelow p t' t := fun q hq => (h q hq).symm

theorem AgreeBelow.trans (h₁ : AgreeBelow p t t') (h₂ : AgreeBelow p t' t'') : AgreeBelow p t t'' :=
  fun q hq => (h₁ q hq).trans (h₂ q hq)

theorem AgreeBelow.mono {p' : Nat} (h : AgreeBelow p t t') (hp : p' ≤ p) : AgreeBelow p' t t' :=
  fun q hq => h q (Nat.le_trans hq hp)

theorem agreeBelow_append {pre r r' : List Char} (hp : p ≤ byteLength pre) :
    AgreeBelow p (pre ++ r) (pre ++ r') := fun q hq => by
  rw [takeBytes_append_of_le r (Nat.le_trans hq hp), takeBytes_append_of_le r' (Nat.le_trans hq hp)]

theorem takeBytes_append_byteLength_self (xs ys : List Char) :
    takeBytes (xs ++ ys) (byteLength xs) = some xs := by
  simp [takeBytes, splitBytes_byteLength_append]

theorem AgreeBelow.isBoundary_eq (h : AgreeBelow p t t') {q : Nat} (hq : q ≤ p) :
    isBoundary t q = isBoundary t' q := by
  have hb : ∀ cs, isBoundary cs q = (takeBytes cs q).isSome := fun cs => by
    simp [isBoundary, takeBytes]
  rw [hb, hb, h q hq]

theorem le_floorBoundary {cs : List Char} {q i : Nat} (hb : isBoundary cs q) (hq : q ≤ i) :
    q ≤ floorBoundary cs i := by
  induction cs generalizing q i with
  | nil =>
    cases q with
    | zero => exact Nat.zero_le _
    | succ q => simp [isBoundary, splitBytes] at hb
  | cons c cs ih =>
    cases q with
    | zero => exact Nat.zero_le _
    | succ q =>
      simp only [isBoundary, splitBytes] at hb
      split at hb
      · next hc =>
        -- the cut lies past the first character, in the rest of the text
        have hrest : isBoundary cs (q + 1 - c.utf8Size) := by simpa [isBoundary] using hb
        have := ih hrest (i := i - c.utf8Size) (by omega)
        simp only [floorBoundary, if_pos (Nat.le_trans hc hq)]
        omega
      · simp at hb

theorem floorBoundary_of_isBoundary {cs : List Char} {i : Nat} (hb : isBoundary cs i) :
    floorBoundary cs i = i :=
  Nat.le_antisymm (floorBoundary_le cs i) (le_floorBoundary hb (Nat.le_refl i))

theorem AgreeBelow.floorBoundary_eq (h : AgreeBelow p t t') {i : Nat} (hi : i ≤ p) :
    floorBoundary t i = floorBoundary t' i := by
  have hle : ∀ {u u'}, AgreeBelow p u u' → floorBoundary u i ≤ floorBoundary u' i := by
    intro u u' hu
    refine le_floorBoundary ?_ (floorBoundary_le u i)
    rw [← hu.isBoundary_eq (Nat.le_trans (floorBoundary_le u i) hi)]
    exact isBoundary_floorBoundary u i
  exact Nat.le_antisymm (hle h) (hle h.symm)

theorem AgreeBelow.sliceBytes_of_eq_some (h : AgreeBelow p t t') {a b : Nat} {m : List Char}
    (hb : b ≤ p) (hm : sliceBytes t a b = some m) : sliceBytes t' a b = some m := by
  obtain ⟨P, Q, rfl, rfl, hPm⟩ := exists_of_sliceBytes hm
  -- the cut after the slice gives the same prefix of `t'`
  have hcut := h b hb
  rw [← hPm, ← byteLength_append, List.append_assoc, ← List.append_assoc,
    takeBytes_append_byteLength_self] at hcut
  obtain ⟨⟨pre, R⟩, hs, hpre⟩ := Option.map_eq_some_iff.1 hcut.symm
  obtain ⟨rfl, -⟩ := splitBytes_eq_some hs
  subst hpre
  rw [← hPm, sliceBytes_append_append]

theorem AgreeBelow.sliceBytes_eq (h : AgreeBelow p t t') {a b : Nat} (hb : b ≤ p) :
    sliceBytes t a b = sliceBytes t' a b := by
  cases hm : sliceBytes t a b with
  | some m => exact (h.sliceBytes_of_eq_some hb hm).symm
  | none =>
    cases hm' : sliceBytes t' a b with
    | none => rfl
    | some m' => rw [h.symm.sliceBytes_of_eq_some hb hm'] at hm; cases hm

theorem agreeBelow_replaceRange {cs cs' : List Char} {a b : Nat} {r : String}
    (h : replaceRange cs a b r = some cs') (hp : p ≤ a) : AgreeBelow p cs cs' := by
  obtain ⟨P, M, Q, rfl, hP, -, rfl⟩ := replaceRange_eq_some h
  rw [List.append_assoc, List.append_assoc]
  exact agreeBelow_append (hP ▸ hp)

theorem agreeBelow_applyEach : ∀ {es : List TextEdit} {cs cs' : List Char},
    applyEach es cs = some cs' → (∀ e ∈ es, p ≤ e.start) → AgreeBelow p cs cs'
  | [], _, _, h, _ => by cases h; exact .refl _ _
  | e :: es, cs, cs', h, hp => by
    simp only [applyEach, Option.bind_eq_bind, Option.bind_eq_some_iff] at h
    obtain ⟨mid, hmid, hrest⟩ := h
    exact (agreeBelow_replaceRange hmid (hp e (List.mem_cons_self ..))).trans
      (agreeBelow_applyEach hrest fun e' he' => hp e' (List.mem_cons_of_mem e he'))

end Text

/-- Where running a built-in action in the text `src` inserts: copying lines down inserts at the
end of the last line the clamped selection touches, duplicating a selection at its clamped end (a
caret copies its lines down instead); formatting changes nothing. -/
def HostCommand.changesAt (src : String) : HostCommand → List Nat
  | .copyLinesDown sel => [(lineEnd src (sel.clampTo src).stop).getD 0]
  | .duplicateSelection sel =>
    if sel.isEmpty then [(lineEnd src (sel.clampTo src).stop).getD 0] else [(sel.clampTo src).stop]
  | .formatSelection _ | .formatDocument => []

/-- Where carrying out a handling in the text `src` changes it: at the start of each of its
syntax edits, or where its built-in action inserts. -/
def DuplicateCommand.Handling.changesAt (src : String) : DuplicateCommand.Handling → List Nat
  | .edits es _ => es.map (·.start)
  | .builtIn c => c.changesAt src

variable {p : Nat}

namespace Editor

theorem agreeBelow_splice {src : String} {a b : Nat} {r : String} (hp : p ≤ a) :
    AgreeBelow p src.toList (splice src a b r).toList := by
  unfold splice
  cases h : replaceRange src.toList a b r with
  | none => exact .refl _ _
  | some cs => simpa [h] using agreeBelow_replaceRange h hp

theorem agreeBelow_execute (h : Editor) (c : HostCommand)
    (hp : ∀ q ∈ c.changesAt h.text, p ≤ q) :
    AgreeBelow p h.text.toList (h.execute c).text.toList := by
  cases c with
  | copyLinesDown sel => exact agreeBelow_splice (hp _ (List.mem_singleton_self _))
  | duplicateSelection sel =>
    simp only [HostCommand.changesAt] at hp
    simp only [execute]
    split_ifs with he
    · rw [if_pos he] at hp
      exact agreeBelow_splice (hp _ (List.mem_singleton_self _))
    · rw [if_neg he] at hp
      exact agreeBelow_splice (hp _ (List.mem_singleton_self _))
  | formatSelection _ => exact .refl _ _
  | formatDocument => exact .refl _ _

theorem text_of_applyEdits {h h' : Editor} {S : EditSet} (ha : h.applyEdits S = .ok h') :
    h'.text = (S.apply h.text).getD h.text := by
  simp only [applyEdits] at ha
  cases hf : S.edits.forM (fun e => h.checkRange e.start e.stop) with
  | error e => rw [hf] at ha; cases ha
  | ok u => rw [hf] at ha; cases ha; rfl

end Editor

theorem EditorM.agreeBelow_applyEdits {es : List TextEdit} {h h' : Editor}
    (hrun : (applyEdits es).run h = .ok ((), h')) (hp : ∀ e ∈ es, p ≤ e.start) :
    AgreeBelow p h.text.toList h'.text.toList := by
  simp only [applyEdits, StateT.run_bind, StateT.run_get, pure_bind] at hrun
  cases hb : build es (Text.size h.text) with
  | error c => rw [hb] at hrun; cases hrun
  | ok S =>
    rw [hb] at hrun
    dsimp only at hrun
    cases ha : h.applyEdits S with
    | error e => rw [ha] at hrun; cases hrun
    | ok h₁ =>
      rw [ha] at hrun
      cases hrun
      rw [Editor.text_of_applyEdits ha]
      cases happ : S.apply h.text with
      | none => exact .refl _ _
      | some out =>
        -- the set holds the edits given, applied from the last to the first
        obtain ⟨cs, hcs, rfl⟩ := Option.map_eq_some_iff.1 happ
        refine String.toList_ofList ▸ agreeBelow_applyEach hcs fun e he => hp e ?_
        rw [List.mem_reverse, (build_eq_ok hb).1, List.mem_mergeSort] at he
        exact he

namespace DuplicateCommand

theorem Handling.agreeBelow_perform {a : Handling} {h h' : Editor} {b : Bool}
    (hrun : a.perform.run h = .ok (b, h')) (hp : ∀ q ∈ a.changesAt h.text, p ≤ q) :
    AgreeBelow p h.text.toList h'.text.toList := by
  cases a with
  | edits es sel =>
    simp only [Handling.perform, StateT.run_bind] at hrun
    cases happ : (EditorM.applyEdits es).run h with
    | error e => rw [happ] at hrun; cases hrun
    | ok r =>
      obtain ⟨⟨⟩, h₁⟩ := r
      rw [happ] at hrun
      -- formatting the cursor afterwards changes nothing
      cases hrun
      show AgreeBelow p h.text.toList h₁.text.toList
      exact EditorM.agreeBelow_applyEdits happ fun e he =>
        hp e.start (List.mem_map_of_mem he)
  | builtIn c =>
    simp only [Handling.perform, StateT.run_bind, EditorM.run_execute] at hrun
    cases hrun
    exact Editor.agreeBelow_execute h c hp

theorem Selection.clampTo_clampTo (c : Selection) (src : String) :
    (c.clampTo src).clampTo src = c.clampTo src := by
  obtain ⟨ha, hb⟩ := c.isBoundary_clampTo src
  simp only [Selection.clampTo] at ha hb ⊢
  rw [floorBoundary_of_isBoundary ha, floorBoundary_of_isBoundary hb]

theorem Selection.clampTo_eq_of_agreeBelow {src t : String} {c : Selection}
    (h : AgreeBelow c.stop src.toList t.toList) : c.clampTo t = c.clampTo src := by
  unfold Selection.clampTo
  rw [← h.floorBoundary_eq (Nat.le_max_left c.anchor c.active),
    ← h.floorBoundary_eq (Nat.le_max_right c.anchor c.active)]

/-- In the text `t`, cursor `c` designates what it designates in `src`: the same clamped
selection, over the same text. -/
def SameDesignation (src t : String) (c : Selection) : Prop :=
  c.clampTo t = c.clampTo src ∧
    sliceBytes t.toList (c.clampTo t).start (c.clampTo t).stop =
      sliceBytes src.toList (c.clampTo src).start (c.clampTo src).stop

theorem sameDesignation_of_agreeBelow {src t : String} {c : Selection}
    (h : AgreeBelow c.stop src.toList t.toList) : SameDesignation src t c := by
  have hclamp := Selection.clampTo_eq_of_agreeBelow h
  have hstop : (c.clampTo src).stop ≤ c.stop := by
    have := floorBoundary_le src.toList c.anchor
    have := floorBoundary_le src.toList c.active
    simp only [Selection.clampTo, Selection.stop]
    omega
  refine ⟨hclamp, ?_⟩
  rw [hclamp]
  exact (h.sliceBytes_eq hstop).symm

variable (parse : Language → String → SyntaxTree) (lang : Option Language)

theorem agreeBelow_atCursor {c : Selection} {h h' : Editor} {b : Bool}
    (hrun : (atCursor parse lang c).run h = .ok (b, h'))
    (hp : ∀ q ∈ (handling parse lang h.text c).changesAt h.text, p ≤ q) :
    AgreeBelow p h.text.toList h'.text.toList :=
  Handling.agreeBelow_perform hrun hp

/-- Handling the cursors in turn, each changes the text only at or past the far end of every
cursor handled after it. -/
def ChangesPastLater : List Selection → Editor → Prop
  | [], _ => True
  | c :: cs, h =>
    (∀ c' ∈ cs, ∀ q ∈ (handling parse lang h.text c).changesAt h.text, c'.stop ≤ q) ∧
      ∀ b h', (atCursor parse lang c).run h = .ok (b, h') → ChangesPastLater cs h'

/-- Handling the cursors in turn, each, when its turn comes, designates in the text as it stands
what it designates in `src`. -/
def DesignatesAsIn (src : String) : List Selection → Editor → Prop
  | [], _ => True
  | c :: cs, h =>
    SameDesignation src h.text c ∧
      ∀ b h', (atCursor parse lang c).run h = .ok (b, h') → DesignatesAsIn src cs h'

/-- The invariant of the run: the text as it stands agrees with `src` below the far end of every
cursor still to be handled. A step keeps it, since it changes the text only past those ends. -/
theorem designatesAsIn_of_changesPastLater {src : String} :
    ∀ (cs : List Selection) (h : Editor), (∀ c ∈ cs, AgreeBelow c.stop src.toList h.text.toList) →
      ChangesPastLater parse lang cs h → DesignatesAsIn parse lang src cs h
  | [], _, _, _ => trivial
  | c :: cs, _, hagree, ⟨hpast, hlater⟩ =>
    ⟨sameDesignation_of_agreeBelow (hagree c (List.mem_cons_self ..)), fun b h' hrun =>
      designatesAsIn_of_changesPastLater cs h'
        (fun c' hc' => (hagree c' (List.mem_cons_of_mem c hc')).trans
          (agreeBelow_atCursor parse lang hrun (hpast c' hc')))
        (hlater b h' hrun)⟩

/-- Every node a caret or a selection `[s, e]` means lies below the root and reaches the range:
it starts at or before `e` and ends at or after `s`. -/
theorem reaches_of_mem_matchingNodes {t : SyntaxTree} (ht : t.WellShaped) {s e m : Nat}
    (hm : m ∈ Locate.matchingNodes t s e) :
    0 < m ∧ m < t.nodes.size ∧ (t.get m).start ≤ e ∧ s ≤ (t.get m).stop := by
  by_cases hse : s = e
  · -- a caret: the end of the walk down from the root, which covers it
    subst hse
    rw [Locate.matchingNodes_caret, Option.mem_toList] at hm
    obtain ⟨hwalk, -⟩ :=
      ((Locate.smallestCovering_spec ht s s t.nodes.size 0 (Nat.sub_le _ _)).2 m).1 hm
    have hcov := Locate.covers_of_transGen hwalk
    obtain ⟨p, -, pre, post, hkids⟩ : ∃ p, Locate.FirstCovering t s s p m := by
      cases hwalk with
      | single h => exact ⟨0, h⟩
      | tail _ h => exact ⟨_, h⟩
    obtain ⟨hpm, hsize⟩ := ht.lt_of_mem_children (show m ∈ t.children p by simp [hkids])
    simp only [SyntaxTree.covers, Bool.and_eq_true, decide_eq_true_eq] at hcov
    exact ⟨by omega, hsize, hcov⟩
  · -- a selection: a node inside it, below the root
    have hmem : m ∈ Locate.collectWithin t t.nodes.size 0 s e := by
      simpa [Locate.matchingNodes, hse] using hm
    obtain ⟨hbelow, hin, -⟩ :=
      ((Locate.collectWithin_spec ht s e t.nodes.size 0 (Nat.sub_le _ _)).1 m).1 hmem
    have := (ht.spans_get m).start_le
    simp only [SyntaxTree.within, Bool.and_eq_true, decide_eq_true_eq] at hin
    exact ⟨ht.lt_of_below hbelow, ht.lt_size_of_below hbelow, by omega, by omega⟩

/-- Every insertion of the climb from `i` lies at or past the full start of `i` or of a node above
it, never the root: the climb inserts at the node it stands on, or at an operand of the binary
expression above it, which is no source file. -/
theorem createEditsAux_reach {t : SyntaxTree} (ht : t.WellShaped) :
    ∀ fuel i, ∀ d ∈ Duplicate.createEditsAux t fuel i,
      ∃ a, 0 < a ∧ AncestorOrSelf t.parent? a i ∧ (t.get a).fullStart ≤ d.start
  | 0, _, d, hd => by simp [Duplicate.createEditsAux] at hd
  | fuel + 1, i, d, hd => by
    rcases Duplicate.createEditsAux_succ t fuel i with ⟨p, hp, hstep⟩ | hstep
    · rw [hstep] at hd
      obtain ⟨a, ha0, hap, hle⟩ := createEditsAux_reach ht fuel p d hd
      exact ⟨a, ha0, .up hp hap, hle⟩
    · obtain ⟨-, p, hp, hat | ⟨hbin, o, ho, hdo⟩⟩ := hstep d hd
      · have := (ht.lt_of_parent hp).1
        have hs := ht.spans_get i
        have := hs.fullStart_le
        have := hs.start_le
        exact ⟨i, by omega, .refl, by omega⟩
      · have hp0 : 0 < p := Nat.pos_of_ne_zero fun h0 => by
          rw [h0, ht.root_kind] at hbin
          cases hbin
        exact ⟨p, hp0, .up hp .refl, hdo ▸ (ht.nested o p ((ht.mem_children p o).1 ho)).1⟩

/-- Every edit duplicating `[s, e]` lies at or past the full start of a node other than the root
that reaches `[s, e]`. -/
theorem duplicateEdits_reach {t : SyntaxTree} (ht : t.WellShaped) {s e : Nat} {d : TextEdit}
    (hd : d ∈ Duplicate.duplicateEdits t s e) :
    ∃ a < t.nodes.size, 0 < a ∧ (t.get a).fullStart ≤ e ∧ s ≤ (t.get a).stop ∧
      (t.get a).fullStart ≤ d.start := by
  obtain ⟨d', hd', hs, -, -⟩ := mem_dedupEdits hd
  obtain ⟨m, hm, hdm⟩ := List.mem_flatMap.1 hd'
  obtain ⟨-, hmsize, hme, hsm⟩ := reaches_of_mem_matchingNodes ht hm
  obtain ⟨a, ha0, ham, hle⟩ := createEditsAux_reach ht _ m d' hdm
  have := ht.fullStart_le_of_ancestorOrSelf ham
  have := ht.stop_le_of_ancestorOrSelf ham
  have := ht.le_of_ancestorOrSelf ham
  have := (ht.spans_get m).fullStart_le
  exact ⟨a, by omega, ha0, by omega, by omega, hs ▸ hle⟩

/-- Cursor `c'` ends before every place the duplicate rules can change the text `T` for cursor
`c`: before the clamped end of `c` and the end of its line, where a fallback inserts, and, in a
known language, before the full start of every node of the tree, the root apart, that reaches
the range `c` is read as. -/
def EndsBefore (T : String) (c c' : Selection) : Prop :=
  c'.stop ≤ (c.clampTo T).stop ∧ c'.stop ≤ (lineEnd T (c.clampTo T).stop).getD 0 ∧
    ∀ l, lang = some l → ∀ a < (parse l T).nodes.size, 0 < a →
      ((parse l T).get a).fullStart ≤ (readRange T c).2 →
      (readRange T c).1 ≤ ((parse l T).get a).stop → c'.stop ≤ ((parse l T).get a).fullStart

/-- Handling `c` in `T` changes the text only past a cursor that ends before every place the
rules can change for `c`. -/
theorem le_changesAt_handling
    (hparse : ∀ l src, (parse l src).source = src ∧ (parse l src).WellShaped)
    {T : String} {c c' : Selection} (h : EndsBefore parse lang T c c') :
    ∀ q ∈ (handling parse lang T c).changesAt T, c'.stop ≤ q := by
  obtain ⟨hstop, hline, hnodes⟩ := h
  rcases handling_cases parse lang T c with ⟨l, hl, hh⟩ | hh | hh <;> rw [hh] <;> intro q hq
  · obtain ⟨d, hd, rfl⟩ := List.mem_map.1 hq
    obtain ⟨a, hsize, ha0, hae, hsa, hle⟩ := duplicateEdits_reach (hparse l T).2 hd
    exact Nat.le_trans (hnodes l hl a hsize ha0 hae hsa) hle
  · simp only [Handling.changesAt, HostCommand.changesAt, Selection.clampTo_clampTo,
      List.mem_singleton] at hq
    exact hq ▸ hline
  · simp only [Handling.changesAt, HostCommand.changesAt, Selection.clampTo_clampTo] at hq
    split at hq <;> rw [List.mem_singleton.1 hq]
    · exact hline
    · exact hstop

/-- The cursors, in the order the command handles them, keep apart: however the text past a
cursor may read by its turn, every cursor handled after it ends before every place the rules can
change for it. -/
def KeepApart (src : String) : List Selection → Prop
  | [] => True
  | c :: cs => (∀ T : String, AgreeBelow c.stop src.toList T.toList →
      ∀ c' ∈ cs, EndsBefore parse lang T c c') ∧ KeepApart src cs

/-- Cursors that keep apart see no change below them before their turn, so each changes the text
only past the cursors after it. The invariant: the text as it stands agrees with `src` below the
far end of every cursor still to be handled. -/
theorem changesPastLater_of_keepApart
    (hparse : ∀ l src, (parse l src).source = src ∧ (parse l src).WellShaped) {src : String} :
    ∀ (cs : List Selection) (h : Editor), (∀ c ∈ cs, AgreeBelow c.stop src.toList h.text.toList) →
      KeepApart parse lang src cs → ChangesPastLater parse lang cs h
  | [], _, _, _ => trivial
  | c :: cs, h, hagree, ⟨hapart, hrest⟩ => by
    have hpast :
        ∀ c' ∈ cs, ∀ q ∈ (handling parse lang h.text c).changesAt h.text, c'.stop ≤ q :=
      fun c' hc' => le_changesAt_handling parse lang hparse
        (hapart h.text (hagree c (List.mem_cons_self ..)) c' hc')
    refine ⟨hpast, fun b h' hrun => changesPastLater_of_keepApart hparse cs h' (fun c' hc' => ?_)
      hrest⟩
    exact (hagree c' (List.mem_cons_of_mem c hc')).trans
      (agreeBelow_atCursor parse lang hrun (hpast c' hc'))

/-- When the cursors keep apart, every change the duplicate command makes for a cursor lies at or
past the far end of every cursor it handles later, and each cursor, when its turn comes, still
designates the clamped selection and the text it designates in the document the command started
from. -/
theorem run_keeps_later_cursors
    (hparse : ∀ l src, (parse l src).source = src ∧ (parse l src).WellShaped) (h : Editor)
    (hapart : KeepApart parse (Language.detect h.languageId h.fileName).toOption h.text
      (h.selections.mergeSort fun a b => b.active ≤ a.active)) :
    ChangesPastLater parse (Language.detect h.languageId h.fileName).toOption
        (h.selections.mergeSort fun a b => b.active ≤ a.active) h ∧
      DesignatesAsIn parse (Language.detect h.languageId h.fileName).toOption h.text
        (h.selections.mergeSort fun a b => b.active ≤ a.active) h := by
  have hpast := changesPastLater_of_keepApart parse _ hparse _ h (fun _ _ => .refl _ _) hapart
  exact ⟨hpast, designatesAsIn_of_changesPastLater parse _ _ h (fun _ _ => .refl _ _) hpast⟩

def twoCalls : SyntaxTree :=
  ⟨"f(a);\ng(b);",
    [⟨.expressionStatement, "expression_statement", .statement, 0, 5, 0, some 0, #[]⟩,
      ⟨.callExpression, "call_expression", .other, 0, 4, 0, some 1, #[]⟩,
      ⟨.identifier, "identifier", .callee, 0, 1, 0, some 2, #[]⟩,
      ⟨.identifier, "identifier", .argument, 2, 3, 2, some 2, #[]⟩,
      ⟨.expressionStatement, "expression_statement", .statement, 6, 11, 5, some 0, #[]⟩,
      ⟨.callExpression, "call_expression", .other, 6, 10, 5, some 5, #[]⟩,
      ⟨.identifier, "identifier", .callee, 6, 7, 5, some 6, #[]⟩,
      ⟨.identifier, "identifier", .argument, 8, 9, 8, some 6, #[]⟩].foldl pushNode
    #[⟨.sourceFile, "program", .root, 0, 11, 0, none, #[]⟩]⟩

def twoCallsDuplicated : SyntaxTree :=
  ⟨"f(a);\ng(b, b);",
    [⟨.expressionStatement, "expression_statement", .statement, 0, 5, 0, some 0, #[]⟩,
      ⟨.callExpression, "call_expression", .other, 0, 4, 0, some 1, #[]⟩,
      ⟨.identifier, "identifier", .callee, 0, 1, 0, some 2, #[]⟩,
      ⟨.identifier, "identifier", .argument, 2, 3, 2, some 2, #[]⟩,
      ⟨.expressionStatement, "expression_statement", .statement, 6, 14, 5, some 0, #[]⟩,
      ⟨.callExpression, "call_expression", .other, 6, 13, 5, some 5, #[]⟩,
      ⟨.identifier, "identifier", .callee, 6, 7, 5, some 6, #[]⟩,
      ⟨.identifier, "identifier", .argument, 8, 9, 8, some 6, #[]⟩,
      ⟨.identifier, "identifier", .argument, 11, 12, 10, some 6, #[]⟩].foldl pushNode
    #[⟨.sourceFile, "program", .root, 0, 14, 0, none, #[]⟩]⟩

/-- The grammar's reading of the two texts the duplicate command parses for carets on `b` and on
`a` in `f(a);` and `g(b);`; any other text is read flat. -/
def twoCallsParse (l : Language) (src : String) : SyntaxTree :=
  if src = twoCalls.source then twoCalls
  else if src = twoCallsDuplicated.source then twoCallsDuplicated
  else flatParse l src

theorem twoCallsParse_wellShaped (l : Language) (src : String) :
    (twoCallsParse l src).source = src ∧ (twoCallsParse l src).WellShaped := by
  unfold twoCallsParse
  split_ifs with h₁ h₂
  · exact ⟨h₁.symm, .of_checkShape (by decide)⟩
  · exact ⟨h₂.symm, .of_checkShape (by decide)⟩
  · exact flatParse_wellShaped l src

/-- Carets on `b` and on `a` in `f(a);` and `g(b);` on two lines: the copy of `b` goes into the
second call, past the caret on `a`, which then still designates `a`. -/
theorem run_keeps_later_cursors_two_calls :
    let h : Editor :=
      { Editor.ofDocument "f(a);\ng(b);" "typescript" "" with selections := [.caret 8, .caret 2] }
    (∀ l src, (twoCallsParse l src).source = src ∧ (twoCallsParse l src).WellShaped) ∧
      KeepApart twoCallsParse (Language.detect h.languageId h.fileName).toOption h.text
        (h.selections.mergeSort fun a b => b.active ≤ a.active) ∧
      ChangesPastLater twoCallsParse (Language.detect h.languageId h.fileName).toOption
        (h.selections.mergeSort fun a b => b.active ≤ a.active) h ∧
      DesignatesAsIn twoCallsParse (Language.detect h.languageId h.fileName).toOption h.text
        (h.selections.mergeSort fun a b => b.active ≤ a.active) h := by
  intro h
  have hkeep : KeepApart twoCallsParse (Language.detect h.languageId h.fileName).toOption h.text
      (h.selections.mergeSort fun a b => b.active ≤ a.active) := by
    rw [List.mergeSort_of_pairwise (by decide)]
    refine ⟨fun T hT c' hc' => ?_, fun _ _ _ hc => absurd hc List.not_mem_nil, trivial⟩
    rw [List.mem_singleton.1 hc']
    -- the caret at 8 clamps to itself in every text that agrees with the document below it
    have hclamp : (Selection.caret 8).clampTo T = .caret 8 :=
      (Selection.clampTo_eq_of_agreeBelow hT).trans (by decide)
    have hb : isBoundary T.toList 8 := by
      have := ((Selection.caret 8).isBoundary_clampTo T).2
      rwa [hclamp] at this
    obtain ⟨-, e, -, he, -, h8e, -⟩ := exists_lineBounds hb
    refine ⟨by rw [hclamp]; decide, ?_, ?_⟩
    · rw [hclamp]
      show 2 ≤ (lineEnd T 8).getD 0
      rw [he, Option.getD_some]
      omega
    intro l _
    unfold twoCallsParse
    split_ifs with h₁ h₂
    · subst h₁
      decide +kernel
    · subst h₂
      decide +kernel
    · intro a ha ha0
      simp only [flatParse, List.size_toArray, List.length_singleton] at ha
      omega
  exact ⟨twoCallsParse_wellShaped, hkeep,
    run_keeps_later_cursors twoCallsParse twoCallsParse_wellShaped h hkeep⟩

end DuplicateCommand

end SyntaxEdit
