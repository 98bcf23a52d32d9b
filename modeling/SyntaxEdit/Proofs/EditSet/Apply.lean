import SyntaxEdit.Proofs.Utf8
import SyntaxEdit.Proofs.EditSet.Build

namespace SyntaxEdit.EditSet

open Text

theorem applyEach_append (xs ys : List TextEdit) (cs : List Char) :
    applyEach (xs ++ ys) cs = (applyEach xs cs).bind (applyEach ys) := by
  induction xs generalizing cs with
  | nil => rfl
  | cons e es ih =>
    simp only [List.cons_append, applyEach, Option.bind_eq_bind, Option.bind_assoc, ih]

theorem applyEach_reverse_cons (e : TextEdit) (es : List TextEdit) (cs : List Char) :
    applyEach (e :: es).reverse cs =
      (applyEach es.reverse cs).bind fun cs' => replaceRange cs' e.start e.stop e.replacement := by
  rw [List.reverse_cons, applyEach_append]
  congr
  funext cs'
  simp [applyEach]

theorem replaceRange_eq_some {cs : List Char} {a b : Nat} {r : String} {out : List Char}
    (h : replaceRange cs a b r = some out) :
    ∃ P M Q, cs = P ++ M ++ Q ∧ byteLength P = a ∧ byteLength M = b - a ∧
      out = P ++ r.toList ++ Q := by
  simp only [replaceRange, Option.bind_eq_bind, Option.bind_eq_some_iff] at h
  obtain ⟨⟨P, R⟩, h1, ⟨M, Q⟩, h2, h3⟩ := h
  obtain ⟨rfl, hP⟩ := splitBytes_eq_some h1
  obtain ⟨rfl, hM⟩ := splitBytes_eq_some h2
  exact ⟨P, M, Q, by simp, hP, hM, by simpa using h3.symm⟩

theorem isSome_replaceRange_iff {cs : List Char} {a b : Nat} (r : String) (hab : a ≤ b) :
    (replaceRange cs a b r).isSome ↔ isBoundary cs a ∧ isBoundary cs b := by
  rw [← isSome_sliceBytes_iff hab]
  simp only [replaceRange, sliceBytes, if_pos hab]
  cases splitBytes cs a with
  | none => rfl
  | some p => cases h : splitBytes p.2 (b - a) <;> simp [h]

theorem isBoundary_of_replaceRange {cs : List Char} {a b : Nat} {r : String} {out : List Char}
    (hab : a ≤ b) (h : replaceRange cs a b r = some out) : isBoundary cs b := by
  obtain ⟨P, M, Q, rfl, hP, hM, -⟩ := replaceRange_eq_some h
  rw [isBoundary_iff]
  exact ⟨P ++ M, Q, rfl, by simp; omega⟩

theorem replaceRange_append_byteLength {A : List Char} {a b : Nat} (X : List Char) (r : String)
    (hb : byteLength A = b) (hab : a ≤ b) :
    replaceRange (A ++ X) a b r = (takeBytes A a).map (· ++ r.toList ++ X) := by
  cases hs : splitBytes A a with
  | none =>
    simp [replaceRange, takeBytes, splitBytes_append_of_le X (hb ▸ hab), hs]
  | some p =>
    obtain ⟨hA, hp⟩ := splitBytes_eq_some hs
    have hcut : splitBytes (p.2 ++ X) (b - a) = some (p.2, X) := by
      have := splitBytes_byteLength_append p.2 X
      rwa [show byteLength p.2 = b - a by rw [← hb, hA, byteLength_append]; omega] at this
    simp [replaceRange, takeBytes, splitBytes_append_of_le X (hb ▸ hab), hs, hcut]

theorem isBoundary_applyEach {l : List TextEdit} {q : Nat} {cs out : List Char}
    (hf : Follows q l) (h : applyEach l.reverse cs = some out) :
    ∀ i ≤ q, isBoundary out i = isBoundary cs i := by
  induction l generalizing q out with
  | nil =>
    simp only [List.reverse_nil, applyEach, Option.some.injEq] at h
    subst h
    intro i _
    rfl
  | cons e l ih =>
    obtain ⟨hqe, hse, hf⟩ := hf
    rw [applyEach_reverse_cons] at h
    obtain ⟨mid, hmid, hrep⟩ := Option.bind_eq_some_iff.1 h
    obtain ⟨P, M, Q, rfl, hP, -, rfl⟩ := replaceRange_eq_some hrep
    intro i hi
    have hiP : i ≤ byteLength P := by omega
    calc isBoundary (P ++ e.replacement.toList ++ Q) i
        = isBoundary P i := by rw [List.append_assoc, isBoundary_append_of_le _ hiP]
      _ = isBoundary (P ++ M ++ Q) i := by rw [List.append_assoc, isBoundary_append_of_le _ hiP]
      _ = isBoundary cs i := ih hf hmid i (by omega)

theorem isBoundary_of_spliceFrom {l : List TextEdit} {q : Nat} {cs s : List Char}
    (h : spliceFrom l q cs = some s) : isBoundary cs q := by
  cases l with
  | nil => exact isBoundary_of_dropBytes h
  | cons e l =>
    simp only [spliceFrom, Option.bind_eq_bind, Option.bind_eq_some_iff] at h
    obtain ⟨gap, hgap, -⟩ := h
    exact (isBoundary_of_sliceBytes hgap).2.1

/-- Applying edits that follow offset `p` from the last to the first keeps the text before `p`
and splices the rest. -/
theorem applyEach_reverse_eq_spliceFrom {l : List TextEdit} {p : Nat} {pre rest : List Char}
    (hf : Follows p l) (hp : byteLength pre = p) :
    applyEach l.reverse (pre ++ rest) = (spliceFrom l p (pre ++ rest)).map (pre ++ ·) := by
  induction l generalizing p pre rest with
  | nil =>
    have hdrop : dropBytes (pre ++ rest) p = some rest := by
      simp [dropBytes, ← hp, splitBytes_byteLength_append]
    simp [applyEach, spliceFrom, hdrop]
  | cons e l ih =>
    obtain ⟨hpe, hse, hf⟩ := hf
    rw [applyEach_reverse_cons]
    by_cases hb : isBoundary (pre ++ rest) e.stop
    · -- the text up to the edit's end is `pre ++ A'`; the later edits splice what follows
      obtain ⟨A, B, hAB, hA⟩ := (isBoundary_iff _ _).1 hb
      obtain ⟨A', rfl⟩ := prefix_of_byteLength_le hAB (by omega)
      have hA' : byteLength A' = e.stop - p := by simp at hA; omega
      rw [hAB, ih hf hA]
      have hslice : sliceBytes (pre ++ A' ++ B) p e.start = takeBytes A' (e.start - p) := by
        have := sliceBytes_append_byteLength pre (A' ++ B) (e.start - p)
        rw [hp, show p + (e.start - p) = e.start by omega] at this
        rw [List.append_assoc, this, takeBytes_append_of_le B (by omega)]
      have htake : takeBytes (pre ++ A') e.start = (takeBytes A' (e.start - p)).map (pre ++ ·) := by
        have := takeBytes_append_byteLength pre A' (e.start - p)
        rwa [hp, show p + (e.start - p) = e.start by omega] at this
      have hrep : ∀ s, replaceRange (pre ++ A' ++ s) e.start e.stop e.replacement =
          (takeBytes A' (e.start - p)).map fun g => pre ++ g ++ e.replacement.toList ++ s := by
        intro s
        rw [replaceRange_append_byteLength s _ (by simpa using hA) hse, htake, Option.map_map]
        rfl
      simp only [spliceFrom, Option.bind_eq_bind, hslice, Option.bind_map, Function.comp_def, hrep]
      cases takeBytes A' (e.start - p) <;> cases spliceFrom l e.stop (pre ++ A' ++ B) <;> simp
    · -- the edit's end cuts a character the later edits leave as it was
      have hnone : spliceFrom l e.stop (pre ++ rest) = none := by
        cases hs : spliceFrom l e.stop (pre ++ rest) with
        | none => rfl
        | some s => exact absurd (isBoundary_of_spliceFrom hs) hb
      have hrep : (applyEach l.reverse (pre ++ rest)).bind
          (fun cs' => replaceRange cs' e.start e.stop e.replacement) = none := by
        cases ha : applyEach l.reverse (pre ++ rest) with
        | none => rfl
        | some mid =>
          cases hr : replaceRange mid e.start e.stop e.replacement with
          | none => simp [hr]
          | some out =>
            have hkeep := isBoundary_applyEach hf ha e.stop (Nat.le_refl _)
            rw [isBoundary_of_replaceRange hse hr] at hkeep
            exact absurd hkeep.symm hb
      simp [hrep, spliceFrom, hnone]

/-- A splice is defined exactly when the offset it starts from and every end of an edit fall
between characters. -/
theorem isSome_spliceFrom_iff {l : List TextEdit} {p : Nat} {cs : List Char} (hf : Follows p l) :
    (spliceFrom l p cs).isSome ↔
      isBoundary cs p ∧ ∀ e ∈ l, isBoundary cs e.start ∧ isBoundary cs e.stop := by
  induction l generalizing p with
  | nil => simp [spliceFrom, dropBytes, isBoundary]
  | cons e l ih =>
    obtain ⟨hpe, -, hf⟩ := hf
    have hslice : (sliceBytes cs p e.start).isSome ↔ _ := isSome_sliceBytes_iff hpe
    have hrest := ih hf
    simp only [spliceFrom, Option.bind_eq_bind, List.forall_mem_cons]
    cases hs : sliceBytes cs p e.start <;> cases hr : spliceFrom l e.stop cs <;>
      simp_all

/-- Applying an edit set replaces from the highest offset down, yet gives the splice of the
sorted edits into the source: the text before the first edit, its replacement, the text up to
the next one, and so on. It fails exactly when an end of an edit cuts a character. -/
theorem apply_eq_splice {L : List TextEdit} {src : String} {S : EditSet}
    (h : build L (Text.size src) = .ok S) :
    (S.apply src = none ↔ ∃ e ∈ L, isBoundary src.toList e.start = false ∨
      isBoundary src.toList e.stop = false) ∧
    S.apply src = S.splice src := by
  have hf := (follows_of_build h).1
  have heq : S.apply src = S.splice src := by
    have : applyEach S.edits.reverse ([] ++ src.toList) = _ :=
      applyEach_reverse_eq_spliceFrom hf rfl
    simp only [List.nil_append] at this
    simp [apply, splice, this]
  refine ⟨?_, heq⟩
  have hsome : (spliceFrom S.edits 0 src.toList).isSome ↔ _ := isSome_spliceFrom_iff hf
  have hmem : ∀ e, e ∈ S.edits ↔ e ∈ L := by
    rw [(build_eq_ok h).1]
    exact fun e => List.mem_mergeSort
  simp only [isBoundary_zero, true_and, hmem] at hsome
  rw [heq, splice, Option.map_eq_none_iff, ← Option.not_isSome_iff_eq_none, hsome]
  simp only [Classical.not_forall, Classical.not_and_iff_not_or_not, Bool.not_eq_true, exists_prop]

theorem apply_eq_splice_around_replacement :
    ∃ S, build [TextEdit.insert 1 "x" "before", TextEdit.replace 1 4 "-" "arrow",
        TextEdit.insert 4 "y" "after"] (Text.size "a→b") = .ok S ∧
      ((S.apply "a→b" = none ↔ ∃ e ∈ [TextEdit.insert 1 "x" "before",
        TextEdit.replace 1 4 "-" "arrow", TextEdit.insert 4 "y" "after"],
          isBoundary "a→b".toList e.start = false ∨
          isBoundary "a→b".toList e.stop = false) ∧
        S.apply "a→b" = S.splice "a→b") ∧ S.splice "a→b" = some "ax-yb" := by
  have hs : [TextEdit.insert 1 "x" "before", TextEdit.replace 1 4 "-" "arrow",
      TextEdit.insert 4 "y" "after"].mergeSort before = [TextEdit.insert 1 "x" "before",
      TextEdit.replace 1 4 "-" "arrow", TextEdit.insert 4 "y" "after"] :=
    List.mergeSort_of_pairwise (by decide)
  have h : build [TextEdit.insert 1 "x" "before", TextEdit.replace 1 4 "-" "arrow",
      TextEdit.insert 4 "y" "after"] (Text.size "a→b") = .ok ⟨[TextEdit.insert 1 "x" "before",
      TextEdit.replace 1 4 "-" "arrow", TextEdit.insert 4 "y" "after"]⟩ := by
    simp only [build, hs]
    rfl
  exact ⟨_, h, apply_eq_splice h, by decide⟩

end SyntaxEdit.EditSet
