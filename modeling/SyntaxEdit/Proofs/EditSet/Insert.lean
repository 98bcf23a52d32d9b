import Mathlib
import SyntaxEdit.Proofs.EditSet.Apply

namespace SyntaxEdit.EditSet

open Text

/-- `out` is `rest`, the source from offset `pos` on, with the texts of the insertions `es`
put in at their offsets in order: `rest` is cut into gaps at the offsets and `out` alternates
the gaps with the inserted texts. -/
inductive Inserts : Nat → List TextEdit → List Char → List Char → Prop
  | nil (pos : Nat) (rest : List Char) : Inserts pos [] rest rest
  | cons {pos : Nat} {e : TextEdit} {es : List TextEdit} {gap rest out : List Char} :
      pos + byteLength gap = e.start → Inserts e.start es rest out →
      Inserts pos (e :: es) (gap ++ rest) (gap ++ e.replacement.toList ++ out)

theorem Inserts.byteLength_eq {pos : Nat} {es : List TextEdit} {rest out : List Char}
    (h : Inserts pos es rest out) :
    byteLength out = byteLength rest + (es.map fun e => byteLength e.replacement.toList).sum := by
  induction h with
  | nil => simp
  | cons _ _ ih =>
    simp only [byteLength_append, ih, List.map_cons, List.sum_cons]
    omega

/-- Cutting the source from `p` to `q` takes the front of what follows `p`; what follows `q`
is the rest. -/
theorem dropBytes_of_sliceBytes {cs rest gap : List Char} {p q : Nat}
    (hd : dropBytes cs p = some rest) (hs : sliceBytes cs p q = some gap) :
    ∃ rest', dropBytes cs q = some rest' ∧ rest = gap ++ rest' ∧ p + byteLength gap = q := by
  obtain ⟨⟨pre, rest₀⟩, hsp, rfl⟩ := Option.map_eq_some_iff.1 hd
  obtain ⟨hcs, hpre⟩ := splitBytes_eq_some hsp
  unfold sliceBytes at hs
  split at hs
  · next hpq =>
    simp only [hsp, Option.bind_eq_bind, Option.bind_some, Option.bind_eq_some_iff,
      Option.pure_def, Option.some.injEq] at hs
    obtain ⟨⟨mid, rest'⟩, hmid, rfl⟩ := hs
    obtain ⟨hrest, hlen⟩ := splitBytes_eq_some hmid
    refine ⟨rest', ?_, hrest, by simp only at hlen hpre ⊢; omega⟩
    have hsplit := splitBytes_byteLength_append (pre ++ mid) rest'
    rw [List.append_assoc, ← hrest, ← hcs, byteLength_append, hpre, hlen,
      show p + (q - p) = q by omega] at hsplit
    simp [dropBytes, hsplit]
  · cases hs

theorem inserts_of_spliceFrom {l : List TextEdit} {p : Nat} {cs rest out : List Char}
    (hi : ∀ e ∈ l, e.start = e.stop) (hf : Follows p l) (hd : dropBytes cs p = some rest)
    (h : spliceFrom l p cs = some out) : Inserts p l rest out := by
  induction l generalizing p rest out with
  | nil =>
    simp only [spliceFrom, hd, Option.some.injEq] at h
    exact h ▸ .nil p rest
  | cons e l ih =>
    simp only [spliceFrom, Option.bind_eq_bind, Option.bind_eq_some_iff, Option.pure_def,
      Option.some.injEq] at h
    obtain ⟨gap, hgap, tail, htail, rfl⟩ := h
    obtain ⟨rest', hd', rfl, hlen⟩ := dropBytes_of_sliceBytes hd hgap
    have hstop : e.stop = e.start := (hi e (List.mem_cons_self ..)).symm
    rw [hstop] at htail
    have hf' : Follows e.start l := hstop ▸ hf.2.2
    exact .cons hlen (ih (fun d hd => hi d (List.mem_cons_of_mem e hd)) hf' hd' htail)

/-- Insertions inside the source, each between two characters, always form an edit set of the
same edits; applying it puts every text in at its offset and keeps the source around them. -/
theorem build_insertions {es : List TextEdit} {src : String}
    (hi : ∀ e ∈ es, e.start = e.stop ∧ e.stop ≤ Text.size src ∧ isBoundary src.toList e.start) :
    ∃ S, build es (Text.size src) = .ok S ∧ S.edits.Perm es ∧
      ∃ out, S.apply src = some out ∧ Inserts 0 S.edits src.toList out.toList := by
  -- two insertions never overlap: one of them comes first
  have hcomp : es.Pairwise Compatible := List.pairwise_of_forall_mem_list fun a ha b hb => by
    unfold Compatible
    rw [(hi a ha).1, (hi b hb).1]
    exact Nat.le_total _ _
  have hin : ∀ e ∈ es, InBounds (Text.size src) e :=
    fun e he => ⟨Nat.le_of_eq (hi e he).1, (hi e he).2.1⟩
  obtain ⟨S, hS⟩ := (build_isOk_iff es (Text.size src)).2 ⟨hin, hcomp⟩
  have hmem : ∀ e ∈ S.edits, e ∈ es := by
    rw [(build_eq_ok hS).1]
    exact fun e he => List.mem_mergeSort.1 he
  have hf := (follows_of_build hS).1
  have happly : applyEach S.edits.reverse ([] ++ src.toList) = _ :=
    applyEach_reverse_eq_spliceFrom hf rfl
  simp only [List.nil_append, Option.map_id'] at happly
  -- every end of an edit is a boundary, so the splice exists
  have hsome : (spliceFrom S.edits 0 src.toList).isSome := by
    refine (isSome_spliceFrom_iff hf).2 ⟨isBoundary_zero _, fun e he => ?_⟩
    obtain ⟨hse, -, hb⟩ := hi e (hmem e he)
    exact ⟨hb, hse ▸ hb⟩
  obtain ⟨out, hout⟩ := Option.isSome_iff_exists.1 hsome
  refine ⟨S, hS, ?_, String.ofList out, ?_, ?_⟩
  · rw [(build_eq_ok hS).1]
    exact List.mergeSort_perm es before
  · simp [apply, happly, hout]
  · rw [String.toList_ofList]
    exact inserts_of_spliceFrom (fun e he => (hi e (hmem e he)).1) hf
      (by simp [dropBytes, splitBytes]) hout

end SyntaxEdit.EditSet
