import SyntaxEdit.Proofs.EditSet.Build
import SyntaxEdit.Proofs.Duplicate

namespace SyntaxEdit

namespace TextEdit

/-- The first edit of each change in `L`, in the order of `L`: the edit at position `i` stays
exactly when no edit before it makes the same change. -/
def firstChanges (L : List TextEdit) : List TextEdit :=
  (L.zipIdx.filter fun p => !(L.take p.2).any (·.sameChange p.1)).map Prod.fst

def insertsAt (o : Nat) (d : TextEdit) : Bool := d.start == o && d.stop == o

theorem sameChange_trans {a b c : TextEdit} (hab : a.sameChange b) (hbc : b.sameChange c) :
    a.sameChange c := by
  simp only [sameChange, Bool.and_eq_true, beq_iff_eq] at *
  exact ⟨⟨hab.1.1.trans hbc.1.1, hab.1.2.trans hbc.1.2⟩, hab.2.trans hbc.2⟩

theorem firstChanges_append_singleton (L : List TextEdit) (d : TextEdit) :
    firstChanges (L ++ [d]) =
      firstChanges L ++ if L.any (·.sameChange d) then [] else [d] := by
  simp only [firstChanges, List.zipIdx_append, List.filter_append, List.map_append]
  congr 1
  · -- an earlier edit looks back at the same edits as before
    congr 1
    refine List.filter_congr fun p hp => ?_
    have := (List.mem_zipIdx hp).2.1
    rw [List.take_append_of_le_length (by omega)]
  · by_cases h : L.any (·.sameChange d) <;> simp [h]

theorem any_firstChanges (L : List TextEdit) (d : TextEdit) :
    (firstChanges L).any (·.sameChange d) = L.any (·.sameChange d) := by
  induction L using List.reverseRecOn with
  | nil => rfl
  | append_singleton L y ih =>
    rw [firstChanges_append_singleton, List.any_append, ih, List.any_append]
    by_cases hy : L.any (·.sameChange y)
    · -- a dropped edit repeats a change that an earlier edit already makes
      rw [if_pos hy]
      obtain ⟨x, hx, hxy⟩ := List.any_eq_true.1 hy
      by_cases hyd : y.sameChange d
      · have : L.any (·.sameChange d) := List.any_eq_true.2 ⟨x, hx, sameChange_trans hxy hyd⟩
        simp [this]
      · simp [hyd]
    · rw [if_neg hy]

/-- The loop that drops repeats, after a prefix `P` whose first changes it kept, keeps the
first changes of the whole list. -/
theorem firstOfEach_eq_firstChanges (es : List TextEdit) :
    ∀ (kept P : List TextEdit), kept.reverse = firstChanges P →
      firstOfEach es kept = firstChanges (P ++ es) := by
  induction es with
  | nil => intro kept P h; simpa [firstOfEach] using h
  | cons e es ih =>
    intro kept P h
    -- what the loop has kept makes a change exactly when the prefix does
    have hseen : kept.any (·.sameChange e) = P.any (·.sameChange e) := by
      rw [← List.any_reverse, h, any_firstChanges]
    have hnext := firstChanges_append_singleton P e
    rw [firstOfEach, hseen, show P ++ e :: es = (P ++ [e]) ++ es by simp]
    by_cases hs : P.any (·.sameChange e)
    · rw [if_pos hs]
      exact ih kept (P ++ [e]) (by rw [hnext, if_pos hs, List.append_nil, h])
    · rw [if_neg hs]
      exact ih (e :: kept) (P ++ [e]) (by rw [hnext, if_neg hs, List.reverse_cons, h])

theorem firstChanges_of_pairwise {L : List TextEdit}
    (h : L.Pairwise fun a b => sameChange a b = false) : firstChanges L = L := by
  induction L using List.reverseRecOn with
  | nil => rfl
  | append_singleton L d ih =>
    rw [List.pairwise_append] at h
    have hnew : L.any (·.sameChange d) = false :=
      List.any_eq_false.2 fun a ha => by simp [h.2.2 a ha d (List.mem_singleton_self d)]
    rw [firstChanges_append_singleton, hnew, ih h.1]
    rfl

theorem rank_eq (es : List TextEdit) (k : Nat) :
    rank es k = (es.zipIdx k).map fun p => { p.1 with priority := p.2 } := by
  induction es generalizing k with
  | nil => rfl
  | cons e es ih => simp [rank, ih]

theorem rank_rank (es : List TextEdit) (k j : Nat) : rank (rank es k) j = rank es j := by
  induction es generalizing k j with
  | nil => rfl
  | cons e es ih => simp [rank, ih]

theorem pairwise_priority_rank (es : List TextEdit) (k : Nat) :
    (rank es k).Pairwise fun a b => a.priority < b.priority := by
  induction es generalizing k with
  | nil => exact .nil
  | cons e es ih =>
    refine List.pairwise_cons.2 ⟨fun b hb => ?_, ih (k + 1)⟩
    -- the edits after the first are numbered from `k + 1` on
    have hge : ∀ j, ∀ d ∈ rank es j, (j : Int) ≤ d.priority := by
      intro j d hd
      rw [rank_eq] at hd
      obtain ⟨⟨d', i⟩, hp, rfl⟩ := List.mem_map.1 hd
      exact Int.ofNat_le.2 (List.mem_zipIdx hp).1
    have := hge (k + 1) b hb
    show (k : Int) < b.priority
    omega

end TextEdit

open TextEdit EditSet

/-- Dropping repeats keeps the first edit of each change, in input order, with its priority
renumbered to its position. -/
theorem dedupEdits_eq (L : List TextEdit) :
    dedupEdits L = (firstChanges L).zipIdx.map fun p => { p.1 with priority := p.2 } := by
  rw [dedupEdits, firstOfEach_eq_firstChanges L [] [] rfl, List.nil_append, rank_eq]

theorem dedupEdits_dedupEdits (L : List TextEdit) : dedupEdits (dedupEdits L) = dedupEdits L := by
  have hfirst := firstOfEach_eq_firstChanges (dedupEdits L) [] [] rfl
  rw [List.nil_append, firstChanges_of_pairwise (pairwise_dedupEdits L)] at hfirst
  rw [dedupEdits, hfirst, dedupEdits, rank_rank]

/-- Sorting edits of pairwise different priorities by start, end and priority keeps the
insertions at one offset in the order they have: start and end are the same, so the priorities
decide. -/
theorem filter_insertsAt_mergeSort {D : List TextEdit}
    (hD : D.Pairwise fun a b => a.priority < b.priority) (o : Nat) :
    (D.mergeSort before).filter (insertsAt o) = D.filter (insertsAt o) := by
  have hperm := (List.mergeSort_perm D before).filter (insertsAt o)
  -- priorities stay pairwise different in any order of the same edits
  have hne : (D.mergeSort before).Pairwise fun a b => a.priority ≠ b.priority :=
    ((List.Perm.pairwise_iff Ne.symm (List.mergeSort_perm D before)).2
      (hD.imp Int.ne_of_lt))
  have hsorted : ((D.mergeSort before).filter (insertsAt o)).Pairwise
      fun a b => a.priority < b.priority := by
    rw [List.pairwise_filter]
    refine ((List.pairwise_mergeSort before_trans before_total D).and hne).imp
      fun ⟨hab, hne⟩ ha hb => ?_
    simp only [insertsAt, before, Bool.and_eq_true, beq_iff_eq, Bool.or_eq_true,
      decide_eq_true_eq] at ha hb hab
    omega
  exact hperm.eq_of_pairwise (fun a b _ _ h₁ h₂ => absurd (h₁.trans h₂) (Int.lt_irrefl _))
    hsorted (hD.filter _)

/-- Dropping repeated changes keeps, in input order, the first edit of each change (range and
replacement), numbered by its position; a second pass changes nothing; and an edit set built
from the result holds the insertions at each offset in the order they were made, whatever
priorities the input carried, which is the order applying the set writes them in. -/
theorem dedupEdits_spec (L : List TextEdit) :
    dedupEdits L = (firstChanges L).zipIdx.map (fun p => { p.1 with priority := p.2 }) ∧
      dedupEdits (dedupEdits L) = dedupEdits L ∧
      ∀ n S, build (dedupEdits L) n = .ok S →
        ∀ o, S.edits.filter (insertsAt o) = (dedupEdits L).filter (insertsAt o) := by
  refine ⟨dedupEdits_eq L, dedupEdits_dedupEdits L, fun n S h o => ?_⟩
  rw [(build_eq_ok h).1]
  exact filter_insertsAt_mergeSort (pairwise_priority_rank _ 0) o

end SyntaxEdit
