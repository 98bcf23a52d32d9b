import SyntaxEdit.Edit.Set

namespace SyntaxEdit.EditSet

def Compatible (a b : TextEdit) : Prop := a.stop ≤ b.start ∨ b.stop ≤ a.start

def InBounds (n : Nat) (e : TextEdit) : Prop := e.start ≤ e.stop ∧ e.stop ≤ n

instance : DecidableRel Compatible := fun a b =>
  inferInstanceAs (Decidable (a.stop ≤ b.start ∨ b.stop ≤ a.start))

instance (n : Nat) : DecidablePred (InBounds n) := fun e =>
  inferInstanceAs (Decidable (e.start ≤ e.stop ∧ e.stop ≤ n))

/-- Edits that come one after another from offset `p` on: each starts at or after the end of
the one before it, and none ends before it starts. -/
def Follows : Nat → List TextEdit → Prop
  | _, [] => True
  | p, e :: es => p ≤ e.start ∧ e.start ≤ e.stop ∧ Follows e.stop es

def SameKey (a b : TextEdit) : Prop :=
  a.start = b.start ∧ a.stop = b.stop ∧ a.priority = b.priority

/-- `out` holds the edits of `es` sorted by start, end and priority, and edits of the same key
stay in the order they have in `es`. -/
structure SortsStably (es out : List TextEdit) : Prop where
  perm : out.Perm es
  sorted : out.Pairwise fun a b => before a b
  stable : ∀ a b, SameKey a b → [a, b].Sublist es → [a, b].Sublist out

theorem compatible_symm {a b : TextEdit} (h : Compatible a b) : Compatible b a := h.symm

theorem before_trans (a b c : TextEdit) (hab : before a b) (hbc : before b c) : before a c := by
  simp only [before, Bool.or_eq_true, Bool.and_eq_true, decide_eq_true_eq, beq_iff_eq] at *
  omega

theorem before_total (a b : TextEdit) : (before a b || before b a) = true := by
  simp only [before, Bool.or_eq_true, Bool.and_eq_true, decide_eq_true_eq, beq_iff_eq]
  omega

theorem before_of_sameKey {a b : TextEdit} (h : SameKey a b) : before a b := by
  obtain ⟨h1, h2, h3⟩ := h
  simp [before, h1, h2, h3]

theorem mergeSort_sortsStably (es : List TextEdit) : SortsStably es (es.mergeSort before) where
  perm := List.mergeSort_perm es before
  sorted := List.pairwise_mergeSort before_trans before_total es
  stable _ _ hk hab :=
    List.pair_sublist_mergeSort before_trans before_total (before_of_sameKey hk) hab

theorem firstOutOfBounds_eq_none_iff (es : List TextEdit) (n : Nat) :
    firstOutOfBounds es n = none ↔ ∀ e ∈ es, InBounds n e := by
  simp [firstOutOfBounds, InBounds]

/-- The scan passes a neighbouring pair exactly when the first ends before the second starts:
two insertions at one offset, the pair it skips, meet that anyway. -/
theorem firstOverlap_cons_cons_eq_none {a b : TextEdit} {rest : List TextEdit} :
    firstOverlap (a :: b :: rest) = none ↔ a.stop ≤ b.start ∧ firstOverlap (b :: rest) = none := by
  by_cases hi : (a.isInsertion && b.isInsertion && a.start == b.start) = true
  · rw [firstOverlap, if_pos hi]
    simp only [TextEdit.isInsertion, Bool.and_eq_true, beq_iff_eq] at hi
    exact ⟨fun h => ⟨by omega, h⟩, And.right⟩
  · rw [firstOverlap, if_neg hi]
    by_cases hlt : a.stop > b.start
    · simp [hlt, Nat.not_le_of_gt hlt]
    · simp [hlt, Nat.le_of_not_gt hlt]

theorem Follows.le_start {p : Nat} {es : List TextEdit} (h : Follows p es) :
    ∀ e ∈ es, p ≤ e.start := by
  induction es generalizing p with
  | nil => simp
  | cons e es ih =>
    obtain ⟨hp, hse, hrest⟩ := h
    intro f hf
    rcases List.mem_cons.1 hf with rfl | hf
    · exact hp
    · have := ih hrest f hf
      omega

theorem Follows.pairwise {p : Nat} {es : List TextEdit} (h : Follows p es) :
    es.Pairwise fun a b => a.stop ≤ b.start := by
  induction es generalizing p with
  | nil => exact .nil
  | cons e es ih => exact .cons h.2.2.le_start (ih h.2.2)

theorem follows_of_pairwise {p : Nat} {es : List TextEdit}
    (hp : ∀ e ∈ es, p ≤ e.start ∧ e.start ≤ e.stop)
    (h : es.Pairwise fun a b => a.stop ≤ b.start) : Follows p es := by
  induction es generalizing p with
  | nil => trivial
  | cons e es ih =>
    obtain ⟨hle, hrest⟩ := List.pairwise_cons.1 h
    have he := hp e List.mem_cons_self
    exact ⟨he.1, he.2, ih (fun f hf => ⟨hle f hf, (hp f (List.mem_cons_of_mem e hf)).2⟩) hrest⟩

/-- An edit that ends where the next one starts comes first in the order of an edit set, unless
both are insertions at one offset with the second of smaller priority. -/
theorem before_of_stop_le_start {a b : TextEdit} (ha : a.start ≤ a.stop) (hb : b.start ≤ b.stop)
    (hab : a.stop ≤ b.start) (hp : a.priority ≤ b.priority) : before a b := by
  simp only [before, Bool.or_eq_true, Bool.and_eq_true, decide_eq_true_eq, beq_iff_eq]
  omega

theorem Follows.pairwise_compatible {p : Nat} {es : List TextEdit} (h : Follows p es) :
    es.Pairwise Compatible :=
  h.pairwise.imp Or.inl

theorem follows_of_firstOverlap {es : List TextEdit} {p : Nat}
    (hs : ∀ e ∈ es, e.start ≤ e.stop) (ho : firstOverlap es = none)
    (hp : ∀ e ∈ es.head?, p ≤ e.start) : Follows p es := by
  induction es generalizing p with
  | nil => trivial
  | cons e es ih =>
    refine ⟨hp e rfl, hs e List.mem_cons_self,
      ih (fun f hf => hs f (List.mem_cons_of_mem e hf)) ?_ ?_⟩
    · cases es with
      | nil => rfl
      | cons f rest => exact (firstOverlap_cons_cons_eq_none.1 ho).2
    · intro f hf
      cases es with
      | nil => cases hf
      | cons g rest =>
        obtain rfl : g = f := by simpa using hf
        exact (firstOverlap_cons_cons_eq_none.1 ho).1

/-- In sorted order, a compatible pair has the first end before the second starts: the other
way round would put an edit of smaller key second. -/
theorem stop_le_start_of_compatible {a b : TextEdit} (hb : b.start ≤ b.stop)
    (hab : before a b) (hc : Compatible a b) : a.stop ≤ b.start := by
  simp only [before, Bool.or_eq_true, Bool.and_eq_true, decide_eq_true_eq, beq_iff_eq] at hab
  unfold Compatible at hc
  omega

theorem firstOverlap_eq_none_of_pairwise {es : List TextEdit} (hs : ∀ e ∈ es, e.start ≤ e.stop)
    (hsort : es.Pairwise fun a b => before a b) (hc : es.Pairwise Compatible) :
    firstOverlap es = none := by
  induction es with
  | nil => rfl
  | cons a rest ih =>
    cases rest with
    | nil => rfl
    | cons b rest =>
      have hab : a.stop ≤ b.start :=
        stop_le_start_of_compatible (hs b (by simp))
          (List.rel_of_pairwise_cons hsort (by simp)) (List.rel_of_pairwise_cons hc (by simp))
      exact firstOverlap_cons_cons_eq_none.2
        ⟨hab, ih (fun e he => hs e (List.mem_cons_of_mem a he)) hsort.of_cons hc.of_cons⟩

/-- For edits inside the source and in sorted order, the neighbour scan decides compatibility
of all pairs. -/
theorem firstOverlap_eq_none_iff {es : List TextEdit} (hs : ∀ e ∈ es, e.start ≤ e.stop)
    (hsort : es.Pairwise fun a b => before a b) :
    firstOverlap es = none ↔ es.Pairwise Compatible := by
  constructor
  · intro ho
    exact (follows_of_firstOverlap (p := 0) hs ho (by simp)).pairwise_compatible
  · exact firstOverlap_eq_none_of_pairwise hs hsort

theorem build_cases (es : List TextEdit) (n : Nat) :
    (∃ e, firstOutOfBounds (es.mergeSort before) n = some e ∧
      build es n = .error (.outOfBounds e n)) ∨
    (firstOutOfBounds (es.mergeSort before) n = none ∧ ∃ a b,
      firstOverlap (es.mergeSort before) = some (a, b) ∧ build es n = .error (.overlapping a b)) ∨
    (firstOutOfBounds (es.mergeSort before) n = none ∧ firstOverlap (es.mergeSort before) = none ∧
      build es n = .ok ⟨es.mergeSort before⟩) := by
  cases h1 : firstOutOfBounds (es.mergeSort before) n with
  | some e => exact .inl ⟨e, rfl, by simp [build, h1]⟩
  | none =>
    cases h2 : firstOverlap (es.mergeSort before) with
    | some p => exact .inr (.inl ⟨rfl, p.1, p.2, rfl, by simp [build, h1, h2]⟩)
    | none => exact .inr (.inr ⟨rfl, rfl, by simp [build, h1, h2]⟩)

theorem firstOutOfBounds_mergeSort_eq_none_iff (es : List TextEdit) (n : Nat) :
    firstOutOfBounds (es.mergeSort before) n = none ↔ ∀ e ∈ es, InBounds n e := by
  simp [firstOutOfBounds_eq_none_iff]

theorem firstOverlap_mergeSort_eq_none_iff {es : List TextEdit} {n : Nat}
    (hin : ∀ e ∈ es, InBounds n e) :
    firstOverlap (es.mergeSort before) = none ↔ es.Pairwise Compatible := by
  have hsort := mergeSort_sortsStably es
  rw [firstOverlap_eq_none_iff (fun e he => (hin e (List.mem_mergeSort.1 he)).1) hsort.sorted,
    hsort.perm.pairwise_iff compatible_symm]

theorem build_spec (es : List TextEdit) (n : Nat) :
    (¬ (∀ e ∈ es, InBounds n e) ∧ ∃ e, build es n = .error (.outOfBounds e n)) ∨
    ((∀ e ∈ es, InBounds n e) ∧ ¬ es.Pairwise Compatible ∧
      ∃ a b, build es n = .error (.overlapping a b)) ∨
    ((∀ e ∈ es, InBounds n e) ∧ es.Pairwise Compatible ∧
      build es n = .ok ⟨es.mergeSort before⟩) := by
  have hb := firstOutOfBounds_mergeSort_eq_none_iff es n
  rcases build_cases es n with ⟨e, he, h⟩ | ⟨hn, a, b, hab, h⟩ | ⟨hn, ho, h⟩
  · exact .inl ⟨fun hall => by simp [hb.2 hall] at he, e, h⟩
  · have hin := hb.1 hn
    refine .inr (.inl ⟨hin, ?_, a, b, h⟩)
    rw [← firstOverlap_mergeSort_eq_none_iff hin, hab]
    simp
  · have hin := hb.1 hn
    exact .inr (.inr ⟨hin, (firstOverlap_mergeSort_eq_none_iff hin).1 ho, h⟩)

theorem build_outOfBounds_iff (es : List TextEdit) (n : Nat) :
    (∃ e m, build es n = .error (.outOfBounds e m)) ↔ ∃ e ∈ es, ¬ InBounds n e := by
  rcases build_spec es n with ⟨hall, e, h⟩ | ⟨hin, -, a, b, h⟩ | ⟨hin, -, h⟩
  · exact ⟨fun _ => by simpa using hall, fun _ => ⟨e, n, h⟩⟩
  · simpa [h] using hin
  · simpa [h] using hin

theorem build_overlapping_iff (es : List TextEdit) (n : Nat) :
    (∃ a b, build es n = .error (.overlapping a b)) ↔
      (∀ e ∈ es, InBounds n e) ∧ ¬ es.Pairwise Compatible := by
  rcases build_spec es n with ⟨hall, e, h⟩ | ⟨hin, hc, a, b, h⟩ | ⟨hin, hc, h⟩
  · simp [h, hall]
  · exact ⟨fun _ => ⟨hin, hc⟩, fun _ => ⟨a, b, h⟩⟩
  · simp [h, hc]

theorem build_isOk_iff (es : List TextEdit) (n : Nat) :
    (∃ S, build es n = .ok S) ↔ (∀ e ∈ es, InBounds n e) ∧ es.Pairwise Compatible := by
  rcases build_spec es n with ⟨hall, e, h⟩ | ⟨hin, hc, a, b, h⟩ | ⟨hin, hc, h⟩
  · simp [h, hall]
  · simp [h, hc]
  · exact ⟨fun _ => ⟨hin, hc⟩, fun _ => ⟨_, h⟩⟩

theorem build_eq_ok {es : List TextEdit} {n : Nat} {S : EditSet} (h : build es n = .ok S) :
    S.edits = es.mergeSort before ∧ (∀ e ∈ es, InBounds n e) ∧
      firstOverlap (es.mergeSort before) = none := by
  have hb := firstOutOfBounds_mergeSort_eq_none_iff es n
  rcases build_cases es n with ⟨e, -, h'⟩ | ⟨-, a, b, -, h'⟩ | ⟨hn, ho, h'⟩
  · simp [h'] at h
  · simp [h'] at h
  · rw [h'] at h
    cases h
    exact ⟨rfl, hb.1 hn, ho⟩

theorem sortsStably_of_build {es : List TextEdit} {n : Nat} {S : EditSet}
    (h : build es n = .ok S) : SortsStably es S.edits := by
  rw [(build_eq_ok h).1]
  exact mergeSort_sortsStably es

theorem follows_of_build {es : List TextEdit} {n : Nat} {S : EditSet}
    (h : build es n = .ok S) : Follows 0 S.edits ∧ ∀ e ∈ S.edits, e.stop ≤ n := by
  obtain ⟨hs, hin, ho⟩ := build_eq_ok h
  rw [hs]
  refine ⟨follows_of_firstOverlap (fun e he => (hin e (List.mem_mergeSort.1 he)).1) ho (by simp),
    fun e he => (hin e (List.mem_mergeSort.1 he)).2⟩

/-- Building an edit set sorts out every list of edits: it fails on an edit outside the source
when there is one, else on an incompatible pair when there is one, and else holds the edits
sorted stably by start, end and priority. -/
theorem build_decides_compatibility (L : List TextEdit) (n : Nat) :
    ((∃ e m, build L n = .error (.outOfBounds e m)) ↔ ∃ e ∈ L, ¬ InBounds n e) ∧
    ((∃ a b, build L n = .error (.overlapping a b)) ↔
      (∀ e ∈ L, InBounds n e) ∧ ¬ L.Pairwise Compatible) ∧
    ((∃ S, build L n = .ok S) ↔ (∀ e ∈ L, InBounds n e) ∧ L.Pairwise Compatible) ∧
    ∀ S, build L n = .ok S → SortsStably L S.edits :=
  ⟨build_outOfBounds_iff L n, build_overlapping_iff L n, build_isOk_iff L n,
    fun _ h => sortsStably_of_build h⟩

end SyntaxEdit.EditSet
