import SyntaxEdit.Caption

namespace SyntaxEdit.Caption

open SyntaxEdit.Text

def Keeps (c : Char) : Prop := c ≠ '\r' ∧ c ≠ '\n' ∧ c ≠ '\'' ∧ (isBlank c = true → c = ' ')

/-- Text that folding leaves as it is: characters a caption may hold, no two spaces side by
side. -/
inductive Folded : List Char → Prop
  | nil : Folded []
  | cons {c : Char} {cs : List Char} :
    Keeps c → (c = ' ' → cs.head? ≠ some ' ') → Folded cs → Folded (c :: cs)

@[simp] theorem folded_cons {c : Char} {cs : List Char} :
    Folded (c :: cs) ↔ Keeps c ∧ (c = ' ' → cs.head? ≠ some ' ') ∧ Folded cs :=
  ⟨fun | .cons hk hs hf => ⟨hk, hs, hf⟩, fun ⟨hk, hs, hf⟩ => .cons hk hs hf⟩

instance : DecidablePred Keeps := fun c =>
  inferInstanceAs (Decidable (c ≠ '\r' ∧ c ≠ '\n' ∧ c ≠ '\'' ∧ (isBlank c = true → c = ' ')))

instance decFolded : DecidablePred Folded
  | [] => isTrue .nil
  | _ :: cs =>
    have := decFolded cs
    decidable_of_iff _ folded_cons.symm

theorem Folded.append {xs ys : List Char} (hx : Folded xs) (hy : Folded ys)
    (hj : ys.head? ≠ some ' ') : Folded (xs ++ ys) := by
  induction hx with
  | nil => exact hy
  | @cons c cs hc hsp _ ih =>
    refine .cons hc (fun h => ?_) ih
    cases cs with
    | nil => exact hj
    | cons d ds => exact hsp h

theorem Folded.of_append {xs ys : List Char} (h : Folded (xs ++ ys)) : Folded xs := by
  induction xs with
  | nil => exact .nil
  | cons c cs ih =>
    obtain ⟨hc, hsp, hcs⟩ := folded_cons.1 h
    refine .cons hc (fun hs => ?_) (ih hcs)
    cases cs with
    | nil => simp
    | cons d ds => exact hsp hs

theorem Folded.take {cs : List Char} (h : Folded cs) (n : Nat) : Folded (cs.take n) := by
  rw [← List.take_append_drop n cs] at h
  exact h.of_append

theorem normalize_lineBreak {c : Char} (h : c = '\r' ∨ c = '\n') (cs : List Char) (b : Bool) :
    normalize (c :: cs) b = normalize cs b := by
  rcases h with rfl | rfl <;> rfl

theorem normalize_blank {c : Char} (hr : c ≠ '\r') (hn : c ≠ '\n') (hc : isBlank c = true)
    (cs : List Char) (b : Bool) :
    normalize (c :: cs) b = if b then normalize cs true else ' ' :: normalize cs true := by
  simp [normalize, hr, hn, hc]

theorem normalize_quote (cs : List Char) (b : Bool) :
    normalize ('\'' :: cs) b = '"' :: normalize cs false := rfl

theorem normalize_other {c : Char} (hc : isBlank c = false) (hq : c ≠ '\'') (cs : List Char)
    (b : Bool) : normalize (c :: cs) b = c :: normalize cs false := by
  have hr : c ≠ '\r' := by rintro rfl; exact absurd hc (by decide)
  have hn : c ≠ '\n' := by rintro rfl; exact absurd hc (by decide)
  simp [normalize, hr, hn, hc, hq]

/-- Folding gives a folded text, and one that does not open with a space while a blank run is
still open, so that the run's space is never repeated across a line break. -/
theorem normalize_folded (cs : List Char) (b : Bool) :
    Folded (normalize cs b) ∧ (b = true → (normalize cs b).head? ≠ some ' ') := by
  induction cs generalizing b with
  | nil => exact ⟨.nil, nofun⟩
  | cons c cs ih =>
    by_cases hbr : c = '\r' ∨ c = '\n'
    · rw [normalize_lineBreak hbr]
      exact ih b
    obtain ⟨hr, hn⟩ := not_or.1 hbr
    cases hbl : isBlank c with
    | true =>
      rw [normalize_blank hr hn hbl]
      cases b with
      | true => exact ih true
      | false =>
        have hk : Keeps ' ' := by decide
        exact ⟨.cons hk (fun _ => (ih true).2 rfl) (ih true).1, nofun⟩
    | false =>
      by_cases hq : c = '\''
      · subst hq
        have hk : Keeps '"' := by decide
        rw [normalize_quote]
        exact ⟨.cons hk nofun (ih false).1, fun _ => by simp⟩
      · have hsp : c ≠ ' ' := by rintro rfl; exact absurd hbl (by decide)
        have hk : Keeps c := ⟨hr, hn, hq, fun h => absurd h (by simp [hbl])⟩
        rw [normalize_other hbl hq]
        exact ⟨.cons hk (fun h => absurd h hsp) (ih false).1, fun _ => by simpa using hsp⟩

theorem normalize_of_folded {cs : List Char} (h : Folded cs) {b : Bool}
    (hb : b = true → cs.head? ≠ some ' ') : normalize cs b = cs := by
  induction cs generalizing b with
  | nil => rfl
  | cons c cs ih =>
    obtain ⟨⟨hr, hn, hq, hbl⟩, hsp, hcs⟩ := folded_cons.1 h
    cases hc : isBlank c with
    | true =>
      -- the only blank left is a space, and no other blank follows it
      obtain rfl : c = ' ' := hbl hc
      rw [normalize_blank hr hn hc]
      cases b with
      | true => exact absurd rfl (hb rfl)
      | false => rw [if_neg Bool.false_ne_true, ih hcs (fun _ => hsp rfl)]
    | false => rw [normalize_other hc hq, ih hcs (b := false) nofun]

theorem mem_normalize {c : Char} {cs : List Char} {b : Bool} (h : c ∈ normalize cs b) :
    c ∈ cs ∨ c = ' ' ∨ c = '"' := by
  induction cs generalizing b with
  | nil => simp [normalize] at h
  | cons d ds ih =>
    by_cases hbr : d = '\r' ∨ d = '\n'
    · rw [normalize_lineBreak hbr] at h
      grind
    obtain ⟨hr, hn⟩ := not_or.1 hbr
    cases hbl : isBlank d with
    | true =>
      rw [normalize_blank hr hn hbl] at h
      cases b <;> grind
    | false =>
      by_cases hq : d = '\''
      · subst hq
        rw [normalize_quote] at h
        grind
      · rw [normalize_other hbl hq] at h
        grind

theorem truncateChars_length (cs : List Char) :
    (truncateChars cs).length = min cs.length maxChars := by
  unfold truncateChars
  split
  · omega
  · split <;> simp [List.length_take, maxChars] at * <;> omega

theorem truncateChars_of_length_le {cs : List Char} (h : cs.length ≤ maxChars) :
    truncateChars cs = cs := by
  simp [truncateChars, h]

theorem Folded.truncateChars {cs : List Char} (h : Folded cs) : Folded (truncateChars cs) := by
  unfold Caption.truncateChars
  split
  · exact h
  · -- both cut forms end in a fixed tail that opens with no space
    split <;> exact (h.take _).append (by decide) (by simp)

theorem mem_truncateChars {c : Char} {cs : List Char} (h : c ∈ truncateChars cs) :
    c ∈ cs ∨ c = '⋯' ∨ c = ')' := by
  unfold truncateChars at h
  split at h
  · exact .inl h
  · split at h <;> simp only [List.mem_append, List.mem_cons, List.not_mem_nil] at h <;>
      grind [List.mem_of_mem_take]

theorem Folded.keeps {cs : List Char} (h : Folded cs) : ∀ c ∈ cs, Keeps c := by
  induction h with
  | nil => simp
  | cons hk _ _ ih => exact List.forall_mem_cons.2 ⟨hk, ih⟩

theorem caption_toList (s : String) :
    (caption s).toList = truncateChars (normalize s.toList false) := by
  simp [caption]

theorem caption_length (s : String) :
    (caption s).length = min (normalize s.toList false).length maxChars := by
  rw [← String.length_toList, caption_toList, truncateChars_length]

theorem caption_folded (s : String) : Folded (caption s).toList := by
  rw [caption_toList]
  exact (normalize_folded _ false).1.truncateChars

theorem caption_eq_self_iff (s : String) :
    caption s = s ↔ s.length ≤ maxChars ∧ Folded s.toList := by
  constructor
  · intro h
    have hf := caption_folded s
    have hl := caption_length s
    rw [h] at hf hl
    exact ⟨hl ▸ Nat.min_le_right _ _, hf⟩
  · rintro ⟨hl, hf⟩
    apply String.ext
    rw [caption_toList, normalize_of_folded hf (b := false) nofun,
      truncateChars_of_length_le (by rwa [String.length_toList])]

theorem caption_caption (s : String) : caption (caption s) = caption s :=
  (caption_eq_self_iff _).2 ⟨by rw [caption_length]; exact Nat.min_le_right _ _, caption_folded s⟩

/-- A caption holds no character of its own but a space, a double quote, the ellipsis and a
closing parenthesis. -/
theorem mem_caption {c : Char} {s : String} (h : c ∈ (caption s).toList) :
    c ∈ s.toList ∨ c = ' ' ∨ c = '"' ∨ c = '⋯' ∨ c = ')' := by
  rw [caption_toList] at h
  rcases mem_truncateChars h with h | h | h
  · rcases mem_normalize h with h | h | h <;> simp [h]
  · simp [h]
  · simp [h]

/-- A caption has the length of the folded text, up to thirty characters; it holds no line break,
no single quote and no blank but single spaces; it is its own caption; and a text is its own
caption exactly when it is at most thirty characters long and has that shape. -/
theorem caption_normal_form (s : String) :
    (caption s).length = min (normalize s.toList false).length 30 ∧
      Folded (caption s).toList ∧ caption (caption s) = caption s ∧
      (caption s = s ↔ s.length ≤ 30 ∧ Folded s.toList) :=
  ⟨caption_length s, caption_folded s, caption_caption s, caption_eq_self_iff s⟩

end SyntaxEdit.Caption
