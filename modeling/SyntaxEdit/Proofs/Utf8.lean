import SyntaxEdit.Text.Utf8

namespace SyntaxEdit.Text

theorem splitBytes_cons_add (c : Char) (cs : List Char) (i : Nat) :
    splitBytes (c :: cs) (c.utf8Size + i) = (splitBytes cs i).map fun p => (c :: p.1, p.2) := by
  have hc := c.utf8Size_pos
  obtain ⟨k, hk⟩ : ∃ k, c.utf8Size + i = k + 1 := ⟨c.utf8Size + i - 1, by omega⟩
  rw [hk, splitBytes, if_pos (by omega), show k + 1 - c.utf8Size = i by omega]

theorem splitBytes_append_byteLength (xs ys : List Char) (k : Nat) :
    splitBytes (xs ++ ys) (byteLength xs + k) =
      (splitBytes ys k).map fun p => (xs ++ p.1, p.2) := by
  induction xs with
  | nil => simp
  | cons c cs ih =>
    rw [List.cons_append, byteLength_cons, Nat.add_assoc, splitBytes_cons_add, ih, Option.map_map]
    rfl

theorem splitBytes_append_of_le {xs : List Char} {i : Nat} (ys : List Char)
    (h : i ≤ byteLength xs) :
    splitBytes (xs ++ ys) i = (splitBytes xs i).map fun p => (p.1, p.2 ++ ys) := by
  induction xs generalizing i with
  | nil =>
    have hi : i = 0 := by simpa using h
    subst hi
    cases ys <;> rfl
  | cons c cs ih =>
    cases i with
    | zero => rfl
    | succ i =>
      simp only [List.cons_append, splitBytes]
      split
      · rw [ih (by simp at h; omega), Option.map_map, Option.map_map]
        rfl
      · rfl

theorem isBoundary_zero (cs : List Char) : isBoundary cs 0 = true := by
  cases cs <;> rfl

theorem isBoundary_byteLength (cs : List Char) : isBoundary cs (byteLength cs) = true :=
  (isBoundary_iff cs _).2 ⟨cs, [], (List.append_nil cs).symm, rfl⟩

theorem le_byteLength_of_isBoundary {cs : List Char} {i : Nat} (h : isBoundary cs i) :
    i ≤ byteLength cs := by
  obtain ⟨xs, ys, rfl, rfl⟩ := (isBoundary_iff cs i).1 h
  simp

theorem isBoundary_append_of_le {xs : List Char} {i : Nat} (ys : List Char)
    (h : i ≤ byteLength xs) : isBoundary (xs ++ ys) i = isBoundary xs i := by
  simp [isBoundary, splitBytes_append_of_le ys h]

theorem isBoundary_append_byteLength (xs ys : List Char) (k : Nat) :
    isBoundary (xs ++ ys) (byteLength xs + k) = isBoundary ys k := by
  simp [isBoundary, splitBytes_append_byteLength]

theorem isBoundary_floorBoundary (cs : List Char) (i : Nat) :
    isBoundary cs (floorBoundary cs i) := by
  induction cs generalizing i with
  | nil => rfl
  | cons c cs ih =>
    simp only [floorBoundary]
    split
    · simpa [isBoundary, splitBytes_cons_add] using ih (i - c.utf8Size)
    · exact isBoundary_zero _

theorem floorBoundary_le (cs : List Char) (i : Nat) : floorBoundary cs i ≤ i := by
  induction cs generalizing i with
  | nil => exact Nat.zero_le i
  | cons c cs ih =>
    simp only [floorBoundary]
    split
    · have := ih (i - c.utf8Size)
      omega
    · exact Nat.zero_le i

theorem prefix_of_byteLength_le {a b c d : List Char} (h : a ++ b = c ++ d)
    (hl : byteLength a ≤ byteLength c) : ∃ m, c = a ++ m := by
  rcases List.append_eq_append_iff.1 h with ⟨m, rfl, -⟩ | ⟨m, rfl, -⟩
  · exact ⟨m, rfl⟩
  · have hm : byteLength m = 0 := by simp at hl; omega
    cases m with
    | nil => exact ⟨[], by simp⟩
    | cons x xs =>
      have := x.utf8Size_pos
      simp at hm
      omega

theorem takeBytes_append_of_le {xs : List Char} {i : Nat} (ys : List Char)
    (h : i ≤ byteLength xs) : takeBytes (xs ++ ys) i = takeBytes xs i := by
  simp [takeBytes, splitBytes_append_of_le ys h, Option.map_map, Function.comp_def]

theorem takeBytes_append_byteLength (xs ys : List Char) (k : Nat) :
    takeBytes (xs ++ ys) (byteLength xs + k) = (takeBytes ys k).map (xs ++ ·) := by
  simp [takeBytes, splitBytes_append_byteLength, Option.map_map, Function.comp_def]

theorem sliceBytes_append_byteLength (xs ys : List Char) (k : Nat) :
    sliceBytes (xs ++ ys) (byteLength xs) (byteLength xs + k) = takeBytes ys k := by
  have h := splitBytes_append_byteLength xs ys 0
  simp only [Nat.add_zero] at h
  simp [sliceBytes, h, splitBytes, takeBytes]
  cases splitBytes ys k <;> rfl

theorem isSome_sliceBytes_iff {cs : List Char} {a b : Nat} (h : a ≤ b) :
    (sliceBytes cs a b).isSome ↔ isBoundary cs a ∧ isBoundary cs b := by
  cases hs : splitBytes cs a with
  | none => simp [sliceBytes, h, hs, isBoundary]
  | some p =>
    obtain ⟨hcs, hp⟩ := splitBytes_eq_some hs
    have hslice := sliceBytes_append_byteLength p.1 p.2 (b - a)
    have hcut := isBoundary_append_byteLength p.1 p.2 (b - a)
    rw [← hcs, hp, show a + (b - a) = b by omega] at hslice hcut
    rw [hslice, hcut]
    simp [isBoundary, hs, takeBytes]

theorem isBoundary_of_dropBytes {cs : List Char} {i : Nat} {rest : List Char}
    (h : dropBytes cs i = some rest) : isBoundary cs i := by
  simp only [dropBytes, Option.map_eq_some_iff] at h
  obtain ⟨p, hp, -⟩ := h
  simp [isBoundary, hp]

theorem sliceBytes_append_append (pre mid post : List Char) :
    sliceBytes (pre ++ mid ++ post) (byteLength pre) (byteLength pre + byteLength mid) =
      some mid := by
  have h := takeBytes_append_byteLength mid post 0
  rw [Nat.add_zero] at h
  rw [List.append_assoc, sliceBytes_append_byteLength, h]
  cases post <;> simp [takeBytes, splitBytes]

theorem exists_cut {cs : List Char} {a b : Nat} (ha : isBoundary cs a) (hb : isBoundary cs b)
    (hab : a ≤ b) :
    ∃ pre mid post, cs = pre ++ mid ++ post ∧ byteLength pre = a ∧
      byteLength pre + byteLength mid = b := by
  obtain ⟨P, R, hPR, rfl⟩ := (isBoundary_iff cs a).1 ha
  obtain ⟨Q, S, hQS, rfl⟩ := (isBoundary_iff cs b).1 hb
  obtain ⟨m, rfl⟩ := prefix_of_byteLength_le (hPR.symm.trans hQS) hab
  exact ⟨P, m, S, hQS, rfl, (byteLength_append P m).symm⟩

theorem sliceBytes_infix {cs m m' : List Char} {a b c d : Nat} (hac : a ≤ c) (hcd : c ≤ d)
    (hdb : d ≤ b) (hm : sliceBytes cs a b = some m) (hm' : sliceBytes cs c d = some m') :
    m' <:+: m := by
  obtain ⟨ha, hb⟩ := (isSome_sliceBytes_iff (by omega)).1 (Option.isSome_iff_exists.2 ⟨m, hm⟩)
  obtain ⟨hc, hd⟩ := (isSome_sliceBytes_iff hcd).1 (Option.isSome_iff_exists.2 ⟨m', hm'⟩)
  obtain ⟨P, M, S, rfl, rfl, hPM⟩ := exists_cut ha hb (by omega)
  obtain ⟨P', M', S', hcs, rfl, hPM'⟩ := exists_cut hc hd hcd
  rw [← hPM, sliceBytes_append_append, Option.some.injEq] at hm
  rw [hcs, ← hPM', sliceBytes_append_append, Option.some.injEq] at hm'
  subst hm hm'
  -- the cut at `c` lies past the cut at `a`, and the piece up to `d` inside the slice to `b`
  rw [List.append_assoc, List.append_assoc] at hcs
  obtain ⟨X, rfl⟩ := prefix_of_byteLength_le hcs hac
  rw [List.append_assoc, List.append_cancel_left_eq, ← List.append_assoc] at hcs
  have hlen : byteLength (X ++ M') ≤ byteLength M := by
    simp only [byteLength_append] at hPM hPM' ⊢
    omega
  obtain ⟨Y, rfl⟩ := prefix_of_byteLength_le hcs.symm hlen
  exact ⟨X, Y, rfl⟩

theorem isBoundary_of_sliceBytes {cs : List Char} {a b : Nat} {m : List Char}
    (h : sliceBytes cs a b = some m) : a ≤ b ∧ isBoundary cs a ∧ isBoundary cs b := by
  have hab : a ≤ b := by
    unfold sliceBytes at h
    split at h
    · assumption
    · cases h
  exact ⟨hab, (isSome_sliceBytes_iff hab).1 (by simp [h])⟩

/-- A slice is the piece between its ends: the text is what comes before it, the slice, and
what comes after. -/
theorem exists_of_sliceBytes {cs m : List Char} {a b : Nat} (h : sliceBytes cs a b = some m) :
    ∃ pre post, cs = pre ++ m ++ post ∧ byteLength pre = a ∧ byteLength pre + byteLength m = b := by
  obtain ⟨hab, ha, hb⟩ := isBoundary_of_sliceBytes h
  obtain ⟨pre, mid, post, rfl, rfl, hpm⟩ := exists_cut ha hb hab
  rw [← hpm, sliceBytes_append_append, Option.some.injEq] at h
  subst h
  exact ⟨pre, post, rfl, rfl, hpm⟩

end SyntaxEdit.Text
