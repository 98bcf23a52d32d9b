import SyntaxEdit.Text.Line
import SyntaxEdit.Proofs.Utf8

namespace SyntaxEdit.Text

/-- The text before an offset splits after its last line break: `afterLastNewline` is the byte
length of the part that ends with that break. -/
theorem exists_afterLastNewline (pre : List Char) :
    ∃ A B, pre = A ++ B ∧ byteLength A = afterLastNewline pre ∧ '\n' ∉ B ∧
      (A = [] ∨ A.getLast? = some '\n') := by
  unfold afterLastNewline
  split
  · next k hk =>
    obtain ⟨hlt, hnl, hbefore⟩ := List.findIdx?_eq_some_iff_getElem.1 hk
    -- reversed, the text is the part after the break, the break, and the part before it
    have hsplit : pre.reverse = pre.reverse.take k ++ '\n' :: pre.reverse.drop (k + 1) := by
      have hx : pre.reverse[k] = '\n' := by simpa using hnl
      rw [← hx, List.getElem_cons_drop, List.take_append_drop]
    have hB : '\n' ∉ pre.reverse.take k := by
      intro hmem
      obtain ⟨j, hj, hjx⟩ := List.getElem_of_mem hmem
      have hjk : j < k := by simpa using Nat.lt_of_lt_of_le hj (List.length_take_le _ _)
      exact hbefore j hjk (by rw [beq_iff_eq, ← hjx, List.getElem_take])
    have hpre : pre = ((pre.reverse.drop (k + 1)).reverse ++ ['\n']) ++ (pre.reverse.take k).reverse := by
      conv => lhs; rw [← List.reverse_reverse pre, hsplit]
      simp
    refine ⟨_, _, hpre, ?_, by simpa using hB, .inr (by simp)⟩
    have hlen := congrArg byteLength hpre
    rw [byteLength_append] at hlen
    have hrev : byteLength (pre.reverse.take k).reverse = byteLength (pre.reverse.take k) := by
      clear hlen hpre hsplit hB
      induction pre.reverse.take k with
      | nil => rfl
      | cons c cs ih => simp [ih]; omega
    omega
  · next hk =>
    refine ⟨[], pre, rfl, rfl, fun h => ?_, .inl rfl⟩
    simp only [List.findIdx?_eq_none_iff, List.mem_reverse] at hk
    simpa using hk _ h

/-- A piece with no line break, put after a text that ends a line, ends a line only when it is
empty. -/
theorem eq_nil_of_endsLine_append {A X : List Char}
    (h : A ++ X = [] ∨ (A ++ X).getLast? = some '\n') (hX : '\n' ∉ X) : X = [] := by
  rcases X.eq_nil_or_concat with hnil | ⟨X', c, rfl⟩
  · exact hnil
  · rcases h with h | h
    · simp at h
    · have hc : c = '\n' := by simpa using h
      simp [hc] at hX

/-- The split of a text after its last line break is the only one with a line break (or
nothing) before it and none after it. -/
theorem afterLastNewline_eq {pre A B : List Char} (h : pre = A ++ B)
    (hA : A = [] ∨ A.getLast? = some '\n') (hB : '\n' ∉ B) :
    afterLastNewline pre = byteLength A := by
  obtain ⟨A', B', h', hlen, hB', hA'⟩ := exists_afterLastNewline pre
  rw [← hlen]
  rcases List.append_eq_append_iff.1 (h.symm.trans h') with ⟨X, rfl, rfl⟩ | ⟨X, rfl, rfl⟩
  · rw [eq_nil_of_endsLine_append hA' fun hx => hB (List.mem_append_left _ hx), List.append_nil]
  · rw [eq_nil_of_endsLine_append hA fun hx => hB' (List.mem_append_left _ hx), List.append_nil]

theorem afterLastNewline_le (pre : List Char) : afterLastNewline pre ≤ byteLength pre := by
  obtain ⟨A, B, h, hlen, -, -⟩ := exists_afterLastNewline pre
  rw [← hlen, h, byteLength_append]
  omega

theorem afterLastNewline_append_of_not_mem {pre m : List Char} (hm : '\n' ∉ m) :
    afterLastNewline (pre ++ m) = afterLastNewline pre := by
  obtain ⟨A, B, h, hlen, hB, hA⟩ := exists_afterLastNewline pre
  rw [← hlen]
  exact afterLastNewline_eq (by rw [h, List.append_assoc]) hA (by simp [hB, hm])

theorem lt_afterLastNewline_append {pre m : List Char} (hm : '\n' ∈ m) :
    byteLength pre < afterLastNewline (pre ++ m) := by
  obtain ⟨A, B, h, hlen, hB, -⟩ := exists_afterLastNewline (pre ++ m)
  rw [← hlen]
  refine Nat.lt_of_not_le fun hle => hB ?_
  obtain ⟨X, rfl⟩ := prefix_of_byteLength_le h.symm hle
  rw [List.append_assoc, List.append_cancel_left_eq] at h
  rw [← h]
  exact List.mem_append_right _ hm

theorem eq_of_append_eq_append {a b c d : List Char} (h : a ++ b = c ++ d)
    (hl : byteLength a = byteLength c) : a = c ∧ b = d := by
  have hab := splitBytes_byteLength_append a b
  rw [h, hl, splitBytes_byteLength_append, Option.some.injEq, Prod.mk.injEq] at hab
  exact ⟨hab.1.symm, hab.2.symm⟩

theorem lineStart_append {s : String} {pre rest : List Char} (hs : s.toList = pre ++ rest) :
    lineStart s (byteLength pre) = some (afterLastNewline pre) := by
  simp [lineStart, takeBytes, hs, splitBytes_byteLength_append]

/-- The line holding the end of `pre` runs through `tw`, the text after it up to the next line
break, and ends before a carriage return that closes it. -/
theorem lineEnd_append {s : String} {pre tw dw : List Char} (hs : s.toList = pre ++ tw ++ dw)
    (htw : (tw ++ dw).takeWhile (· != '\n') = tw) :
    lineEnd s (byteLength pre) = some (if (pre ++ tw).getLast? = some '\r' then
      byteLength (pre ++ tw) - 1 else byteLength (pre ++ tw)) := by
  have hdrop : dropBytes s.toList (byteLength pre) = some (tw ++ dw) := by
    simp [dropBytes, hs, splitBytes_byteLength_append]
  have htake : takeBytes s.toList (byteLength pre + byteLength tw) = some (pre ++ tw) := by
    rw [hs, ← byteLength_append, takeBytes, splitBytes_byteLength_append]
    rfl
  simp only [lineEnd, hdrop, beforeFirstNewline, htw, htake, Option.bind_eq_bind,
    Option.bind_some, byteLength_append]
  by_cases hcr : (pre ++ tw).getLast? = some '\r'
  · have hne : pre ++ tw ≠ [] := fun h => by simp [h] at hcr
    have hpos : 0 < byteLength pre + byteLength tw := by
      obtain ⟨c, cs, hc⟩ := List.exists_cons_of_ne_nil hne
      have := congrArg byteLength hc
      have := c.utf8Size_pos
      simp only [byteLength_append, byteLength_cons] at *
      omega
    simp only [Bool.and_eq_true, decide_eq_true_eq, beq_iff_eq, hcr, hpos, and_self, if_true]
    rfl
  · simp only [Bool.and_eq_true, decide_eq_true_eq, beq_iff_eq, hcr, and_false, if_false]
    rfl

/-- The line holding a boundary offset `o`. The text is `A ++ B ++ T ++ D`: `A` is empty or ends
with a line break, `o` falls right after `B`, and the line runs on through `T` to the next line
break, with none in `B` or `T`. The line starts after `A` and ends after `T`, or before a
carriage return that ends it. -/
theorem exists_line {s : String} {o : Nat} (ho : isBoundary s.toList o) :
    ∃ A B T D, s.toList = A ++ B ++ T ++ D ∧ byteLength (A ++ B) = o ∧
      (A = [] ∨ A.getLast? = some '\n') ∧ '\n' ∉ B ∧ '\n' ∉ T ∧
      lineStart s o = some (byteLength A) ∧
      lineEnd s o = some (if (A ++ B ++ T).getLast? = some '\r' then
        byteLength (A ++ B ++ T) - 1 else byteLength (A ++ B ++ T)) := by
  obtain ⟨pre, rest, hs, rfl⟩ := (isBoundary_iff _ _).1 ho
  obtain ⟨A, B, hAB, ha, hB, hA⟩ := exists_afterLastNewline pre
  have hT : '\n' ∉ rest.takeWhile (· != '\n') := fun h => by
    simpa using List.all_eq_true.1 List.all_takeWhile _ h
  have hs' : s.toList = pre ++ rest.takeWhile (· != '\n') ++ rest.dropWhile (· != '\n') := by
    rw [List.append_assoc, List.takeWhile_append_dropWhile, hs]
  refine ⟨A, B, _, _, by rw [hs', hAB], by rw [hAB], hA, hB, hT, ?_, ?_⟩
  · rw [lineStart_append hs, ha]
  · rw [lineEnd_append hs' (by rw [List.takeWhile_append_dropWhile]), hAB]

/-- A line that runs through `L` after `A` ends after `L`, or before a carriage return that ends
`L`: the line's content is `C` and what is left out, `E`, is that carriage return or nothing. -/
theorem exists_lineContent {A L : List Char} (hA : A = [] ∨ A.getLast? = some '\n') :
    ∃ C E, L = C ++ E ∧ (E = [] ∨ E = ['\r']) ∧
      (if (A ++ L).getLast? = some '\r' then byteLength (A ++ L) - 1 else byteLength (A ++ L)) =
        byteLength (A ++ C) := by
  by_cases hcr : (A ++ L).getLast? = some '\r'
  · rw [if_pos hcr]
    rcases L.eq_nil_or_concat with rfl | ⟨C, c, rfl⟩
    · -- a text that ends a line ends with no carriage return
      rcases hA with rfl | hA <;> simp_all
    · have hc : c = '\r' := by simpa using hcr
      subst hc
      refine ⟨C, ['\r'], List.concat_eq_append, .inr rfl, ?_⟩
      have : Char.utf8Size '\r' = 1 := rfl
      simp only [List.concat_eq_append, ← List.append_assoc, byteLength_append, byteLength_cons,
        byteLength_nil]
      omega
  · exact ⟨L, [], (List.append_nil L).symm, .inl rfl, if_neg hcr⟩

/-- The line holding a boundary offset has both ends, on boundaries: its start at or before the
offset and at or before its end, and its end no more than one byte before the offset (the
carriage return of a `\r\n` the offset sits inside). -/
theorem exists_lineBounds {s : String} {o : Nat} (ho : isBoundary s.toList o) :
    ∃ a b, lineStart s o = some a ∧ lineEnd s o = some b ∧ a ≤ o ∧ o ≤ b + 1 ∧ a ≤ b ∧
      isBoundary s.toList a ∧ isBoundary s.toList b := by
  obtain ⟨A, B, T, D, hs, rfl, hA, -, -, hstart, hend⟩ := exists_line ho
  obtain ⟨C, E, hCE, hE, hstop⟩ := exists_lineContent (L := B ++ T) hA
  rw [← List.append_assoc] at hstop
  have hb := hend.trans (congrArg some hstop)
  -- the carriage return left out of the line is at most one byte
  have hElen : byteLength E ≤ 1 := by rcases hE with rfl | rfl <;> decide
  have hlen := congrArg byteLength hCE
  have hbA : isBoundary s.toList (byteLength A) :=
    (isBoundary_iff _ _).2 ⟨A, B ++ T ++ D, by rw [hs]; simp, rfl⟩
  have hbC : isBoundary s.toList (byteLength (A ++ C)) :=
    (isBoundary_iff _ _).2 ⟨A ++ C, E ++ D, by rw [hs, List.append_assoc A, hCE]; simp, rfl⟩
  simp only [byteLength_append] at hstart hlen hb hbC ⊢
  exact ⟨_, _, hstart, hb, by omega, by omega, by omega, hbA, hbC⟩

theorem isSome_lineText {s : String} {o : Nat} (ho : isBoundary s.toList o) :
    (lineText s o).isSome := by
  obtain ⟨a, b, ha, hb, -, -, hab, hba, hbb⟩ := exists_lineBounds ho
  simp only [lineText, ha, hb, Option.bind_eq_bind, Option.bind_some, slice?, Option.isSome_map]
  exact (isSome_sliceBytes_iff hab).2 ⟨hba, hbb⟩

theorem isSome_lineIndent {s : String} {o : Nat} (ho : isBoundary s.toList o) :
    (lineIndent s o).isSome := by
  simpa [lineIndent] using isSome_lineText ho

theorem isSome_sameLine_iff (s : String) (a b : Nat) :
    (sameLine s a b).isSome ↔ isBoundary s.toList a ∧ isBoundary s.toList b := by
  rw [sameLine, Option.isSome_map, isSome_sliceBytes_iff
    (Nat.le_trans (Nat.min_le_left a b) (Nat.le_max_left a b))]
  rcases Nat.le_total a b with hab | hab
  · rw [Nat.min_eq_left hab, Nat.max_eq_right hab]
  · rw [Nat.min_eq_right hab, Nat.max_eq_left hab, and_comm]

theorem isSome_sameLine {s : String} {a b : Nat} (ha : isBoundary s.toList a)
    (hb : isBoundary s.toList b) : (sameLine s a b).isSome :=
  (isSome_sameLine_iff s a b).2 ⟨ha, hb⟩

theorem slice?_eq {s : String} {pre mid post : List Char} (hs : s.toList = pre ++ mid ++ post) :
    slice? s (byteLength pre) (byteLength pre + byteLength mid) = some (String.ofList mid) := by
  rw [slice?, hs, sliceBytes_append_append]
  rfl

theorem start_or_after_break {s : String} {A R : List Char} (hs : s.toList = A ++ R)
    (hA : A = [] ∨ A.getLast? = some '\n') :
    byteLength A = 0 ∨ slice? s (byteLength A - 1) (byteLength A) = some "\n" := by
  rcases hA with rfl | hA
  · exact .inl rfl
  · right
    have hne : A ≠ [] := fun h => by simp [h] at hA
    have hsplit : A = A.dropLast ++ ['\n'] := by
      conv => lhs; rw [← List.dropLast_concat_getLast hne]
      rw [(List.getLast_eq_iff_getLast?_eq_some hne).2 hA]
    have hlen : byteLength A = byteLength A.dropLast + byteLength ['\n'] := by
      conv => lhs; rw [hsplit]
      exact byteLength_append _ _
    rw [hlen, show byteLength ['\n'] = 1 from rfl, Nat.add_sub_cancel]
    have hs' : s.toList = A.dropLast ++ ['\n'] ++ R := by rw [hs, ← hsplit]
    exact slice?_eq hs'

theorem lineStop_at_crlf {s : String} {A B T D : List Char} {o : Nat}
    (hs : s.toList = A ++ B ++ T ++ D) (ho : byteLength (A ++ B) = o) (hT : '\n' ∉ T)
    (h : slice? s (o - 1) (o + 1) = some "\r\n") :
    (if (A ++ B ++ T).getLast? = some '\r' then byteLength (A ++ B ++ T) - 1
      else byteLength (A ++ B ++ T)) = o - 1 := by
  obtain ⟨m, hm, hmstr⟩ := Option.map_eq_some_iff.1 h
  have hm' : m = ['\r', '\n'] := by
    simpa using congrArg String.toList hmstr
  subst hm'
  obtain ⟨P, Q, hPQ, hP, hPl⟩ := exists_of_sliceBytes hm
  have hlen : byteLength (A ++ B) = byteLength (P ++ ['\r']) := by
    have : byteLength ['\r', '\n'] = 2 := rfl
    have : byteLength ['\r'] = 1 := rfl
    rw [ho, byteLength_append]
    omega
  obtain ⟨hAB, hTD⟩ := eq_of_append_eq_append
    (show (A ++ B) ++ (T ++ D) = (P ++ ['\r']) ++ ('\n' :: Q) by
      rw [← List.append_assoc, ← hs, hPQ]
      simp) hlen
  -- the line break right after the offset leaves no room for `T`
  have hTnil : T = [] := by
    cases T with
    | nil => rfl
    | cons c T' =>
      obtain ⟨rfl, -⟩ := List.cons.inj hTD
      simp at hT
  subst hTnil
  rw [List.append_nil, hAB, if_pos (by simp), ← hlen, ho]

theorem takeWhile_append_prefix {α : Type} {p : α → Bool} {l : List α} {c : α}
    (h : l.takeWhile p ++ [c] <+: l) : p c = false := by
  obtain ⟨r, hr⟩ := h
  have hd := hr.trans (List.takeWhile_append_dropWhile (p := p)).symm
  rw [List.append_assoc, List.append_cancel_left_eq] at hd
  simpa [← hd] using List.head_dropWhile_not p (l := l) (by simp [← hd])

theorem sameLine_comm (s : String) (a b : Nat) : sameLine s a b = sameLine s b a := by
  simp only [sameLine, Nat.min_comm, Nat.max_comm]

/-- Two boundary offsets `a ≤ b` share a line exactly when their lines start together: a line
break between them moves the start of `b`'s line past `a`. -/
theorem sameLine_of_le {s : String} {a b : Nat} (ha : isBoundary s.toList a)
    (hb : isBoundary s.toList b) (hab : a ≤ b) :
    sameLine s a b = some (lineStart s a == lineStart s b) := by
  obtain ⟨P, M, Q, hs, rfl, rfl⟩ := exists_cut ha hb hab
  have hslice : sliceBytes s.toList (byteLength P) (byteLength P + byteLength M) = some M := by
    rw [hs, sliceBytes_append_append]
  rw [sameLine, Nat.min_eq_left hab, Nat.max_eq_right hab, hslice,
    lineStart_append (hs.trans (List.append_assoc _ _ _)), ← byteLength_append,
    lineStart_append hs]
  by_cases hM : '\n' ∈ M
  · have hlt := @lt_afterLastNewline_append P M hM
    have hle := afterLastNewline_le P
    have hne : afterLastNewline P ≠ afterLastNewline (P ++ M) := by omega
    simp [hM, hne]
  · simp [hM, afterLastNewline_append_of_not_mem hM]

/-- The line queries answer exactly at the boundaries: an offset past the end or inside a
character is refused. -/
theorem isSome_lineStart (s : String) (o : Nat) :
    (lineStart s o).isSome = isBoundary s.toList o := by
  simp [lineStart, takeBytes, isBoundary]

theorem isSome_lineEnd (s : String) (o : Nat) :
    (lineEnd s o).isSome = isBoundary s.toList o := by
  cases ho : isBoundary s.toList o with
  | true =>
    obtain ⟨A, B, T, D, -, -, -, -, -, -, hend⟩ := exists_line ho
    simp [hend]
  | false =>
    have hdrop : dropBytes s.toList o = none := by simpa [dropBytes, isBoundary] using ho
    simp [lineEnd, hdrop]

theorem isSome_lineText_eq (s : String) (o : Nat) :
    (lineText s o).isSome = isBoundary s.toList o := by
  cases ho : isBoundary s.toList o with
  | true => exact isSome_lineText ho
  | false =>
    have hstart : lineStart s o = none := by simpa [ho] using isSome_lineStart s o
    simp [lineText, hstart]

/-- What the line queries answer at an offset `o` of `s`: the line's start `a`, its end `b`, its
text `line` and its indentation `indent`. -/
structure LineAnswers (s : String) (o a b : Nat) (line indent : String) : Prop where
  start_le : a ≤ o
  start_after_break : a = 0 ∨ slice? s (a - 1) a = some "\n"
  no_break_before : ∃ t, slice? s a o = some t ∧ '\n' ∉ t.toList
  start_le_stop : a ≤ b
  stop_at_crlf : slice? s (o - 1) (o + 1) = some "\r\n" → b = o - 1
  no_break_in_line : '\n' ∉ line.toList
  indent_prefix : indent.toList <+: line.toList
  indent_blank : ∀ c ∈ indent.toList, c = ' ' ∨ c = '\t'
  indent_longest : ∀ c, indent.toList ++ [c] <+: line.toList → c ≠ ' ' ∧ c ≠ '\t'

theorem exists_lineAnswers {s : String} {o : Nat} (ho : isBoundary s.toList o) :
    ∃ a b line indent, lineStart s o = some a ∧ lineEnd s o = some b ∧
      lineText s o = some line ∧ lineIndent s o = some indent ∧
      LineAnswers s o a b line indent := by
  obtain ⟨A, B, T, D, hs, rfl, hA, hB, hT, hstart, hend⟩ := exists_line ho
  -- the line's text `C` is `B ++ T`, less a final carriage return
  obtain ⟨C, E, hE, -, hstop⟩ := exists_lineContent (L := B ++ T) hA
  rw [← List.append_assoc] at hstop
  have hCn : '\n' ∉ C := fun h => by
    have := List.mem_append_left E h
    rw [← hE, List.mem_append] at this
    exact this.elim hB hT
  have htext : lineText s (byteLength (A ++ B)) = some (String.ofList C) := by
    have hs' : s.toList = A ++ C ++ (E ++ D) := by rw [hs, List.append_assoc A, hE]; simp
    simp only [lineText, hstart, hend, hstop, Option.bind_eq_bind, Option.bind_some]
    rw [byteLength_append]
    exact slice?_eq hs'
  refine ⟨_, _, String.ofList C, String.ofList (C.takeWhile isIndentChar), hstart,
    hend.trans (congrArg some hstop), htext,
    by rw [lineIndent, htext, Option.map_some, String.toList_ofList], ?_⟩
  have hind := List.all_eq_true.1 (List.all_takeWhile (p := isIndentChar) (l := C))
  refine ⟨by simp, ?_, ⟨String.ofList B, ?_, by simpa using hB⟩, by simp, fun h => ?_,
    by simpa using hCn, by simpa using List.takeWhile_prefix _, fun c hc => ?_, fun c hc => ?_⟩
  · exact start_or_after_break (R := B ++ T ++ D) (by rw [hs]; simp) hA
  · have hs' : s.toList = A ++ B ++ (T ++ D) := by rw [hs]; simp
    rw [byteLength_append]
    exact slice?_eq hs'
  · exact hstop.symm.trans (lineStop_at_crlf hs rfl hT h)
  · simpa [isIndentChar] using hind c (by simpa using hc)
  · have := takeWhile_append_prefix (by simpa using hc)
    simp only [isIndentChar, Bool.or_eq_false_iff, beq_eq_false_iff_ne] at this
    exact this

/-- The line queries refuse exactly the offsets past the end or inside a character; elsewhere
they answer with the line holding the offset: its start at or before the offset, at the start
of the text or after a line break, with no line break in between; its end after its start,
one byte before an offset that sits inside a `\r\n`; its text free of line breaks, and its
indentation the longest run of spaces and tabs opening that text. Two offsets share a line
exactly when their lines start at the same place. -/
theorem line_queries_spec (s : String) (a b : Nat) :
    ((lineStart s a = none ↔ isBoundary s.toList a = false) ∧
      (lineEnd s a = none ↔ isBoundary s.toList a = false) ∧
      (lineText s a = none ↔ isBoundary s.toList a = false) ∧
      (lineIndent s a = none ↔ isBoundary s.toList a = false) ∧
      (isBlankLine s a = none ↔ isBoundary s.toList a = false) ∧
      (sameLine s a b = none ↔ isBoundary s.toList a = false ∨ isBoundary s.toList b = false)) ∧
    (isBoundary s.toList a = true → ∃ st en line indent, lineStart s a = some st ∧
      lineEnd s a = some en ∧ lineText s a = some line ∧ lineIndent s a = some indent ∧
      LineAnswers s a st en line indent) ∧
    (isBoundary s.toList a = true → isBoundary s.toList b = true →
      sameLine s a b = some (lineStart s a == lineStart s b)) := by
  refine ⟨⟨?_, ?_, ?_, ?_, ?_, ?_⟩, exists_lineAnswers, fun ha hb => ?_⟩
  · rw [← Option.not_isSome_iff_eq_none, isSome_lineStart, Bool.not_eq_true]
  · rw [← Option.not_isSome_iff_eq_none, isSome_lineEnd, Bool.not_eq_true]
  · rw [← Option.not_isSome_iff_eq_none, isSome_lineText_eq, Bool.not_eq_true]
  · rw [← Option.not_isSome_iff_eq_none, lineIndent, Option.isSome_map, isSome_lineText_eq,
      Bool.not_eq_true]
  · rw [← Option.not_isSome_iff_eq_none, isBlankLine, Option.isSome_map, isSome_lineText_eq,
      Bool.not_eq_true]
  · rw [← Option.not_isSome_iff_eq_none, isSome_sameLine_iff,
      Decidable.not_and_iff_not_or_not, Bool.not_eq_true, Bool.not_eq_true]
  · rcases Nat.le_total a b with hab | hab
    · exact sameLine_of_le ha hb hab
    · rw [sameLine_comm, sameLine_of_le hb ha hab, BEq.comm]

example : lineText "one\n  two\r\nthree" 6 = some "  two" := by decide
example : lineEnd "one\n  two\r\nthree" 10 = some 9 := by decide

/-- The offset between the carriage return and the line break that end the line `"  two"`. -/
theorem line_queries_spec_crlf :
    let s := "one\n  two\r\nthree"
    isBoundary s.toList 10 = true ∧ isBoundary s.toList 6 = true ∧
      (∃ st en line indent, lineStart s 10 = some st ∧ lineEnd s 10 = some en ∧
        lineText s 10 = some line ∧ lineIndent s 10 = some indent ∧
        LineAnswers s 10 st en line indent) ∧
      sameLine s 10 6 = some (lineStart s 10 == lineStart s 6) := by
  intro s
  have ha : isBoundary s.toList 10 = true := by decide
  have hb : isBoundary s.toList 6 = true := by decide
  exact ⟨ha, hb, (line_queries_spec s 10 6).2.1 ha, (line_queries_spec s 10 6).2.2 ha hb⟩

end SyntaxEdit.Text
