import Mathlib
import SyntaxEdit.LogSite

namespace SyntaxEdit.Snippet

theorem decodeAux_escaped (n : Nat) {c : Char} (hc : isEscapable c = true) (rest : List Char) :
    decodeAux (n + 1) ('\\' :: c :: rest) = consText c (decodeAux n rest) := by
  simp [decodeAux, hc]

theorem decodeAux_plain (n : Nat) {c : Char} (hb : c ≠ '\\') (hd : c ≠ '$') (rest : List Char) :
    decodeAux (n + 1) (c :: rest) = consText c (decodeAux n rest) := by
  rw [decodeAux]
  all_goals simp_all

theorem decodeAux_tabstop (n : Nat) {ds t : List Char} (hne : ds ≠ [])
    (hds : ∀ c ∈ ds, c.isDigit = true) (ht : t.head?.any Char.isDigit = false) :
    decodeAux (n + 1) ('$' :: (ds ++ t)) = .tabstop (digitsValue ds) :: decodeAux n t := by
  have htake : (ds ++ t).takeWhile Char.isDigit = ds := by
    rw [List.takeWhile_append_of_pos hds]
    cases t with
    | nil => simp
    | cons c t => simp_all
  have hdrop : (ds ++ t).dropWhile Char.isDigit = t := by
    rw [List.dropWhile_append_of_pos hds]
    cases t with
    | nil => simp
    | cons c t => simp_all
  rw [decodeAux]
  · rw [htake, hdrop, if_pos (by simpa using hne)]
  · -- the digits leave no room for a brace
    intro more h
    obtain ⟨d, ds', rfl⟩ := List.exists_cons_of_ne_nil hne
    obtain ⟨rfl, -⟩ := List.cons.inj h
    exact absurd (hds _ List.mem_cons_self) (by decide)

theorem escape_cons (c : Char) (cs : List Char) :
    escape (c :: cs) = (if isEscapable c then ['\\', c] else [c]) ++ escape cs := by
  simp [escape, isEscapable]

theorem readDefault_escape (d t : List Char) :
    readDefault (escape d ++ '\x7d' :: t) = some (d, t) := by
  induction d with
  | nil => rfl
  | cons c d ih =>
    rw [escape_cons, List.append_assoc]
    by_cases hc : isEscapable c = true
    · rw [if_pos hc]
      simp [readDefault, hc, ih]
    · have hb : c ≠ '\\' := by rintro rfl; exact hc rfl
      have hr : c ≠ '\x7d' := by rintro rfl; exact hc rfl
      rw [if_neg hc]
      rw [List.singleton_append, readDefault]
      all_goals simp_all

theorem decodeAux_placeholder (n : Nat) {ds : List Char} (hne : ds ≠ [])
    (hds : ∀ c ∈ ds, c.isDigit = true) (d t : List Char) :
    decodeAux (n + 1) ('$' :: '\x7b' :: (ds ++ ':' :: (escape d ++ '\x7d' :: t))) =
      .placeholder (digitsValue ds) (String.ofList d) :: decodeAux n t := by
  have htake : (ds ++ ':' :: (escape d ++ '\x7d' :: t)).takeWhile Char.isDigit = ds := by
    rw [List.takeWhile_append_of_pos hds]
    simp
  have hdrop : (ds ++ ':' :: (escape d ++ '\x7d' :: t)).dropWhile Char.isDigit =
      ':' :: (escape d ++ '\x7d' :: t) := by
    rw [List.dropWhile_append_of_pos hds]
    simp
  have hbrace :
      ('\x7b' :: (ds ++ ':' :: (escape d ++ '\x7d' :: t))).takeWhile Char.isDigit = [] := by
    simp
  have hempty : ds.isEmpty = false := List.isEmpty_eq_false_iff.2 hne
  rw [decodeAux, hbrace]
  simp only [htake, hdrop, hempty, readDefault_escape]
  rfl

theorem decodeAux_escape (v : List Char) (n : Nat) (t : List Char) :
    decodeAux (n + v.length) (escape v ++ t) = v.foldr consText (decodeAux n t) := by
  induction v with
  | nil => rfl
  | cons c v ih =>
    rw [escape_cons, List.append_assoc, List.length_cons, ← Nat.add_assoc, List.foldr_cons]
    by_cases hc : isEscapable c = true
    · rw [if_pos hc, List.cons_append, List.cons_append, List.nil_append,
        decodeAux_escaped _ hc, ih]
    · have hb : c ≠ '\\' := by rintro rfl; exact hc rfl
      have hd : c ≠ '$' := by rintro rfl; exact hc rfl
      rw [if_neg hc, List.singleton_append, decodeAux_plain _ hb hd, ih]

theorem toDigits_spec (i : Nat) :
    Nat.toDigits 10 i ≠ [] ∧ (∀ c ∈ Nat.toDigits 10 i, c.isDigit = true) ∧
      digitsValue (Nat.toDigits 10 i) = i := by
  refine ⟨Nat.toDigits_ne_nil, fun c hc => Nat.isDigit_of_mem_toDigits (by decide) (by decide) hc,
    ?_⟩
  have h := Nat.ofDigitChars_ten_toDigits (n := i)
  simpa [digitsValue, Nat.ofDigitChars, Nat.mul_comm] using h

theorem decodeAux_bare (n i : Nat) {t : List Char} (ht : t.head?.any Char.isDigit = false) :
    decodeAux (n + 1) ('$' :: Nat.toDigits 10 i ++ t) = .tabstop i :: decodeAux n t := by
  obtain ⟨hne, hdig, hval⟩ := toDigits_spec i
  rw [List.cons_append, decodeAux_tabstop n hne hdig ht, hval]

def isBare : SnippetPart → Bool
  | .text _ => false
  | .placeholder _ d => d.isEmpty
  | .tabstop _ => true

inductive Unambiguous : Snippet → Prop
  | nil : Unambiguous []
  | cons {p : SnippetPart} {rest : Snippet} :
    (isBare p = true → (render rest).toList.head?.any Char.isDigit = false) → Unambiguous rest →
      Unambiguous (p :: rest)

theorem unambiguous_cons {p : SnippetPart} {rest : Snippet} :
    Unambiguous (p :: rest) ↔
      (isBare p = true → (render rest).toList.head?.any Char.isDigit = false) ∧ Unambiguous rest :=
  ⟨fun | .cons h hr => ⟨h, hr⟩, fun ⟨h, hr⟩ => .cons h hr⟩

instance decUnambiguous : DecidablePred Unambiguous
  | [] => isTrue .nil
  | _ :: rest =>
    have := decUnambiguous rest
    decidable_of_iff _ unambiguous_cons.symm

/-- How a part is read back in front of what follows it: a text character by character, joining
a text that follows, a placeholder with an empty default as a tabstop, any other field as
itself. -/
def readOnto : SnippetPart → Snippet → Snippet
  | .text v, acc => v.toList.foldr consText acc
  | .placeholder i d, acc => (if d.isEmpty then .tabstop i else .placeholder i d) :: acc
  | .tabstop i, acc => .tabstop i :: acc

/-- The parts the snippet syntax of a snippet stands for: its fields in order, empty placeholders
as tabstops, and between them the texts joined, empty ones dropped. -/
def canonical (s : Snippet) : Snippet := s.foldr readOnto []

def steps : SnippetPart → Nat
  | .text v => v.length
  | .placeholder .. => 1
  | .tabstop _ => 1

theorem render_cons (p : SnippetPart) (rest : Snippet) :
    (render (p :: rest)).toList = (renderPart p).toList ++ (render rest).toList := by
  simp [render]

theorem renderPart_text (v : String) : (renderPart (.text v)).toList = escape v.toList := by
  simp [renderPart]

theorem renderPart_bare (i : Nat) :
    (renderPart (.tabstop i)).toList = '$' :: Nat.toDigits 10 i ∧
      (renderPart (.placeholder i "")).toList = '$' :: Nat.toDigits 10 i := by
  simp [renderPart]

theorem renderPart_placeholder (i : Nat) {d : String} (hd : d.isEmpty = false) :
    (renderPart (.placeholder i d)).toList =
      '$' :: '\x7b' :: (Nat.toDigits 10 i ++ ':' :: (escape d.toList ++ ['\x7d'])) := by
  simp [renderPart, hd]

theorem decodeAux_nil (n : Nat) : decodeAux n [] = [] := by
  cases n <;> rfl

/-- One part of the snippet syntax reads back as the part, whatever follows it, as long as no
digit follows a bare `$n`. -/
theorem decodeAux_renderPart (p : SnippetPart) (n : Nat) (t : List Char)
    (ht : isBare p = true → t.head?.any Char.isDigit = false) :
    decodeAux (n + steps p) ((renderPart p).toList ++ t) = readOnto p (decodeAux n t) := by
  cases p with
  | text v =>
    rw [renderPart_text, steps, ← String.length_toList, decodeAux_escape]
    rfl
  | placeholder i d =>
    cases hd : d.isEmpty with
    | true =>
      obtain rfl : d = "" := String.isEmpty_iff.1 hd
      rw [(renderPart_bare i).2, steps, decodeAux_bare n i (ht rfl)]
      rfl
    | false =>
      obtain ⟨hne, hdig, hval⟩ := toDigits_spec i
      rw [renderPart_placeholder i hd, steps]
      simp only [List.cons_append, List.append_assoc]
      rw [decodeAux_placeholder n hne hdig, hval, String.ofList_toList]
      simp [readOnto, hd]
  | tabstop i =>
    rw [(renderPart_bare i).1, steps, decodeAux_bare n i (ht rfl)]
    rfl

/-- The snippet syntax of an unambiguous snippet reads back as its canonical parts, given a
step per text character and per field. -/
theorem decodeAux_render {s : Snippet} (h : Unambiguous s) (n : Nat) :
    decodeAux (n + (s.map steps).sum) (render s).toList = canonical s := by
  induction h generalizing n with
  | nil => exact decodeAux_nil _
  | @cons p rest hp _ ih =>
    rw [render_cons, List.map_cons, List.sum_cons, Nat.add_comm (steps p), ← Nat.add_assoc,
      decodeAux_renderPart p _ _ hp, ih]
    rfl

theorem length_escape_ge (cs : List Char) : cs.length ≤ (escape cs).length := by
  induction cs with
  | nil => simp [escape]
  | cons c cs ih =>
    rw [escape_cons, List.length_append]
    split <;> simp <;> omega

theorem steps_le_length (s : Snippet) : (s.map steps).sum ≤ (render s).toList.length := by
  induction s with
  | nil => simp
  | cons p rest ih =>
    rw [render_cons, List.length_append, List.map_cons, List.sum_cons]
    have : steps p ≤ (renderPart p).toList.length := by
      cases p with
      | text v =>
        rw [renderPart_text, steps, ← String.length_toList]
        exact length_escape_ge _
      | placeholder i d => simp [steps, renderPart]; split <;> simp
      | tabstop i => simp [steps, renderPart]
    omega

theorem decode_render {s : Snippet} (h : Unambiguous s) : decode (render s) = canonical s := by
  obtain ⟨m, hm⟩ : ∃ m, (render s).length + 1 = m + (s.map steps).sum :=
    ⟨(render s).length + 1 - (s.map steps).sum, by
      have := steps_le_length s
      rw [String.length_toList] at this
      omega⟩
  rw [decode, hm]
  exact decodeAux_render h m

theorem plainText_cons (p : SnippetPart) (rest : Snippet) :
    (plainText (p :: rest)).toList = (partText p).toList ++ (plainText rest).toList := by
  simp [plainText]

theorem plainText_consText (c : Char) (parts : Snippet) :
    (plainText (consText c parts)).toList = c :: (plainText parts).toList := by
  unfold consText
  split
  · simp [plainText_cons, partText]
  · simp [plainText_cons, partText]

theorem plainText_readOnto (p : SnippetPart) (acc : Snippet) :
    (plainText (readOnto p acc)).toList = (partText p).toList ++ (plainText acc).toList := by
  cases p with
  | text v =>
    simp only [readOnto, partText]
    induction v.toList with
    | nil => rfl
    | cons c cs ih => rw [List.foldr_cons, plainText_consText, ih, List.cons_append]
  | placeholder i d =>
    cases hd : d.isEmpty with
    | true =>
      obtain rfl : d = "" := String.isEmpty_iff.1 hd
      simp [readOnto, plainText_cons, partText]
    | false => simp [readOnto, hd, plainText_cons]
  | tabstop i => simp [readOnto, plainText_cons]

theorem plainText_canonical (s : Snippet) : plainText (canonical s) = plainText s := by
  apply String.ext
  induction s with
  | nil => rfl
  | cons p rest ih =>
    rw [canonical, List.foldr_cons, ← canonical, plainText_readOnto, ih, plainText_cons]

/-- A snippet in which no bare `$n` is followed by a digit reads back from its snippet syntax as
its canonical parts: its fields in order, with their indices, placeholders with their defaults
and empty placeholders as tabstops, and between them the same text. With every field at its
default it then shows the snippet's plain text. -/
theorem decode_render_of_unambiguous (s : Snippet) (h : Unambiguous s) :
    decode (render s) = canonical s ∧ plainText (decode (render s)) = plainText s := by
  rw [decode_render h]
  exact ⟨rfl, plainText_canonical s⟩

-- a bare `$1` before the text `2` is read as `$12`
example : decode (render [.tabstop 1, .text "2"]) = [.tabstop 12] := by decide +kernel

/-- Every log template is unambiguous: each of its fields is followed by a text that opens with
no digit, or ends it. -/
theorem logSnippet_unambiguous (clip : Option String) : Unambiguous (Log.logSnippet clip) := by
  -- each field is followed by a text that opens with a blank or a parenthesis, or ends it
  have hsep : ∀ rest, (render (.text " »', " :: rest)).toList.head?.any Char.isDigit = false :=
    fun rest => by rw [render_cons, renderPart_text]; rfl
  have hclose : ∀ rest, (render (.text ")" :: rest)).toList.head?.any Char.isDigit = false :=
    fun rest => by rw [render_cons, renderPart_text]; rfl
  have htail : Unambiguous [.text ")", .tabstop 0] := by decide
  unfold Log.logSnippet
  dsimp only
  -- the clipboard only changes the texts, never where the fields stand
  split <;>
    exact .cons nofun (.cons (fun _ => hsep _) (.cons nofun (.cons (fun _ => hclose _) htail)))

/-- The template for an empty clipboard reads back from its snippet syntax. -/
theorem decode_render_of_unambiguous_emptyClip :
    Unambiguous (Log.logSnippet none) ∧
      (decode (render (Log.logSnippet none)) = canonical (Log.logSnippet none) ∧
        plainText (decode (render (Log.logSnippet none))) = plainText (Log.logSnippet none)) :=
  ⟨logSnippet_unambiguous none, decode_render_of_unambiguous _ (logSnippet_unambiguous none)⟩

end SyntaxEdit.Snippet
