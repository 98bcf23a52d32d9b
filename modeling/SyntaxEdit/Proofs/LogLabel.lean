import SyntaxEdit.LogSite
import SyntaxEdit.Proofs.Caption

namespace SyntaxEdit.Syntax.StringLiteral

def utf16Units (n : Nat) : List Nat :=
  if n < 0x10000 then [n] else [0xD800 + (n - 0x10000) / 0x400, 0xDC00 + (n - 0x10000) % 0x400]

def value (cs : List Char) : List Nat := cs.flatMap fun c => utf16Units c.toNat

def singleEscape? : Char → Option Nat
  | '\'' => some 0x27
  | '"' => some 0x22
  | '\\' => some 0x5C
  | 'b' => some 0x08
  | 'f' => some 0x0C
  | 'n' => some 0x0A
  | 'r' => some 0x0D
  | 't' => some 0x09
  | 'v' => some 0x0B
  | _ => none

def hexDigit? (c : Char) : Option Nat :=
  if '0' ≤ c ∧ c ≤ '9' then some (c.toNat - 48)
  else if 'a' ≤ c ∧ c ≤ 'f' then some (c.toNat - 87)
  else if 'A' ≤ c ∧ c ≤ 'F' then some (c.toNat - 55)
  else none

def isHex (c : Char) : Bool := (hexDigit? c).isSome

def hexValue (cs : List Char) : Nat := cs.foldl (fun acc c => acc * 16 + (hexDigit? c).getD 0) 0

def isLineTerminator (c : Char) : Bool :=
  c == '\n' || c == '\r' || c == '\u2028' || c == '\u2029'

/-- The code units of an escape of the one character `c`, which `next` follows: a line
continuation stands for nothing, `\0` for the null character unless a digit follows, and a
character with no escape meaning for itself; `none` for a legacy octal escape, `\8`, `\9`, and an
`x` or `u` that starts no hexadecimal or Unicode escape. -/
def charEscape? (c : Char) (next : Option Char) : Option (List Nat) :=
  if isLineTerminator c then some []
  else match singleEscape? c with
    | some u => some [u]
    | none =>
      if c = '0' then (if next.any Char.isDigit then none else some [0])
      else if c.isDigit || c == 'x' || c == 'u' then none
      else some (utf16Units c.toNat)

/-- The code point that hexadecimal digits spell, when there is at least one and it is at most
`0x10FFFF`. -/
def codePoint? (ds : List Char) : Option Nat :=
  if ds.isEmpty || hexValue ds > 0x10FFFF then none else some (hexValue ds)

/-- Reads the escape sequence after a backslash as strict-mode code does: the code units it
stands for and what follows it; `none` when the sequence is refused or the text ends. -/
def readEscape : List Char → Option (List Nat × List Char)
  | [] => none
  | '\r' :: '\n' :: rest => some ([], rest)
  | 'x' :: h1 :: h2 :: rest =>
    if isHex h1 && isHex h2 then some ([hexValue [h1, h2]], rest) else none
  | 'u' :: '\x7b' :: rest =>
    match rest.dropWhile isHex with
    | '\x7d' :: after => (codePoint? (rest.takeWhile isHex)).map fun n => (utf16Units n, after)
    | _ => none
  | 'u' :: h1 :: h2 :: h3 :: h4 :: rest =>
    if [h1, h2, h3, h4].all isHex then some ([hexValue [h1, h2, h3, h4]], rest) else none
  | c :: rest => (charEscape? c rest.head?).map (·, rest)

theorem ne_quote_of_isHex {c : Char} (h : isHex c = true) : c ≠ '\'' := by
  rintro rfl
  exact absurd h (by decide)

theorem readEscape_consumes {cs after : List Char} {v : List Nat}
    (h : readEscape cs = some (v, after)) :
    ∃ pre, cs = pre ++ after ∧ pre ≠ [] ∧ ∀ c ∈ pre.tail, c ≠ '\'' := by
  unfold readEscape at h
  split at h
  · cases h
  · cases h
    exact ⟨['\r', '\n'], rfl, nofun, by simp⟩
  · next h1 h2 rest =>
    split at h
    · next hx =>
      cases h
      simp only [Bool.and_eq_true] at hx
      exact ⟨['x', h1, h2], rfl, nofun, by simp [ne_quote_of_isHex hx.1, ne_quote_of_isHex hx.2]⟩
    · cases h
  · next rest =>
    split at h
    · next hd =>
      obtain ⟨n, -, hn⟩ := Option.map_eq_some_iff.1 h
      cases hn
      have hsplit := List.takeWhile_append_dropWhile (p := isHex) (l := rest)
      rw [hd] at hsplit
      refine ⟨'u' :: '\x7b' :: (rest.takeWhile isHex ++ ['\x7d']), ?_, nofun, ?_⟩
      · calc 'u' :: '\x7b' :: rest
            = 'u' :: '\x7b' :: (rest.takeWhile isHex ++ '\x7d' :: after) := by rw [hsplit]
          _ = _ := by simp
      · simp only [List.tail_cons, List.mem_cons, List.mem_append, List.not_mem_nil, or_false]
        rintro c (rfl | hc | rfl)
        · decide
        · exact ne_quote_of_isHex (List.all_eq_true.1 List.all_takeWhile c hc)
        · decide
    · cases h
  · next h1 h2 h3 h4 rest _ =>
    split at h
    · next hx =>
      cases h
      simp only [List.all_cons, List.all_nil, Bool.and_true, Bool.and_eq_true] at hx
      exact ⟨['u', h1, h2, h3, h4], rfl, nofun, by
        simp [ne_quote_of_isHex hx.1, ne_quote_of_isHex hx.2.1, ne_quote_of_isHex hx.2.2.1,
          ne_quote_of_isHex hx.2.2.2]⟩
    · cases h
  · next c rest _ _ _ _ =>
    obtain ⟨u, -, hu⟩ := Option.map_eq_some_iff.1 h
    cases hu
    exact ⟨[c], rfl, nofun, by simp⟩

theorem readEscape_length {cs after : List Char} {v : List Nat}
    (h : readEscape cs = some (v, after)) : after.length < cs.length := by
  obtain ⟨pre, rfl, hpre, -⟩ := readEscape_consumes h
  have : 0 < pre.length := List.length_pos_iff.2 hpre
  simp only [List.length_append]
  omega

/-- Reads a single-quoted string literal after its opening quote, as strict-mode code does: the
code units of its value and what follows the closing quote; `none` when the literal holds a line
feed or a carriage return, a refused escape, or no closing quote. -/
def readQuoted : List Char → Option (List Nat × List Char)
  | [] => none
  | '\'' :: rest => some ([], rest)
  | '\\' :: rest =>
    match h : readEscape rest with
    | none => none
    | some (v, after) =>
      have := readEscape_length h
      (readQuoted after).map fun (w, r) => (v ++ w, r)
  | c :: rest =>
    if c == '\n' || c == '\r' then none
    else (readQuoted rest).map fun (w, r) => (utf16Units c.toNat ++ w, r)
termination_by cs => cs.length

theorem readQuoted_quote (rest : List Char) : readQuoted ('\'' :: rest) = some ([], rest) := by
  rw [readQuoted]

theorem readQuoted_backslash (rest : List Char) :
    readQuoted ('\\' :: rest) = (readEscape rest).bind fun (v, after) =>
      (readQuoted after).map fun (w, r) => (v ++ w, r) := by
  rw [readQuoted]
  split <;> simp_all

theorem readQuoted_char {c : Char} (hq : c ≠ '\'') (hb : c ≠ '\\') (rest : List Char) :
    readQuoted (c :: rest) = if c == '\n' || c == '\r' then none
      else (readQuoted rest).map fun (w, r) => (utf16Units c.toNat ++ w, r) := by
  rw [readQuoted]
  all_goals simp_all

/-- Text without quotes, backslashes or line breaks before a quote is read as a literal that
closes at that quote, with the text's own value. -/
theorem readQuoted_plain {B : List Char}
    (hB : ∀ c ∈ B, c ≠ '\'' ∧ c ≠ '\\' ∧ c ≠ '\n' ∧ c ≠ '\r') (rest : List Char) :
    readQuoted (B ++ '\'' :: rest) = some (value B, rest) := by
  induction B with
  | nil => exact readQuoted_quote rest
  | cons c B ih =>
    obtain ⟨⟨hq, hb, hn, hr⟩, hB⟩ := List.forall_mem_cons.1 hB
    rw [List.cons_append, readQuoted_char hq hb, ih hB]
    simp [hn, hr, value]

/-- An escape that starts in text without quotes ends inside that text: the quote after it stays
for the reader of the literal. -/
theorem readEscape_stops {B rest after : List Char} {v : List Nat}
    (hB : B ≠ []) (hq : '\'' ∉ B) (h : readEscape (B ++ '\'' :: rest) = some (v, after)) :
    ∃ ys, after = ys ++ '\'' :: rest ∧ ys <:+ B ∧ ys.length < B.length := by
  obtain ⟨pre, hcs, hpre, htail⟩ := readEscape_consumes h
  rcases List.append_eq_append_iff.1 hcs.symm with ⟨ys, hB', hafter⟩ | ⟨bs, hpre', hbs⟩
  · have hlen : 0 < pre.length := List.length_pos_iff.2 hpre
    refine ⟨ys, hafter, ⟨pre, hB'.symm⟩, ?_⟩
    rw [hB', List.length_append]
    omega
  · cases bs with
    | nil =>
      simp only [List.append_nil, List.nil_append] at hpre' hbs
      exact ⟨[], hbs.symm, List.nil_suffix, List.length_pos_iff.2 hB⟩
    | cons b bs =>
      -- the escape would run through the quote, which stands in the tail of what it reads
      obtain ⟨rfl, -⟩ := List.cons.inj hbs
      obtain ⟨d, ds, rfl⟩ := List.exists_cons_of_ne_nil hB
      exact absurd rfl (htail '\'' (by simp [hpre']))

/-- A literal whose text before a quote holds no quote and does not end with a backslash closes
at that quote whenever it is read: nothing in the text can escape the quote or stand for one. -/
theorem readQuoted_closes {rest : List Char} : ∀ (B : List Char), '\'' ∉ B →
    B.getLast? ≠ some '\\' → ∀ {v : List Nat} {r : List Char},
      readQuoted (B ++ '\'' :: rest) = some (v, r) → r = rest
  | [], _, _, v, r, h => by
    rw [List.nil_append, readQuoted_quote] at h
    cases h
    rfl
  | c :: B, hq, hl, v, r, h => by
    have hqc : c ≠ '\'' := fun hc => hq (hc ▸ List.mem_cons_self)
    have hqB : '\'' ∉ B := fun hm => hq (List.mem_cons_of_mem c hm)
    by_cases hb : c = '\\'
    · subst hb
      rw [List.cons_append, readQuoted_backslash] at h
      obtain ⟨⟨e, after⟩, he, h⟩ := Option.bind_eq_some_iff.1 h
      obtain ⟨⟨w, r'⟩, hw, hr⟩ := Option.map_eq_some_iff.1 h
      cases hr
      have hB : B ≠ [] := by rintro rfl; exact hl rfl
      obtain ⟨ys, rfl, hsuf, hlen⟩ := readEscape_stops hB hqB he
      have hys : ys.getLast? ≠ some '\\' := by
        cases ys with
        | nil => simp
        | cons y ys' =>
          obtain ⟨zs, rfl⟩ := hsuf
          simpa [List.getLast?_append, List.getLast?_cons] using hl
      exact readQuoted_closes ys (fun hm => hqB (hsuf.subset hm)) hys hw
    · rw [List.cons_append, readQuoted_char hqc hb] at h
      split at h
      · cases h
      · obtain ⟨⟨w, r'⟩, hw, hr⟩ := Option.map_eq_some_iff.1 h
        cases hr
        have hlB : B.getLast? ≠ some '\\' := by
          cases B with
          | nil => simp
          | cons d ds => rwa [List.getLast?_cons_cons] at hl
        exact readQuoted_closes B hqB hlB hw
termination_by B => B.length

end SyntaxEdit.Syntax.StringLiteral

namespace SyntaxEdit.Log

open SyntaxEdit.Syntax SyntaxEdit.Syntax.StringLiteral

def label (s : String) : String := "*** " ++ Caption.caption s ++ " »"

theorem label_toList (s : String) :
    (label s).toList = "*** ".toList ++ (Caption.caption s).toList ++ [' ', '»'] := by
  simp only [label, String.toList_append]
  rfl

theorem label_keeps (s : String) : ∀ c ∈ (label s).toList, Caption.Keeps c := by
  -- the fixed characters one by one: deciding the quantifier over the list overflows the stack
  have hopen : ∀ c ∈ "*** ".toList, Caption.Keeps c := by
    simp only [show "*** ".toList = ['*', '*', '*', ' '] from rfl, List.forall_mem_cons,
      List.not_mem_nil, false_imp_iff, implies_true, and_true]
    decide
  have hclose : ∀ c ∈ [' ', '»'], Caption.Keeps c := by
    simp only [List.forall_mem_cons, List.not_mem_nil, false_imp_iff, implies_true, and_true]
    decide
  intro c hc
  rw [label_toList, List.mem_append, List.mem_append] at hc
  rcases hc with (hc | hc) | hc
  · exact hopen c hc
  · exact (Caption.caption_folded s).keeps c hc
  · exact hclose c hc

theorem label_getLast? (s : String) : (label s).toList.getLast? = some '»' := by
  rw [label_toList, List.getLast?_append]
  rfl

theorem backslash_mem_label {s : String} (h : '\\' ∈ (label s).toList) : '\\' ∈ s.toList := by
  rw [label_toList, List.mem_append, List.mem_append] at h
  rcases h with (h | h) | h
  · exact absurd h (by decide)
  · rcases Caption.mem_caption h with h | h | h | h | h
    · exact h
    all_goals exact absurd h (by decide)
  · exact absurd h (by decide)

/-- The literal of a label closes right after the label whenever it is read, and when the
captioned text has no backslash it is read, in strict mode, with the label as its value. -/
theorem readQuoted_label (s : String) (rest : List Char) :
    (∀ v r, readQuoted ((label s).toList ++ '\'' :: rest) = some (v, r) → r = rest) ∧
      ('\\' ∉ s.toList →
        readQuoted ((label s).toList ++ '\'' :: rest) = some (value (label s).toList, rest)) := by
  have hq : '\'' ∉ (label s).toList := fun hm => (label_keeps s _ hm).2.2.1 rfl
  refine ⟨fun v r => readQuoted_closes _ hq (by rw [label_getLast?]; decide), fun hb => ?_⟩
  refine readQuoted_plain (fun c hc => ?_) rest
  obtain ⟨hr, hn, hq', -⟩ := label_keeps s c hc
  exact ⟨hq', fun h => hb (backslash_mem_label (h ▸ hc)), hn, hr⟩

-- a backslash in the captioned text starts an escape: the label of `/\d/` reads as `*** /d/ »`
example : readQuoted ((label "/\\d/").toList ++ ['\'']) = some (value "*** /d/ »".toList, []) := by
  decide +kernel

theorem debugStatement_eq (t : SyntaxTree) (i : Nat) :
    ∃ s X, ((∃ p k v, (t.get i).parent = some p ∧ (t.get p).kind = .propertyAssignment ∧
        t.child? p .key = some k ∧ t.child? p .value = some v ∧ s = t.text k ∧ X = t.text v) ∨
      (s = dropSemicolon (t.text i) ∧ X = s)) ∧
      debugStatement t i = "console.debug('" ++ label s ++ "', " ++ X ++ ")" := by
  have hopen : "console.debug('*** " = "console.debug('" ++ "*** " := rfl
  have hclose : " »', " = " »" ++ "', " := rfl
  unfold debugStatement
  dsimp only
  split
  · next k v hpair =>
    refine ⟨t.text k, t.text v, .inl ?_, ?_⟩
    · -- the parent is a pair whose key is not computed
      simp only [Option.bind_eq_bind, Option.bind_eq_some_iff] at hpair
      obtain ⟨p, hp, h⟩ := hpair
      split at h
      · simp at h
      · next hkind =>
        obtain ⟨k', hk, h⟩ := Option.bind_eq_some_iff.1 h
        obtain ⟨v', hv, h⟩ := Option.bind_eq_some_iff.1 h
        split at h
        · simp at h
        · cases h
          exact ⟨p, k, v, hp, by simpa using hkind, hk, hv, rfl, rfl⟩
    · simp only [label, hopen, hclose, String.append_assoc]
  · exact ⟨_, _, .inr ⟨rfl, rfl⟩, by simp only [label, hopen, hclose, String.append_assoc]⟩

/-- A debug statement is `console.debug('` ++ L ++ `', ` ++ X ++ `)`, where L is the label of the
captioned text: the key of a named pair, else the logged expression. The literal of L always
closes right after L, and when the captioned text has no backslash, strict-mode code reads it
with the value L. -/
theorem debugStatement_label_literal (t : SyntaxTree) (i : Nat) :
    ∃ s X, ((∃ p k v, (t.get i).parent = some p ∧ (t.get p).kind = .propertyAssignment ∧
        t.child? p .key = some k ∧ t.child? p .value = some v ∧ s = t.text k ∧ X = t.text v) ∨
      (s = dropSemicolon (t.text i) ∧ X = s)) ∧
      debugStatement t i = "console.debug('" ++ label s ++ "', " ++ X ++ ")" ∧
      ∀ rest, (∀ v r, readQuoted ((label s).toList ++ '\'' :: rest) = some (v, r) → r = rest) ∧
        ('\\' ∉ s.toList →
          readQuoted ((label s).toList ++ '\'' :: rest) = some (value (label s).toList, rest)) := by
  obtain ⟨s, X, hsrc, heq⟩ := debugStatement_eq t i
  exact ⟨s, X, hsrc, heq, readQuoted_label s⟩

end SyntaxEdit.Log
