
namespace SyntaxEdit.Text

def byteLength : List Char → Nat
  | [] => 0
  | c :: cs => c.utf8Size + byteLength cs

/-- Splits a list of characters at byte offset `i`; `none` when `i` lies inside a character
or past the end. -/
def splitBytes : List Char → Nat → Option (List Char × List Char)
  | cs, 0 => some ([], cs)
  | [], _ + 1 => none
  | c :: cs, i + 1 =>
    if c.utf8Size ≤ i + 1 then
      (splitBytes cs (i + 1 - c.utf8Size)).map fun p => (c :: p.1, p.2)
    else none

def isBoundary (cs : List Char) (i : Nat) : Bool := (splitBytes cs i).isSome

/-- The greatest boundary of `cs` at or below `i`: offsets past the end come back to the end,
offsets inside a character back up to its start. -/
def floorBoundary : List Char → Nat → Nat
  | [], _ => 0
  | c :: cs, i => if c.utf8Size ≤ i then c.utf8Size + floorBoundary cs (i - c.utf8Size) else 0

def sliceBytes (cs : List Char) (a b : Nat) : Option (List Char) :=
  if a ≤ b then do
    let (_, rest) ← splitBytes cs a
    let (mid, _) ← splitBytes rest (b - a)
    pure mid
  else none

def takeBytes (cs : List Char) (i : Nat) : Option (List Char) := (splitBytes cs i).map (·.1)

def dropBytes (cs : List Char) (i : Nat) : Option (List Char) := (splitBytes cs i).map (·.2)

def slice? (s : String) (a b : Nat) : Option String := (sliceBytes s.toList a b).map String.ofList

def size (s : String) : Nat := byteLength s.toList

@[simp] theorem byteLength_nil : byteLength [] = 0 := rfl

@[simp] theorem byteLength_cons (c : Char) (cs : List Char) :
    byteLength (c :: cs) = c.utf8Size + byteLength cs := rfl

@[simp] theorem byteLength_append (xs ys : List Char) :
    byteLength (xs ++ ys) = byteLength xs + byteLength ys := by
  induction xs with
  | nil => simp
  | cons c cs ih => simp [ih]; omega

theorem splitBytes_byteLength_append (xs ys : List Char) :
    splitBytes (xs ++ ys) (byteLength xs) = some (xs, ys) := by
  induction xs with
  | nil => cases ys <;> rfl
  | cons c cs ih =>
    have hc := c.utf8Size_pos
    obtain ⟨k, hk⟩ : ∃ k, c.utf8Size + byteLength cs = k + 1 := ⟨c.utf8Size + byteLength cs - 1, by omega⟩
    simp only [List.cons_append, byteLength_cons, hk, splitBytes]
    rw [if_pos (by omega), show k + 1 - c.utf8Size = byteLength cs by omega, ih]
    rfl

theorem splitBytes_eq_some {cs : List Char} {i : Nat} {p : List Char × List Char}
    (h : splitBytes cs i = some p) : cs = p.1 ++ p.2 ∧ byteLength p.1 = i := by
  induction cs generalizing i p with
  | nil =>
    cases i with
    | zero => simp [splitBytes] at h; subst h; simp
    | succ i => simp [splitBytes] at h
  | cons c cs ih =>
    cases i with
    | zero => simp [splitBytes] at h; subst h; simp
    | succ i =>
      simp only [splitBytes] at h
      split at h
      · obtain ⟨q, hq, rfl⟩ := Option.map_eq_some_iff.1 h
        obtain ⟨h1, h2⟩ := ih hq
        refine ⟨by simp [h1], ?_⟩
        simp only [byteLength_cons, h2]
        omega
      · simp at h

theorem isBoundary_iff (cs : List Char) (i : Nat) :
    isBoundary cs i = true ↔ ∃ xs ys, cs = xs ++ ys ∧ byteLength xs = i := by
  constructor
  · intro h
    obtain ⟨p, hp⟩ := Option.isSome_iff_exists.1 h
    exact ⟨p.1, p.2, splitBytes_eq_some hp⟩
  · rintro ⟨xs, ys, rfl, rfl⟩
    simp [isBoundary, splitBytes_byteLength_append]

end SyntaxEdit.Text
