/-!
# Cutting texts

A text is cut at the first or at the last place of a character, which belongs to neither part, or at
all its places.
-/

set_option autoImplicit false

namespace FieldRules.Text

/-- The parts before and after the first `c`, if there is one. -/
def cutFirst? (c : Char) : List Char → Option (List Char × List Char)
  | [] => none
  | d :: rest =>
    if d = c then some ([], rest) else (cutFirst? c rest).map fun (a, b) => (d :: a, b)

/-- The parts before and after the last `c`, if there is one. -/
def cutLast? (c : Char) : List Char → Option (List Char × List Char)
  | [] => none
  | d :: rest =>
    match cutLast? c rest with
    | some (a, b) => some (d :: a, b)
    | none => if d = c then some ([], rest) else none

/-- The parts between the places of `c`. -/
def pieces (c : Char) : List Char → List (List Char)
  | [] => [[]]
  | d :: rest =>
    if d = c then [] :: pieces c rest
    else match pieces c rest with
      | piece :: others => (d :: piece) :: others
      | [] => [[d]]

/-- The characters at which a line ends; of a return and a line feed that follows it, both. -/
def lineBreaks : List Nat := [0xa, 0xb, 0xc, 0xd, 0x1c, 0x1d, 0x1e, 0x85, 0x2028, 0x2029]

/-- The lines of a character list. A break at the end does not begin another line; `line` is what
has been read of the first one, in reverse. -/
def linesFrom : (line : List Char) → List Char → List (List Char)
  | [], [] => []
  | line, [] => [line.reverse]
  | line, '\r' :: '\n' :: rest => line.reverse :: linesFrom [] rest
  | line, c :: rest =>
    if lineBreaks.contains c.toNat then line.reverse :: linesFrom [] rest
    else linesFrom (c :: line) rest

/-- The lines of a character list. -/
def lines (cs : List Char) : List (List Char) := linesFrom [] cs

/-- A character list without its leading and trailing places of `c`. -/
def stripChar (c : Char) (cs : List Char) : List Char :=
  ((cs.dropWhile (· == c)).reverse.dropWhile (· == c)).reverse

theorem cutFirst?_eq_some {c : Char} {cs a b : List Char} (h : cutFirst? c cs = some (a, b)) :
    cs = a ++ c :: b ∧ c ∉ a := by
  induction cs generalizing a with
  | nil => simp [cutFirst?] at h
  | cons d rest ih =>
    by_cases hd : d = c
    · simp [cutFirst?, hd] at h
      obtain ⟨rfl, rfl⟩ := h
      simp [hd]
    · simp only [cutFirst?, hd, if_false, Option.map_eq_some_iff] at h
      obtain ⟨⟨a', b'⟩, h', he⟩ := h
      simp only [Prod.mk.injEq] at he
      obtain ⟨rfl, rfl⟩ := he
      obtain ⟨hrest, ha⟩ := ih h'
      exact ⟨by simp [hrest], by simp [ha, Ne.symm hd]⟩

theorem cutLast?_eq_some {c : Char} {cs a b : List Char} (h : cutLast? c cs = some (a, b)) :
    cs = a ++ c :: b ∧ c ∉ b := by
  induction cs generalizing a with
  | nil => simp [cutLast?] at h
  | cons d rest ih =>
    cases hr : cutLast? c rest with
    | some p =>
      obtain ⟨a', b'⟩ := p
      simp only [cutLast?, hr, Option.some.injEq, Prod.mk.injEq] at h
      obtain ⟨rfl, rfl⟩ := h
      obtain ⟨hrest, hb⟩ := ih hr
      exact ⟨by simp [hrest], hb⟩
    | none =>
      by_cases hd : d = c
      · simp only [cutLast?, hr, hd, if_true, Option.some.injEq, Prod.mk.injEq] at h
        obtain ⟨rfl, rfl⟩ := h
        refine ⟨by simp [hd], ?_⟩
        clear ih hd
        intro hmem
        induction rest with
        | nil => simp at hmem
        | cons e rest ih =>
          cases he : cutLast? c rest with
          | some p => simp [cutLast?, he] at hr
          | none =>
            by_cases hec : e = c
            · simp [cutLast?, he, hec] at hr
            · exact ih he (by simpa [Ne.symm hec] using hmem)
      · simp [cutLast?, hr, hd] at h

theorem cutFirst?_append {c : Char} {a : List Char} (h : c ∉ a) (b : List Char) :
    cutFirst? c (a ++ c :: b) = some (a, b) := by
  induction a with
  | nil => simp [cutFirst?]
  | cons d rest ih =>
    simp only [List.mem_cons, not_or] at h
    simp [cutFirst?, Ne.symm h.1, ih h.2]

theorem cutLast?_of_not_mem {c : Char} {cs : List Char} (h : c ∉ cs) : cutLast? c cs = none := by
  induction cs with
  | nil => rfl
  | cons d rest ih =>
    simp only [List.mem_cons, not_or] at h
    simp [cutLast?, Ne.symm h.1, ih h.2]

theorem cutLast?_append {c : Char} {b : List Char} (h : c ∉ b) (a : List Char) :
    cutLast? c (a ++ c :: b) = some (a, b) := by
  induction a with
  | nil => simp [cutLast?, cutLast?_of_not_mem h]
  | cons d rest ih => simp [cutLast?, ih]

end FieldRules.Text
