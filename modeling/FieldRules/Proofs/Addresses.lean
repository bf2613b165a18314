import FieldRules.Proofs.Run.Format

/-!
# The grammar of e-mail addresses

An address is a local part and a domain around `@`, and each of them consists of parts that are
joined by single dots (`Format.Address`). The check of addresses does not read it in this way: it
cuts the text at the first `@` and the domain at its last dot, and then looks for dots in the wrong
places, which are the ends and next to another dot. That these are the same is a matter of where
dots can be in joined parts (`Format.Joinable.dotted`, `Format.Dotted.exists_joinable`).

So the rule for addresses accepts exactly the texts of addresses (`email_accepts`), and each of them
in one reading only (`Format.Address.text_injective`).
-/

set_option autoImplicit false

namespace FieldRules.Format

/-- A character of a part of a local part. -/
def isPieceChar (c : Char) : Bool := isAlphanumeric c || "_%+-".toList.contains c

/-- A character of a label of a domain. -/
def isLabelChar (c : Char) : Bool := isAlphanumeric c || c == '-'

/-- Parts that can be joined by single dots: there are some, and each is made of one or more
characters of some kind. -/
structure Joinable (isPart : Char → Bool) (parts : List (List Char)) : Prop where
  ne_nil : parts ≠ []
  part_ne_nil : ∀ part ∈ parts, part ≠ []
  isPart : ∀ part ∈ parts, ∀ c ∈ part, isPart c = true

/-- Parts joined by single dots. -/
def joined (parts : List (List Char)) : List Char := ['.'].intercalate parts

/-- An address: the parts of its local part, and the labels of its domain, of which there is at
least one before the last. The first label does not start with a hyphen, and the last one consists
of at least two letters. -/
structure Address where
  pieces : List (List Char)
  labels : List (List Char)
  last : List Char
  pieces_joinable : Joinable isPieceChar pieces
  labels_joinable : Joinable isLabelChar labels
  no_hyphen : ∀ label ∈ labels.head?, label.head? ≠ some '-'
  two_le_length : 2 ≤ last.length
  isAlpha_last : ∀ c ∈ last, c.isAlpha = true

namespace Address

/-- The local part. -/
def person (a : Address) : List Char := joined a.pieces

/-- The domain, with its last label. -/
def domain (a : Address) : List Char := joined (a.labels ++ [a.last])

/-- The address as it is written. -/
def text (a : Address) : String := String.ofList (a.person ++ '@' :: a.domain)

end Address

/-! ## Where dots are -/

theorem hasDoubleDot_cons (c : Char) (cs : List Char) :
    hasDoubleDot (c :: cs) = (c == '.' && cs.head? == some '.' || hasDoubleDot cs) := by
  by_cases hc : c = '.'
  · subst hc
    cases cs with
    | nil => rfl
    | cons d rest =>
      by_cases hd : d = '.'
      · simp [hasDoubleDot, hd]
      · simp [hasDoubleDot, hd]
  · simp [hasDoubleDot, hc]

theorem hasDoubleDot_append (a b : List Char) :
    hasDoubleDot (a ++ b) =
      (hasDoubleDot a || (a.getLast? == some '.' && b.head? == some '.') || hasDoubleDot b) := by
  induction a with
  | nil => simp [hasDoubleDot]
  | cons c rest ih =>
    rw [List.cons_append, hasDoubleDot_cons, hasDoubleDot_cons, ih]
    cases rest with
    | nil => simp [hasDoubleDot]
    | cons d rest => simp [Bool.or_assoc]

theorem hasDoubleDot_of_not_mem {cs : List Char} (h : '.' ∉ cs) : hasDoubleDot cs = false := by
  induction cs with
  | nil => rfl
  | cons c rest ih =>
    simp only [List.mem_cons, not_or] at h
    simp [hasDoubleDot_cons, Ne.symm h.1, ih h.2]

/-- Characters of some kind and dots, the dots being neither at the ends nor next to each other. -/
structure Dotted (isPart : Char → Bool) (cs : List Char) : Prop where
  ne_nil : cs ≠ []
  chars : ∀ c ∈ cs, isPart c = true ∨ c = '.'
  head_ne : cs.head? ≠ some '.'
  last_ne : cs.getLast? ≠ some '.'
  single : hasDoubleDot cs = false

section
variable {isPart : Char → Bool}

theorem Joinable.not_mem {parts : List (List Char)} (h : Joinable isPart parts)
    (hdot : isPart '.' = false) {part : List Char} (hpart : part ∈ parts) : '.' ∉ part := by
  intro hmem
  rw [h.isPart part hpart '.' hmem] at hdot
  cases hdot

/-- A part without dots is dotted. -/
theorem dotted_of_part {part : List Char} (hne : part ≠ [])
    (hchars : ∀ c ∈ part, isPart c = true) (hdot : '.' ∉ part) : Dotted isPart part where
  ne_nil := hne
  chars c hc := Or.inl (hchars c hc)
  head_ne h := hdot (List.mem_of_head? h)
  last_ne h := hdot (List.mem_of_getLast? h)
  single := hasDoubleDot_of_not_mem hdot

/-- A dotted text with a dot and another dotted text after it. -/
theorem Dotted.append {a b : List Char} (ha : Dotted isPart a) (hb : Dotted isPart b) :
    Dotted isPart (a ++ '.' :: b) := by
  constructor
  · simp
  · intro c hc
    simp only [List.mem_append, List.mem_cons] at hc
    rcases hc with hc | rfl | hc
    · exact ha.chars c hc
    · exact Or.inr rfl
    · exact hb.chars c hc
  · obtain ⟨c, rest, rfl⟩ := List.exists_cons_of_ne_nil ha.ne_nil
    exact ha.head_ne
  · have hlast := hb.last_ne
    cases hl : b.getLast? with
    | none => exact absurd (List.getLast?_eq_none_iff.mp hl) hb.ne_nil
    | some c => simp_all [List.getLast?_append, List.getLast?_cons]
  · have hlast := ha.last_ne
    have hhead := hb.head_ne
    simp [hasDoubleDot_append, hasDoubleDot_cons, ha.single, hb.single, hlast, hhead]

/-- **Joined parts are what has no dots in wrong places.** -/
theorem Joinable.dotted {parts : List (List Char)} (h : Joinable isPart parts)
    (hdot : isPart '.' = false) : Dotted isPart (joined parts) := by
  obtain ⟨hne, hparts, hchars⟩ := h
  induction parts with
  | nil => exact absurd rfl hne
  | cons part rest ih =>
    have hpart : Dotted isPart part := by
      apply dotted_of_part (hparts part List.mem_cons_self) (hchars part List.mem_cons_self)
      intro hmem
      rw [hchars part List.mem_cons_self '.' hmem] at hdot
      cases hdot
    cases rest with
    | nil =>
      rw [joined, List.intercalate_singleton]
      exact hpart
    | cons next rest =>
      have hrest := ih (List.cons_ne_nil _ _) (fun p hp => hparts p (List.mem_cons_of_mem _ hp))
        (fun p hp => hchars p (List.mem_cons_of_mem _ hp))
      rw [joined, List.intercalate_cons_cons, List.append_assoc]
      exact hpart.append hrest

/-- A character in front of a part. -/
theorem Joinable.extend {c : Char} {part : List Char} {parts : List (List Char)}
    (h : Joinable isPart (part :: parts)) (hc : isPart c = true) :
    Joinable isPart ((c :: part) :: parts) := by
  obtain ⟨-, hne, hchars⟩ := h
  rw [List.forall_mem_cons] at hne hchars
  refine ⟨by simp, ?_, ?_⟩
  · rw [List.forall_mem_cons]
    exact ⟨by simp, hne.2⟩
  · rw [List.forall_mem_cons, List.forall_mem_cons]
    exact ⟨⟨hc, hchars.1⟩, hchars.2⟩

/-- A part of one character in front of others. -/
theorem Joinable.begin {c : Char} {parts : List (List Char)} (h : Joinable isPart parts)
    (hc : isPart c = true) : Joinable isPart ([c] :: parts) := by
  refine ⟨by simp, ?_, ?_⟩
  · rw [List.forall_mem_cons]
    exact ⟨by simp, h.part_ne_nil⟩
  · rw [List.forall_mem_cons]
    exact ⟨by simpa using hc, h.isPart⟩

/-- A character in front of joined parts belongs to the first of them. -/
theorem joined_cons_cons (c : Char) (part : List Char) (parts : List (List Char)) :
    joined ((c :: part) :: parts) = c :: joined (part :: parts) := by
  cases parts <;> simp [joined, List.intercalate_singleton, List.intercalate_cons_cons]

theorem joined_singleton_cons (c : Char) {parts : List (List Char)} (hne : parts ≠ []) :
    joined ([c] :: parts) = c :: '.' :: joined parts := by
  obtain ⟨part, rest, rfl⟩ := List.exists_cons_of_ne_nil hne
  simp [joined, List.intercalate_cons_cons]

/-- What has no dots in wrong places can be taken apart at its dots. -/
theorem Dotted.exists_joinable : ∀ {cs : List Char}, Dotted isPart cs →
    ∃ parts, Joinable isPart parts ∧ joined parts = cs
  | [], h => absurd rfl h.ne_nil
  | [c], h => by
    have hc : isPart c = true := (h.chars c (by simp)).resolve_right (by simpa using h.head_ne)
    exact ⟨[[c]], ⟨by simp, by simp, by simpa using hc⟩, by simp [joined]⟩
  | c :: d :: rest, h => by
    have hc : isPart c = true := (h.chars c (by simp)).resolve_right (by simpa using h.head_ne)
    have hchars : ∀ e ∈ rest, isPart e = true ∨ e = '.' := fun e he => h.chars e (by simp [he])
    have hlast := h.last_ne
    have hsingle := h.single
    simp only [hasDoubleDot_cons, Bool.or_eq_false_iff] at hsingle
    by_cases hd : d = '.'
    · -- `c` is a part of its own, and there is something after the dot.
      subst hd
      have hne : rest ≠ [] := by
        rintro rfl
        simp at hlast
      have hrest : Dotted isPart rest := by
        refine ⟨hne, hchars, by simpa using hsingle.2.1, ?_, hsingle.2.2⟩
        obtain ⟨e, others, rfl⟩ := List.exists_cons_of_ne_nil hne
        simpa [List.getLast?_cons] using hlast
      obtain ⟨parts, hjoin, rfl⟩ := hrest.exists_joinable
      exact ⟨[c] :: parts, hjoin.begin hc, joined_singleton_cons c hjoin.ne_nil⟩
    · -- `c` begins the part that goes on with `d`.
      have hrest : Dotted isPart (d :: rest) := by
        refine ⟨by simp, ?_, by simpa using hd, ?_, ?_⟩
        · exact fun e he => h.chars e (List.mem_cons_of_mem _ he)
        · simpa [List.getLast?_cons] using hlast
        · simp [hasDoubleDot_cons, hsingle.2]
      obtain ⟨parts, hjoin, hjoined⟩ := hrest.exists_joinable
      obtain ⟨part, others, rfl⟩ := List.exists_cons_of_ne_nil hjoin.ne_nil
      exact ⟨(c :: part) :: others, hjoin.extend hc, by rw [joined_cons_cons, hjoined]⟩

end

/-! ## The two parts of an address -/

theorem isLocalChar_iff (c : Char) : isLocalChar c = true ↔ isPieceChar c = true ∨ c = '.' := by
  simp only [isLocalChar, isPieceChar, String.reduceToList, List.contains_eq_mem, List.mem_cons,
    List.not_mem_nil, or_false, Bool.decide_or, Bool.or_eq_true, decide_eq_true_eq]
  tauto

theorem isDomainChar_iff (c : Char) : isDomainChar c = true ↔ isLabelChar c = true ∨ c = '.' := by
  simp only [isDomainChar, isLabelChar, Bool.or_eq_true, beq_iff_eq]
  tauto

/-- A domain is cut before its last label. -/
theorem joined_append_singleton {labels : List (List Char)} (hne : labels ≠ []) (last : List Char) :
    joined (labels ++ [last]) = joined labels ++ '.' :: last := by
  induction labels with
  | nil => exact absurd rfl hne
  | cons label rest ih =>
    cases rest with
    | nil => simp [joined, List.intercalate_cons_cons]
    | cons next rest =>
      have hrest := ih (List.cons_ne_nil _ _)
      simp_all [joined, List.intercalate_cons_cons]

theorem not_mem_of_isAlpha {last : List Char} (h : ∀ c ∈ last, c.isAlpha = true) : '.' ∉ last := by
  intro hmem
  exact absurd (h '.' hmem) (by decide)

/-- The cut at the last dot of a domain. -/
theorem endsInLetters_iff (domain : List Char) :
    endsInLetters domain = true ↔ ∃ before last, domain = before ++ '.' :: last ∧ before ≠ [] ∧
      (∀ c ∈ before, isDomainChar c = true) ∧ 2 ≤ last.length ∧ ∀ c ∈ last, c.isAlpha = true := by
  constructor
  · intro h
    unfold endsInLetters at h
    split at h
    case h_1 before last hcut =>
      simp only [Bool.and_eq_true, Bool.not_eq_true', List.isEmpty_eq_false_iff, List.all_eq_true,
        decide_eq_true_eq] at h
      obtain ⟨⟨⟨hne, hchars⟩, hlength⟩, hletters⟩ := h
      exact ⟨before, last, (Text.cutLast?_eq_some hcut).1, hne, hchars, hlength, hletters⟩
    case h_2 => cases h
  · rintro ⟨before, last, rfl, hne, hchars, hlength, hletters⟩
    have hbefore : before.all isDomainChar = true := List.all_eq_true.mpr hchars
    have hlast : last.all Char.isAlpha = true := List.all_eq_true.mpr hletters
    rw [endsInLetters, Text.cutLast?_append (not_mem_of_isAlpha hletters)]
    simp [hne, hlength, hbefore, hlast]

/-- **The labels of a domain.** What is asked of it apart from its first character is that it has
labels before the last one, which is of letters. -/
theorem exists_labels_iff (domain : List Char) :
    (endsInLetters domain = true ∧ domain.head? ≠ some '.' ∧ hasDoubleDot domain = false) ↔
      ∃ labels last, domain = joined labels ++ '.' :: last ∧ Joinable isLabelChar labels ∧
        2 ≤ last.length ∧ ∀ c ∈ last, c.isAlpha = true := by
  rw [endsInLetters_iff]
  constructor
  · rintro ⟨⟨before, last, rfl, hne, hchars, hlength, hletters⟩, hhead, hsingle⟩
    rw [hasDoubleDot_append] at hsingle
    simp only [Bool.or_eq_false_iff] at hsingle
    have hdotted : Dotted isLabelChar before := by
      refine ⟨hne, fun c hc => (isDomainChar_iff c).mp (hchars c hc), ?_, ?_, hsingle.1.1⟩
      · obtain ⟨c, rest, rfl⟩ := List.exists_cons_of_ne_nil hne
        exact hhead
      · -- The dot after it would be the second one.
        simpa using hsingle.1.2
    obtain ⟨labels, hlabels, rfl⟩ := hdotted.exists_joinable
    exact ⟨labels, last, rfl, hlabels, hlength, hletters⟩
  · rintro ⟨labels, last, rfl, hlabels, hlength, hletters⟩
    have hbefore := hlabels.dotted (by decide)
    have hlast : Dotted Char.isAlpha last :=
      dotted_of_part (by rintro rfl; simp at hlength) hletters (not_mem_of_isAlpha hletters)
    refine ⟨⟨_, last, rfl, hbefore.ne_nil, ?_, hlength, hletters⟩, ?_, ?_⟩
    · exact fun c hc => (isDomainChar_iff c).mpr (hbefore.chars c hc)
    · obtain ⟨c, rest, hcons⟩ := List.exists_cons_of_ne_nil hbefore.ne_nil
      have hhead := hbefore.head_ne
      rw [hcons] at hhead ⊢
      exact hhead
    · simp [hasDoubleDot_append, hasDoubleDot_cons, hbefore.single, hlast.single, hbefore.last_ne,
        hlast.head_ne]

/-- A text of joined parts begins as its first part does. -/
theorem Joinable.head?_joined {isPart : Char → Bool} {part : List Char} {parts : List (List Char)}
    (h : Joinable isPart (part :: parts)) (rest : List Char) :
    (joined (part :: parts) ++ rest).head? = part.head? := by
  obtain ⟨c, others, rfl⟩ := List.exists_cons_of_ne_nil (h.part_ne_nil part List.mem_cons_self)
  simp [joined_cons_cons]

/-! ## Reading an address -/

theorem not_mem_person {person : List Char} (h : Dotted isPieceChar person) : '@' ∉ person := by
  intro hmem
  exact absurd (h.chars '@' hmem) (by decide)

/-- What is checked of the two sides of the `@`. -/
theorem isEmail_eq_true_iff (s : String) :
    isEmail s = true ↔ ∃ person domain, s.toList = person ++ '@' :: domain ∧
      Dotted isPieceChar person ∧ endsInLetters domain = true ∧ domain.head? ≠ some '.' ∧
      hasDoubleDot domain = false ∧ domain.head? ≠ some '-' := by
  constructor
  · intro h
    unfold isEmail at h
    split at h
    case h_1 person domain hcut =>
      have hs := (Text.cutFirst?_eq_some hcut).1
      rw [hs, hasDoubleDot_append, hasDoubleDot_cons] at h
      simp only [Bool.and_eq_true, Bool.not_eq_true', List.isEmpty_eq_false_iff, List.all_eq_true,
        isLocalChar_iff, Bool.or_eq_false_iff, List.head?_cons, bne_iff_ne, ne_eq] at h
      obtain ⟨⟨⟨⟨⟨⟨⟨hne, hchars⟩, hletters⟩, hsingle⟩, hhead⟩, hlast⟩, hdot⟩, hhyphen⟩ := h
      obtain ⟨⟨hperson, -⟩, -, hdomain⟩ := hsingle
      exact ⟨person, domain, hs, ⟨hne, hchars, hhead, hlast, hperson⟩, hletters, hdot, hdomain,
        hhyphen⟩
    case h_2 => cases h
  · rintro ⟨person, domain, hs, hperson, hletters, hdot, hdomain, hhyphen⟩
    have hchars : person.all isLocalChar = true :=
      List.all_eq_true.mpr fun c hc => (isLocalChar_iff c).mpr (hperson.chars c hc)
    rw [isEmail, hs, Text.cutFirst?_append (not_mem_person hperson)]
    simp [hchars, hasDoubleDot_append, hasDoubleDot_cons, hperson.ne_nil, hperson.single,
      hperson.head_ne, hperson.last_ne, hletters, hdot, hdomain, hhyphen]

/-- **The texts that are taken for addresses are those of addresses.** -/
theorem isEmail_iff (s : String) : isEmail s = true ↔ ∃ a : Address, a.text = s := by
  rw [isEmail_eq_true_iff]
  constructor
  · rintro ⟨person, domain, hs, hperson, hletters, hdot, hdomain, hhyphen⟩
    obtain ⟨pieces, hpieces, rfl⟩ := hperson.exists_joinable
    obtain ⟨labels, last, rfl, hlabels, hlength, halpha⟩ :=
      (exists_labels_iff domain).mp ⟨hletters, hdot, hdomain⟩
    refine ⟨⟨pieces, labels, last, hpieces, hlabels, ?_, hlength, halpha⟩, ?_⟩
    · intro label hlabel
      obtain ⟨rest, rfl⟩ := List.head?_eq_some_iff.mp hlabel
      rwa [hlabels.head?_joined] at hhyphen
    · rw [Address.text, Address.person, Address.domain, joined_append_singleton hlabels.ne_nil,
        ← hs, String.ofList_toList]
  · rintro ⟨a, rfl⟩
    have hdomain := (exists_labels_iff a.domain).mpr ⟨a.labels, a.last,
      joined_append_singleton a.labels_joinable.ne_nil _, a.labels_joinable, a.two_le_length,
      a.isAlpha_last⟩
    refine ⟨a.person, a.domain, String.toList_ofList, a.pieces_joinable.dotted (by decide),
      hdomain.1, hdomain.2.1, hdomain.2.2, ?_⟩
    have hlabels := a.labels_joinable
    obtain ⟨label, rest, hcons⟩ := List.exists_cons_of_ne_nil hlabels.ne_nil
    rw [Address.domain, joined_append_singleton hlabels.ne_nil]
    rw [hcons] at hlabels ⊢
    rw [hlabels.head?_joined]
    exact a.no_hyphen label (by simp [hcons])

theorem Joinable.splitOn_joined {isPart : Char → Bool} {parts : List (List Char)}
    (h : Joinable isPart parts) (hdot : isPart '.' = false) :
    (joined parts).splitOn '.' = parts :=
  List.splitOn_intercalate '.' (fun _ hpart => h.not_mem hdot hpart) h.ne_nil

theorem Address.splitOn_domain (a : Address) : a.domain.splitOn '.' = a.labels ++ [a.last] := by
  apply List.splitOn_intercalate
  · intro label hlabel
    rcases List.mem_append.mp hlabel with hlabel | hlabel
    · exact a.labels_joinable.not_mem (by decide) hlabel
    · rw [List.mem_singleton.mp hlabel]
      exact not_mem_of_isAlpha a.isAlpha_last
  · simp

/-- **An address is read in one way only.** -/
theorem Address.text_injective {a b : Address} (h : a.text = b.text) : a = b := by
  have hsides : (a.person, a.domain) = (b.person, b.domain) := by
    have ha : '@' ∉ a.person := not_mem_person (a.pieces_joinable.dotted (by decide))
    have hb : '@' ∉ b.person := not_mem_person (b.pieces_joinable.dotted (by decide))
    have hcut := Text.cutFirst?_append ha a.domain
    rw [String.ofList_inj.mp h] at hcut
    exact Option.some.inj (hcut.symm.trans (Text.cutFirst?_append hb b.domain))
  have hpieces : a.pieces = b.pieces := by
    rw [← a.pieces_joinable.splitOn_joined (by decide),
      ← b.pieces_joinable.splitOn_joined (by decide)]
    exact congrArg (fun sides => sides.1.splitOn '.') hsides
  have hlabels : a.labels ++ [a.last] = b.labels ++ [b.last] := by
    rw [← a.splitOn_domain, ← b.splitOn_domain]
    exact congrArg (fun sides => sides.2.splitOn '.') hsides
  obtain ⟨hlabels, hlast⟩ := List.append_inj' hlabels rfl
  rw [List.singleton_inj] at hlast
  cases a
  cases b
  cases hpieces
  cases hlabels
  cases hlast
  rfl

end FieldRules.Format

namespace FieldRules

/-- **The rule for e-mail addresses accepts exactly the texts of addresses.** It makes a check under
which a text that is not empty passes if and only if an address is written so; any other one has the
code `WRONG_EMAIL`, and nothing is ever written. -/
theorem email_accepts : ∃ check, Builtin.email.recipe [] = .ready check ∧
    check.Decides (fun s => ∃ a : Format.Address, a.text = s) .wrongEmail :=
  ⟨_, FormatTest.email.recipe_rule, Check.decides_format Format.isEmail_iff⟩

end FieldRules
