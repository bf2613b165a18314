import Mathlib.Data.List.Forall2

/-!
# What fails at its first failure

Compiling and validating are both sequences of computations that may fail, and everything the
development says about them comes down to three questions: when does a sequence succeed, what is
then known of its parts, and which of several failures is the one that is reported. The answers are
here, once, for `>>=`, for `map` and for doing the same thing to every element of a list.

Two notions carry what is then said of whole runs, and both go through sequences: that a computation
`Ends` well, in a good result or in a tolerable failure, and that two computations end `Alike`.
-/

set_option autoImplicit false

theorem List.Forall₂.exists_of_mem_right {α β : Type} {R : α → β → Prop} {xs : List α}
    {ys : List β} (h : List.Forall₂ R xs ys) {y : β} (hy : y ∈ ys) : ∃ x ∈ xs, R x y := by
  induction h with
  | nil => exact absurd hy (by simp)
  | cons hxy _ ih =>
    rcases List.mem_cons.mp hy with rfl | hy
    · exact ⟨_, List.mem_cons_self, hxy⟩
    · obtain ⟨x, hx, hxy⟩ := ih hy
      exact ⟨x, List.mem_cons_of_mem _ hx, hxy⟩

theorem List.Forall₂.exists_getElem? {α β : Type} {R : α → β → Prop} {xs : List α} {ys : List β}
    (h : List.Forall₂ R xs ys) {index : Nat} {x : α} (hx : xs[index]? = some x) :
    ∃ y, ys[index]? = some y ∧ R x y := by
  induction h generalizing index with
  | nil => exact nomatch hx
  | @cons a b _ _ hab _ ih =>
    cases index with
    | zero => exact ⟨b, rfl, Option.some.inj hx ▸ hab⟩
    | succ index => exact ih hx

theorem List.Forall₂.split {α β : Type} {R : α → β → Prop} {xs ys : List α} {zs : List β}
    (h : List.Forall₂ R (xs ++ ys) zs) :
    ∃ as bs, zs = as ++ bs ∧ List.Forall₂ R xs as ∧ List.Forall₂ R ys bs := by
  induction xs generalizing zs with
  | nil => exact ⟨[], zs, rfl, .nil, h⟩
  | cons x xs ih =>
    obtain ⟨z, rest, hz, hrest, rfl⟩ := List.forall₂_cons_left_iff.mp h
    obtain ⟨as, bs, rfl, has, hbs⟩ := ih hrest
    exact ⟨z :: as, bs, rfl, .cons hz has, hbs⟩

namespace Except

variable {ε α β : Type}

@[simp] theorem ok_bind (a : α) (f : α → Except ε β) : ((.ok a : Except ε α) >>= f) = f a := rfl

@[simp] theorem error_bind (e : ε) (f : α → Except ε β) :
    ((.error e : Except ε α) >>= f) = .error e := rfl

theorem bind_eq_ok {x : Except ε α} {f : α → Except ε β} {b : β} :
    x >>= f = .ok b ↔ ∃ a, x = .ok a ∧ f a = .ok b := by
  cases x with
  | error e => simp
  | ok a => simp

theorem bind_eq_error {x : Except ε α} {f : α → Except ε β} {e : ε} :
    x >>= f = .error e ↔ x = .error e ∨ ∃ a, x = .ok a ∧ f a = .error e := by
  cases x with
  | error e => simp
  | ok a => simp

theorem map_eq_ok {x : Except ε α} {f : α → β} {b : β} :
    x.map f = .ok b ↔ ∃ a, x = .ok a ∧ f a = b := by
  cases x with
  | error e => simp [Except.map]
  | ok a => simp [Except.map]

theorem map_eq_error {x : Except ε α} {f : α → β} {e : ε} :
    x.map f = .error e ↔ x = .error e := by
  cases x with
  | error e => simp [Except.map]
  | ok a => simp [Except.map]

theorem mapError_eq_ok {ε' : Type} {x : Except ε α} {f : ε → ε'} {a : α} :
    x.mapError f = .ok a ↔ x = .ok a := by
  cases x with
  | error e => exact ⟨fun h => (nomatch h), fun h => (nomatch h)⟩
  | ok b => exact ⟨fun h => congrArg _ (Except.ok.inj h), fun h => congrArg _ (Except.ok.inj h)⟩

theorem toOption_eq_some {x : Except ε α} {a : α} : x.toOption = some a ↔ x = .ok a := by
  cases x with
  | error e => exact ⟨fun h => (nomatch h), fun h => (nomatch h)⟩
  | ok b => exact ⟨fun h => congrArg _ (Option.some.inj h), fun h => congrArg _ (Except.ok.inj h)⟩

/-- That a closed computation succeeds can be found out by running it. -/
theorem exists_eq_ok {x : Except ε α} (h : x.isOk = true) : ∃ a, x = .ok a := by
  cases x with
  | error e => exact nomatch h
  | ok a => exact ⟨a, rfl⟩

/-- Doing something to every element succeeds just when it does for each, and the results are in the
order of the elements. -/
theorem mapM_eq_ok {f : α → Except ε β} {xs : List α} {ys : List β} :
    xs.mapM f = .ok ys ↔ List.Forall₂ (fun x y => f x = .ok y) xs ys := by
  induction xs generalizing ys with
  | nil =>
    rw [List.mapM_nil, List.forall₂_nil_left_iff]
    exact ⟨fun h => (Except.ok.inj h).symm, fun h => by rw [h]; rfl⟩
  | cons x xs ih =>
    rw [List.mapM_cons, bind_eq_ok, List.forall₂_cons_left_iff]
    constructor
    · rintro ⟨y, hy, h⟩
      obtain ⟨rest, hrest, h⟩ := bind_eq_ok.mp h
      exact ⟨y, rest, hy, ih.mp hrest, (Except.ok.inj h).symm⟩
    · rintro ⟨y, rest, hy, hrest, rfl⟩
      exact ⟨y, hy, bind_eq_ok.mpr ⟨rest, ih.mpr hrest, rfl⟩⟩

/-- A failure is that of the first element that has one. -/
theorem mapM_eq_error {f : α → Except ε β} {xs : List α} {e : ε} :
    xs.mapM f = .error e ↔ ∃ before x after, xs = before ++ x :: after ∧
      (∀ y ∈ before, ∃ b, f y = .ok b) ∧ f x = .error e := by
  induction xs with
  | nil =>
    constructor
    · intro h
      cases h
    · rintro ⟨before, x, after, h, -⟩
      exact absurd h (by simp)
  | cons x xs ih =>
    rw [List.mapM_cons]
    cases hx : f x with
    | error e' =>
      rw [error_bind]
      constructor
      · intro h
        refine ⟨[], x, xs, rfl, fun _ hm => absurd hm (by simp), ?_⟩
        rw [hx, Except.error.inj h]
      · rintro ⟨before, y, after, hxs, hb, hy⟩
        cases before with
        | nil =>
          rw [List.nil_append, List.cons.injEq] at hxs
          rw [← hxs.1, hx] at hy
          rw [Except.error.inj hy]
        | cons z zs =>
          rw [List.cons_append, List.cons.injEq] at hxs
          obtain ⟨b, hz⟩ := hb z (by simp)
          rw [← hxs.1, hx] at hz
          cases hz
    | ok b =>
      have hrest : (xs.mapM f >>= fun bs => pure (b :: bs)) = (.error e : Except ε (List β))
          ↔ xs.mapM f = .error e := by
        cases xs.mapM f with
        | error e' => simp
        | ok bs => simp [pure, Except.pure]
      rw [ok_bind, hrest, ih]
      constructor
      · rintro ⟨before, y, after, rfl, hb, hy⟩
        refine ⟨x :: before, y, after, rfl, ?_, hy⟩
        intro z hz
        rcases List.mem_cons.mp hz with rfl | hz
        · exact ⟨b, hx⟩
        · exact hb z hz
      · rintro ⟨before, y, after, hxs, hb, hy⟩
        cases before with
        | nil =>
          rw [List.nil_append, List.cons.injEq] at hxs
          rw [← hxs.1, hx] at hy
          cases hy
        | cons z zs =>
          rw [List.cons_append, List.cons.injEq] at hxs
          exact ⟨zs, y, after, hxs.2, fun w hw => hb w (by simp [hw]), hy⟩

/-- Changing the results one by one is changing them together. -/
theorem mapM_map {γ : Type} (f : α → Except ε β) (g : β → γ) (xs : List α) :
    (xs.mapM fun x => (f x).map g) = (xs.mapM f).map (List.map g) := by
  induction xs with
  | nil => rfl
  | cons x xs ih =>
    rw [List.mapM_cons, List.mapM_cons, ih]
    cases f x with
    | error e => rfl
    | ok y =>
      cases xs.mapM f with
      | error e => rfl
      | ok ys => rfl

theorem exists_mapM_eq_ok_iff {f : α → Except ε β} {xs : List α} :
    (∃ ys, xs.mapM f = .ok ys) ↔ ∀ x ∈ xs, ∃ y, f x = .ok y := by
  constructor
  · rintro ⟨ys, h⟩
    have hall := mapM_eq_ok.mp h
    clear h
    induction hall with
    | nil => exact fun x hx => absurd hx (by simp)
    | cons hxy _ ih =>
      intro x hx
      rcases List.mem_cons.mp hx with rfl | hx
      · exact ⟨_, hxy⟩
      · exact ih x hx
  · intro h
    cases hm : xs.mapM f with
    | ok ys => exact ⟨ys, rfl⟩
    | error e =>
      obtain ⟨before, x, after, rfl, -, hx⟩ := mapM_eq_error.mp hm
      obtain ⟨y, hy⟩ := h x (by simp)
      rw [hx] at hy
      cases hy

/-! ## Ends of one computation -/

/-- The computation ends in a good result or in a tolerable failure. -/
def Ends (good : α → Prop) (tolerable : ε → Prop) (x : Except ε α) : Prop :=
  (∀ a, x = .ok a → good a) ∧ ∀ e, x = .error e → tolerable e

section
variable {good : α → Prop} {tolerable : ε → Prop} {x : Except ε α}

theorem Ends.ok {a : α} (h : good a) : Ends good tolerable (.ok a) := by
  constructor
  · rintro _ ⟨⟩
    exact h
  · rintro _ ⟨⟩

theorem Ends.error {e : ε} (h : tolerable e) : Ends good tolerable (.error e : Except ε α) := by
  constructor
  · rintro _ ⟨⟩
  · rintro _ ⟨⟩
    exact h

theorem Ends.bind {good' : β → Prop} {f : α → Except ε β} (hx : Ends good tolerable x)
    (hf : ∀ a, good a → Ends good' tolerable (f a)) : Ends good' tolerable (x >>= f) := by
  cases x with
  | ok a => exact hf a (hx.1 a rfl)
  | error e => exact .error (hx.2 e rfl)

theorem Ends.map {good' : β → Prop} {f : α → β} (hx : Ends good tolerable x)
    (hf : ∀ a, good a → good' (f a)) : Ends good' tolerable (x.map f) := by
  cases x with
  | ok a => exact .ok (hf a (hx.1 a rfl))
  | error e => exact .error (hx.2 e rfl)

/-- If every element ends well, so do all of them together. -/
theorem Ends.mapM {f : β → Except ε α} {ys : List β}
    (h : ∀ y ∈ ys, Ends good tolerable (f y)) :
    Ends (fun as => ∀ a ∈ as, good a) tolerable (ys.mapM f) := by
  constructor
  · intro as has a ha
    obtain ⟨y, hy, hya⟩ := (mapM_eq_ok.mp has).exists_of_mem_right ha
    exact (h y hy).1 a hya
  · intro e he
    obtain ⟨before, y, after, rfl, -, hye⟩ := mapM_eq_error.mp he
    exact (h y (by simp)).2 e hye

/-- If each element ends in a result that is known, or tolerably, so do all of them together. -/
theorem Ends.mapM_eq {f : β → Except ε α} {ys : List β} {as : List α}
    (h : List.Forall₂ (fun y a => Ends (· = a) tolerable (f y)) ys as) :
    Ends (· = as) tolerable (ys.mapM f) := by
  induction h with
  | nil => exact .ok rfl
  | cons hya _ ih =>
    rw [List.mapM_cons]
    refine hya.bind fun a ha => ?_
    refine ih.bind fun as has => ?_
    subst ha has
    exact .ok rfl

end

/-! ## Ends of two computations -/

/-- Two computations end in related results, or in the same failure. -/
inductive Alike {γ : Type} (R : α → γ → Prop) : Except ε α → Except ε γ → Prop
  | ok {a : α} {c : γ} : R a c → Alike R (.ok a) (.ok c)
  | error (e : ε) : Alike R (.error e) (.error e)

section
variable {γ δ : Type} {R : α → γ → Prop} {x : Except ε α} {y : Except ε γ}

theorem Alike.refl {S : α → α → Prop} (hS : ∀ a, S a a) (x : Except ε α) : Alike S x x := by
  cases x with
  | ok a => exact .ok (hS a)
  | error e => exact .error e

theorem Alike.bind {S : β → δ → Prop} {f : α → Except ε β} {g : γ → Except ε δ} (h : Alike R x y)
    (hfg : ∀ a c, R a c → Alike S (f a) (g c)) : Alike S (x >>= f) (y >>= g) := by
  cases h with
  | ok hac => exact hfg _ _ hac
  | error e => exact .error e

theorem Alike.map {S : β → δ → Prop} {p : α → β} {q : γ → δ} (h : Alike R x y)
    (hpq : ∀ a c, R a c → S (p a) (q c)) : Alike S (x.map p) (y.map q) := by
  cases h with
  | ok hac => exact .ok (hpq _ _ hac)
  | error e => exact .error e

theorem Alike.map_eq {p : α → β} {q : γ → β} (h : Alike R x y) (hpq : ∀ a c, R a c → p a = q c) :
    x.map p = y.map q := by
  cases h with
  | ok hac => exact congrArg Except.ok (hpq _ _ hac)
  | error e => rfl

/-- After one computation, two others end alike if they do for each of its results. -/
theorem Alike.bind_same {S : β → δ → Prop} (z : Except ε α) {f : α → Except ε β}
    {g : α → Except ε δ} (hfg : ∀ a, Alike S (f a) (g a)) : Alike S (z >>= f) (z >>= g) := by
  cases z with
  | ok a => exact hfg a
  | error e => exact .error e

theorem Alike.bind_eq {f : α → Except ε β} {g : γ → Except ε β} (h : Alike R x y)
    (hfg : ∀ a c, R a c → f a = g c) : x >>= f = y >>= g := by
  cases h with
  | ok hac => exact hfg _ _ hac
  | error e => rfl

/-- If related elements end alike, so do the lists of them. -/
theorem Alike.mapM {V : β → δ → Prop} {f : β → Except ε α} {g : δ → Except ε γ} {bs : List β}
    {ds : List δ} (h : List.Forall₂ V bs ds) (hfg : ∀ b d, V b d → Alike R (f b) (g d)) :
    Alike (List.Forall₂ R) (bs.mapM f) (ds.mapM g) := by
  induction h with
  | nil => exact .ok .nil
  | cons hbd _ ih =>
    rw [List.mapM_cons, List.mapM_cons]
    refine (hfg _ _ hbd).bind fun a c hac => ?_
    refine ih.bind fun as cs hacs => ?_
    exact .ok (.cons hac hacs)

end

end Except
