import FieldRules.Proofs.Error.Order
import FieldRules.Proofs.Number.Size

/-!
# Flattening loses nothing

The flat form of an error has its leaves by their paths. Two leaves could have the same path, and
then the later one would take the place of the earlier one; with plain names none do, because a path
can be read back (`Errors.path_injective`). So the flat form of a plain error has as many entries as
the error has leaves, in the same order, and each leaf is found under its path
(`Errors.flatten_faithful`).
-/

set_option autoImplicit false

namespace FieldRules

/-! ## Putting different names in order -/

theorem putNamed_of_not_mem {α : Type} {name : String} {named : List (String × α)}
    (h : name ∉ named.map (·.1)) (value : α) :
    putNamed name value named = named ++ [(name, value)] := by
  induction named with
  | nil => rfl
  | cons e rest ih =>
    rw [List.map_cons, List.mem_cons, not_or] at h
    rw [putNamed, if_neg (Ne.symm h.1), ih h.2]
    rfl

/-- Different names are put one after the other. -/
theorem foldl_putNamed {α : Type} {named others : List (String × α)}
    (h : ((named ++ others).map (·.1)).Nodup) :
    others.foldl (fun flat e => putNamed e.1 e.2 flat) named = named ++ others := by
  induction others generalizing named with
  | nil => exact (List.append_nil named).symm
  | cons e rest ih =>
    have hnew : e.1 ∉ named.map (·.1) := by
      rw [List.map_append, List.map_cons] at h
      exact fun hm => (List.nodup_append.mp h).2.2 _ hm _ List.mem_cons_self rfl
    rw [List.foldl_cons, putNamed_of_not_mem hnew, ih (by rwa [List.append_assoc])]
    exact List.append_assoc _ _ _

theorem lookup_of_mem {α : Type} {named : List (String × α)} (h : (named.map (·.1)).Nodup)
    {e : String × α} (he : e ∈ named) : named.lookup e.1 = some e.2 := by
  induction named with
  | nil => exact nomatch he
  | cons first rest ih =>
    rw [List.map_cons, List.nodup_cons] at h
    rcases List.mem_cons.mp he with rfl | he
    · rw [List.lookup_cons, beq_self_eq_true]
    · have hne : (e.1 == first.1) = false := by
        rw [beq_eq_false_iff_ne]
        exact fun heq => h.1 (heq ▸ List.mem_map_of_mem he)
      rw [List.lookup_cons, hne]
      exact ih h.2 he

namespace Errors

variable {error : Value}

/-! ## The paths of leaves -/

/-- Everything that stands in a plain error as a leaf has a text. -/
theorem IsPlain.display (h : IsPlain error) (hleaf : IsLeaf error) :
    ∃ text, error.display = .ok text := by
  cases h with
  | null => exact hleaf.elim
  | leaf _ htext => exact ⟨_, htext⟩
  | map => exact hleaf.elim
  | list => exact hleaf.elim

theorem exists_path {place : Place} (h : place.IsPlain) : ∃ text, path place = .ok text := by
  cases place with
  | nil => exact ⟨_, rfl⟩
  | cons segment rest => exact ⟨_, path_of_plain h⟩

/-- Two leaves of a plain error have different paths, also if one of them is the error itself. -/
theorem place_of_path (h : IsPlain error) {l l' : Place × Value} (hl : l ∈ leaves error)
    (hl' : l' ∈ leaves error) (hpath : path l.1 = path l'.1) : l.1 = l'.1 := by
  have hself : ∀ {l : Place × Value}, l ∈ leaves error → l.1 = [] → IsLeaf error := by
    rintro ⟨place, leaf⟩ hl rfl
    obtain ⟨hat, hleaf⟩ := mem_leaves_iff.mp hl
    cases hat
    exact hleaf
  by_cases hleaf : IsLeaf error
  · rw [leaves_of_isLeaf hleaf] at hl hl'
    rw [List.mem_singleton.mp hl, List.mem_singleton.mp hl']
  · have hplain := fun l (hl : l ∈ leaves error) => (h.at (mem_leaves_iff.mp hl).1).2
    exact path_injective (hplain l hl) (hplain l' hl') (fun hnil => hleaf (hself hl hnil))
      (fun hnil => hleaf (hself hl' hnil)) hpath

/-! ## The flat form -/

/-- The leaves of a plain error can be listed with their texts. -/
theorem exists_listed (h : IsPlain error) :
    ∃ items, listed error = .ok items ∧
      List.Forall₂ (fun l item => item.1 = l.1 ∧ l.2.display = .ok item.2)
        (leaves error) items := by
  obtain ⟨items, hitems⟩ : ∃ items, listed error = .ok items := by
    refine Except.exists_mapM_eq_ok_iff.mpr ?_
    rintro ⟨place, leaf⟩ hl
    obtain ⟨hat, hleaf⟩ := mem_leaves_iff.mp hl
    obtain ⟨text, htext⟩ := (h.at hat).1.display hleaf
    refine ⟨(place, text), ?_⟩
    show leaf.display >>= _ = _
    rw [htext]
    rfl
  refine ⟨items, hitems, (Except.mapM_eq_ok.mp hitems).imp ?_⟩
  rintro ⟨place, leaf⟩ item hitem
  obtain ⟨text, htext, hitem⟩ := Except.bind_eq_ok.mp hitem
  cases hitem
  exact ⟨rfl, htext⟩

/-- Items that are listed have paths. -/
theorem exists_named {items : List (Place × String)} (h : ∀ item ∈ items, item.1.IsPlain) :
    ∃ named, items.mapM (fun item => do return (← path item.1, item.2)) = .ok named ∧
      List.Forall₂ (fun item entry => path item.1 = .ok entry.1 ∧ entry.2 = item.2)
        items named := by
  obtain ⟨named, hnamed⟩ :
      ∃ named, items.mapM (fun item => do return (← path item.1, item.2)) = .ok named := by
    refine Except.exists_mapM_eq_ok_iff.mpr fun item hitem => ?_
    obtain ⟨text, htext⟩ := exists_path (h item hitem)
    refine ⟨(text, item.2), ?_⟩
    rw [htext]
    rfl
  refine ⟨named, hnamed, (Except.mapM_eq_ok.mp hnamed).imp fun item entry hentry => ?_⟩
  obtain ⟨text, htext, hentry⟩ := Except.bind_eq_ok.mp hentry
  cases hentry
  exact ⟨htext, rfl⟩

/-- Names are different if what they are the paths of is. -/
theorem nodup_named {items : List (Place × String)} {named : List (String × String)}
    (hnodup : (items.map (·.1)).Nodup)
    (hinj : ∀ item ∈ items, ∀ other ∈ items, path item.1 = path other.1 → item.1 = other.1)
    (hnamed : List.Forall₂ (fun item entry => path item.1 = .ok entry.1 ∧ entry.2 = item.2)
      items named) : (named.map (·.1)).Nodup := by
  induction hnamed with
  | nil => exact List.nodup_nil
  | @cons item entry items named hentry hrest ih =>
    rw [List.map_cons, List.nodup_cons] at hnodup ⊢
    refine ⟨fun hm => ?_, ih hnodup.2 fun a ha b hb =>
      hinj a (List.mem_cons_of_mem _ ha) b (List.mem_cons_of_mem _ hb)⟩
    obtain ⟨other, hother, hsame⟩ := List.mem_map.mp hm
    obtain ⟨twin, htwin, hpath, -⟩ := hrest.exists_of_mem_right hother
    have hplace := hinj item List.mem_cons_self twin (List.mem_cons_of_mem _ htwin)
      (by rw [hentry.1, hpath, hsame])
    exact hnodup.1 (hplace ▸ List.mem_map_of_mem htwin)

/-- The flat form of a plain error is that of its leaves, one by one. -/
theorem exists_flat (h : IsPlain error) :
    ∃ items flat, listed error = .ok items ∧
      List.Forall₂ (fun l item => item.1 = l.1 ∧ l.2.display = .ok item.2) (leaves error) items ∧
      flatten error = .ok flat ∧
      List.Forall₂ (fun item entry => path item.1 = .ok entry.1 ∧ entry.2 = item.2) items flat ∧
      (flat.map (·.1)).Nodup := by
  obtain ⟨items, hitems, hlisted⟩ := exists_listed h
  have hleaf : ∀ item ∈ items, ∃ l ∈ leaves error, item.1 = l.1 := fun item hitem => by
    obtain ⟨l, hl, hplace, -⟩ := hlisted.exists_of_mem_right hitem
    exact ⟨l, hl, hplace⟩
  have hplaces : items.map (·.1) = (leaves error).map (·.1) := by
    rw [← List.forall₂_eq_eq_eq, List.forall₂_map_left_iff, List.forall₂_map_right_iff]
    exact hlisted.flip.imp fun _ _ hitem => hitem.1
  have hplain : ∀ item ∈ items, item.1.IsPlain := fun item hitem => by
    obtain ⟨l, hl, hplace⟩ := hleaf item hitem
    rw [hplace]
    exact (h.at (mem_leaves_iff.mp hl).1).2
  obtain ⟨flat, hflat, hnamed⟩ := exists_named hplain
  have hnodup : (flat.map (·.1)).Nodup := by
    refine nodup_named (hplaces ▸ nodup_leaves h) (fun item hitem other hother hpath => ?_) hnamed
    obtain ⟨l, hl, hplace⟩ := hleaf item hitem
    obtain ⟨l', hl', hplace'⟩ := hleaf other hother
    rw [hplace, hplace'] at hpath ⊢
    exact place_of_path h hl hl' hpath
  refine ⟨items, flat, hitems, hlisted, ?_, hnamed, hnodup⟩
  show listed error >>= _ = _
  rw [hitems, Except.ok_bind]
  show items.mapM (fun item => do return (← path item.1, item.2)) >>= _ = _
  rw [hflat, Except.ok_bind]
  -- No path takes the place of another one.
  exact congrArg Except.ok (@foldl_putNamed String [] flat hnodup)

/-- **Flattening loses nothing** where names are plain. The leaves of an error are listed in the
order in which they are written down, each of them once and nothing else; their paths are different,
so the flat form has as many entries, in that order, and each path leads to the text of its leaf. No
two places at all have the same path, unless one of them is the empty one. -/
theorem flatten_faithful :
    (∀ error, IsPlain error →
      (leaves error).Pairwise (fun a b => Before error a.1 b.1) ∧
      (∀ p q, Before error p q → ¬ Before error q p) ∧
      ((leaves error).map (·.1)).Nodup ∧
      (∀ place leaf, (place, leaf) ∈ leaves error ↔ At error place leaf ∧ IsLeaf leaf) ∧
      (∀ l ∈ leaves error, ∀ l' ∈ leaves error, path l.1 = path l'.1 → l.1 = l'.1) ∧
      ∃ items flat, listed error = .ok items ∧
        List.Forall₂ (fun l item => item.1 = l.1 ∧ l.2.display = .ok item.2)
          (leaves error) items ∧
        flatten error = .ok flat ∧ flat.length = count error ∧
        List.Forall₂ (fun item entry => path item.1 = .ok entry.1 ∧ entry.2 = item.2)
          items flat ∧
        ∀ item ∈ items, ∃ text, path item.1 = .ok text ∧ flat.lookup text = some item.2) ∧
    ∀ p q : Place, p.IsPlain → q.IsPlain → p ≠ [] → q ≠ [] → p ≠ q →
      ∃ t u, path p = .ok t ∧ path q = .ok u ∧ t ≠ u := by
  constructor
  · intro error h
    obtain ⟨items, flat, hitems, hlisted, hflat, hnamed, hnodup⟩ := exists_flat h
    refine ⟨leaves_before error, fun _ _ hpq => hpq.asymm h, nodup_leaves h,
      fun _ _ => mem_leaves_iff, fun l hl l' hl' => place_of_path h hl hl', items, flat, hitems,
      hlisted, hflat, ?_, hnamed, fun item hitem => ?_⟩
    · rw [← hnamed.length_eq, ← hlisted.length_eq]
      rfl
    · obtain ⟨entry, hentry, hpath, htext⟩ := hnamed.flip.exists_of_mem_right hitem
      exact ⟨entry.1, hpath, htext ▸ lookup_of_mem hnodup hentry⟩
  · intro p q hp hq hp' hq' hpq
    obtain ⟨t, ht⟩ := exists_path hp
    obtain ⟨u, hu⟩ := exists_path hq
    refine ⟨t, u, ht, hu, fun htu => hpq (path_injective hp hq hp' hq' ?_)⟩
    rw [ht, hu, htu]

/-- The error of an order without a zip code and with a tag that is too long. -/
def orderError : Value :=
  .map (Entries.ofNamed [("address", .map (Entries.ofNamed [("zip", .text "REQUIRED")])),
    ("tags", .list [.null, .text "TOO_LONG"])])

theorem isPlain_orderError : IsPlain orderError := by
  have hcode : ∀ code : String, IsPlain (.text code) := fun code => .leaf trivial rfl
  refine .ofNamed (by decide) (by decide) fun e he => ?_
  rcases List.mem_cons.mp he with rfl | he
  · refine .ofNamed (by decide) (by decide) fun e he => ?_
    rw [List.mem_singleton.mp he]
    exact hcode "REQUIRED"
  · rw [List.mem_singleton.mp he]
    have hlength : 2 ≤ Numeral.textless := Nat.le_trans (by decide) (Numeral.tenTo_le_tenTo
      (show 1 ≤ Numeral.digitLimit by decide))
    refine .list hlength fun error herror => ?_
    rcases List.mem_cons.mp herror with rfl | herror
    · exact .null
    · rw [List.mem_singleton.mp herror]
      exact hcode "TOO_LONG"

theorem flatten_faithful_orderError :
    IsPlain orderError ∧ count orderError = 2 ∧
      ∃ flat, flatten orderError = .ok flat ∧ flat.length = 2 ∧
        flat.lookup "tags[1]" = some "TOO_LONG" := by
  obtain ⟨-, -, -, -, -, items, flat, hitems, -, hflat, hlength, -, hlookup⟩ :=
    flatten_faithful.1 orderError isPlain_orderError
  refine ⟨isPlain_orderError, rfl, flat, hflat, hlength, ?_⟩
  have hlisted : listed orderError =
      .ok [([.text "address", .text "zip"], "REQUIRED"), ([.text "tags", .int 1], "TOO_LONG")] :=
    rfl
  rw [hlisted] at hitems
  cases hitems
  obtain ⟨text, hpath, htext⟩ := hlookup ([.text "tags", .int 1], "TOO_LONG") (by simp)
  have hwritten : path [.text "tags", .int 1] = .ok "tags[1]" := by decide +kernel
  rw [hwritten] at hpath
  cases hpath
  exact htext

end Errors

end FieldRules
