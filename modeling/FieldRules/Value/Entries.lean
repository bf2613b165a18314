import FieldRules.Value.Equality

/-!
# Entries of mappings

A mapping is its entries in order. A new key goes to the end; a key that is already there keeps its
place, and its spelling, and gets the new value.
-/

set_option autoImplicit false

namespace FieldRules.Entries

/-- The value under a text key. -/
def get? (entries : Entries) (name : String) : Option Value :=
  match entries with
  | [] => none
  | (.text s, v) :: rest => if s = name then some v else get? rest name
  | _ :: rest => get? rest name

/-- Whether a text key is present. -/
def hasKey (entries : Entries) (name : String) : Bool := (get? entries name).isSome

/-- Puts a value under a key: in the place of the same key if there is one, else at the end. -/
def insert (entries : Entries) (key value : Value) : Entries :=
  match entries with
  | [] => [(key, value)]
  | (k, v) :: rest =>
    if Value.sameKey k key then (k, value) :: rest else (k, v) :: insert rest key value

/-- Entries given in order, a later one replacing an earlier one of the same key. -/
def ofEntries (entries : Entries) : Entries :=
  entries.foldl (fun acc e => insert acc e.1 e.2) []

/-- The entries with the texts among their values trimmed. -/
def trimmed (entries : Entries) : Entries := entries.map fun e => (e.1, e.2.trimmed)

/-- Entries whose keys are texts. -/
def ofNamed (named : List (String × Value)) : Entries := named.map fun e => (.text e.1, e.2)

theorem get?_trimmed (entries : Entries) (name : String) :
    get? (trimmed entries) name = (get? entries name).map Value.trimmed := by
  induction entries with
  | nil => rfl
  | cons e rest ih =>
    obtain ⟨k, v⟩ := e
    cases k with
    | text s =>
      by_cases h : s = name
      · simp [trimmed, get?, h]
      · simpa [trimmed, get?, h] using ih
    | _ => simpa [trimmed, get?] using ih

theorem get?_ofNamed (named : List (String × Value)) (name : String) :
    get? (ofNamed named) name = named.lookup name := by
  induction named with
  | nil => rfl
  | cons e rest ih =>
    obtain ⟨other, v⟩ := e
    by_cases h : other = name
    · simp [ofNamed, get?, h]
    · have hb : (name == other) = false := beq_eq_false_iff_ne.mpr (Ne.symm h)
      simpa [ofNamed, get?, h, List.lookup_cons, hb] using ih

theorem hasKey_ofNamed {named : List (String × Value)} {e : String × Value} (h : e ∈ named) :
    hasKey (ofNamed named) e.1 = true := by
  rw [hasKey, get?_ofNamed, Option.isSome_iff_ne_none]
  exact fun hnone => absurd (List.lookup_eq_none_iff.mp hnone e h) (by simp)

end FieldRules.Entries
