import Mathlib.Data.List.Forall2
import TaskEngine.Dict

/-!
# Dictionaries by look-up

A dictionary is known by its look-ups: its list holds exactly the bindings that look-ups find, and
two dictionaries with the same look-ups are equal. Two dictionaries are alike if they have the same
keys in the same places and related values; insertion, removal and selection keep that.
-/

namespace TaskEngine

namespace Dict

variable {α β : Type}

/-! ## Bindings -/

theorem mem_of_lookup {key : String} {value : α} {entries : List (String × α)}
    (h : lookup key entries = some value) : (key, value) ∈ entries := by
  induction entries with
  | nil => simp [lookup] at h
  | cons head rest ih =>
    obtain ⟨k, v⟩ := head
    rw [lookup] at h
    split at h
    · rename_i hk
      cases h
      rw [hk]
      exact List.mem_cons_self
    · exact List.mem_cons_of_mem _ (ih h)

/-- A key that no entry has is not found. -/
theorem lookup_eq_none {key : String} {entries : List (String × α)}
    (h : key ∉ entries.map (·.1)) : lookup key entries = none := by
  rw [Option.eq_none_iff_forall_ne_some]
  intro value hvalue
  exact h (List.mem_map_of_mem (mem_of_lookup hvalue))

/-- Among entries whose keys differ, look-ups find what is there. -/
theorem lookup_of_mem_nodup {key : String} {value : α} {entries : List (String × α)}
    (hnodup : (entries.map (·.1)).Nodup) (h : (key, value) ∈ entries) :
    lookup key entries = some value := by
  induction entries with
  | nil => cases h
  | cons head rest ih =>
    obtain ⟨k, v⟩ := head
    obtain ⟨hfirst, hrest⟩ := List.nodup_cons.mp hnodup
    rcases List.mem_cons.mp h with h | h
    · cases h
      simp [lookup]
    · have hother : k ≠ key := fun he => hfirst (List.mem_map.mpr ⟨_, h, he.symm⟩)
      rw [lookup, if_neg hother]
      exact ih hrest h

/-- Ascending keys differ. -/
theorem nodup_keys {entries : List (String × α)} (h : SortedKeys entries) :
    (entries.map (·.1)).Nodup :=
  List.pairwise_map.mpr (h.imp fun {a b} hlt (he : a.1 = b.1) =>
    String.lt_irrefl b.1 (he ▸ hlt))

/-- The list of a dictionary holds exactly what look-ups find. -/
theorem mem_toList {d : Dict α} {key : String} {value : α} :
    (key, value) ∈ d.toList ↔ d.get? key = some value :=
  ⟨lookup_of_mem_nodup (nodup_keys d.sorted), mem_of_lookup⟩

/-- The values of a dictionary are what look-ups find. -/
theorem mem_values {d : Dict α} {value : α} :
    value ∈ d.values ↔ ∃ key, d.get? key = some value := by
  simp only [values, List.mem_map, Prod.exists, exists_eq_right]
  exact exists_congr fun key => mem_toList

theorem contains_iff {d : Dict α} {key : String} :
    d.contains key = true ↔ ∃ value, d.get? key = some value := Option.isSome_iff_exists

theorem contains_eq_false_iff {d : Dict α} {key : String} :
    d.contains key = false ↔ d.get? key = none := by
  simp only [contains, Option.isSome_eq_false_iff, Option.isNone_iff_eq_none]

/-- Dictionaries with the same look-ups are equal. -/
theorem ext_get? {d e : Dict α} (h : ∀ key, d.get? key = e.get? key) : d = e := by
  have hmem : ∀ entry, entry ∈ d.entries ↔ entry ∈ e.entries := by
    rintro ⟨key, value⟩
    have hmem : (key, value) ∈ d.toList ↔ (key, value) ∈ e.toList := by
      rw [mem_toList, mem_toList, h]
    exact hmem
  have hnodup : ∀ f : Dict α, f.entries.Nodup := fun f => f.sorted.imp (by
    intro a b hlt he
    exact String.lt_irrefl b.1 (he ▸ hlt))
  have hperm : d.entries.Perm e.entries :=
    (List.perm_ext_iff_of_nodup (hnodup d) (hnodup e)).mpr hmem
  have heq : d.entries = e.entries := hperm.eq_of_pairwise
    (fun a b _ _ hab hba => absurd (String.lt_trans hab hba) (String.lt_irrefl _)) d.sorted e.sorted
  cases d
  cases e
  cases heq
  rfl

/-- Binding a key to what it is bound to changes nothing. -/
theorem insert_eq_self {d : Dict α} {key : String} {value : α} (h : d.get? key = some value) :
    d.insert key value = d := by
  refine ext_get? fun other => ?_
  rw [get?_insert]
  split
  · rename_i he
    rw [← he, h]
  · rfl

/-- What holds of a binding and of all that are there holds of all once it is inserted. -/
theorem forall_insert {Q : String → α → Prop} {d : Dict α} {key : String} {value : α}
    (hvalue : Q key value) (h : ∀ other found, d.get? other = some found → Q other found)
    (other : String) (found : α) (hget : (d.insert key value).get? other = some found) :
    Q other found := by
  rw [get?_insert] at hget
  split at hget
  · rename_i hkey
    cases hget
    exact hkey ▸ hvalue
  · exact h other found hget

/-- Removing a key that is not bound changes nothing. -/
theorem erase_eq_self {d : Dict α} {key : String} (h : d.get? key = none) : d.erase key = d := by
  refine ext_get? fun other => ?_
  rw [get?_erase]
  split
  · rename_i he
    rw [← he, h]
  · rfl

/-- What is left after a removal was there before. -/
theorem get?_of_erase {d : Dict α} {key other : String} {value : α}
    (h : (d.erase key).get? other = some value) : d.get? other = some value := by
  rw [get?_erase] at h
  split at h
  · cases h
  · exact h

/-- Removal of several keys. -/
theorem get?_foldl_erase (d : Dict α) (keys : List String) (other : String) :
    (keys.foldl erase d).get? other = if other ∈ keys then none else d.get? other := by
  induction keys generalizing d with
  | nil => simp
  | cons key keys ih =>
    rw [List.foldl_cons, ih, get?_erase]
    by_cases hkey : key = other
    · simp [hkey]
    · simp [hkey, Ne.symm hkey]

theorem isEmpty_iff {d : Dict α} : d.isEmpty = true ↔ d = ∅ := by
  constructor
  · intro h
    obtain ⟨entries, hs⟩ := d
    cases List.isEmpty_iff.mp h
    rfl
  · rintro rfl
    rfl

@[simp] theorem get?_emptyCollection (key : String) : (∅ : Dict α).get? key = none := rfl

/-! ## Bindings in any order -/

/-- Changing every value changes what look-ups find. -/
@[simp] theorem get?_map (f : α → β) (d : Dict α) (key : String) :
    (d.map f).get? key = (d.get? key).map f := by
  change lookup key (d.entries.map fun entry => (entry.1, f entry.2)) = _
  rw [get?]
  induction d.entries with
  | nil => rfl
  | cons head rest ih =>
    rw [List.map_cons, lookup, lookup]
    split
    · rfl
    · exact ih

/-- Binding a key and then changing every value binds it to the changed value. -/
theorem map_insert (f : α → β) (d : Dict α) (key : String) (value : α) :
    (d.insert key value).map f = (d.map f).insert key (f value) := by
  refine ext_get? fun other => ?_
  rw [get?_map, get?_insert, get?_insert, get?_map]
  split <;> rfl

/-- Removal and changing every value may come in any order. -/
theorem map_erase (f : α → β) (d : Dict α) (key : String) :
    (d.erase key).map f = (d.map f).erase key := by
  refine ext_get? fun other => ?_
  rw [get?_map, get?_erase, get?_erase, get?_map]
  split <;> rfl

/-- The values of a changed dictionary are the changed values. -/
theorem values_map (f : α → β) (d : Dict α) :
    (d.map f).values = d.toList.map fun entry => f entry.2 := by
  rw [values, map, List.map_map]
  rfl

/-- Look-ups in a selection find the values that pass the test. -/
theorem get?_filter {keep : String → α → Bool} {d : Dict α} {key : String} {value : α} :
    (d.filter keep).get? key = some value ↔ d.get? key = some value ∧ keep key value = true := by
  rw [← mem_toList, ← mem_toList]
  exact List.mem_filter

/-- Look-ups in a selection find what is found outside of it, if it passes the test. -/
theorem get?_filter_eq (keep : String → α → Bool) (d : Dict α) (key : String) :
    (d.filter keep).get? key = (d.get? key).filter (keep key) := by
  ext value
  rw [get?_filter, Option.filter_eq_some_iff]

/-- Bindings of one dictionary that are made in another one lead to the same values. -/
theorem get?_insertAll {d e : Dict α} {bindings : List (String × α)}
    (h : ∀ key value, (key, value) ∈ bindings → e.get? key = some value) (key : String) :
    (d.insertAll bindings).get? key =
      if key ∈ bindings.map (·.1) then e.get? key else d.get? key := by
  induction bindings generalizing d with
  | nil => rfl
  | cons binding rest ih =>
    obtain ⟨k, v⟩ := binding
    have hhead : e.get? k = some v := h k v List.mem_cons_self
    have hrest : ∀ key value, (key, value) ∈ rest → e.get? key = some value :=
      fun key value hmem => h key value (List.mem_cons_of_mem _ hmem)
    change ((d.insert k v).insertAll rest).get? key = _
    rw [ih hrest, get?_insert]
    by_cases hmem : key ∈ rest.map (·.1)
    · rw [if_pos hmem, if_pos (by simp [hmem])]
    · rw [if_neg hmem]
      by_cases hkey : k = key
      · subst hkey
        rw [if_pos rfl, if_pos (by simp), hhead]
      · have hout : key ∉ ((k, v) :: rest).map (·.1) := by
          rw [List.map_cons, List.mem_cons, not_or]
          exact ⟨Ne.symm hkey, hmem⟩
        rw [if_neg hkey, if_neg hout]

/-- Bindings whose keys differ are found behind those of the dictionary they are made in. -/
theorem get?_insertAll_of_nodup {d : Dict α} {bindings : List (String × α)}
    (h : (bindings.map (·.1)).Nodup) (key : String) :
    (d.insertAll bindings).get? key = (lookup key bindings).or (d.get? key) := by
  induction bindings generalizing d with
  | nil => rfl
  | cons binding rest ih =>
    obtain ⟨k, v⟩ := binding
    obtain ⟨hfirst, hrest⟩ := List.nodup_cons.mp h
    change ((d.insert k v).insertAll rest).get? key = _
    rw [ih hrest, get?_insert, lookup]
    split
    · rename_i hkey
      rw [lookup_eq_none (hkey ▸ hfirst)]
      rfl
    · rfl

/-- A key has a value if it is bound, before or by one of the bindings. -/
theorem isSome_get?_insertAll {d : Dict α} {bindings : List (String × α)} {key : String} :
    ((d.insertAll bindings).get? key).isSome = true ↔
      (d.get? key).isSome = true ∨ key ∈ bindings.map (·.1) := by
  induction bindings generalizing d with
  | nil => simp [insertAll]
  | cons binding rest ih =>
    obtain ⟨k, v⟩ := binding
    change (((d.insert k v).insertAll rest).get? key).isSome = true ↔ _
    rw [ih, get?_insert]
    by_cases hkey : k = key
    · simp [hkey]
    · simp [hkey, Ne.symm hkey]

/-- A dictionary is made of its bindings, in whatever order and however often they come. -/
theorem ofList_eq {d : Dict α} {bindings : List (String × α)}
    (h : ∀ key value, (key, value) ∈ bindings ↔ d.get? key = some value) :
    ofList bindings = d := by
  refine ext_get? fun key => ?_
  rw [ofList, get?_insertAll fun key value hmem => (h key value).mp hmem]
  split
  · rfl
  · rename_i hout
    rw [get?_empty]
    cases hget : d.get? key with
    | none => rfl
    | some value => exact absurd (List.mem_map_of_mem ((h key value).mpr hget)) hout

/-- Bindings whose keys differ are those of the dictionary made of them. -/
theorem perm_ofList {bindings : List (String × α)} (h : (bindings.map (·.1)).Nodup) :
    bindings.Perm (ofList bindings).toList := by
  have hdistinct : ∀ {entries : List (String × α)}, (entries.map (·.1)).Nodup → entries.Nodup :=
    fun hkeys => (List.pairwise_map.mp hkeys).imp fun hne he => hne (congrArg Prod.fst he)
  refine (List.perm_ext_iff_of_nodup (hdistinct h)
    (hdistinct (nodup_keys (ofList bindings).sorted))).mpr fun binding => ?_
  obtain ⟨key, value⟩ := binding
  change _ ↔ (key, value) ∈ (ofList bindings).toList
  rw [mem_toList, ofList, get?_insertAll_of_nodup h, get?_empty, Option.or_none]
  exact ⟨lookup_of_mem_nodup h, mem_of_lookup⟩

/-- The bindings of a dictionary, sorted by their keys, are its list. -/
theorem mergeSort_eq_toList {d : Dict α} {bindings : List (String × α)}
    (h : bindings.Perm d.toList) : (bindings.mergeSort fun a b => a.1 ≤ b.1) = d.toList := by
  have hsorted : (bindings.mergeSort fun a b => decide (a.1 ≤ b.1)).Pairwise fun a b =>
      decide (a.1 ≤ b.1) = true :=
    List.pairwise_mergeSort
      (fun a b c hab hbc => by
        rw [decide_eq_true_eq] at hab hbc ⊢
        exact String.le_trans hab hbc)
      (fun a b => by simpa using String.le_total a.1 b.1) bindings
  have hperm := (List.mergeSort_perm bindings fun a b => decide (a.1 ≤ b.1)).trans h
  refine hperm.eq_of_pairwise (fun a b ha hb hab hba => ?_) hsorted
    (d.sorted.imp fun hlt => decide_eq_true (String.not_lt.mp fun hgt =>
      String.lt_irrefl _ (String.lt_trans hlt hgt)))
  rw [decide_eq_true_eq] at hab hba
  obtain ⟨k, v⟩ := a
  obtain ⟨l, u⟩ := b
  obtain rfl : k = l := String.le_antisymm hab hba
  have hv : d.get? k = some v := mem_toList.mp (hperm.mem_iff.mp ha)
  have hu : d.get? k = some u := mem_toList.mp hb
  rw [Option.some.inj (hv.symm.trans hu)]

/-! ## Alike dictionaries -/

/-- Dictionaries with the same keys and related values. -/
def Alike (R : α → β → Prop) (d : Dict α) (e : Dict β) : Prop :=
  List.Forall₂ (fun a b => a.1 = b.1 ∧ R a.2 b.2) d.toList e.toList

variable {R : α → β → Prop} {d : Dict α} {e : Dict β}

theorem Alike.refl {S : α → α → Prop} (h : ∀ a, S a a) (d : Dict α) : Alike S d d :=
  List.forall₂_same.mpr fun a _ => ⟨rfl, h a.2⟩

theorem rel_lookup {entries : List (String × α)} {others : List (String × β)}
    (h : List.Forall₂ (fun a b => a.1 = b.1 ∧ R a.2 b.2) entries others) (key : String) :
    Option.Rel R (lookup key entries) (lookup key others) := by
  induction h with
  | nil => exact .none
  | cons hhead _ ih =>
    rw [lookup, lookup, hhead.1]
    split
    · exact .some hhead.2
    · exact ih

/-- Look-ups in alike dictionaries find related values. -/
theorem Alike.get? (h : Alike R d e) (key : String) : Option.Rel R (d.get? key) (e.get? key) :=
  rel_lookup h key

/-- Alike dictionaries have the same keys. -/
theorem Alike.contains_eq (h : Alike R d e) (key : String) : d.contains key = e.contains key := by
  have hrel := h.get? key
  rw [contains, contains]
  generalize d.get? key = a at hrel ⊢
  generalize e.get? key = b at hrel ⊢
  cases hrel <;> rfl

theorem Alike.isEmpty_eq (h : Alike R d e) : d.isEmpty = e.isEmpty := by
  obtain ⟨entries, hentries⟩ := d
  obtain ⟨others, hothers⟩ := e
  cases h <;> rfl

theorem Alike.insert (h : Alike R d e) (key : String) {a : α} {b : β} (hab : R a b) :
    Alike R (d.insert key a) (e.insert key b) := by
  obtain ⟨entries, hentries⟩ := d
  obtain ⟨others, hothers⟩ := e
  change List.Forall₂ _ (place key a entries) (place key b others)
  replace h : List.Forall₂ _ entries others := h
  clear hentries hothers
  induction h with
  | nil => exact .cons ⟨rfl, hab⟩ .nil
  | @cons first second entries others hhead hrest ih =>
    obtain ⟨k, x⟩ := first
    obtain ⟨l, y⟩ := second
    obtain ⟨rfl, hxy⟩ := hhead
    rw [place, place]
    split
    · exact .cons ⟨rfl, hab⟩ (.cons ⟨rfl, hxy⟩ hrest)
    · split
      · exact .cons ⟨rfl, hab⟩ hrest
      · exact .cons ⟨rfl, hxy⟩ ih

theorem Alike.erase (h : Alike R d e) (key : String) : Alike R (d.erase key) (e.erase key) := by
  refine List.rel_filter (fun a b hab => ?_) h
  simp only [hab.1]

theorem Alike.foldl_erase (h : Alike R d e) (keys : List String) :
    Alike R (keys.foldl Dict.erase d) (keys.foldl Dict.erase e) := by
  induction keys generalizing d e with
  | nil => exact h
  | cons key keys ih => exact ih (h.erase key)

/-- The values of alike dictionaries are related one by one. -/
theorem Alike.values (h : Alike R d e) : List.Forall₂ R d.values e.values :=
  List.forall₂_map_left_iff.mpr (List.forall₂_map_right_iff.mpr (h.imp fun _ _ hab => hab.2))

/-- Alike dictionaries are the same once what differs is left out. -/
theorem Alike.map_eq {γ : Type} {f : α → γ} {g : β → γ} (hfg : ∀ a b, R a b → f a = g b)
    (h : Alike R d e) : d.map f = e.map g := by
  have hentries : d.entries.map (fun a => (a.1, f a.2)) = e.entries.map fun b => (b.1, g b.2) := by
    rw [← List.forall₂_eq_eq_eq, List.forall₂_map_left_iff, List.forall₂_map_right_iff]
    exact h.imp fun a b hab => by rw [hab.1, hfg _ _ hab.2]
  simp only [Dict.map, hentries]

end Dict

end TaskEngine
