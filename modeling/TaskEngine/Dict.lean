/-!
# Dictionaries with sorted keys

A dictionary holds its entries in strictly ascending key order, so two dictionaries with the same
bindings are equal, and every listing comes out sorted. Keys compare by code point, which is also
the order of their UTF-8 bytes. Insertion and removal are pinned down by what they do to look-ups.
-/

namespace TaskEngine

/-- Strictly ascending keys. -/
def SortedKeys {α : Type} (entries : List (String × α)) : Prop :=
  entries.Pairwise fun a b => a.1 < b.1

/-- A finite map from text to `α`, kept in ascending key order. -/
structure Dict (α : Type) where
  /-- The bindings, in ascending key order. -/
  entries : List (String × α)
  /-- No key occurs twice, and earlier keys are smaller. -/
  sorted : SortedKeys entries

namespace Dict

variable {α β : Type}

instance [DecidableEq α] : DecidableEq (Dict α) := fun d e =>
  if h : d.entries = e.entries then
    isTrue (by cases d; cases e; cases h; rfl)
  else isFalse fun he => h (congrArg entries he)

/-- The dictionary without bindings. -/
def empty : Dict α := ⟨[], List.Pairwise.nil⟩

instance : Inhabited (Dict α) := ⟨empty⟩

instance : EmptyCollection (Dict α) := ⟨empty⟩

/-- The value bound to the first entry with this key. -/
def lookup (key : String) : List (String × α) → Option α
  | [] => none
  | (k, v) :: rest => if k = key then some v else lookup key rest

/-- Place a binding before the first larger key, replacing the value of an equal one. -/
def place (key : String) (value : α) : List (String × α) → List (String × α)
  | [] => [(key, value)]
  | (k, v) :: rest =>
    if key < k then (key, value) :: (k, v) :: rest
    else if key = k then (key, value) :: rest
    else (k, v) :: place key value rest

/-- Leave out the entries with this key. -/
def drop (key : String) (entries : List (String × α)) : List (String × α) :=
  entries.filter fun entry => entry.1 ≠ key

theorem mem_place {key : String} {value : α} {entries : List (String × α)} {entry : String × α}
    (h : entry ∈ place key value entries) : entry = (key, value) ∨ entry ∈ entries := by
  induction entries with
  | nil => simpa [place] using h
  | cons head rest ih =>
    obtain ⟨k, v⟩ := head
    rw [place] at h
    split at h
    · simpa using h
    · split at h
      · rcases List.mem_cons.mp h with h | h
        · exact .inl h
        · exact .inr (List.mem_cons_of_mem _ h)
      · rcases List.mem_cons.mp h with h | h
        · exact .inr (h ▸ List.mem_cons_self)
        · exact (ih h).imp_right (List.mem_cons_of_mem _)

private theorem lt_of_not_lt_of_ne {a b : String} (h : ¬ a < b) (hne : ¬ a = b) : b < a := by
  have hle : b ≤ a := String.not_lt.mp h
  by_cases hlt : b < a
  · exact hlt
  · exact absurd (String.le_antisymm (String.not_lt.mp hlt) hle) hne

theorem sortedKeys_place {key : String} {value : α} {entries : List (String × α)}
    (h : SortedKeys entries) : SortedKeys (place key value entries) := by
  induction entries with
  | nil => simp [place, SortedKeys]
  | cons head rest ih =>
    obtain ⟨k, v⟩ := head
    obtain ⟨hhead, hrest⟩ := List.pairwise_cons.mp h
    rw [place]
    split
    · rename_i hlt
      refine List.pairwise_cons.mpr ⟨fun entry hmem => ?_, h⟩
      rcases List.mem_cons.mp hmem with rfl | hmem
      · exact hlt
      · exact String.lt_trans hlt (hhead entry hmem)
    · split
      · rename_i heq
        subst heq
        exact List.pairwise_cons.mpr ⟨hhead, hrest⟩
      · rename_i hlt hne
        refine List.pairwise_cons.mpr ⟨fun entry hmem => ?_, ih hrest⟩
        rcases mem_place hmem with rfl | hmem
        · exact lt_of_not_lt_of_ne hlt hne
        · exact hhead entry hmem

/-- Bind a key, replacing an earlier binding. -/
def insert (d : Dict α) (key : String) (value : α) : Dict α :=
  ⟨place key value d.entries, sortedKeys_place d.sorted⟩

/-- Remove a key; an unbound key changes nothing. -/
def erase (d : Dict α) (key : String) : Dict α :=
  ⟨drop key d.entries, List.Pairwise.filter _ d.sorted⟩

/-- The value bound to a key. -/
def get? (d : Dict α) (key : String) : Option α := lookup key d.entries

/-- Whether a key is bound. -/
def contains (d : Dict α) (key : String) : Bool := (d.get? key).isSome

/-- The bindings in ascending key order. -/
def toList (d : Dict α) : List (String × α) := d.entries

/-- The keys in ascending order. -/
def keys (d : Dict α) : List String := d.entries.map (·.1)

/-- The values in the order of their keys. -/
def values (d : Dict α) : List α := d.entries.map (·.2)

/-- The number of bindings. -/
def size (d : Dict α) : Nat := d.entries.length

/-- Whether there is no binding. -/
def isEmpty (d : Dict α) : Bool := d.entries.isEmpty

/-- Insert bindings one after the other; of two with one key the later stays. -/
def insertAll (d : Dict α) (bindings : List (String × α)) : Dict α :=
  bindings.foldl (fun acc binding => acc.insert binding.1 binding.2) d

/-- The dictionary of a list of bindings; of two with one key the later stays. -/
def ofList (bindings : List (String × α)) : Dict α := empty.insertAll bindings

/-- Change every value and keep the keys. -/
def map (f : α → β) (d : Dict α) : Dict β :=
  ⟨d.entries.map fun entry => (entry.1, f entry.2),
    List.pairwise_map.mpr (d.sorted.imp fun h => h)⟩

/-- Keep the bindings that satisfy a test. -/
def filter (keep : String → α → Bool) (d : Dict α) : Dict α :=
  ⟨d.entries.filter fun entry => keep entry.1 entry.2, List.Pairwise.filter _ d.sorted⟩

theorem lookup_place (key other : String) (value : α) (entries : List (String × α)) :
    lookup other (place key value entries) = if key = other then some value
      else lookup other entries := by
  induction entries with
  | nil => simp [place, lookup]
  | cons head rest ih =>
    obtain ⟨k, v⟩ := head
    rw [place]
    split
    · simp [lookup]
    · split
      · rename_i heq
        subst heq
        by_cases h : key = other <;> simp [lookup, h]
      · rename_i hne
        by_cases hk : k = other
        · subst hk
          simp [lookup, hne]
        · simp [lookup, hk, ih]

theorem lookup_drop (key other : String) (entries : List (String × α)) :
    lookup other (drop key entries) = if key = other then none else lookup other entries := by
  induction entries with
  | nil => simp [drop, lookup]
  | cons head rest ih =>
    obtain ⟨k, v⟩ := head
    simp only [drop] at ih
    by_cases hk : k = key
    · subst hk
      by_cases h : k = other <;> simp_all [drop, lookup]
    · by_cases h : key = other
      · subst h
        simp_all [drop, lookup]
      · simp_all [drop, lookup]

/-- Insertion binds its key and leaves the others. -/
@[simp] theorem get?_insert (d : Dict α) (key other : String) (value : α) :
    (d.insert key value).get? other = if key = other then some value else d.get? other :=
  lookup_place key other value d.entries

/-- Removal unbinds its key and leaves the others. -/
@[simp] theorem get?_erase (d : Dict α) (key other : String) :
    (d.erase key).get? other = if key = other then none else d.get? other :=
  lookup_drop key other d.entries

@[simp] theorem get?_empty (key : String) : (empty : Dict α).get? key = none := rfl

end Dict

end TaskEngine
