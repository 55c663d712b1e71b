/-!
# Association lists

Lists of keyed entries in insertion order, the form in which objects, declared elements and files
are kept. Looking up takes the first entry of a key; inserting keeps the place of an existing entry.
-/

namespace Rulebook.Association

variable {α : Type}

/-- The value of the first entry with the given key. -/
def lookup (key : String) : List (String × α) → Option α
  | [] => none
  | (k, v) :: rest => if k = key then some v else lookup key rest

/-- The entries with the key bound to the value: an existing entry keeps its place, a new one comes
last. -/
def insert (key : String) (value : α) : List (String × α) → List (String × α)
  | [] => [(key, value)]
  | (k, v) :: rest => if k = key then (k, value) :: rest else (k, v) :: insert key value rest

/-- The keys, in order. -/
def keys (entries : List (String × α)) : List String := entries.map Prod.fst

/-- What is found under a key is an entry of that key. -/
theorem mem_of_lookup {key : String} {value : α} {entries : List (String × α)}
    (h : lookup key entries = some value) : (key, value) ∈ entries := by
  induction entries with
  | nil => simp [lookup] at h
  | cons e rest ih =>
    obtain ⟨k, v⟩ := e
    by_cases hk : k = key
    · have hv : v = value := by simpa [lookup, hk] using h
      simp [hk, hv]
    · have hrest : lookup key rest = some value := by simpa [lookup, hk] using h
      exact List.mem_cons_of_mem _ (ih hrest)

/-- Where keys are distinct, an entry is what is found under its key. -/
theorem lookup_of_mem {key : String} {value : α} {entries : List (String × α)}
    (hkeys : (keys entries).Nodup) (h : (key, value) ∈ entries) :
    lookup key entries = some value := by
  induction entries with
  | nil => simp at h
  | cons e rest ih =>
    obtain ⟨k, v⟩ := e
    obtain ⟨hfresh, hrest⟩ := List.nodup_cons.mp hkeys
    rcases List.mem_cons.mp h with heq | hmem
    · obtain ⟨rfl, rfl⟩ := Prod.mk.inj heq
      simp [lookup]
    · have hkey : key ∈ keys rest := List.mem_map_of_mem (f := Prod.fst) hmem
      have hne : k ≠ key := fun heq => hfresh (heq ▸ hkey)
      simp [lookup, hne, ih hrest hmem]

/-- A key is bound if an entry has it. -/
theorem isSome_lookup_iff {key : String} {entries : List (String × α)} :
    (lookup key entries).isSome = true ↔ key ∈ keys entries := by
  induction entries with
  | nil => simp [lookup, keys]
  | cons e rest ih =>
    obtain ⟨k, v⟩ := e
    have hkeys : key ∈ keys ((k, v) :: rest) ↔ key = k ∨ key ∈ keys rest := List.mem_cons
    rw [hkeys, ← ih]
    by_cases hk : k = key
    · simp [lookup, hk]
    · simp [lookup, hk, Ne.symm hk]

/-- Looking up a key among entries with changed values. -/
theorem lookup_map {β : Type} (f : α → β) (key : String) (entries : List (String × α)) :
    lookup key (entries.map fun e => (e.1, f e.2)) = (lookup key entries).map f := by
  induction entries with
  | nil => rfl
  | cons e rest ih =>
    obtain ⟨k, v⟩ := e
    by_cases hk : k = key
    · simp [lookup, hk]
    · simp [lookup, hk, ih]

/-- A new key comes last. -/
theorem insert_of_not_mem {key : String} {value : α} {entries : List (String × α)}
    (h : key ∉ keys entries) : insert key value entries = entries ++ [(key, value)] := by
  induction entries with
  | nil => rfl
  | cons e rest ih =>
    obtain ⟨k, v⟩ := e
    have hne : k ≠ key := fun heq => h (heq ▸ List.mem_cons_self)
    have hrest : key ∉ keys rest := fun hmem => h (List.mem_cons_of_mem k hmem)
    simp [insert, hne, ih hrest]

/-- An entry after an insertion is the new one or one from before. -/
theorem mem_of_mem_insert {key : String} {value : α} {entries : List (String × α)}
    {e : String × α} (h : e ∈ insert key value entries) : e = (key, value) ∨ e ∈ entries := by
  induction entries with
  | nil => simpa [insert] using h
  | cons first rest ih =>
    obtain ⟨k, v⟩ := first
    by_cases hk : k = key
    · simp only [insert, if_pos hk, List.mem_cons] at h
      rcases h with rfl | hrest
      · exact Or.inl (hk ▸ rfl)
      · exact Or.inr (List.mem_cons_of_mem _ hrest)
    · simp only [insert, if_neg hk, List.mem_cons] at h
      rcases h with rfl | hinsert
      · exact Or.inr List.mem_cons_self
      · exact (ih hinsert).imp_right (List.mem_cons_of_mem _)

/-- An insertion changes what is found under its own key only. -/
theorem lookup_insert (key other : String) (value : α) (entries : List (String × α)) :
    lookup other (insert key value entries) =
      if other = key then some value else lookup other entries := by
  induction entries with
  | nil => simp [insert, lookup, eq_comm]
  | cons e rest ih =>
    obtain ⟨k, v⟩ := e
    by_cases hk : k = key
    · subst hk
      by_cases hother : other = k
      · simp [insert, lookup, hother]
      · simp [insert, lookup, hother, Ne.symm hother]
    · by_cases hother : k = other
      · subst hother
        simp [insert, lookup, hk]
      · simpa [insert, lookup, hk, hother] using ih

/-- An existing key keeps its place. -/
theorem keys_insert_of_mem {key : String} {entries : List (String × α)} (value : α)
    (h : key ∈ keys entries) : keys (insert key value entries) = keys entries := by
  induction entries with
  | nil => cases h
  | cons e rest ih =>
    obtain ⟨k, v⟩ := e
    by_cases hk : k = key
    · simp [insert, keys, hk]
    · have hrest : key ∈ keys rest := (List.mem_cons.mp h).resolve_left (Ne.symm hk)
      simp only [insert, if_neg hk]
      exact congrArg (k :: ·) (ih hrest)

/-- The second of two insertions under one key replaces the first. -/
theorem insert_insert (key : String) (value value' : α) (entries : List (String × α)) :
    insert key value' (insert key value entries) = insert key value' entries := by
  induction entries with
  | nil => simp [insert]
  | cons e rest ih =>
    obtain ⟨k, v⟩ := e
    by_cases hk : k = key
    · simp [insert, hk]
    · simp [insert, hk, ih]

/-- Some entry is there after an insertion. -/
theorem insert_ne_nil (key : String) (value : α) (entries : List (String × α)) :
    insert key value entries ≠ [] := by
  cases entries with
  | nil => simp [insert]
  | cons e rest =>
    unfold insert
    split <;> simp

/-- Keys stay distinct when one is inserted. -/
theorem nodup_keys_insert (key : String) (value : α) {entries : List (String × α)}
    (h : (keys entries).Nodup) : (keys (insert key value entries)).Nodup := by
  induction entries with
  | nil => simp [insert, keys]
  | cons first rest ih =>
    obtain ⟨k, v⟩ := first
    obtain ⟨hfresh, hrest⟩ := List.nodup_cons.mp h
    by_cases hk : k = key
    · simp only [insert, if_pos hk]
      exact h
    · simp only [insert, if_neg hk]
      refine List.nodup_cons.mpr ⟨fun hmem => ?_, ih hrest⟩
      obtain ⟨e, he, rfl⟩ := List.mem_map.mp hmem
      rcases mem_of_mem_insert he with rfl | hold
      · exact hk rfl
      · exact hfresh (List.mem_map.mpr ⟨e, hold, rfl⟩)

end Rulebook.Association
