/-!
# Dictionaries in insertion order

A dictionary holds at most one value for each key and remembers the order in which the keys first
came.  Setting a key that is already there replaces its value and keeps its place.
-/

namespace ImageTags

/-- A list of keys with their values in which no key occurs twice. -/
structure Dictionary (α : Type) where
  entries : List (String × α)
  keys_nodup : (entries.map Prod.fst).Nodup

namespace Dictionary

variable {α : Type}

instance [DecidableEq α] : DecidableEq (Dictionary α) := fun d e =>
  if h : d.entries = e.entries then
    isTrue (by cases d; cases e; subst h; rfl)
  else
    isFalse fun hde => h (by rw [hde])

/-- The dictionary without entries. -/
def empty : Dictionary α := ⟨[], by simp⟩

instance : Inhabited (Dictionary α) := ⟨empty⟩

instance : EmptyCollection (Dictionary α) := ⟨empty⟩

/-- The keys in the order of their first insertion. -/
def keys (d : Dictionary α) : List String :=
  d.entries.map Prod.fst

/-- The value of a key. -/
def get? (d : Dictionary α) (key : String) : Option α :=
  d.entries.lookup key

/-- Whether a key has a value. -/
def contains (d : Dictionary α) (key : String) : Bool :=
  d.keys.contains key

/-- The number of keys. -/
def size (d : Dictionary α) : Nat :=
  d.entries.length

/-- The entries with the value at `key` replaced, at the end if the key is new. -/
def insertEntry (key : String) (value : α) : List (String × α) → List (String × α)
  | [] => [(key, value)]
  | (k, v) :: rest =>
    if k = key then (k, value) :: rest else (k, v) :: insertEntry key value rest

theorem keys_insertEntry (key : String) (value : α) (entries : List (String × α)) :
    (insertEntry key value entries).map Prod.fst =
      if key ∈ entries.map Prod.fst then entries.map Prod.fst
      else entries.map Prod.fst ++ [key] := by
  induction entries with
  | nil => simp [insertEntry]
  | cons e rest ih =>
    obtain ⟨k, v⟩ := e
    by_cases h : k = key
    · simp [insertEntry, h]
    · simp only [insertEntry, if_neg h, List.map_cons, ih, List.mem_cons, Ne.symm h, false_or]
      split <;> simp

theorem nodup_insertEntry (key : String) (value : α) {entries : List (String × α)}
    (h : (entries.map Prod.fst).Nodup) :
    ((insertEntry key value entries).map Prod.fst).Nodup := by
  rw [keys_insertEntry]
  split
  · exact h
  · next hk =>
    rw [List.nodup_append]
    refine ⟨h, by simp, ?_⟩
    rintro a ha b hb rfl
    exact hk (List.mem_singleton.1 hb ▸ ha)

/-- Sets the value of a key; a key that is already there keeps its place. -/
def insert (d : Dictionary α) (key : String) (value : α) : Dictionary α :=
  ⟨insertEntry key value d.entries, nodup_insertEntry key value d.keys_nodup⟩

theorem lookup_insertEntry (k key : String) (value : α) (entries : List (String × α)) :
    (insertEntry key value entries).lookup k =
      if k = key then some value else entries.lookup k := by
  induction entries with
  | nil =>
    by_cases h : k = key
    · simp [insertEntry, h]
    · have hb : (k == key) = false := by simp [h]
      simp [insertEntry, List.lookup_cons, h, hb]
  | cons e rest ih =>
    obtain ⟨k', v⟩ := e
    by_cases h : k = k'
    · subst h
      by_cases h' : k = key <;> simp [insertEntry, h']
    · have hb : (k == k') = false := by simp [h]
      by_cases h' : k' = key
      · subst h'
        simp [insertEntry, List.lookup_cons, h, hb]
      · simp [insertEntry, List.lookup_cons, h', hb, ih]

/-- A key that is new goes to the end. -/
theorem keys_insert (d : Dictionary α) (key : String) (value : α) :
    (d.insert key value).keys = if key ∈ d.keys then d.keys else d.keys ++ [key] :=
  keys_insertEntry key value d.entries

/-- Setting a key changes the value of this key only. -/
theorem get?_insert (d : Dictionary α) (k key : String) (value : α) :
    (d.insert key value).get? k = if k = key then some value else d.get? k :=
  lookup_insertEntry k key value d.entries

/-- The keys are those that have a value. -/
theorem mem_keys_iff {d : Dictionary α} {key : String} : key ∈ d.keys ↔ (d.get? key).isSome := by
  simp only [keys, get?]
  induction d.entries with
  | nil => simp
  | cons e rest ih =>
    obtain ⟨k, v⟩ := e
    by_cases h : key = k
    · simp [h]
    · have hb : (key == k) = false := by simp [h]
      simp [List.lookup_cons, h, hb, ih]

/-- Sets the value of a key unless it has one. -/
def insertIfNew (d : Dictionary α) (key : String) (value : α) : Dictionary α :=
  if d.contains key then d else d.insert key value

/-- The dictionary that arises by setting the entries one after the other. -/
def ofEntries (entries : List (String × α)) : Dictionary α :=
  entries.foldl (fun d e => d.insert e.1 e.2) empty

/-- Whether two dictionaries have the same keys with the same values, in whatever order. -/
def sameEntries [BEq α] (d e : Dictionary α) : Bool :=
  d.size == e.size && d.entries.all fun (k, v) => (e.get? k).any (· == v)

end Dictionary

end ImageTags
