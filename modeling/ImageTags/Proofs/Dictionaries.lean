import Mathlib.Data.List.Induction
import Mathlib.Data.List.Nodup
import Mathlib.Tactic.Lemma
import ImageTags.Dictionary

/-!
# What insertion does to the entries

`Dictionary` says what insertion does to keys and look-ups.  Here it is what happens to the entries
themselves: a new entry goes to the end, so a dictionary is rebuilt from its own entries, and a
default that is there already changes nothing.

* **`ofEntries_entries`** — a dictionary written out and read in again.
* `insertAllIfNew` — filling in what is not set; done twice it is done once.
* **`keys_insertAll`**, **`get?_insertAll`** — setting entries one after the other, where the first
  entry of a key decides its place and the last one its value.
* `SameBut` — dictionaries that differ in the value of one key.
* **`get?_of_perm`** — the order of the entries does not matter to look-ups.
-/

namespace ImageTags.Dictionary

variable {α : Type}

@[ext] lemma ext_entries {d e : Dictionary α} (h : d.entries = e.entries) : d = e := by
  obtain ⟨entries, hd⟩ := d
  obtain ⟨entries', he⟩ := e
  obtain rfl : entries = entries' := h
  rfl

/-- What is found under a key is an entry. -/
lemma mem_entries_of_get? {d : Dictionary α} {key : String} {value : α}
    (h : d.get? key = some value) : (key, value) ∈ d.entries := by
  obtain ⟨before, after, heq, -⟩ := List.lookup_eq_some_iff.1 h
  rw [heq]
  simp

/-- The entries are the keys with the values that are found under them. -/
lemma mem_entries_iff {d : Dictionary α} {key : String} {value : α} :
    (key, value) ∈ d.entries ↔ d.get? key = some value := by
  refine ⟨fun h => ?_, mem_entries_of_get?⟩
  have hkey : key ∈ d.keys := List.mem_map_of_mem h
  obtain ⟨found, hfound⟩ := Option.isSome_iff_exists.1 (mem_keys_iff.1 hkey)
  have hsame := List.inj_on_of_nodup_map d.keys_nodup h (mem_entries_of_get? hfound) rfl
  rw [hfound, (Prod.mk.inj hsame).2]

/-! ## Rebuilding a dictionary -/

/-- A new entry goes to the end. -/
lemma insertEntry_of_not_mem {key : String} {value : α} {entries : List (String × α)}
    (h : key ∉ entries.map Prod.fst) :
    insertEntry key value entries = entries ++ [(key, value)] := by
  induction entries with
  | nil => rfl
  | cons e entries ih =>
    obtain ⟨k, v⟩ := e
    rw [List.map_cons, List.mem_cons, not_or] at h
    rw [insertEntry, if_neg (Ne.symm h.1), ih h.2, List.cons_append]

/-- New entries with different keys go to the end one after the other. -/
lemma entries_foldl_insert {d : Dictionary α} {entries : List (String × α)}
    (h : ((d.entries ++ entries).map Prod.fst).Nodup) :
    (entries.foldl (fun d e => d.insert e.1 e.2) d).entries = d.entries ++ entries := by
  induction entries generalizing d with
  | nil => simp
  | cons e entries ih =>
    have hnew : e.1 ∉ d.entries.map Prod.fst := by
      rw [List.map_append, List.map_cons, List.nodup_append] at h
      exact fun he => h.2.2 e.1 he e.1 List.mem_cons_self rfl
    have hinsert : (d.insert e.1 e.2).entries = d.entries ++ [e] :=
      insertEntry_of_not_mem hnew
    rw [List.foldl_cons, ih (by rw [hinsert]; simpa using h), hinsert]
    simp

/-- Entries with different keys are the entries of the dictionary that is made of them. -/
lemma entries_ofEntries {entries : List (String × α)} (h : (entries.map Prod.fst).Nodup) :
    (ofEntries entries).entries = entries := by
  have h : ((empty.entries ++ entries).map Prod.fst).Nodup := h
  exact entries_foldl_insert h

/-- **A dictionary is rebuilt from its entries.** -/
theorem ofEntries_entries (d : Dictionary α) : ofEntries d.entries = d :=
  ext_entries (entries_ofEntries d.keys_nodup)

/-! ## A property of all entries -/

lemma forall_insertEntry {p : String × α → Prop} {key : String} {value : α}
    {entries : List (String × α)} (hnew : p (key, value)) (h : ∀ e ∈ entries, p e) :
    ∀ e ∈ insertEntry key value entries, p e := by
  induction entries with
  | nil => simpa [insertEntry] using hnew
  | cons e entries ih =>
    obtain ⟨k, v⟩ := e
    rw [List.forall_mem_cons] at h
    rw [insertEntry]
    split
    · next hk =>
      subst hk
      exact List.forall_mem_cons.2 ⟨hnew, h.2⟩
    · exact List.forall_mem_cons.2 ⟨h.1, ih h.2⟩

/-- What holds of the entries and of those that are inserted holds of the entries afterwards. -/
lemma forall_foldl_insert {p : String × α → Prop} {d : Dictionary α}
    {entries : List (String × α)} (hd : ∀ e ∈ d.entries, p e) (h : ∀ e ∈ entries, p e) :
    ∀ e ∈ (entries.foldl (fun d e => d.insert e.1 e.2) d).entries, p e := by
  induction entries generalizing d with
  | nil => exact hd
  | cons e entries ih =>
    rw [List.forall_mem_cons] at h
    exact ih (forall_insertEntry h.1 hd) h.2

/-! ## Filling in what is not set -/

/-- A dictionary with those of the entries added whose keys have no value. -/
def insertAllIfNew (d : Dictionary α) (entries : List (String × α)) : Dictionary α :=
  entries.foldl (fun d e => d.insertIfNew e.1 e.2) d

@[simp] lemma contains_iff {d : Dictionary α} {key : String} :
    d.contains key = true ↔ key ∈ d.keys := by
  simp [contains]

lemma mem_keys_insertIfNew {d : Dictionary α} {key k : String} {value : α} :
    k ∈ (d.insertIfNew key value).keys ↔ k = key ∨ k ∈ d.keys := by
  rw [insertIfNew]
  split
  · next h =>
    rw [contains_iff] at h
    exact ⟨Or.inr, fun hk => hk.elim (fun hkey => hkey ▸ h) id⟩
  · next h =>
    rw [contains_iff] at h
    rw [keys_insert, if_neg h, List.mem_append, List.mem_singleton, or_comm]

/-- Afterwards each of the keys has a value. -/
lemma mem_keys_insertAllIfNew {d : Dictionary α} {entries : List (String × α)} {k : String} :
    k ∈ (d.insertAllIfNew entries).keys ↔ k ∈ entries.map Prod.fst ∨ k ∈ d.keys := by
  induction entries generalizing d with
  | nil => simp [insertAllIfNew]
  | cons e entries ih =>
    rw [insertAllIfNew, List.foldl_cons, ← insertAllIfNew, ih, mem_keys_insertIfNew, List.map_cons,
      List.mem_cons, or_assoc]
    exact or_left_comm

/-- Entries whose keys have values change nothing. -/
lemma insertAllIfNew_of_forall_mem_keys {d : Dictionary α} {entries : List (String × α)}
    (h : ∀ e ∈ entries, e.1 ∈ d.keys) : d.insertAllIfNew entries = d := by
  induction entries with
  | nil => rfl
  | cons e entries ih =>
    rw [List.forall_mem_cons] at h
    rw [insertAllIfNew, List.foldl_cons, insertIfNew, if_pos (contains_iff.2 h.1)]
    exact ih h.2

/-- A key without a value gets that of the first of the entries that has it. -/
theorem get?_insertAllIfNew (d : Dictionary α) (entries : List (String × α)) (k : String) :
    (d.insertAllIfNew entries).get? k = (d.get? k).or (entries.lookup k) := by
  induction entries generalizing d with
  | nil => simp [insertAllIfNew]
  | cons e entries ih =>
    obtain ⟨key, value⟩ := e
    rw [insertAllIfNew, List.foldl_cons, ← insertAllIfNew, ih, insertIfNew]
    by_cases hk : k = key
    · subst hk
      split
      · next hmem =>
        obtain ⟨v, hv⟩ := Option.isSome_iff_exists.1 (mem_keys_iff.1 (contains_iff.1 hmem))
        simp [hv]
      · next hmem =>
        have hnone : d.get? k = none := by
          rwa [← Option.not_isSome_iff_eq_none, ← mem_keys_iff, ← contains_iff]
        simp [get?_insert, hnone]
    · have hb : (k == key) = false := by simp [hk]
      split
      · simp [List.lookup_cons, hb]
      · simp [get?_insert, hk, List.lookup_cons, hb]

lemma forall_insertAllIfNew {p : String × α → Prop} {d : Dictionary α}
    {entries : List (String × α)} (hd : ∀ e ∈ d.entries, p e) (h : ∀ e ∈ entries, p e) :
    ∀ e ∈ (d.insertAllIfNew entries).entries, p e := by
  induction entries generalizing d with
  | nil => exact hd
  | cons e entries ih =>
    rw [List.forall_mem_cons] at h
    refine ih ?_ h.2
    show ∀ e' ∈ (d.insertIfNew e.1 e.2).entries, p e'
    rw [insertIfNew]
    split
    · exact hd
    · exact forall_insertEntry h.1 hd

/-! ## Setting entries one after the other -/

/-- A dictionary with entries set one after the other. -/
def insertAll (d : Dictionary α) (entries : List (String × α)) : Dictionary α :=
  entries.foldl (fun d e => d.insert e.1 e.2) d

@[simp] lemma insertAll_nil (d : Dictionary α) : d.insertAll [] = d := rfl

@[simp] lemma insertAll_cons (d : Dictionary α) (e : String × α) (entries : List (String × α)) :
    d.insertAll (e :: entries) = (d.insert e.1 e.2).insertAll entries := rfl

lemma insertAll_concat (d : Dictionary α) (entries : List (String × α)) (e : String × α) :
    d.insertAll (entries ++ [e]) = (d.insertAll entries).insert e.1 e.2 := by
  rw [insertAll, List.foldl_append]
  rfl

/-- **The place of a key is that of its first entry**: the keys that were there come first, and then
those that are new, in the order in which they first occur. -/
theorem keys_insertAll (d : Dictionary α) (entries : List (String × α)) :
    (d.insertAll entries).keys =
      d.keys ++ ((entries.map Prod.fst).filter (· ∉ d.keys)).eraseDups := by
  induction entries generalizing d with
  | nil => simp
  | cons e entries ih =>
    rw [insertAll_cons, ih, keys_insert]
    by_cases h : e.1 ∈ d.keys
    · simp [h]
    · have hfilter : (entries.map Prod.fst).filter (· ∉ d.keys ++ [e.1]) =
          ((entries.map Prod.fst).filter (· ∉ d.keys)).filter fun key => !key == e.1 := by
        rw [List.filter_filter]
        refine List.filter_congr fun key _ => ?_
        by_cases hkey : key = e.1 <;> simp [hkey, h]
      rw [if_neg h, hfilter, List.map_cons, List.filter_cons_of_pos (by simpa using h),
        List.eraseDups_cons, List.append_assoc, List.singleton_append]

/-- **The value of a key is that of its last entry**; a key without one keeps its value. -/
theorem get?_insertAll (d : Dictionary α) (entries : List (String × α)) (key : String) :
    (d.insertAll entries).get? key =
      ((entries.filter (·.1 = key)).getLast?.map Prod.snd).or (d.get? key) := by
  induction entries using List.reverseRecOn with
  | nil => rfl
  | append_singleton entries e ih =>
    rw [insertAll_concat, get?_insert, List.filter_append]
    by_cases h : key = e.1
    · simp [h]
    · simp [h, Ne.symm h, ih]

/-! ## Dictionaries that differ at one key -/

/-- Two dictionaries have the same keys in the same order, and the same values under all of them
but perhaps one. -/
structure SameBut (key : String) (d e : Dictionary α) : Prop where
  keys : d.keys = e.keys
  values : ∀ k, k ≠ key → d.get? k = e.get? k

variable {key : String} {d e : Dictionary α}

/-- Setting a key in both keeps them alike, to two values only at the one key. -/
lemma SameBut.insert (h : SameBut key d e) {k : String} {v w : α} (hvalues : k ≠ key → v = w) :
    SameBut key (d.insert k v) (e.insert k w) where
  keys := by rw [keys_insert, keys_insert, h.keys]
  values k' hk' := by
    rw [get?_insert, get?_insert, h.values k' hk']
    by_cases heq : k' = k
    · rw [if_pos heq, if_pos heq, hvalues (heq ▸ hk')]
    · rw [if_neg heq, if_neg heq]

/-- Setting the same entries in both keeps them alike. -/
lemma SameBut.insertAll (h : SameBut key d e) (entries : List (String × α)) :
    SameBut key (d.insertAll entries) (e.insertAll entries) := by
  induction entries generalizing d e with
  | nil => exact h
  | cons pair entries ih => exact ih (h.insert fun _ => Eq.refl _)

/-! ## Dictionaries with the same entries in another order -/

/-- The order of the entries does not matter to what is found. -/
theorem get?_of_perm (h : d.entries.Perm e.entries) (k : String) : d.get? k = e.get? k := by
  refine Option.ext fun value => ?_
  rw [← mem_entries_iff, ← mem_entries_iff, h.mem_iff]

lemma perm_insertIfNew (h : d.entries.Perm e.entries) (k : String) (value : α) :
    (d.insertIfNew k value).entries.Perm (e.insertIfNew k value).entries := by
  have hkeys : k ∈ d.keys ↔ k ∈ e.keys := by rw [mem_keys_iff, mem_keys_iff, get?_of_perm h]
  rw [insertIfNew, insertIfNew]
  by_cases hk : k ∈ d.keys
  · rwa [if_pos (contains_iff.2 hk), if_pos (contains_iff.2 (hkeys.1 hk))]
  · rw [if_neg (mt contains_iff.1 hk), if_neg (mt contains_iff.1 (mt hkeys.2 hk))]
    show (insertEntry k value d.entries).Perm (insertEntry k value e.entries)
    rw [insertEntry_of_not_mem hk, insertEntry_of_not_mem (mt hkeys.2 hk)]
    exact h.append_right _

/-- The same entries are filled in, so the dictionaries still have the same entries. -/
lemma perm_insertAllIfNew (h : d.entries.Perm e.entries) (entries : List (String × α)) :
    (d.insertAllIfNew entries).entries.Perm (e.insertAllIfNew entries).entries := by
  induction entries generalizing d e with
  | nil => exact h
  | cons pair entries ih => exact ih (perm_insertIfNew h pair.1 pair.2)

end ImageTags.Dictionary
