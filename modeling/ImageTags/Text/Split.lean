/-!
# Splitting texts

Cutting a text at a character, at the first occurrence of a shorter text, or after a known
beginning.  The lemmas say that nothing is lost: the pieces put together again are the text, and
pieces that hold no separator are found again once they have been joined.
-/

namespace ImageTags.Text

/-- What follows `start` in a text that begins with it. -/
def stripStart? : (start : List Char) → List Char → Option (List Char)
  | [], cs => some cs
  | _ :: _, [] => none
  | p :: ps, c :: cs => if p = c then stripStart? ps cs else none

theorem stripStart?_eq_some_iff {start cs rest : List Char} :
    stripStart? start cs = some rest ↔ cs = start ++ rest := by
  induction start generalizing cs with
  | nil => simp [stripStart?, eq_comm]
  | cons p ps ih =>
    cases cs with
    | nil => simp [stripStart?]
    | cons c cs =>
      by_cases h : p = c
      · subst h; simp [stripStart?, ih]
      · simp [stripStart?, h, Ne.symm h]

theorem stripStart?_eq_none_iff {start cs : List Char} :
    stripStart? start cs = none ↔ ¬ start <+: cs := by
  rw [Option.eq_none_iff_forall_ne_some]
  constructor
  · rintro h ⟨rest, hrest⟩
    exact h rest (stripStart?_eq_some_iff.2 hrest.symm)
  · intro h rest hrest
    exact h ⟨rest, (stripStart?_eq_some_iff.1 hrest).symm⟩

/-- A text without its first character if that one passes a test. -/
def dropFirstIf (p : Char → Bool) : List Char → List Char
  | [] => []
  | c :: cs => if p c then cs else c :: cs

/-- What comes before `finish` in a text that ends with it. -/
def stripEnd? (finish cs : List Char) : Option (List Char) :=
  (stripStart? finish.reverse cs.reverse).map List.reverse

theorem stripEnd?_eq_some_iff {finish cs before : List Char} :
    stripEnd? finish cs = some before ↔ cs = before ++ finish := by
  rw [stripEnd?, Option.map_eq_some_iff]
  constructor
  · rintro ⟨rest, hrest, rfl⟩
    rw [stripStart?_eq_some_iff] at hrest
    rw [← List.reverse_reverse cs, hrest, List.reverse_append, List.reverse_reverse]
  · rintro rfl
    exact ⟨before.reverse, stripStart?_eq_some_iff.2 (by simp), List.reverse_reverse before⟩

/-- The pieces of a text before and after the first `sep`. -/
def splitFirst? (sep : Char) : List Char → Option (List Char × List Char)
  | [] => none
  | c :: cs =>
    if c = sep then some ([], cs)
    else (splitFirst? sep cs).map fun (before, after) => (c :: before, after)

/-- A text is split where its first `sep` stands. -/
theorem splitFirst?_eq_some_iff {sep : Char} {cs before after : List Char} :
    splitFirst? sep cs = some (before, after) ↔ cs = before ++ sep :: after ∧ sep ∉ before := by
  induction cs generalizing before with
  | nil => simp [splitFirst?]
  | cons c cs ih =>
    rw [splitFirst?]
    by_cases h : c = sep
    · subst h
      cases before with
      | nil => simp
      | cons b before =>
        simp only [if_true, List.cons_append, Option.some.injEq, Prod.mk.injEq, List.nil_eq,
          reduceCtorEq, false_and, List.mem_cons, List.cons.injEq, false_iff]
        rintro ⟨⟨rfl, -⟩, hb⟩
        exact hb (Or.inl rfl)
    · rw [if_neg h, Option.map_eq_some_iff]
      cases before with
      | nil => simp [h]
      | cons b before =>
        constructor
        · rintro ⟨⟨x, y⟩, hxy, heq⟩
          simp only [Prod.mk.injEq, List.cons.injEq] at heq
          obtain ⟨⟨rfl, rfl⟩, rfl⟩ := heq
          obtain ⟨rfl, hx⟩ := ih.1 hxy
          exact ⟨rfl, by simp [hx, Ne.symm h]⟩
        · rintro ⟨heq, hb⟩
          simp only [List.cons_append, List.cons.injEq] at heq
          obtain ⟨rfl, heq⟩ := heq
          exact ⟨(before, after), ih.2 ⟨heq, fun hm => hb (List.mem_cons_of_mem _ hm)⟩, rfl⟩

/-- A text is split unless it has no `sep`. -/
theorem splitFirst?_eq_none_iff {sep : Char} {cs : List Char} :
    splitFirst? sep cs = none ↔ sep ∉ cs := by
  induction cs with
  | nil => simp [splitFirst?]
  | cons c cs ih =>
    rw [splitFirst?]
    by_cases h : c = sep
    · simp [h]
    · simp [h, Ne.symm h, ih]

/-- What comes before the first `sep` and what comes after it are determined by the text. -/
theorem append_sep_inj {sep : Char} {before before' after after' : List Char} (h : sep ∉ before)
    (h' : sep ∉ before') (heq : before ++ sep :: after = before' ++ sep :: after') :
    before = before' ∧ after = after' := by
  have hsplit : splitFirst? sep (before ++ sep :: after) = some (before, after) :=
    splitFirst?_eq_some_iff.2 ⟨rfl, h⟩
  rw [heq, splitFirst?_eq_some_iff.2 ⟨rfl, h'⟩] at hsplit
  simpa [eq_comm] using hsplit

/-- What comes before the first `sep` of a text, and what comes after it if there is one. -/
def cutFirst (sep : Char) (cs : List Char) : List Char × Option (List Char) :=
  match splitFirst? sep cs with
  | some (before, after) => (before, some after)
  | none => (cs, none)

/-- The pieces of a text before and after the last `sep`. -/
def splitLast? (sep : Char) (cs : List Char) : Option (List Char × List Char) :=
  (splitFirst? sep cs.reverse).map fun (after, before) => (before.reverse, after.reverse)

/-- A text is split where its last `sep` stands. -/
theorem splitLast?_eq_some_iff {sep : Char} {cs before after : List Char} :
    splitLast? sep cs = some (before, after) ↔ cs = before ++ sep :: after ∧ sep ∉ after := by
  rw [splitLast?, Option.map_eq_some_iff]
  constructor
  · rintro ⟨⟨after', before'⟩, hsplit, heq⟩
    obtain ⟨rfl, rfl⟩ := Prod.mk.inj heq
    obtain ⟨hcs, hafter⟩ := splitFirst?_eq_some_iff.1 hsplit
    rw [List.reverse_eq_iff] at hcs
    exact ⟨by simpa using hcs, by simpa using hafter⟩
  · rintro ⟨rfl, hafter⟩
    refine ⟨(after.reverse, before.reverse), splitFirst?_eq_some_iff.2 ⟨by simp, ?_⟩, by simp⟩
    simpa using hafter

theorem splitLast?_eq_none_iff {sep : Char} {cs : List Char} :
    splitLast? sep cs = none ↔ sep ∉ cs := by
  rw [splitLast?, Option.map_eq_none_iff, splitFirst?_eq_none_iff, List.mem_reverse]

/-- The pieces of a text before and after the first occurrence of `needle`. -/
def splitAtText? (needle : List Char) : List Char → Option (List Char × List Char)
  | [] => (stripStart? needle []).map fun rest => ([], rest)
  | c :: cs =>
    match stripStart? needle (c :: cs) with
    | some rest => some ([], rest)
    | none => (splitAtText? needle cs).map fun (before, after) => (c :: before, after)

theorem eq_append_of_splitAtText? {needle cs before after : List Char}
    (h : splitAtText? needle cs = some (before, after)) : cs = before ++ needle ++ after := by
  induction cs generalizing before with
  | nil =>
    simp only [splitAtText?, Option.map_eq_some_iff, Prod.mk.injEq] at h
    obtain ⟨rest, hrest, rfl, rfl⟩ := h
    simpa using stripStart?_eq_some_iff.1 hrest
  | cons c cs ih =>
    rw [splitAtText?] at h
    split at h
    · next rest hrest =>
      obtain ⟨rfl, rfl⟩ := by simpa using h
      simpa using stripStart?_eq_some_iff.1 hrest
    · simp only [Option.map_eq_some_iff, Prod.exists, Prod.mk.injEq] at h
      obtain ⟨b, a, hba, rfl, rfl⟩ := h
      simpa using ih hba

/-- A text is split at the first occurrence of `needle`: it cannot begin where the first character of
`needle` does not stand. -/
theorem splitAtText?_append {d : Char} {needle before : List Char} (h : d ∉ before)
    (after : List Char) :
    splitAtText? (d :: needle) (before ++ (d :: needle ++ after)) = some (before, after) := by
  induction before with
  | nil =>
    have hstrip : stripStart? (d :: needle) (d :: needle ++ after) = some after :=
      stripStart?_eq_some_iff.2 rfl
    rw [List.nil_append, List.cons_append, splitAtText?, ← List.cons_append, hstrip]
  | cons c before ih =>
    obtain ⟨hc, hbefore⟩ := not_or.1 (mt List.mem_cons.2 h)
    have hstrip : stripStart? (d :: needle) (c :: (before ++ (d :: needle ++ after))) = none := by
      rw [stripStart?, if_neg hc]
    rw [List.cons_append, splitAtText?, hstrip, ih hbefore]
    rfl

/-- Whether `needle` occurs in a text. -/
def containsText (needle cs : List Char) : Bool :=
  (splitAtText? needle cs).isSome

/-- The pieces of a text between the occurrences of `sep`; a text without any is one piece. -/
def splitEach (sep : Char) : List Char → List (List Char)
  | [] => [[]]
  | c :: cs =>
    if c = sep then [] :: splitEach sep cs
    else
      match splitEach sep cs with
      | [] => [[c]]
      | piece :: pieces => (c :: piece) :: pieces

/-- The pieces put one after the other with `sep` between them. -/
def joinWith (sep : List Char) : List (List Char) → List Char
  | [] => []
  | [piece] => piece
  | piece :: pieces => piece ++ sep ++ joinWith sep pieces

theorem joinWith_cons (sep piece : List Char) {pieces : List (List Char)} (h : pieces ≠ []) :
    joinWith sep (piece :: pieces) = piece ++ (sep ++ joinWith sep pieces) := by
  cases pieces with
  | nil => exact absurd rfl h
  | cons next pieces => simp [joinWith]

theorem mem_joinWith {sep : List Char} {pieces : List (List Char)} {c : Char}
    (h : c ∈ joinWith sep pieces) : c ∈ sep ∨ ∃ piece ∈ pieces, c ∈ piece := by
  induction pieces with
  | nil => simp [joinWith] at h
  | cons piece pieces ih =>
    cases pieces with
    | nil => exact Or.inr ⟨piece, by simp, h⟩
    | cons next pieces =>
      rw [joinWith_cons sep piece (by simp), List.mem_append, List.mem_append] at h
      rcases h with h | h | h
      · exact Or.inr ⟨piece, by simp, h⟩
      · exact Or.inl h
      · rcases ih h with hsep | ⟨piece', hpiece', hc⟩
        · exact Or.inl hsep
        · exact Or.inr ⟨piece', List.mem_cons_of_mem _ hpiece', hc⟩

theorem mem_joinWith_of_mem {sep : List Char} {pieces : List (List Char)} {piece : List Char}
    (h : piece ∈ pieces) {c : Char} (hc : c ∈ piece) : c ∈ joinWith sep pieces := by
  induction pieces with
  | nil => simp at h
  | cons first pieces ih =>
    cases pieces with
    | nil =>
      rw [List.mem_singleton] at h
      rwa [joinWith, ← h]
    | cons next pieces =>
      rw [joinWith_cons sep first (by simp), List.mem_append, List.mem_append]
      rcases List.mem_cons.1 h with rfl | h
      · exact Or.inl hc
      · exact Or.inr (Or.inr (ih h))

theorem splitEach_ne_nil (sep : Char) (cs : List Char) : splitEach sep cs ≠ [] := by
  cases cs with
  | nil => simp [splitEach]
  | cons c cs =>
    rw [splitEach]
    split
    · simp
    · split <;> simp

/-- The pieces of a text joined again are the text. -/
theorem joinWith_splitEach (sep : Char) (cs : List Char) :
    joinWith [sep] (splitEach sep cs) = cs := by
  induction cs with
  | nil => rfl
  | cons c cs ih =>
    rw [splitEach]
    split
    · next h =>
      subst h
      cases hp : splitEach c cs with
      | nil => exact absurd hp (splitEach_ne_nil c cs)
      | cons piece pieces => rw [hp] at ih; simp [joinWith, ih]
    · cases hp : splitEach sep cs with
      | nil => exact absurd hp (splitEach_ne_nil sep cs)
      | cons piece pieces =>
        rw [hp] at ih
        cases pieces with
        | nil => simpa [joinWith] using ih
        | cons p ps => simpa [joinWith] using ih

/-- A piece holds no `sep`. -/
theorem not_mem_of_mem_splitEach {sep : Char} {cs piece : List Char}
    (h : piece ∈ splitEach sep cs) : sep ∉ piece := by
  induction cs generalizing piece with
  | nil => simp_all [splitEach]
  | cons c cs ih =>
    rw [splitEach] at h
    split at h
    · rcases List.mem_cons.1 h with rfl | h
      · simp
      · exact ih h
    · next hc =>
      cases hp : splitEach sep cs with
      | nil => exact absurd hp (splitEach_ne_nil sep cs)
      | cons p ps =>
        rw [hp] at h
        rcases List.mem_cons.1 h with rfl | h
        · have hpiece : sep ∉ p := ih (by simp [hp])
          simp [Ne.symm hc, hpiece]
        · exact ih (by simp [hp, h])

/-- A text without any `sep` is one piece. -/
theorem splitEach_of_not_mem {sep : Char} {cs : List Char} (h : sep ∉ cs) :
    splitEach sep cs = [cs] := by
  induction cs with
  | nil => rfl
  | cons c cs ih =>
    obtain ⟨hc, h⟩ := not_or.1 (mt List.mem_cons.2 h)
    rw [splitEach, if_neg (Ne.symm hc), ih h]

/-- A `sep` parts the pieces before it from those behind it. -/
theorem splitEach_append_sep (sep : Char) (before after : List Char) :
    splitEach sep (before ++ sep :: after) = splitEach sep before ++ splitEach sep after := by
  induction before with
  | nil => simp [splitEach]
  | cons c before ih =>
    rw [List.cons_append, splitEach, splitEach, ih]
    split
    · rfl
    · cases hp : splitEach sep before with
      | nil => exact absurd hp (splitEach_ne_nil sep before)
      | cons piece pieces => rfl

/-- The first piece ends at the first `sep`. -/
theorem splitEach_append {sep : Char} {piece rest : List Char} (h : sep ∉ piece) :
    splitEach sep (piece ++ sep :: rest) = piece :: splitEach sep rest := by
  rw [splitEach_append_sep, splitEach_of_not_mem h, List.singleton_append]

/-- Pieces that hold no `sep` are found again once they have been joined. -/
theorem splitEach_joinWith {sep : Char} {pieces : List (List Char)} (hne : pieces ≠ [])
    (h : ∀ piece ∈ pieces, sep ∉ piece) : splitEach sep (joinWith [sep] pieces) = pieces := by
  induction pieces with
  | nil => exact absurd rfl hne
  | cons piece pieces ih =>
    have hpiece := h piece (by simp)
    cases pieces with
    | nil => exact splitEach_of_not_mem hpiece
    | cons p ps =>
      have hrest := ih (by simp) fun q hq => h q (List.mem_cons_of_mem _ hq)
      rw [joinWith, List.append_assoc, List.singleton_append, splitEach_append hpiece, hrest]
      simp

/-- What follows `start` in a string that begins with it. -/
def afterStart? (start s : String) : Option String :=
  (stripStart? start.toList s.toList).map String.ofList

theorem afterStart?_eq_some_iff {start s rest : String} :
    afterStart? start s = some rest ↔ s = start ++ rest := by
  rw [afterStart?, Option.map_eq_some_iff]
  constructor
  · rintro ⟨cs, hcs, rfl⟩
    rw [stripStart?_eq_some_iff] at hcs
    rw [← String.toList_inj, hcs]
    simp
  · rintro rfl
    exact ⟨rest.toList, stripStart?_eq_some_iff.2 (by simp), String.ofList_toList⟩

/-- What comes before `finish` in a string that ends with it. -/
def beforeEnd? (finish s : String) : Option String :=
  (stripEnd? finish.toList s.toList).map String.ofList

theorem beforeEnd?_eq_some_iff {finish s before : String} :
    beforeEnd? finish s = some before ↔ s = before ++ finish := by
  rw [beforeEnd?, Option.map_eq_some_iff]
  constructor
  · rintro ⟨cs, hcs, rfl⟩
    rw [stripEnd?_eq_some_iff] at hcs
    rw [← String.toList_inj, hcs]
    simp
  · rintro rfl
    exact ⟨before.toList, stripEnd?_eq_some_iff.2 (by simp), String.ofList_toList⟩

/-- Whether `needle` occurs in a string. -/
def mentions (needle s : String) : Bool :=
  containsText needle.toList s.toList

end ImageTags.Text
