import Mathlib.Tactic.Lemma
import ImageTags.Directive

/-!
# The layout of a record

A record is written as fields with commas between them.  A field either stands as it is, or it has
a part in quotes: spaces and tabs, the quoted part with its quotes doubled, and a tail without
commas.  A layout chooses one of the two for each field, and its text determines it.  Reading takes
the values of the layout out of the text; a text without a layout ends inside a quoted part.

* `WrittenField`, `Layout` — the two ways to write a field, and a record written in them.
* `fieldsFrom_text`, `fieldsFrom_layout` — a field and a record are read as they are laid out.
* `WrittenField.text_append_inj`, `Layout.text_injective` — a text has one layout at most.
* `exists_layout_or_leavesQuoteOpen` — a text without a layout leaves a quote open.
* **`Directive.fields_by_layout`** — what a directive is read as.
-/

namespace ImageTags

namespace Record

open Text

/-! ## Written fields -/

/-- Spaces and tabs, which may stand in front of a quote. -/
def IsPadding (cs : List Char) : Prop := ∀ c ∈ cs, c = ' ' ∨ c = '\t'

/-- Whether a text starts like a field in quotes. -/
def OpensQuote (cs : List Char) : Prop :=
  ∃ padding rest, IsPadding padding ∧ cs = padding ++ '"' :: rest

/-- A field as it is written. -/
inductive WrittenField where
  /-- A field that stands as it is. -/
  | bare (text : List Char) (noComma : ',' ∉ text) (noQuote : ¬ OpensQuote text)
  /-- A field with a part in quotes, in which commas may occur. -/
  | quoted (padding body tail : List Char) (isPadding : IsPadding padding) (noComma : ',' ∉ tail)
      (noQuote : tail.head? ≠ some '"')

/-- The text of a field: each quote of a quoted part is written twice. -/
def WrittenField.text : WrittenField → List Char
  | bare text _ _ => text
  | quoted padding body tail _ _ _ => padding ++ '"' :: (doubleQuotes body ++ '"' :: tail)

lemma WrittenField.text_quoted_append {padding body tail : List Char}
    (isPadding : IsPadding padding) (noComma : ',' ∉ tail) (noQuote : tail.head? ≠ some '"')
    (rest : List Char) :
    (quoted padding body tail isPadding noComma noQuote).text ++ rest =
      padding ++ '"' :: (doubleQuotes body ++ '"' :: (tail ++ rest)) := by
  simp [text]

/-- What a field stands for. -/
def WrittenField.value : WrittenField → List Char
  | bare text _ _ => text
  | quoted padding body tail _ _ _ => padding ++ (body ++ tail)

/-- The fields of a record as they are written; there is at least one. -/
structure Layout where
  first : WrittenField
  others : List WrittenField

/-- The text of a record: that of its fields with commas between them. -/
def Layout.text (l : Layout) : List Char :=
  joinWith [','] ((l.first :: l.others).map WrittenField.text)

/-- What the fields of a record stand for. -/
def Layout.values (l : Layout) : List (List Char) :=
  (l.first :: l.others).map WrittenField.value

lemma Layout.text_nil (first : WrittenField) : (Layout.mk first []).text = first.text := rfl

lemma Layout.text_cons (first next : WrittenField) (others : List WrittenField) :
    (Layout.mk first (next :: others)).text =
      first.text ++ ',' :: (Layout.mk next others).text := by
  simp [text, joinWith_cons]

/-- Whether a text ends inside a quoted part: behind some fields a quote is opened and never
closed. -/
def LeavesQuoteOpen (cs : List Char) : Prop :=
  ∃ (fields : List WrittenField) (padding body : List Char), IsPadding padding ∧
    cs = joinWith [','] (fields.map WrittenField.text ++ [padding ++ '"' :: doubleQuotes body])

/-- A text that a field can stop in front of: it is at its end, or a comma comes next. -/
def EndsField (cs : List Char) : Prop :=
  cs = [] ∨ ∃ rest, cs = ',' :: rest

lemma EndsField.head?_ne {cs : List Char} (h : EndsField cs) {c : Char} (hc : c ≠ ',') :
    cs.head? ≠ some c := by
  rcases h with rfl | ⟨rest, rfl⟩
  · simp
  · simpa using Ne.symm hc

/-- A quote does not come next behind a tail either. -/
lemma EndsField.head?_append_ne {tail rest : List Char} (hrest : EndsField rest)
    (h : tail.head? ≠ some '"') : (tail ++ rest).head? ≠ some '"' := by
  cases tail with
  | nil => exact hrest.head?_ne (by decide)
  | cons c tail => simpa using h

lemma isPadding_cons {c : Char} {cs : List Char} :
    IsPadding (c :: cs) ↔ (c = ' ' ∨ c = '\t') ∧ IsPadding cs := by
  simp [IsPadding]

lemma IsPadding.not_mem {padding : List Char} (h : IsPadding padding) {c : Char}
    (hspace : c ≠ ' ') (htab : c ≠ '\t') : c ∉ padding := by
  intro hc
  rcases h c hc with rfl | rfl
  · exact hspace rfl
  · exact htab rfl

/-- A text goes on as it started: with a blank in front it still opens a quote. -/
lemma OpensQuote.cons {cs : List Char} (h : OpensQuote cs) {c : Char} (hc : c = ' ' ∨ c = '\t') :
    OpensQuote (c :: cs) := by
  obtain ⟨padding, rest, hpadding, rfl⟩ := h
  exact ⟨c :: padding, rest, isPadding_cons.2 ⟨hc, hpadding⟩, rfl⟩

/-! ## Reading a field -/

/-- Puts a text in front of the first field. -/
def prependField (cs : List Char) (fields : List (List Char)) : List (List Char) :=
  cs.foldr consField fields

@[simp] lemma prependField_nil (fields : List (List Char)) : prependField [] fields = fields := rfl

@[simp] lemma prependField_cons (cs field : List Char) (fields : List (List Char)) :
    prependField cs (field :: fields) = (cs ++ field) :: fields := by
  induction cs with
  | nil => rfl
  | cons c cs ih => rw [prependField, List.foldr_cons, ← prependField, ih]; rfl

lemma map_consField_prependField (c : Char) (cs : List Char)
    (fields : Option (List (List Char))) :
    (fields.map (prependField cs)).map (consField c) = fields.map (prependField (c :: cs)) := by
  rw [Option.map_map]
  rfl

lemma map_prependField_append (cs ds : List Char) (fields : Option (List (List Char))) :
    (fields.map (prependField ds)).map (prependField cs) =
      fields.map (prependField (cs ++ ds)) := by
  rw [Option.map_map]
  refine congrArg (fields.map ·) (funext fun fs => ?_)
  simp [prependField]

lemma map_prependField_nil (fields : Option (List (List Char))) :
    fields.map (prependField []) = fields := Option.map_id'

lemma fieldsFrom_comma {place : Place} (h : place ≠ .quoted) (cs : List Char) :
    fieldsFrom place (',' :: cs) = (fieldsFrom .start cs).map ([] :: ·) := by
  cases place with
  | start => rfl
  | tail => rfl
  | quoted => exact absurd rfl h

/-- Where a field stops it does not matter how far the reader was in it. -/
lemma fieldsFrom_of_endsField {cs : List Char} (h : EndsField cs) :
    fieldsFrom .start cs = fieldsFrom .tail cs := by
  rcases h with rfl | ⟨rest, rfl⟩
  · rfl
  · rw [fieldsFrom_comma (by simp), fieldsFrom_comma (by simp)]

/-- Past its start a field is read as it stands. -/
lemma fieldsFrom_tail_append {cs : List Char} (h : ',' ∉ cs) (rest : List Char) :
    fieldsFrom .tail (cs ++ rest) = (fieldsFrom .tail rest).map (prependField cs) := by
  induction cs with
  | nil => rw [List.nil_append, map_prependField_nil]
  | cons c cs ih =>
    rw [List.mem_cons, not_or] at h
    rw [List.cons_append, fieldsFrom, if_neg (Ne.symm h.1), ih h.2, map_consField_prependField]

lemma fieldsFrom_padding {padding : List Char} (h : IsPadding padding) (rest : List Char) :
    fieldsFrom .start (padding ++ rest) =
      (fieldsFrom .start rest).map (prependField padding) := by
  induction padding with
  | nil => rw [List.nil_append, map_prependField_nil]
  | cons c padding ih =>
    obtain ⟨hc, hpadding⟩ := isPadding_cons.1 h
    have hcomma : c ≠ ',' := by rintro rfl; simp at hc
    have hquote : c ≠ '"' := by rintro rfl; simp at hc
    rw [List.cons_append, fieldsFrom, if_neg hcomma, if_neg hquote, if_pos hc, ih hpadding,
      map_consField_prependField]

/-- A field that does not open a quote is read as it stands. -/
lemma fieldsFrom_bare {text rest : List Char} (hcomma : ',' ∉ text) (hquote : ¬ OpensQuote text)
    (hrest : EndsField rest) :
    fieldsFrom .start (text ++ rest) = (fieldsFrom .tail rest).map (prependField text) := by
  induction text with
  | nil => rw [List.nil_append, map_prependField_nil, fieldsFrom_of_endsField hrest]
  | cons c text ih =>
    rw [List.mem_cons, not_or] at hcomma
    have hc : c ≠ '"' := by
      rintro rfl
      exact hquote ⟨[], text, by simp [IsPadding], rfl⟩
    rw [List.cons_append, fieldsFrom, if_neg (Ne.symm hcomma.1), if_neg hc]
    split
    · next hblank =>
      rw [ih hcomma.2 fun h => hquote (h.cons hblank), map_consField_prependField]
    · rw [fieldsFrom_tail_append hcomma.2, map_consField_prependField]

lemma doubleQuotes_cons (c : Char) (cs : List Char) :
    doubleQuotes (c :: cs) = (if c = '"' then ['"', '"'] else [c]) ++ doubleQuotes cs :=
  List.flatMap_cons

lemma fieldsFrom_quoted_cons {c : Char} (h : c ≠ '"') (cs : List Char) :
    fieldsFrom .quoted (c :: cs) = (fieldsFrom .quoted cs).map (consField c) := by
  rw [fieldsFrom]
  · rintro rest rfl
    exact absurd rfl h
  · exact h

/-- Inside quotes a character is read from its written form. -/
lemma fieldsFrom_doubleQuotes_cons (c : Char) (cs rest : List Char) :
    fieldsFrom .quoted (doubleQuotes (c :: cs) ++ rest) =
      (fieldsFrom .quoted (doubleQuotes cs ++ rest)).map (consField c) := by
  rw [doubleQuotes_cons]
  split
  · next h =>
    subst h
    rfl
  · next h => exact fieldsFrom_quoted_cons h _

/-- A quote that is not doubled ends the quoted part. -/
lemma fieldsFrom_quoted_close {rest : List Char} (h : rest.head? ≠ some '"') :
    fieldsFrom .quoted ('"' :: rest) = fieldsFrom .tail rest := by
  cases rest with
  | nil => rfl
  | cons c rest =>
    rw [fieldsFrom]
    rintro cs hcs
    rw [(List.cons.inj hcs).1] at h
    exact h rfl

/-- A text between quotes is read with its quotes halved. -/
lemma fieldsFrom_quoted {rest : List Char} (hrest : rest.head? ≠ some '"') (body : List Char) :
    fieldsFrom .quoted (doubleQuotes body ++ '"' :: rest) =
      (fieldsFrom .tail rest).map (prependField body) := by
  induction body with
  | nil =>
    rw [map_prependField_nil, ← fieldsFrom_quoted_close hrest]
    rfl
  | cons c body ih => rw [fieldsFrom_doubleQuotes_cons, ih, map_consField_prependField]

/-- A quoted part that is not closed is not read. -/
lemma fieldsFrom_doubleQuotes (body : List Char) :
    fieldsFrom .quoted (doubleQuotes body) = none := by
  induction body with
  | nil => rfl
  | cons c body ih =>
    have h := fieldsFrom_doubleQuotes_cons c body []
    rwa [List.append_nil, List.append_nil, ih] at h

/-- **A field is read as what it stands for.** -/
theorem fieldsFrom_text (field : WrittenField) {rest : List Char} (hrest : EndsField rest) :
    fieldsFrom .start (field.text ++ rest) =
      (fieldsFrom .tail rest).map (prependField field.value) := by
  cases field with
  | bare text hcomma hquote => exact fieldsFrom_bare hcomma hquote hrest
  | quoted padding body tail hpadding hcomma hquote =>
    have hopen (cs : List Char) : fieldsFrom .start ('"' :: cs) = fieldsFrom .quoted cs := rfl
    rw [WrittenField.text_quoted_append, fieldsFrom_padding hpadding, hopen,
      fieldsFrom_quoted (hrest.head?_append_ne hquote), fieldsFrom_tail_append hcomma,
      map_prependField_append, map_prependField_append, WrittenField.value, List.append_assoc]

/-! ## Reading a record -/

/-- A field and what follows it are read one after the other. -/
lemma fieldsFrom_text_comma (field : WrittenField) (rest : List Char) :
    fieldsFrom .start (field.text ++ ',' :: rest) =
      (fieldsFrom .start rest).map (field.value :: ·) := by
  rw [fieldsFrom_text field (Or.inr ⟨rest, rfl⟩), fieldsFrom_comma (by simp), Option.map_map]
  refine congrArg (Option.map · _) (funext fun fields => ?_)
  simp

/-- **A record is read as what its fields stand for**, blank or not. -/
theorem fieldsFrom_layout (l : Layout) : fieldsFrom .start l.text = some l.values := by
  obtain ⟨first, others⟩ := l
  induction others generalizing first with
  | nil =>
    have h := fieldsFrom_text first (Or.inl rfl)
    rw [List.append_nil] at h
    simpa [Layout.text_nil, Layout.values, fieldsFrom] using h
  | cons next others ih =>
    rw [Layout.text_cons, fieldsFrom_text_comma, ih next]
    rfl

/-- A record that ends inside a quoted part is not read. -/
theorem fieldsFrom_of_leavesQuoteOpen {cs : List Char} (h : LeavesQuoteOpen cs) :
    fieldsFrom .start cs = none := by
  obtain ⟨fields, padding, body, hpadding, rfl⟩ := h
  induction fields with
  | nil =>
    have hopen : fieldsFrom .start ('"' :: doubleQuotes body) = none := fieldsFrom_doubleQuotes body
    simp [joinWith, fieldsFrom_padding hpadding, hopen]
  | cons field fields ih =>
    rw [List.map_cons, List.cons_append, joinWith_cons [','] field.text (by simp),
      List.singleton_append, fieldsFrom_text_comma, ih]
    rfl

/-! ## A text has one layout at most -/

/-- Where a text without commas stops is seen from what follows it. -/
lemma append_inj_of_endsField {cs ds rest rest' : List Char} (hcs : ',' ∉ cs) (hds : ',' ∉ ds)
    (hrest : EndsField rest) (hrest' : EndsField rest') (h : cs ++ rest = ds ++ rest') :
    cs = ds ∧ rest = rest' := by
  rcases hrest with rfl | ⟨rest, rfl⟩
  · rcases hrest' with rfl | ⟨rest', rfl⟩
    · simpa using h
    · rw [List.append_nil] at h
      exact absurd (h ▸ by simp) hcs
  · rcases hrest' with rfl | ⟨rest', rfl⟩
    · rw [List.append_nil] at h
      exact absurd (h ▸ by simp) hds
    · obtain ⟨rfl, rfl⟩ := append_sep_inj hcs hds h
      exact ⟨rfl, rfl⟩

/-- A quoted part ends at the first quote that is not doubled. -/
lemma doubleQuotes_append_inj {body body' rest rest' : List Char} (hrest : rest.head? ≠ some '"')
    (hrest' : rest'.head? ≠ some '"')
    (h : doubleQuotes body ++ '"' :: rest = doubleQuotes body' ++ '"' :: rest') :
    body = body' ∧ rest = rest' := by
  induction body generalizing body' with
  | nil =>
    cases body' with
    | nil => exact ⟨rfl, (List.cons.inj h).2⟩
    | cons c body' =>
      rw [doubleQuotes_cons] at h
      split at h
      · exact absurd (congrArg List.head? (List.cons.inj h).2) hrest
      · next hc => exact absurd (List.cons.inj h).1.symm hc
  | cons c body ih =>
    cases body' with
    | nil =>
      rw [doubleQuotes_cons] at h
      split at h
      · exact absurd (congrArg List.head? (List.cons.inj h).2.symm) hrest'
      · next hc => exact absurd (List.cons.inj h).1 hc
    | cons c' body' =>
      rw [doubleQuotes_cons, doubleQuotes_cons, List.append_assoc, List.append_assoc] at h
      -- both start with the same character, doubled or not
      have hc : c = c' := by
        by_cases hc : c = '"'
        · by_cases hc' : c' = '"'
          · rw [hc, hc']
          · rw [if_pos hc, if_neg hc'] at h
            exact absurd (List.cons.inj h).1.symm hc'
        · by_cases hc' : c' = '"'
          · rw [if_neg hc, if_pos hc'] at h
            exact absurd (List.cons.inj h).1 hc
          · rw [if_neg hc, if_neg hc'] at h
            exact (List.cons.inj h).1
      subst hc
      obtain ⟨rfl, rfl⟩ := ih (List.append_cancel_left h)
      exact ⟨rfl, rfl⟩

/-- A text that opens a quote still does with less behind it, up to where a field stops. -/
lemma opensQuote_of_append {text rest padding quoted : List Char} (hrest : EndsField rest)
    (hpadding : IsPadding padding) (h : text ++ rest = padding ++ '"' :: quoted) :
    OpensQuote text := by
  have hcomma : ',' ∉ padding := hpadding.not_mem (by decide) (by decide)
  rcases List.append_eq_append_iff.1 h with ⟨cs, rfl, hcs⟩ | ⟨cs, rfl, hcs⟩
  · -- the text would stop in the padding or in front of the quote
    rcases hrest with rfl | ⟨rest, rfl⟩
    · cases cs with
      | nil => simp at hcs
      | cons c cs => simp at hcs
    · cases cs with
      | nil => simp at hcs
      | cons c cs =>
        obtain ⟨rfl, -⟩ := List.cons.inj hcs
        simp at hcomma
  · cases cs with
    | nil =>
      rw [List.nil_append] at hcs
      exact absurd (hcs ▸ rfl) (hrest.head?_ne (c := '"') (by decide))
    | cons c cs =>
      obtain ⟨rfl, -⟩ := List.cons.inj hcs
      exact ⟨padding, cs, hpadding, rfl⟩

/-- **A field is determined by its text**, and so is where it stops. -/
theorem WrittenField.text_append_inj {field field' : WrittenField} {rest rest' : List Char}
    (hrest : EndsField rest) (hrest' : EndsField rest')
    (h : field.text ++ rest = field'.text ++ rest') : field = field' ∧ rest = rest' := by
  cases field with
  | bare text hcomma hquote =>
    cases field' with
    | bare text' hcomma' hquote' =>
      obtain ⟨rfl, rfl⟩ := append_inj_of_endsField hcomma hcomma' hrest hrest' h
      exact ⟨rfl, rfl⟩
    | quoted padding body tail hpadding hcomma' hquote' =>
      rw [text_quoted_append] at h
      exact absurd (opensQuote_of_append hrest hpadding h) hquote
  | quoted padding body tail hpadding hcomma hquote =>
    cases field' with
    | bare text hcomma' hquote' =>
      rw [text_quoted_append] at h
      exact absurd (opensQuote_of_append hrest' hpadding h.symm) hquote'
    | quoted padding' body' tail' hpadding' hcomma' hquote' =>
      rw [text_quoted_append, text_quoted_append] at h
      have hmem {padding : List Char} (h : IsPadding padding) : '"' ∉ padding :=
        h.not_mem (by decide) (by decide)
      obtain ⟨rfl, hquoted⟩ := append_sep_inj (hmem hpadding) (hmem hpadding') h
      obtain ⟨rfl, htail⟩ := doubleQuotes_append_inj (hrest.head?_append_ne hquote)
        (hrest'.head?_append_ne hquote') hquoted
      obtain ⟨rfl, rfl⟩ := append_inj_of_endsField hcomma hcomma' hrest hrest' htail
      exact ⟨rfl, rfl⟩

/-- **A record is determined by its text.** -/
theorem Layout.text_injective : Function.Injective Layout.text := by
  rintro ⟨first, others⟩ ⟨first', others'⟩ h
  induction others generalizing first first' others' with
  | nil =>
    cases others' with
    | nil =>
      have h : first.text ++ [] = first'.text ++ [] := by simpa [text_nil] using h
      obtain ⟨rfl, -⟩ := WrittenField.text_append_inj (Or.inl rfl) (Or.inl rfl) h
      rfl
    | cons next' others' =>
      rw [text_nil, text_cons, ← List.append_nil first.text] at h
      obtain ⟨-, h⟩ := WrittenField.text_append_inj (Or.inl rfl) (Or.inr ⟨_, rfl⟩) h
      simp at h
  | cons next others ih =>
    cases others' with
    | nil =>
      rw [text_nil, text_cons, ← List.append_nil first'.text] at h
      obtain ⟨-, h⟩ := WrittenField.text_append_inj (Or.inr ⟨_, rfl⟩) (Or.inl rfl) h
      simp at h
    | cons next' others' =>
      rw [text_cons, text_cons] at h
      obtain ⟨rfl, hrest⟩ := WrittenField.text_append_inj (Or.inr ⟨_, rfl⟩) (Or.inr ⟨_, rfl⟩) h
      obtain ⟨rfl, rfl⟩ := Layout.mk.inj (ih next next' others' (List.cons.inj hrest).2)
      rfl

/-! ## Which texts have a layout -/

lemma exists_endsField (cs : List Char) :
    ∃ piece rest, cs = piece ++ rest ∧ ',' ∉ piece ∧ EndsField rest := by
  induction cs with
  | nil => exact ⟨[], [], rfl, by simp, Or.inl rfl⟩
  | cons c cs ih =>
    by_cases hc : c = ','
    · exact ⟨[], c :: cs, rfl, by simp, Or.inr ⟨cs, by rw [hc]⟩⟩
    · obtain ⟨piece, rest, rfl, hpiece, hrest⟩ := ih
      exact ⟨c :: piece, rest, rfl, by simp [Ne.symm hc, hpiece], hrest⟩

/-- Behind an opening quote there is a quote that closes it, or all quotes are doubled. -/
lemma exists_closed_or_open : ∀ cs : List Char,
    (∃ body rest, cs = doubleQuotes body ++ '"' :: rest ∧ rest.head? ≠ some '"') ∨
      ∃ body, cs = doubleQuotes body
  | [] => Or.inr ⟨[], rfl⟩
  | [c] => by
    by_cases hc : c = '"'
    · exact Or.inl ⟨[], [], by rw [hc]; rfl, by simp⟩
    · exact Or.inr ⟨[c], by simp [doubleQuotes, hc]⟩
  | c :: d :: cs => by
    by_cases hc : c = '"'
    · by_cases hd : d = '"'
      · rw [hc, hd]
        rcases exists_closed_or_open cs with ⟨body, rest, rfl, hrest⟩ | ⟨body, rfl⟩
        · exact Or.inl ⟨'"' :: body, rest, rfl, hrest⟩
        · exact Or.inr ⟨'"' :: body, rfl⟩
      · exact Or.inl ⟨[], d :: cs, by rw [hc]; rfl, by simpa using hd⟩
    · rcases exists_closed_or_open (d :: cs) with ⟨body, rest, hcs, hrest⟩ | ⟨body, hcs⟩
      · exact Or.inl ⟨c :: body, rest, by simp [doubleQuotes_cons, hc, hcs], hrest⟩
      · exact Or.inr ⟨c :: body, by simp [doubleQuotes_cons, hc, hcs]⟩

/-- A text starts with a field, or with one whose quoted part does not end. -/
lemma exists_text_or_open (cs : List Char) :
    (∃ (field : WrittenField) (rest : List Char), cs = field.text ++ rest ∧ EndsField rest) ∨
      ∃ padding body, IsPadding padding ∧ cs = padding ++ '"' :: doubleQuotes body := by
  by_cases hquote : OpensQuote cs
  · obtain ⟨padding, quoted, hpadding, rfl⟩ := hquote
    rcases exists_closed_or_open quoted with ⟨body, behind, rfl, hbehind⟩ | ⟨body, rfl⟩
    · obtain ⟨tail, rest, rfl, hcomma, hrest⟩ := exists_endsField behind
      have htail : tail.head? ≠ some '"' := by
        cases tail with
        | nil => simp
        | cons c tail => simpa using hbehind
      refine Or.inl ⟨.quoted padding body tail hpadding hcomma htail, rest, ?_, hrest⟩
      rw [WrittenField.text_quoted_append]
    · exact Or.inr ⟨padding, body, hpadding, rfl⟩
  · obtain ⟨text, rest, rfl, hcomma, hrest⟩ := exists_endsField cs
    refine Or.inl ⟨.bare text hcomma fun hopen => hquote ?_, rest, rfl, hrest⟩
    obtain ⟨padding, quoted, hpadding, rfl⟩ := hopen
    exact ⟨padding, quoted ++ rest, hpadding, by simp⟩

/-- **A text has a layout or ends inside a quoted part.** -/
theorem exists_layout_or_leavesQuoteOpen (cs : List Char) :
    (∃ l : Layout, l.text = cs) ∨ LeavesQuoteOpen cs := by
  induction h : cs.length using Nat.strongRecOn generalizing cs with | ind n ih => ?_
  rcases exists_text_or_open cs with ⟨field, rest, rfl, hrest⟩ | ⟨padding, body, hpadding, rfl⟩
  · rcases hrest with rfl | ⟨rest, rfl⟩
    · exact Or.inl ⟨⟨field, []⟩, by rw [Layout.text_nil, List.append_nil]⟩
    · have hlength : rest.length < n := by simp at h; omega
      rcases ih _ hlength rest rfl with ⟨l, rfl⟩ | ⟨fields, padding, body, hpadding, rfl⟩
      · exact Or.inl ⟨⟨field, l.first :: l.others⟩, Layout.text_cons field l.first l.others⟩
      · refine Or.inr ⟨field :: fields, padding, body, hpadding, ?_⟩
        rw [List.map_cons, List.cons_append, joinWith_cons [','] field.text (by simp)]
        rfl
  · exact Or.inr ⟨[], padding, body, hpadding, rfl⟩

/-- Reading fails exactly inside a quoted part that is not closed. -/
lemma fieldsFrom_eq_none_iff {cs : List Char} :
    fieldsFrom .start cs = none ↔ LeavesQuoteOpen cs := by
  constructor
  · intro hnone
    rcases exists_layout_or_leavesQuoteOpen cs with ⟨l, rfl⟩ | hopen
    · rw [fieldsFrom_layout] at hnone
      simp at hnone
    · exact hopen
  · exact fieldsFrom_of_leavesQuoteOpen

/-- Reading gives the values of the layout. -/
lemma fieldsFrom_eq_some_iff {cs : List Char} {fields : List (List Char)} :
    fieldsFrom .start cs = some fields ↔ ∃ l : Layout, l.text = cs ∧ l.values = fields := by
  constructor
  · intro hsome
    rcases exists_layout_or_leavesQuoteOpen cs with ⟨l, rfl⟩ | hopen
    · rw [fieldsFrom_layout] at hsome
      exact ⟨l, rfl, Option.some.inj hsome⟩
    · rw [fieldsFrom_of_leavesQuoteOpen hopen] at hsome
      simp at hsome
  · rintro ⟨l, rfl, rfl⟩
    exact fieldsFrom_layout l

lemma not_exists_layout_iff {cs : List Char} :
    (¬ ∃ l : Layout, l.text = cs) ↔ LeavesQuoteOpen cs := by
  rw [← fieldsFrom_eq_none_iff, Option.eq_none_iff_forall_ne_some]
  simp [fieldsFrom_eq_some_iff]

end Record

open Text

/-- Reading a directive leaves the fields that are not blank. -/
lemma Directive.fields_eq_ok_iff {directive : String} {fields : List String} :
    Directive.fields directive = .ok fields ↔ ∃ l : Record.Layout, l.text = directive.toList ∧
      fields = (l.values.filter fun value => !allBlank value).map String.ofList := by
  rw [Directive.fields, Record.fields?]
  constructor
  · intro hok
    cases hread : Record.fieldsFrom .start directive.toList with
    | none => simp [hread] at hok
    | some values =>
      obtain ⟨l, hl, rfl⟩ := Record.fieldsFrom_eq_some_iff.1 hread
      rw [hread] at hok
      exact ⟨l, hl, (Except.ok.inj hok).symm⟩
  · rintro ⟨l, hl, rfl⟩
    rw [← hl, Record.fieldsFrom_layout]
    rfl

/-- A directive is refused where a quote is left open. -/
lemma Directive.fields_eq_error_iff {directive : String} {failure : Failure} :
    Directive.fields directive = .error failure ↔
      failure = .unterminatedQuote directive ∧ Record.LeavesQuoteOpen directive.toList := by
  rw [Directive.fields, Record.fields?, ← Record.fieldsFrom_eq_none_iff]
  cases Record.fieldsFrom .start directive.toList with
  | none => simp [eq_comm]
  | some values => simp

/-- A field is a pair unless it has no equals sign. -/
lemma Directive.pair?_eq_none_iff {field : String} : pair? field = none ↔ '=' ∉ field.toList := by
  rw [pair?, Option.map_eq_none_iff, splitFirst?_eq_none_iff]

/-- **A directive is read by its layout.**  It has one at most, and is read as the values of its
fields that are not blank.  A directive without a layout ends inside a quoted part and is refused as
a whole. -/
theorem Directive.fields_by_layout (directive : String) :
    Function.Injective Record.Layout.text ∧
    (∀ fields, Directive.fields directive = .ok fields ↔
      ∃ l : Record.Layout, l.text = directive.toList ∧
        fields = (l.values.filter fun value => !allBlank value).map String.ofList) ∧
    (∀ failure, Directive.fields directive = .error failure ↔
      failure = .unterminatedQuote directive ∧ ¬ ∃ l : Record.Layout, l.text = directive.toList) ∧
    ((¬ ∃ l : Record.Layout, l.text = directive.toList) ↔
      Record.LeavesQuoteOpen directive.toList) := by
  refine ⟨Record.Layout.text_injective, fun fields => fields_eq_ok_iff, fun failure => ?_,
    Record.not_exists_layout_iff⟩
  rw [Record.not_exists_layout_iff]
  exact fields_eq_error_iff

-- The blank in front of the last quote belongs to its field, and blank fields are left out.
example : Directive.fields "a, \"b \"\"c\"\" ,\" d,  " = .ok ["a", " b \"c\" , d"] := by cbv

end ImageTags
