import ImageTags.Proofs.RecordLayout

/-!
# A written record is read back

`Record.ofFields` puts a field in quotes if it holds a comma or a quote, and writes the quotes in it
twice.  This is one of the layouts that a record can have, so the reader finds each field again
whatever its characters are.

* `WrittenField.ofValue`, `Layout.ofValues` — the layout in which a record is written.
* **`fields?_ofFields`** — the whole record is read back; only blank fields are lost.
* `mem_ofFields` — where the characters of a written record come from.
* `Directive.mem_of_mem_fields` — where those of the fields come from.
* **`Directive.fields_ofFields_eq_ok_iff`** — which lists of fields are read back as they are.
-/

namespace ImageTags

open Text

namespace Record

/-! ## One field -/

/-- A field that is written out: in quotes if it holds a comma or a quote. -/
def WrittenField.ofValue (value : List Char) : WrittenField :=
  if h : ',' ∈ value ∨ '"' ∈ value then
    .quoted [] value [] (by simp [IsPadding]) (by simp) (by simp)
  else
    .bare value (fun hcomma => h (Or.inl hcomma)) (by
      rintro ⟨padding, rest, -, rfl⟩
      simp at h)

@[simp] lemma WrittenField.text_ofValue (value : List Char) :
    (ofValue value).text = quoteField value := by
  rw [ofValue, quoteField]
  split
  · simp [text]
  · rfl

@[simp] lemma WrittenField.value_ofValue (value : List Char) : (ofValue value).value = value := by
  rw [ofValue]
  split
  · simp [WrittenField.value]
  · rfl

/-! ## The record -/

/-- The layout in which a record is written out. -/
def Layout.ofValues (value : List Char) (values : List (List Char)) : Layout where
  first := .ofValue value
  others := values.map .ofValue

lemma Layout.text_ofValues (value : List Char) (values : List (List Char)) :
    (ofValues value values).text = ofFields (value :: values) := by
  simp [text, ofValues, ofFields, Function.comp_def]

lemma Layout.values_ofValues (value : List Char) (values : List (List Char)) :
    (ofValues value values).values = value :: values := by
  simp [Layout.values, ofValues, Function.comp_def]

/-- The fields of a record that is not empty are found again, blank or not. -/
lemma fieldsFrom_ofFields (field : List Char) (fields : List (List Char)) :
    fieldsFrom .start (ofFields (field :: fields)) = some (field :: fields) := by
  rw [← Layout.text_ofValues, fieldsFrom_layout, Layout.values_ofValues]

/-- **A written record is read back**, without the fields that are blank. -/
theorem fields?_ofFields (fields : List (List Char)) :
    fields? (ofFields fields) = some (fields.filter fun field => !allBlank field) := by
  cases fields with
  | nil => rfl
  | cons field fields => rw [fields?, fieldsFrom_ofFields]; rfl

/-! ## Which characters the fields have -/

lemma mem_doubleQuotes {c : Char} {cs : List Char} : c ∈ doubleQuotes cs ↔ c ∈ cs := by
  induction cs with
  | nil => rfl
  | cons d cs ih =>
    rw [doubleQuotes_cons, List.mem_append, List.mem_cons, ih]
    split
    · next hd => simp [hd]
    · simp

lemma WrittenField.mem_text_of_mem_value {field : WrittenField} {c : Char} (h : c ∈ field.value) :
    c ∈ field.text := by
  cases field with
  | bare text _ _ => exact h
  | quoted padding body tail _ _ _ =>
    simp only [value, List.mem_append] at h
    simp only [text, List.mem_append, List.mem_cons, mem_doubleQuotes]
    rcases h with h | h | h
    · exact Or.inl h
    · exact Or.inr (Or.inr (Or.inl h))
    · exact Or.inr (Or.inr (Or.inr (Or.inr h)))

lemma Layout.mem_text_of_mem_values {l : Layout} {value : List Char} (hvalue : value ∈ l.values)
    {c : Char} (hc : c ∈ value) : c ∈ l.text := by
  obtain ⟨field, hfield, rfl⟩ := List.mem_map.1 hvalue
  exact mem_joinWith_of_mem (List.mem_map_of_mem hfield) (field.mem_text_of_mem_value hc)

lemma mem_quoteField {field : List Char} {d : Char} (h : d ∈ quoteField field) :
    d = '"' ∨ d ∈ field := by
  rw [quoteField] at h
  split at h
  · simp only [List.cons_append, List.mem_cons, List.mem_append, List.not_mem_nil, or_false,
      mem_doubleQuotes] at h
    rcases h with h | h | h
    · exact Or.inl h
    · exact Or.inr h
    · exact Or.inl h
  · exact Or.inr h

/-- **Writing brings commas and quotes into a record** and nothing else that is not in a field. -/
theorem mem_ofFields {fields : List (List Char)} {d : Char} (h : d ∈ ofFields fields) :
    d = ',' ∨ d = '"' ∨ ∃ field ∈ fields, d ∈ field := by
  rcases mem_joinWith h with hcomma | ⟨piece, hpiece, hd⟩
  · exact Or.inl (List.mem_singleton.1 hcomma)
  · obtain ⟨field, hfield, rfl⟩ := List.mem_map.1 hpiece
    rcases mem_quoteField hd with hquote | hd
    · exact Or.inr (Or.inl hquote)
    · exact Or.inr (Or.inr ⟨field, hfield, hd⟩)

end Record

/-! ## Directives -/

/-- **Reading brings nothing into a field** that is not in the directive. -/
theorem Directive.mem_of_mem_fields {directive : String} {fields : List String}
    (h : Directive.fields directive = .ok fields) {field : String} (hfield : field ∈ fields)
    {c : Char} (hc : c ∈ field.toList) : c ∈ directive.toList := by
  obtain ⟨l, hl, rfl⟩ := fields_eq_ok_iff.1 h
  obtain ⟨value, hvalue, rfl⟩ := List.mem_map.1 hfield
  rw [String.toList_ofList] at hc
  rw [← hl]
  exact Record.Layout.mem_text_of_mem_values (List.mem_filter.1 hvalue).1 hc

/-- A directive that is written out is read as its fields that are not blank. -/
lemma Directive.fields_ofFields (fields : List String) : Directive.fields (ofFields fields) =
    .ok (fields.filter fun field => !allBlank field.toList) := by
  rw [Directive.fields, ofFields, String.toList_ofList, Record.fields?_ofFields, List.filter_map]
  simp [Function.comp_def]

/-- **A directive that is written out is read back** exactly if none of its fields is blank. -/
theorem Directive.fields_ofFields_eq_ok_iff (fields : List String) :
    Directive.fields (ofFields fields) = .ok fields ↔
      ∀ field ∈ fields, allBlank field.toList = false := by
  rw [fields_ofFields, Except.ok.injEq, List.filter_eq_self]
  simp only [Bool.not_eq_true']

/-- Pairs of keys and values are read back from a directive: they have an equals sign. -/
lemma Directive.fields_ofFields_of_equals {fields : List String}
    (h : ∀ field ∈ fields, '=' ∈ field.toList) :
    Directive.fields (ofFields fields) = .ok fields := by
  rw [fields_ofFields_eq_ok_iff]
  intro field hfield
  rw [allBlank, List.all_eq_false]
  exact ⟨'=', h field hfield, by decide⟩

end ImageTags
