import Mathlib
import ImageTags.Image
import ImageTags.Proofs.Records
import ImageTags.Proofs.Steps

/-!
# Which names the images of a run have

A single directive without equals signs is a list of names, and each of them is an image.  In any
other form a directive describes one image.  It may name the image more than once, by bare words and
by the key `name`, and then the last name is the one that the image has.  So a name that was written
is only lost where another follows it in a directive of that form.  Names that bare words can give
are the same images in both forms.

* `GivesName` — the fields that name an image.
* `IsNameList`, `NamedBy` — the two forms.
* `name_of_applyField`, `name_of_foldlM` — what one field does to the name, and what all of them do.
* **`names_of_parseAll`** — the names of the images that are read.
* `IsWord` — the names that bare words can give.
* **`parseAll_of_names`** — all names in one directive, or each in a directive of its own.
-/

namespace ImageTags.Image

open Text

/-! ## Fields that name an image -/

/-- Whether a field gives an image a name: a bare word does, and so does the key `name`. -/
inductive GivesName (field : String) : String → Prop
  | word (h : '=' ∉ field.toList) : GivesName field (trimmed field)
  | pair {name : String} (h : Directive.pair? field = some ("name", name)) : GivesName field name

/-- Whether a directive names an image: it does so in the last of its fields that gives a name. -/
def NamedBy (directive : String) (image : Image) : Prop :=
  ∃ before last after, Directive.fields directive = .ok (before ++ last :: after) ∧
    GivesName last image.name ∧ ∀ field ∈ after, ∀ name, ¬ GivesName field name

/-- Whether directives are a list of names: there is one only, and no field of it has an equals
sign. -/
def IsNameList (directives : List String) : Prop :=
  ∃ directive fields, directives = [directive] ∧ Directive.fields directive = .ok fields ∧
    ∀ field ∈ fields, '=' ∉ field.toList

variable {image image' : Image} {field : String} {fields : List String}

/-- A pair with another key does not name an image. -/
lemma not_givesName {key value : String} (h : Directive.pair? field = some (key, value))
    (hkey : key ≠ "name") (name : String) : ¬ GivesName field name := by
  rintro (hword | hpair)
  · simp [Directive.pair?_eq_none_iff.2 hword] at h
  · rw [h] at hpair
    exact hkey (Prod.mk.inj (Option.some.inj hpair)).1

/-- A field gives one name at most. -/
lemma GivesName.unique {name name' : String} (h : GivesName field name)
    (h' : GivesName field name') : name = name' := by
  rcases h with hword | hpair <;> rcases h' with hword' | hpair'
  · rfl
  · simp [Directive.pair?_eq_none_iff.2 hword] at hpair'
  · simp [Directive.pair?_eq_none_iff.2 hword'] at hpair
  · rw [hpair] at hpair'
    exact (Prod.mk.inj (Option.some.inj hpair')).2

/-- **One field** gives the image its name or leaves the name as it is. -/
theorem name_of_applyField (h : applyField image field = .ok image') :
    GivesName field image'.name ∨
      image'.name = image.name ∧ ∀ name, ¬ GivesName field name := by
  rw [applyField] at h
  split at h
  · next hpair =>
    obtain rfl := Except.ok.inj h
    exact Or.inl (.word (Directive.pair?_eq_none_iff.1 hpair))
  · next value hpair =>
    obtain rfl := Except.ok.inj h
    exact Or.inl (.pair hpair)
  · next hpair =>
    obtain rfl := Except.ok.inj h
    exact Or.inr ⟨rfl, not_givesName hpair (by decide)⟩
  · next hpair =>
    obtain rfl := Except.ok.inj h
    exact Or.inr ⟨rfl, not_givesName hpair (by decide)⟩
  · simp at h
  · simp at h

/-- **All fields of a directive**: the last of them that gives a name counts, and without any the
name stays as it is. -/
theorem name_of_foldlM (h : fields.foldlM applyField image = .ok image') :
    (∃ before last after, fields = before ++ last :: after ∧ GivesName last image'.name ∧
      ∀ field ∈ after, ∀ name, ¬ GivesName field name) ∨
    image'.name = image.name ∧ ∀ field ∈ fields, ∀ name, ¬ GivesName field name := by
  induction fields generalizing image with
  | nil =>
    obtain rfl := Except.ok.inj h
    exact Or.inr ⟨rfl, by simp⟩
  | cons field fields ih =>
    rw [List.foldlM_cons] at h
    obtain ⟨next, hnext, h⟩ := bind_eq_ok.1 h
    rcases ih h with ⟨before, last, after, rfl, hlast, hafter⟩ | ⟨hsame, hnone⟩
    · exact Or.inl ⟨field :: before, last, after, rfl, hlast, hafter⟩
    · rcases name_of_applyField hnext with hgives | ⟨hkept, hnot⟩
      · exact Or.inl ⟨[], field, fields, rfl, hsame ▸ hgives, hnone⟩
      · exact Or.inr ⟨hsame.trans hkept, List.forall_mem_cons.2 ⟨hnot, hnone⟩⟩

/-! ## The two forms -/

/-- An image that is read from a directive of its own is named by it: an image must have a name. -/
lemma namedBy_of_parse {directive : String} (h : parse directive = .ok image) :
    NamedBy directive image := by
  obtain ⟨fields, hfields, h⟩ := bind_eq_ok.1 h
  obtain ⟨image', hfold, h⟩ := bind_eq_ok.1 (mapError_eq_ok.1 h)
  split at h
  · simp at h
  · next hname =>
    obtain rfl := Except.ok.inj h
    rcases name_of_foldlM hfold with ⟨before, last, after, rfl, hlast, hafter⟩ | ⟨hempty, -⟩
    · exact ⟨before, last, after, hfields, hlast, hafter⟩
    · exact absurd hempty hname

lemma plain_of_ofNames? {images : List Image} (h : ofNames? fields = some images) :
    ∀ field ∈ fields, '=' ∉ field.toList := by
  rw [ofNames?] at h
  split at h
  · simp at h
  · next hplain => simpa using hplain

lemma ofNames?_eq_some (h : ∀ field ∈ fields, '=' ∉ field.toList) :
    ofNames? fields = some (fields.map fun field => ⟨trimmed field, true⟩) := by
  rw [ofNames?, if_neg]
  simpa using h

variable {directives : List String} {images : List Image}

/-- In a list of names each field is an image. -/
lemma names_of_plain {directive : String} (h : parseAll [directive] = .ok images)
    (hfields : Directive.fields directive = .ok fields)
    (hplain : ∀ field ∈ fields, '=' ∉ field.toList) :
    images.map Image.name = fields.map trimmed := by
  rw [parseAll, hfields] at h
  simp only [bind, Except.bind, ofNames?_eq_some hplain] at h
  obtain rfl := Except.ok.inj h
  simp

/-- In any other form each directive is read on its own. -/
lemma mapM_parse_of_parseAll (h : parseAll directives = .ok images)
    (hlist : ¬ IsNameList directives) : directives.mapM parse = .ok images := by
  match directives with
  | [] => exact h
  | [directive] =>
    obtain ⟨fields, hfields, h⟩ := bind_eq_ok.1 h
    -- the one directive is only parsed because its fields are no names
    cases hnames : ofNames? fields with
    | some named => exact absurd ⟨directive, fields, rfl, hfields, plain_of_ofNames? hnames⟩ hlist
    | none =>
      rw [hnames] at h
      obtain ⟨image, himage, h⟩ := bind_eq_ok.1 h
      obtain rfl := Except.ok.inj h
      exact mapM_cons_eq_ok.2 ⟨image, himage, [], rfl, rfl⟩
  | _ :: _ :: _ => exact h

/-- So then each directive names an image. -/
lemma forall₂_namedBy (h : parseAll directives = .ok images) (hlist : ¬ IsNameList directives) :
    List.Forall₂ NamedBy directives images :=
  (forall₂_of_mapM (mapM_parse_of_parseAll h hlist)).imp fun _ _ => namedBy_of_parse

/-! ## All names -/

lemma exists_namedBy {directive : String} (h : List.Forall₂ NamedBy directives images)
    (hmem : directive ∈ directives) : ∃ image ∈ images, NamedBy directive image := by
  obtain ⟨i, hi, rfl⟩ := List.getElem_of_mem hmem
  have hi' : i < images.length := h.length_eq ▸ hi
  exact ⟨images.get ⟨i, hi'⟩, List.get_mem _ _, h.get hi hi'⟩

/-- A name that a directive of the long form gives is the name of its image, or another one
follows it. -/
lemma NamedBy.eq_or_exists_later {directive name : String} {before after : List String}
    (h : NamedBy directive image)
    (hfields : Directive.fields directive = .ok (before ++ field :: after))
    (hname : GivesName field name) :
    image.name = name ∨ ∃ later ∈ after, ∃ name', GivesName later name' := by
  obtain ⟨front, last, rest, hread, hlast, hrest⟩ := h
  rw [hfields] at hread
  rcases List.append_eq_append_iff.1 (Except.ok.inj hread) with
    ⟨between, rfl, hcut⟩ | ⟨between, rfl, hcut⟩
  · cases between with
    | nil =>
      obtain ⟨rfl, rfl⟩ := List.cons.inj hcut
      exact Or.inl (hlast.unique hname)
    | cons first between =>
      obtain ⟨rfl, rfl⟩ := List.cons.inj hcut
      exact Or.inr ⟨last, by simp, image.name, hlast⟩
  · cases between with
    | nil =>
      obtain ⟨rfl, rfl⟩ := List.cons.inj hcut
      exact Or.inl (hlast.unique hname)
    | cons first between =>
      obtain ⟨rfl, rfl⟩ := List.cons.inj hcut
      exact absurd hname (hrest field (by simp) name)

/-- **The names of the images** that are read.  In a list of names they are the fields, and in any
other form each directive gives one image the last of its names.  So a name is lost only in that
form, and only to another name behind it in the same directive. -/
theorem names_of_parseAll (h : parseAll directives = .ok images) :
    (IsNameList directives → ∃ directive fields, directives = [directive] ∧
      Directive.fields directive = .ok fields ∧ images.map Image.name = fields.map trimmed) ∧
    (¬ IsNameList directives → List.Forall₂ NamedBy directives images) ∧
    ∀ directive ∈ directives, ∀ before field after name,
      Directive.fields directive = .ok (before ++ field :: after) → GivesName field name →
      (∃ image ∈ images, image.name = name) ∨
        ¬ IsNameList directives ∧ ∃ later ∈ after, ∃ name', GivesName later name' := by
  refine ⟨?_, forall₂_namedBy h, ?_⟩
  · rintro ⟨directive, fields, rfl, hfields, hplain⟩
    exact ⟨directive, fields, rfl, hfields, names_of_plain h hfields hplain⟩
  intro directive hmem before field after name hfields hname
  by_cases hlist : IsNameList directives
  · obtain ⟨only, fields, rfl, hread, hplain⟩ := hlist
    obtain rfl := List.mem_singleton.1 hmem
    obtain rfl := Except.ok.inj (hread.symm.trans hfields)
    have hword : GivesName field (trimmed field) := .word (hplain field (by simp))
    have hmem : name ∈ images.map Image.name := by
      rw [names_of_plain h hread hplain, hname.unique hword]
      exact List.mem_map_of_mem (by simp)
    exact Or.inl (List.mem_map.1 hmem)
  · obtain ⟨image, himage, hnamed⟩ := exists_namedBy (forall₂_namedBy h hlist) hmem
    rcases hnamed.eq_or_exists_later hfields hname with heq | hlater
    · exact Or.inl ⟨image, himage, heq⟩
    · exact Or.inr ⟨hlist, hlater⟩

/-- The word of the first directive gives way to the key behind it; the second directive keeps its
word. -/
theorem names_of_parseAll_renamed :
    parseAll ["a/b,name=c/d,enable=false", "\" e \""] = .ok [⟨"c/d", false⟩, ⟨"e", true⟩] ∧
    Directive.fields "a/b,name=c/d,enable=false" = .ok ["a/b", "name=c/d", "enable=false"] ∧
    GivesName "a/b" "a/b" ∧
    ((∃ image ∈ [Image.mk "c/d" false, ⟨"e", true⟩], image.name = "a/b") ∨
      ¬ IsNameList ["a/b,name=c/d,enable=false", "\" e \""] ∧
        ∃ later ∈ ["name=c/d", "enable=false"], ∃ name', GivesName later name') := by
  have hread : parseAll ["a/b,name=c/d,enable=false", "\" e \""] =
      .ok [⟨"c/d", false⟩, ⟨"e", true⟩] := by cbv
  have hfields : Directive.fields "a/b,name=c/d,enable=false" =
      .ok ["a/b", "name=c/d", "enable=false"] := by cbv
  have hname : GivesName "a/b" "a/b" := GivesName.word (by decide)
  exact ⟨hread, hfields, hname,
    (names_of_parseAll hread).2.2 _ (by simp) [] _ _ _ hfields hname⟩

/-- Two lines are not a list of names, so the second word of a line drops the first. -/
theorem name_dropped_of_two_lines :
    parseAll ["a,b", "c"] = .ok [⟨"b", true⟩, ⟨"c", true⟩] ∧
    Directive.fields "a,b" = .ok ["a", "b"] ∧ GivesName "a" "a" ∧
    ¬ ∃ image ∈ [Image.mk "b" true, ⟨"c", true⟩], image.name = "a" :=
  ⟨by cbv, by cbv, .word (by decide), by decide⟩

/-! ## The two forms agree -/

/-- A name that a bare word can give: it is not empty, has no blanks around it and no equals
sign. -/
structure IsWord (name : String) : Prop where
  trimmed : trimmed name = name
  ne_empty : name ≠ ""
  no_equals : '=' ∉ name.toList

variable {name : String} {names : List String}

lemma IsWord.not_blank (h : IsWord name) : allBlank name.toList = false := by
  by_contra hblank
  rw [Bool.not_eq_false] at hblank
  have hstart : trimStart name.toList = [] :=
    List.dropWhile_eq_nil_iff.2 (List.all_eq_true.1 hblank)
  have hnil : Text.trimmed name = "" := by
    rw [Text.trimmed, trim, hstart]
    rfl
  exact h.ne_empty (h.trimmed.symm.trans hnil)

lemma fields_ofFields_of_isWord (h : ∀ name ∈ names, IsWord name) :
    Directive.fields (Directive.ofFields names) = .ok names :=
  (Directive.fields_ofFields_eq_ok_iff names).2 fun name hname => (h name hname).not_blank

/-- The compact form: all names in one directive. -/
lemma parseAll_of_isWord (h : ∀ name ∈ names, IsWord name) :
    parseAll [Directive.ofFields names] = .ok (names.map fun name => ⟨name, true⟩) := by
  have hplain : ∀ name ∈ names, '=' ∉ name.toList := fun name hname => (h name hname).no_equals
  have himages : names.map (fun name => (⟨Text.trimmed name, true⟩ : Image)) =
      names.map fun name => ⟨name, true⟩ :=
    List.map_congr_left fun name hname => by rw [(h name hname).trimmed]
  rw [parseAll, fields_ofFields_of_isWord h]
  simp only [bind, Except.bind, ofNames?_eq_some hplain, himages]

/-- The full form: a name in a directive of its own. -/
lemma parse_of_isWord (h : IsWord name) :
    parse (Directive.ofFields [name]) = .ok ⟨name, true⟩ := by
  have hfields : Directive.fields (Directive.ofFields [name]) = .ok [name] :=
    fields_ofFields_of_isWord (by simpa using h)
  have hfield : applyField ⟨"", true⟩ name = .ok ⟨name, true⟩ := by
    rw [applyField, Directive.pair?_eq_none_iff.2 h.no_equals]
    simp only [h.trimmed]
  have himage : ofFields [name] = .ok ⟨name, true⟩ := by
    rw [ofFields, List.foldlM_cons, hfield]
    exact if_neg h.ne_empty
  rw [parse, hfields]
  show (ofFields [name]).mapError _ = _
  rw [himage]
  rfl

/-- **The two forms agree.**  Names that bare words can give are the same images in one directive
and in a directive each, whatever commas and quotes they have. -/
theorem parseAll_of_names (h : ∀ name ∈ names, IsWord name) :
    parseAll [Directive.ofFields names] = .ok (names.map fun name => ⟨name, true⟩) ∧
    parseAll (names.map fun name => Directive.ofFields [name]) =
      .ok (names.map fun name => ⟨name, true⟩) := by
  refine ⟨parseAll_of_isWord h, ?_⟩
  match names with
  | [] => rfl
  -- a single directive without equals signs is a list of names again
  | [name] => exact parseAll_of_isWord h
  | first :: next :: others => exact mapM_map_eq_ok fun name hname => parse_of_isWord (h name hname)

/-- Names with a comma, with quotes and with a blank inside. -/
theorem parseAll_of_quoted_names :
    (∀ name ∈ ["a/b", "c, d", "\"e\" f"], IsWord name) ∧
    parseAll ["a/b,\"c, d\",\"\"\"e\"\" f\""] =
      .ok [⟨"a/b", true⟩, ⟨"c, d", true⟩, ⟨"\"e\" f", true⟩] ∧
    parseAll ["a/b", "\"c, d\"", "\"\"\"e\"\" f\""] =
      .ok [⟨"a/b", true⟩, ⟨"c, d", true⟩, ⟨"\"e\" f", true⟩] := by
  have hwords : ∀ name ∈ ["a/b", "c, d", "\"e\" f"], IsWord name := by
    simp only [List.forall_mem_cons]
    exact ⟨⟨by decide, by decide, by decide⟩, ⟨by decide, by decide, by decide⟩,
      ⟨by decide, by decide, by decide⟩, by simp⟩
  exact ⟨hwords, parseAll_of_names hwords⟩

end ImageTags.Image
