import Mathlib
import ImageTags.Json.Printer
import ImageTags.Json.Reader

/-!
# JSON that was written is read back

The printer puts blanks between the parts of a document as its layout says; the reader skips blanks
there, so it does not matter which layout was chosen, only that it adds nothing but blanks
(`Layout.Blank`).  What a value leaves behind it in the text is the rest for the reader, so each
part is read back in front of any rest, and the parts are put together by induction on the value.

The reader has fuel.  Every call takes one unit of it, and there are at most two calls for each
character that was written, which is what the reader gives itself.

* `IsText` — the values that are built of texts; no numbers are among them.
* `readString?_quote` — a text in quotes.
* **`readValue?_write`** — a value in front of any rest.
* **`parse?_compact`**, **`parse?_pretty`** — documents in both layouts.
-/

namespace ImageTags.Json

/-! ## Blanks -/

lemma skipSpace_append {blanks : List Char} (h : ∀ c ∈ blanks, isSpace c = true)
    (cs : List Char) : skipSpace (blanks ++ cs) = skipSpace cs := by
  rw [skipSpace, List.dropWhile_append_of_pos h, skipSpace]

lemma skipSpace_cons {c : Char} (h : isSpace c = false) (cs : List Char) :
    skipSpace (c :: cs) = c :: cs := by
  rw [skipSpace, List.dropWhile_cons_of_neg (by simp [h])]

/-- A layout that adds nothing but blanks between the parts of a document. -/
structure Layout.Blank (layout : Layout) : Prop where
  lineBreak : ∀ depth, ∀ c ∈ layout.lineBreak depth, isSpace c = true
  colon : ∃ blanks, layout.colon = ':' :: blanks ∧ ∀ c ∈ blanks, isSpace c = true

lemma Layout.blank_compact : Layout.compact.Blank where
  lineBreak := by simp [Layout.compact]
  colon := ⟨[], rfl, by simp⟩

lemma Layout.blank_pretty : Layout.pretty.Blank where
  lineBreak depth c hc := by
    rcases List.mem_cons.1 hc with rfl | hc
    · rfl
    · rw [List.eq_of_mem_replicate hc]
      rfl
  colon := ⟨[' '], rfl, by simp [isSpace]⟩

/-! ## Strings -/

/-- The code of a control character is found again in its hexadecimal digits. -/
lemma readHex4?_control {n : Nat} (h : n < 0x20) :
    readHex4? ['0', '0', hexDigit (n / 16), hexDigit (n % 16)] = some (n, []) := by
  have hall : ∀ n < 0x20,
      readHex4? ['0', '0', hexDigit (n / 16), hexDigit (n % 16)] = some (n, []) := by
    decide
  exact hall n h

/-- A character that stands for itself. -/
lemma readCodes?_cons {c : Char} (hquote : c ≠ '"') (hslash : c ≠ '\\')
    (hcontrol : ¬ c.toNat < 0x20) (cs : List Char) :
    readCodes? (c :: cs) = (readCodes? cs).map fun (codes, rest) => (c.toNat :: codes, rest) := by
  rw [readCodes?.eq_def]
  split <;> simp_all

/-- **A character is read back from its written form.** -/
theorem readCodes?_escape (c : Char) (cs : List Char) :
    readCodes? (escape c ++ cs) =
      (readCodes? cs).map fun (codes, rest) => (c.toNat :: codes, rest) := by
  unfold escape
  split_ifs with h₁ h₂ h₃ h₄ h₅ h₆ h₇ h₈
  · subst h₁; rfl
  · subst h₂; rfl
  · subst h₃; rfl
  · subst h₄; rfl
  · subst h₅; rfl
  · subst h₆; rfl
  · subst h₇; rfl
  · simp only [List.cons_append, List.nil_append, readCodes?, readHex4?_control h₈]
  · exact readCodes?_cons h₁ h₂ h₈ cs

lemma readCodes?_flatMap_escape (cs rest : List Char) :
    readCodes? (cs.flatMap escape ++ '"' :: rest) = some (cs.map Char.toNat, rest) := by
  induction cs with
  | nil => rfl
  | cons c cs ih =>
    rw [List.flatMap_cons, List.append_assoc, readCodes?_escape, ih]
    rfl

/-- No character is half of a surrogate pair. -/
lemma charsOfCodes?_map_toNat (cs : List Char) : charsOfCodes? (cs.map Char.toNat) = some cs := by
  induction cs with
  | nil => rfl
  | cons c cs ih =>
    have hvalid : c.toNat < 0xD800 ∨ 0xDFFF < c.toNat ∧ c.toNat < 0x110000 := c.valid
    have hhigh : ¬ isHighSurrogate c.toNat = true := by
      simp only [isHighSurrogate, Bool.and_eq_true, decide_eq_true_eq]
      omega
    have hlow : ¬ isLowSurrogate c.toNat = true := by
      simp only [isLowSurrogate, Bool.and_eq_true, decide_eq_true_eq]
      omega
    rw [List.map_cons, charsOfCodes?.eq_def]
    simp only [if_neg hhigh, if_neg hlow, ih, Option.map_some, Char.ofNat_toNat]

/-- **A text in quotes is read back.** -/
theorem readString?_quote (s : String) (rest : List Char) :
    readString? (s.toList.flatMap escape ++ '"' :: rest) = some (some s, rest) := by
  rw [readString?, readCodes?_flatMap_escape]
  simp [charsOfCodes?_map_toNat]

/-! ## Values -/

/-- A value that is built of texts: every string and every name is a text, and there are no
numbers. -/
inductive IsText : Json → Prop
  | null : IsText null
  | bool (value : Bool) : IsText (bool value)
  | text (s : String) : IsText (ofText s)
  | array {elements : List Json} (h : ∀ e ∈ elements, IsText e) : IsText (array elements)
  | object {members : List (String × Json)} (h : ∀ m ∈ members, IsText m.2) :
      IsText (ofMembers members)

variable {layout : Layout}

/-- A value is read back in front of any rest. -/
def ReadBack (layout : Layout) (v : Json) : Prop :=
  ∀ depth fuel rest, 2 * (write layout depth v).length ≤ fuel →
    readValue? fuel (write layout depth v ++ rest) = some (v, rest)

lemma readValue?_blanks {blanks : List Char} (h : ∀ c ∈ blanks, isSpace c = true) (fuel : Nat)
    (cs : List Char) : readValue? fuel (blanks ++ cs) = readValue? fuel cs := by
  cases fuel with
  | zero => rfl
  | succ fuel => rw [readValue?, skipSpace_append h, readValue?]

/-- A value starts with a character that is neither a blank nor a closing bracket. -/
lemma IsText.exists_write_eq_cons {v : Json} (h : IsText v) (layout : Layout) (depth : Nat) :
    ∃ c cs, write layout depth v = c :: cs ∧ isSpace c = false ∧ c ≠ ']' := by
  cases h with
  | null => exact ⟨'n', _, by rw [write]; rfl, rfl, by decide⟩
  | bool value =>
    cases value with
    | true => exact ⟨'t', _, by rw [write]; rfl, rfl, by decide⟩
    | false => exact ⟨'f', _, by rw [write]; rfl, rfl, by decide⟩
  | text s => exact ⟨'"', _, by rw [ofText, write]; rfl, rfl, by decide⟩
  | @array elements h =>
    cases elements with
    | nil => exact ⟨'[', _, by rw [write], rfl, by decide⟩
    | cons element elements => exact ⟨'[', _, by rw [write]; rfl, rfl, by decide⟩
  | @object members h =>
    cases members with
    | nil => exact ⟨'{', _, by rw [ofMembers, List.map_nil, write], rfl, by decide⟩
    | cons m members => exact ⟨'{', _, by rw [ofMembers, List.map_cons, write]; rfl, rfl, by decide⟩

/-- A value takes at least one call of the reader. -/
lemma IsText.readBack_of_succ {v : Json} (h : IsText v)
    (hsucc : ∀ depth fuel rest, 2 * (write layout depth v).length ≤ fuel + 1 →
      readValue? (fuel + 1) (write layout depth v ++ rest) = some (v, rest)) :
    ReadBack layout v := by
  intro depth fuel rest hfuel
  cases fuel with
  | zero =>
    obtain ⟨c, cs, hwrite, -⟩ := h.exists_write_eq_cons layout depth
    simp [hwrite] at hfuel
  | succ fuel => exact hsucc depth fuel rest hfuel

/-- Behind the opening bracket of an array there is an element, unless there is the closing one. -/
lemma readValue?_array {fuel : Nat} {cs after : List Char} {c : Char}
    (hspace : skipSpace cs = c :: after) (hc : c ≠ ']') :
    readValue? (fuel + 1) ('[' :: cs) =
      (readElements? fuel cs).map fun (elements, rest) => (array elements, rest) := by
  rw [readValue?, skipSpace_cons rfl]
  simp only [hspace]
  split
  · next heq => exact absurd (List.cons.inj heq).1 hc
  · rfl

/-- Behind the opening bracket of an object there is a member, unless there is the closing one. -/
lemma readValue?_object {fuel : Nat} {cs after : List Char} {c : Char}
    (hspace : skipSpace cs = c :: after) (hc : c ≠ '}') :
    readValue? (fuel + 1) ('{' :: cs) =
      (readMembers? fuel cs).map fun (members, rest) => (object members, rest) := by
  rw [readValue?, skipSpace_cons rfl]
  simp only [hspace]
  split
  · next heq => exact absurd (List.cons.inj heq).1 hc
  · rfl

/-! ## Elements and members -/

lemma writeElements_cons (layout : Layout) (depth : Nat) (element : Json) (elements : List Json) :
    writeElements layout depth (element :: elements) =
      layout.lineBreak depth ++ (write layout depth element ++
        if elements = [] then [] else ',' :: writeElements layout depth elements) := by
  cases elements with
  | nil => simp [writeElements]
  | cons next elements => simp [writeElements]

/-- The elements of an array are read back if each of them is. -/
lemma readElements?_write (hlayout : layout.Blank) {element : Json} {elements : List Json}
    (h : ∀ e ∈ element :: elements, ReadBack layout e) {depth fuel : Nat} {blanks : List Char}
    (hblanks : ∀ c ∈ blanks, isSpace c = true) (rest : List Char)
    (hfuel : 2 * (writeElements layout depth (element :: elements)).length + 1 ≤ fuel) :
    readElements? fuel
        (writeElements layout depth (element :: elements) ++ (blanks ++ ']' :: rest)) =
      some (element :: elements, rest) := by
  -- every element takes one unit of fuel from the list, and the comma behind it makes up for that
  induction elements generalizing element fuel with
  | nil =>
    obtain ⟨fuel, rfl⟩ := Nat.exists_eq_succ_of_ne_zero (Nat.ne_zero_of_lt hfuel)
    rw [writeElements_cons, if_pos rfl, List.append_nil] at hfuel ⊢
    rw [List.length_append] at hfuel
    rw [readElements?, List.append_assoc, readValue?_blanks (hlayout.lineBreak depth),
      h element List.mem_cons_self depth fuel _ (by omega)]
    simp only [skipSpace_append hblanks, skipSpace_cons (c := ']') rfl]
  | cons next elements ih =>
    obtain ⟨fuel, rfl⟩ := Nat.exists_eq_succ_of_ne_zero (Nat.ne_zero_of_lt hfuel)
    obtain ⟨helement, helements⟩ := List.forall_mem_cons.1 h
    rw [writeElements_cons, if_neg (List.cons_ne_nil next elements)] at hfuel ⊢
    simp only [List.length_append, List.length_cons] at hfuel
    have hrest := @ih next helements fuel (by omega)
    rw [readElements?, List.append_assoc, readValue?_blanks (hlayout.lineBreak depth),
      List.append_assoc, helement depth fuel _ (by omega), List.cons_append]
    simp only [skipSpace_cons (c := ',') rfl, hrest, Option.map_some]

/-- Members whose names are texts, as they stand in an object. -/
def named (members : List (String × Json)) : List (Option String × Json) :=
  members.map fun (name, value) => (some name, value)

/-- The text of a member up to the end of its value. -/
def memberText (layout : Layout) (depth : Nat) (member : String × Json) : List Char :=
  layout.lineBreak depth ++ '"' :: (member.1.toList.flatMap escape ++ '"' ::
    (layout.colon ++ write layout depth member.2))

lemma writeMembers_cons (layout : Layout) (depth : Nat) (member : String × Json)
    (members : List (String × Json)) :
    writeMembers layout depth (named (member :: members)) = memberText layout depth member ++
      if members = [] then [] else ',' :: writeMembers layout depth (named members) := by
  cases members with
  | nil => simp [named, memberText, writeMembers, contentText, quoteText]
  | cons next members => simp [named, memberText, writeMembers, contentText, quoteText]

/-- A member is read back if its value is, and what follows it tells whether there are more. -/
lemma readMembers?_memberText (hlayout : layout.Blank) {member : String × Json}
    (hmember : ReadBack layout member.2) {depth fuel : Nat}
    (hfuel : 2 * (memberText layout depth member).length ≤ fuel) (rest after : List Char) :
    (skipSpace rest = ',' :: after →
      readMembers? (fuel + 1) (memberText layout depth member ++ rest) =
        (readMembers? fuel after).map fun (members, rest) =>
          ((some member.1, member.2) :: members, rest)) ∧
    (skipSpace rest = '}' :: after →
      readMembers? (fuel + 1) (memberText layout depth member ++ rest) =
        some ([(some member.1, member.2)], after)) := by
  obtain ⟨blanks, hcolon, hblanks⟩ := hlayout.colon
  have hvalue : readValue? fuel (write layout depth member.2 ++ rest) = some (member.2, rest) := by
    refine hmember depth fuel rest ?_
    simp only [memberText, List.length_append, List.length_cons] at hfuel
    omega
  refine ⟨fun hnext => ?comma, fun hlast => ?brace⟩
  all_goals
    rw [memberText, List.append_assoc, readMembers?, skipSpace_append (hlayout.lineBreak depth),
      List.cons_append, skipSpace_cons rfl]
    simp only [List.append_assoc, List.cons_append, readString?_quote, hcolon,
      skipSpace_cons (c := ':') rfl, readValue?_blanks hblanks, hvalue]
  case comma => simp only [hnext]
  case brace => simp only [hlast]

/-- The members of an object are read back if each of their values is. -/
lemma readMembers?_write (hlayout : layout.Blank) {member : String × Json}
    {members : List (String × Json)} (h : ∀ m ∈ member :: members, ReadBack layout m.2)
    {depth fuel : Nat} {blanks : List Char} (hblanks : ∀ c ∈ blanks, isSpace c = true)
    (rest : List Char)
    (hfuel : 2 * (writeMembers layout depth (named (member :: members))).length + 1 ≤ fuel) :
    readMembers? fuel
        (writeMembers layout depth (named (member :: members)) ++ (blanks ++ '}' :: rest)) =
      some (named (member :: members), rest) := by
  induction members generalizing member fuel with
  | nil =>
    obtain ⟨fuel, rfl⟩ := Nat.exists_eq_succ_of_ne_zero (Nat.ne_zero_of_lt hfuel)
    rw [writeMembers_cons, if_pos rfl, List.append_nil] at hfuel ⊢
    refine (readMembers?_memberText hlayout (h member List.mem_cons_self) (by omega) _ rest).2 ?_
    rw [skipSpace_append hblanks, skipSpace_cons rfl]
  | cons next members ih =>
    obtain ⟨fuel, rfl⟩ := Nat.exists_eq_succ_of_ne_zero (Nat.ne_zero_of_lt hfuel)
    obtain ⟨hmember, hmembers⟩ := List.forall_mem_cons.1 h
    rw [writeMembers_cons, if_neg (List.cons_ne_nil next members)] at hfuel ⊢
    rw [List.length_append, List.length_cons] at hfuel
    have hrest := @ih next hmembers fuel (by omega)
    rw [List.append_assoc, List.cons_append,
      (readMembers?_memberText hlayout hmember (by omega) _ _).1 (skipSpace_cons rfl _), hrest]
    rfl

/-! ## Whole values -/

lemma write_ofText (layout : Layout) (depth : Nat) (s : String) :
    write layout depth (ofText s) = '"' :: (s.toList.flatMap escape ++ ['"']) := by
  simp [ofText, write, contentText, quoteText]

lemma readBack_array (hlayout : layout.Blank) {elements : List Json}
    (h : ∀ e ∈ elements, IsText e) (hback : ∀ e ∈ elements, ReadBack layout e) :
    ReadBack layout (array elements) := by
  refine (IsText.array h).readBack_of_succ fun depth fuel rest hfuel => ?_
  cases elements with
  | nil =>
    rw [write]
    rfl
  | cons element elements =>
    have hwrite : write layout depth (array (element :: elements)) ++ rest =
        '[' :: (writeElements layout (depth + 1) (element :: elements) ++
          (layout.lineBreak depth ++ ']' :: rest)) := by
      simp [write]
    have hlength := congrArg List.length hwrite
    simp only [List.length_append, List.length_cons] at hlength
    -- what follows the opening bracket is not the closing one
    obtain ⟨c, cs, helement, hspace, hc⟩ :=
      (h element List.mem_cons_self).exists_write_eq_cons layout (depth + 1)
    obtain ⟨after, hskip⟩ : ∃ after, skipSpace (writeElements layout (depth + 1)
        (element :: elements) ++ (layout.lineBreak depth ++ ']' :: rest)) = c :: after := by
      rw [writeElements_cons, helement, List.append_assoc,
        skipSpace_append (hlayout.lineBreak (depth + 1)), List.cons_append, List.cons_append,
        skipSpace_cons hspace]
      exact ⟨_, rfl⟩
    rw [hwrite, readValue?_array hskip hc,
      readElements?_write hlayout hback (hlayout.lineBreak depth) rest (by omega)]
    rfl

lemma readBack_object (hlayout : layout.Blank) {members : List (String × Json)}
    (h : ∀ m ∈ members, IsText m.2) (hback : ∀ m ∈ members, ReadBack layout m.2) :
    ReadBack layout (ofMembers members) := by
  refine (IsText.object h).readBack_of_succ fun depth fuel rest hfuel => ?_
  cases members with
  | nil =>
    rw [ofMembers, List.map_nil, write]
    rfl
  | cons member members =>
    have hwrite : write layout depth (ofMembers (member :: members)) ++ rest =
        '{' :: (writeMembers layout (depth + 1) (named (member :: members)) ++
          (layout.lineBreak depth ++ '}' :: rest)) := by
      simp [ofMembers, named, write]
    have hlength := congrArg List.length hwrite
    simp only [List.length_append, List.length_cons] at hlength
    obtain ⟨after, hskip⟩ : ∃ after, skipSpace (writeMembers layout (depth + 1)
        (named (member :: members)) ++ (layout.lineBreak depth ++ '}' :: rest)) = '"' :: after := by
      rw [writeMembers_cons, memberText, List.append_assoc, List.append_assoc,
        skipSpace_append (hlayout.lineBreak (depth + 1)), List.cons_append, skipSpace_cons rfl]
      exact ⟨_, rfl⟩
    rw [hwrite, readValue?_object hskip (by decide),
      readMembers?_write hlayout hback (hlayout.lineBreak depth) rest (by omega)]
    rfl

/-- **A value that is built of texts is read back in front of any rest.** -/
theorem readValue?_write (hlayout : layout.Blank) {v : Json} (h : IsText v) :
    ReadBack layout v := by
  induction h with
  | null =>
    refine IsText.null.readBack_of_succ fun depth fuel rest _ => ?_
    rw [write]
    rfl
  | bool value =>
    refine (IsText.bool value).readBack_of_succ fun depth fuel rest _ => ?_
    cases value <;>
    · rw [write]
      rfl
  | text s =>
    refine (IsText.text s).readBack_of_succ fun depth fuel rest _ => ?_
    rw [write_ofText, List.cons_append, List.append_assoc, readValue?, skipSpace_cons rfl]
    simp only [List.singleton_append, readString?_quote]
    rfl
  | array h ih => exact readBack_array hlayout h ih
  | object h ih => exact readBack_object hlayout h ih

/-! ## Documents -/

lemma ofChars?_write (hlayout : layout.Blank) {v : Json} (h : IsText v) :
    ofChars? (write layout 0 v) = some v := by
  have hread := readValue?_write hlayout h 0 (2 * (write layout 0 v).length + 1) [] (by omega)
  rw [List.append_nil] at hread
  rw [ofChars?, hread]
  rfl

/-- **A document without blanks is read back.** -/
theorem parse?_compact {v : Json} (h : IsText v) : parse? v.compact = some v := by
  rw [parse?, compact, String.toList_ofList, ofChars?_write Layout.blank_compact h]

/-- **A document over several lines is read back.** -/
theorem parse?_pretty {v : Json} (h : IsText v) : parse? v.pretty = some v := by
  rw [parse?, pretty, String.toList_ofList, ofChars?_write Layout.blank_pretty h]

end ImageTags.Json
