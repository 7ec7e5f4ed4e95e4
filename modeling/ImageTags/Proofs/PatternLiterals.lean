import Mathlib
import ImageTags.Pattern.Literal

/-!
# Patterns between slashes

A pattern may be an expression between slashes with letters behind it.  What such a pattern is, is a
matter of its slashes alone: the last one parts the expression from the letters, and the expression
is not empty.  The letters come first: a wrong one is found however wrong the expression is.  Right
ones count as a set, so that their order and their number make no difference, nor do those that
stand for no mode.

* `IsLiteral` — a pattern that is an expression between slashes; `splitLiteral?_eq_some_iff`.
* `modesOf?_eq` — the modes that the letters stand for.
* `compile_of_plain`, `compile_of_isLiteral` — what a pattern is compiled to.
* **`compile_by_form`** — the pattern, its letters, and patterns that match alike.

The engine that compiles the expressions is left open.
-/

namespace ImageTags.Pattern

open Text

/-! ## The form of a pattern -/

/-- The pattern is an expression between slashes with letters behind it. -/
structure IsLiteral (pattern expression letters : List Char) : Prop where
  eq_append : pattern = '/' :: (expression ++ '/' :: letters)
  expression_ne_nil : expression ≠ []
  slash_notMem : '/' ∉ letters

/-- **A pattern is split if it is an expression between slashes**, and into that expression and the
letters. -/
theorem splitLiteral?_eq_some_iff {pattern expression letters : List Char} :
    splitLiteral? pattern = some (expression, letters) ↔
      IsLiteral pattern expression letters := by
  rw [splitLiteral?, Option.bind_eq_bind, Option.bind_eq_some_iff]
  constructor
  · rintro ⟨body, hbody, hbind⟩
    obtain ⟨⟨before, after⟩, hsplit, hpair⟩ := Option.bind_eq_some_iff.1 hbind
    obtain ⟨rfl, hslash⟩ := splitLast?_eq_some_iff.1 hsplit
    by_cases hne : before = []
    · simp [hne] at hpair
    · obtain ⟨rfl, rfl⟩ : before = expression ∧ after = letters := by simpa [hne] using hpair
      exact ⟨stripStart?_eq_some_iff.1 hbody, hne, hslash⟩
  · rintro ⟨rfl, hne, hslash⟩
    refine ⟨expression ++ '/' :: letters, stripStart?_eq_some_iff.2 rfl, ?_⟩
    refine Option.bind_eq_some_iff.2 ⟨_, splitLast?_eq_some_iff.2 ⟨rfl, hslash⟩, ?_⟩
    simp [hne]

/-- A pattern is an expression between slashes in one way at most. -/
lemma IsLiteral.unique {pattern expression expression' letters letters' : List Char}
    (h : IsLiteral pattern expression letters) (h' : IsLiteral pattern expression' letters') :
    expression = expression' ∧ letters = letters' := by
  have hsplit := splitLiteral?_eq_some_iff.2 h
  rw [splitLiteral?_eq_some_iff.2 h'] at hsplit
  simpa [eq_comm] using hsplit

/-- A pattern that is no expression between slashes is not split. -/
lemma splitLiteral?_eq_none {pattern : List Char}
    (h : ∀ expression letters, ¬ IsLiteral pattern expression letters) :
    splitLiteral? pattern = none :=
  Option.eq_none_iff_forall_ne_some.2 fun ⟨expression, letters⟩ hsplit =>
    h expression letters (splitLiteral?_eq_some_iff.1 hsplit)

/-! ## Letters -/

/-- The letters that can stand behind an expression. -/
def knownLetters : List Char := ['g', 'i', 'm', 's', 'u', 'y']

/-- The modes with those set that letters stand for. -/
def Modes.withLetters (m : Modes) (letters : List Char) : Modes :=
  { m with
    ignoreCase := m.ignoreCase || decide ('i' ∈ letters)
    multiLine := m.multiLine || decide ('m' ∈ letters)
    dotAll := m.dotAll || decide ('s' ∈ letters) }

lemma Modes.withLetters_nil (m : Modes) : m.withLetters [] = m := by
  simp [withLetters]

/-- Letters are worked in one after the other. -/
lemma Modes.withLetters_cons (m : Modes) (letter : Char) (letters : List Char) :
    (m.withLetters [letter]).withLetters letters = m.withLetters (letter :: letters) := by
  simp [withLetters, Bool.or_assoc, Bool.decide_or]

/-- One letter is worked in if it is known; three of them stand for no mode. -/
lemma Modes.withFlag?_eq (m : Modes) (letter : Char) :
    m.withFlag? letter = if letter ∈ knownLetters then some (m.withLetters [letter]) else none := by
  have hidle (h : letter ∈ ['g', 'u', 'y']) : m.withLetters [letter] = m := by
    obtain rfl | rfl | rfl : letter = 'g' ∨ letter = 'u' ∨ letter = 'y' := by simpa using h
    all_goals simp [withLetters]
  unfold withFlag?
  split_ifs <;> simp_all [withLetters, knownLetters]

/-- **The modes that letters stand for**: which of `i`, `m` and `s` occur is all that matters, if
there is no letter that is not known. -/
theorem foldlM_withFlag? (m : Modes) (letters : List Char) :
    letters.foldlM Modes.withFlag? m =
      if ∀ letter ∈ letters, letter ∈ knownLetters then some (m.withLetters letters) else none := by
  induction letters generalizing m with
  | nil => simp [Modes.withLetters_nil]
  | cons letter letters ih =>
    rw [List.foldlM_cons, Modes.withFlag?_eq]
    simp only [List.forall_mem_cons]
    by_cases hletter : letter ∈ knownLetters
    · rw [if_pos hletter, Option.bind_eq_bind, Option.bind_some, ih, Modes.withLetters_cons]
      simp only [hletter, true_and]
    · rw [if_neg hletter, if_neg fun h => hletter h.1]
      rfl

/-- The modes in which an expression is read with letters behind it: of those that hold at first
only the three are changed for which there is a letter. -/
def Modes.ofLetters (letters : List Char) : Modes :=
  { ignoreCase := 'i' ∈ letters, multiLine := 'm' ∈ letters, dotAll := 's' ∈ letters }

lemma modesOf?_eq (letters : List Char) :
    modesOf? letters =
      if ∀ letter ∈ letters, letter ∈ knownLetters then some (.ofLetters letters) else none := by
  rw [modesOf?, foldlM_withFlag?]
  simp [Modes.withLetters, Modes.ofLetters]

/-! ## Compiling -/

variable [Engine]

/-- What an expression is compiled to in given modes.  A failure names the pattern that the
expression comes from. -/
def compileIn (modes : Modes) (expression : List Char) (pattern : String) :
    Except Failure Engine.Program :=
  match Engine.compile? modes expression with
  | some program => .ok program
  | none => .error (.pattern pattern)

variable {pattern pattern' : String} {expression letters letters' : List Char}

lemma compileIn_ne_invalidAttribute (modes : Modes) (expression : List Char) (pattern : String)
    (name text : String) :
    compileIn modes expression pattern ≠ .error (.invalidAttribute name text) := by
  rw [compileIn]
  split <;> simp

lemma compile_eq (pattern : String) :
    compile pattern =
      match splitLiteral? pattern.toList with
      | none => compileIn {} pattern.toList pattern
      | some (expression, letters) =>
        match modesOf? letters with
        | some modes => compileIn modes expression pattern
        | none => .error (.invalidAttribute "pattern" pattern) :=
  rfl

/-- **A pattern that is not between slashes is an expression** in the modes that hold at first. -/
theorem compile_of_plain
    (h : ∀ expression letters, ¬ IsLiteral pattern.toList expression letters) :
    compile pattern = compileIn {} pattern.toList pattern := by
  rw [compile_eq, splitLiteral?_eq_none h]

/-- **A pattern between slashes is its expression** in the modes that the letters stand for, unless
one of the letters is not known. -/
theorem compile_of_isLiteral (h : IsLiteral pattern.toList expression letters) :
    compile pattern =
      if ∀ letter ∈ letters, letter ∈ knownLetters then
        compileIn (.ofLetters letters) expression pattern
      else .error (.invalidAttribute "pattern" pattern) := by
  rw [compile_eq, splitLiteral?_eq_some_iff.2 h]
  by_cases hknown : ∀ letter ∈ letters, letter ∈ knownLetters
  · simp only [modesOf?_eq, if_pos hknown]
  · simp only [modesOf?_eq, if_neg hknown]

/-- The letters are at fault if one of them is not known, whether or not the expression can be
read. -/
lemma compile_eq_invalidAttribute_iff (h : IsLiteral pattern.toList expression letters) :
    (∃ name text, compile pattern = .error (.invalidAttribute name text)) ↔
      ∃ letter ∈ letters, letter ∉ knownLetters := by
  rw [compile_of_isLiteral h]
  split_ifs with hknown
  · simpa [compileIn_ne_invalidAttribute] using hknown
  · simpa using hknown

/-- Two patterns fail both, or both match every text with the same groups. -/
inductive MatchAlike : Except Failure Engine.Program → Except Failure Engine.Program → Prop
  | fail (failure failure' : Failure) : MatchAlike (.error failure) (.error failure')
  | find {program program' : Engine.Program}
      (h : ∀ text, Engine.match? program text = Engine.match? program' text) :
      MatchAlike (.ok program) (.ok program')

/-- The pattern that a failure names is all that an expression takes from where it comes. -/
lemma matchAlike_compileIn (modes : Modes) (expression : List Char) (pattern pattern' : String) :
    MatchAlike (compileIn modes expression pattern) (compileIn modes expression pattern') := by
  rw [compileIn, compileIn]
  cases Engine.compile? modes expression with
  | none => exact .fail _ _
  | some program => exact .find fun _ => rfl

/-- Patterns with the same expression match alike if the same modes are asked for, and no letter of
either is unknown or both have one that is. -/
theorem matchAlike_of_isLiteral (h : IsLiteral pattern.toList expression letters)
    (h' : IsLiteral pattern'.toList expression letters')
    (hknown : (∀ letter ∈ letters, letter ∈ knownLetters) ↔
      ∀ letter ∈ letters', letter ∈ knownLetters)
    (hmodes : ∀ letter ∈ ['i', 'm', 's'], letter ∈ letters ↔ letter ∈ letters') :
    MatchAlike (compile pattern) (compile pattern') := by
  have hi : 'i' ∈ letters ↔ 'i' ∈ letters' := hmodes 'i' (by decide)
  have hm : 'm' ∈ letters ↔ 'm' ∈ letters' := hmodes 'm' (by decide)
  have hs : 's' ∈ letters ↔ 's' ∈ letters' := hmodes 's' (by decide)
  have hsame : Modes.ofLetters letters = .ofLetters letters' := by
    simp only [Modes.ofLetters, hi, hm, hs]
  rw [compile_of_isLiteral h, compile_of_isLiteral h', hsame]
  simp only [hknown]
  split_ifs
  · exact matchAlike_compileIn _ expression pattern pattern'
  · exact .fail _ _

/-- **What a pattern is compiled to, by its form.**  It is an expression between slashes in one way
at most, and if in none it is an expression as a whole.  Between slashes the letters are at fault if
and only if one is not known, and otherwise the expression is compiled in the modes of `i`, `m` and
`s` that occur.  Another pattern with that expression, and with the same of these three among its
letters, matches alike.  Nothing of this depends on the engine. -/
theorem compile_by_form (pattern : String) :
    (∀ expression letters, splitLiteral? pattern.toList = some (expression, letters) ↔
      IsLiteral pattern.toList expression letters) ∧
    (∀ expression letters expression' letters', IsLiteral pattern.toList expression letters →
      IsLiteral pattern.toList expression' letters' →
        expression = expression' ∧ letters = letters') ∧
    ((∀ expression letters, ¬ IsLiteral pattern.toList expression letters) →
      compile pattern = compileIn {} pattern.toList pattern) ∧
    ∀ expression letters, IsLiteral pattern.toList expression letters →
      ((∃ name text, compile pattern = .error (.invalidAttribute name text)) ↔
        ∃ letter ∈ letters, letter ∉ knownLetters) ∧
      ((∀ letter ∈ letters, letter ∈ knownLetters) →
        compile pattern = compileIn (.ofLetters letters) expression pattern) ∧
      ∀ (pattern' : String) (letters' : List Char),
        IsLiteral pattern'.toList expression letters' →
        ((∀ letter ∈ letters, letter ∈ knownLetters) ↔
          ∀ letter ∈ letters', letter ∈ knownLetters) →
        (∀ letter ∈ ['i', 'm', 's'], letter ∈ letters ↔ letter ∈ letters') →
          MatchAlike (compile pattern) (compile pattern') := by
  refine ⟨fun _ _ => splitLiteral?_eq_some_iff, fun _ _ _ _ h h' => h.unique h', compile_of_plain,
    fun expression letters h => ⟨compile_eq_invalidAttribute_iff h, fun hknown => ?_, ?_⟩⟩
  · rw [compile_of_isLiteral h, if_pos hknown]
  · intro pattern' letters' h' hknown hmodes
    exact matchAlike_of_isLiteral h h' hknown hmodes

/-- The wrong letter is found whether or not the engine can read the bracket that is not closed. -/
example : compile "/a(/b/q" = .error (.invalidAttribute "pattern" "/a(/b/q") := by cbv

end ImageTags.Pattern
