import Mathlib
import ImageTags.Builtin
import ImageTags.Proofs.TemplateWords
import ImageTags.Template.EventScope

/-!
# Dates in templates

An expression can ask for a date in a format and in a zone, both in quotes.  Everything in quotes
comes through as it is: blanks, equals signs, opening braces and the other kind of quote are not
taken for anything else.  Only the quote itself and the braces that close an expression would be.

`WrittenDate` is such an expression with the choices that one has in writing it down.  It is read in
three steps: the braces around it are found, the text between them is cut into words, and the words
are told apart as name, argument and option.

Which zones have a name is left open.

* `Text.not_infix_append_cons` — where a text cannot stand.
* `wordsFrom_inside_gap`, `wordsFrom_between_plain`, `wordsFrom_between_quoted` — a word in front
  of any rest.
* `WrittenDate.read_inside` — the expression that is read.
* **`WrittenDate.render_template`** — what the expression stands for.
-/

namespace ImageTags

/-- A text that stands on neither side of a character, and does not hold it, does not stand across
it either. -/
lemma Text.not_infix_append_cons {needle before after : List Char} {c : Char} (hc : c ∉ needle)
    (hbefore : ¬ needle <:+: before) (hafter : ¬ needle <:+: after) :
    ¬ needle <:+: before ++ c :: after := by
  -- what starts at the character without holding it is empty
  have hstart {start : List Char} (h : start <+: c :: after) (hnot : c ∉ start) : start = [] := by
    cases start with
    | nil => rfl
    | cons d start =>
      obtain ⟨rfl, -⟩ := List.cons_prefix_cons.1 h
      exact absurd List.mem_cons_self hnot
  intro h
  rcases List.infix_append_iff.1 h with h | h | ⟨first, last, rfl, hfirst, hlast⟩
  · exact hbefore h
  · rcases List.infix_cons_iff.1 h with h | h
    · rw [hstart h hc] at hbefore
      exact hbefore List.nil_infix
    · exact hafter h
  · rw [hstart hlast fun hmem => hc (List.mem_append_right first hmem), List.append_nil] at hbefore
    exact hbefore hfirst.isInfix

open Text
open Calendar (Instant Zone formatDate)

namespace Template

/-! ## Words -/

/-- A part in quotes comes through as it is. -/
lemma wordsFrom_quoted_append {quote : Char} {text : List Char} (h : quote ∉ text)
    (cs : List Char) :
    wordsFrom (.quoted quote) (text ++ quote :: cs) =
      (wordsFrom .inside cs).map fun (rest, words) => (text ++ rest, words) := by
  induction text with
  | nil =>
    rw [List.nil_append, wordsFrom, if_pos rfl]
    cases wordsFrom .inside cs <;> simp [Except.map]
  | cons c text ih =>
    obtain ⟨hc, htext⟩ := not_or.1 (mt List.mem_cons.2 h)
    rw [List.cons_append, wordsFrom, if_neg (Ne.symm hc), ih htext]
    cases wordsFrom .inside cs <;> rfl

/-- Blanks end a word. -/
lemma wordsFrom_inside_gap {gap : List Char} (hne : gap ≠ []) (h : allBlank gap = true)
    (cs : List Char) :
    wordsFrom .inside (gap ++ cs) = (wordsFrom .between cs).map fun (_, words) => ([], words) := by
  obtain ⟨c, gap, rfl⟩ := List.exists_cons_of_ne_nil hne
  simp only [allBlank, List.all_cons, Bool.and_eq_true] at h
  rw [List.cons_append, wordsFrom, if_pos h.1, wordsFrom_between_blanks h.2]

/-- A word that does not start with a quote. -/
lemma wordsFrom_between_plain {word : List Char} (hne : word ≠ [])
    (hword : ∀ c ∈ word, isBlank c = false ∧ isQuote c = false) (cs : List Char) :
    wordsFrom .between (word ++ cs) =
      (wordsFrom .inside cs).map fun (rest, words) => ([], ⟨word ++ rest, false⟩ :: words) := by
  obtain ⟨c, word, rfl⟩ := List.exists_cons_of_ne_nil hne
  obtain ⟨⟨hblank, hquote⟩, hword⟩ := List.forall_mem_cons.1 hword
  rw [List.cons_append, wordsFrom, if_neg (by simp [hblank]), if_neg (by simp [hquote]),
    wordsFrom_inside_append hword]
  cases wordsFrom .inside cs <;> rfl

lemma isBlank_of_isQuote {c : Char} (h : isQuote c = true) : isBlank c = false := by
  obtain rfl | rfl : c = '\'' ∨ c = '"' := by simpa [isQuote] using h
  all_goals decide

/-- A word that starts with a quote. -/
lemma wordsFrom_between_quoted {quote : Char} {text : List Char} (hquote : isQuote quote = true)
    (h : quote ∉ text) (cs : List Char) :
    wordsFrom .between (quote :: (text ++ quote :: cs)) =
      (wordsFrom .inside cs).map fun (rest, words) => ([], ⟨text ++ rest, true⟩ :: words) := by
  rw [wordsFrom, if_neg (by simp [isBlank_of_isQuote hquote]), if_pos hquote,
    wordsFrom_quoted_append h]
  cases wordsFrom .inside cs <;> rfl

/-- A part in quotes of a word that is under way. -/
lemma wordsFrom_inside_quoted {quote : Char} {text : List Char} (hquote : isQuote quote = true)
    (h : quote ∉ text) (cs : List Char) :
    wordsFrom .inside (quote :: (text ++ quote :: cs)) =
      (wordsFrom .inside cs).map fun (rest, words) => (text ++ rest, words) := by
  rw [wordsFrom, if_neg (by simp [isBlank_of_isQuote hquote]), if_pos hquote,
    wordsFrom_quoted_append h]

/-! ## Dates as they are written -/

/-- Blanks that may stand at the ends of an expression. -/
structure Blanks where
  text : List Char
  allBlank : Text.allBlank text = true

/-- Blanks that part two words. -/
structure Gap extends Blanks where
  ne_nil : text ≠ []

/-- A text in quotes of either kind.  It holds neither that quote nor the braces that close an
expression. -/
structure QuotedText where
  quote : Char
  text : List Char
  isQuote : Template.isQuote quote = true
  quote_notMem : quote ∉ text
  not_closing : ¬ closing <:+: text

/-- The text with its quotes. -/
def QuotedText.written (q : QuotedText) : List Char :=
  q.quote :: (q.text ++ [q.quote])

/-- The dates that there are: that of the run and that of the commit. -/
inductive DateSource where
  | run
  | commit

/-- The name of a date. -/
def DateSource.name : DateSource → String
  | run => "date"
  | commit => "commit_date"

/-- The instant that a date tells. -/
def DateSource.instant (context : Context) (now : Instant) : DateSource → Instant
  | run => now
  | commit => context.commitDate

/-- A date with a format, and with a zone or without, as it is written between braces. -/
structure WrittenDate where
  source : DateSource
  format : QuotedText
  zone? : Option (Gap × QuotedText)
  before : Blanks
  gap : Gap
  after : Blanks

namespace WrittenDate

/-- The option that chooses the zone, with the blanks before it. -/
def option (d : WrittenDate) : List Char :=
  match d.zone? with
  | none => []
  | some (gap, zone) => gap.text ++ (['t', 'z', '='] ++ zone.written)

/-- What stands between the braces. -/
def inside (d : WrittenDate) : List Char :=
  d.before.text ++ (d.source.name.toList ++ (d.gap.text ++ (d.format.written ++
    (d.option ++ d.after.text))))

/-- The template that is nothing but the date. -/
def template (d : WrittenDate) : String :=
  String.ofList (opening ++ (d.inside ++ closing))

/-- The expression that is written. -/
def expression (d : WrittenDate) : Expression where
  name := d.source.name
  arguments := [String.ofList d.format.text]
  options := d.zone?.toList.map fun (_, zone) => ("tz", String.ofList zone.text)

end WrittenDate

/-! ## Reading -/

lemma DateSource.name_ne_nil (source : DateSource) : source.name.toList ≠ [] := by
  cases source <;> decide

lemma DateSource.plain_name (source : DateSource) :
    ∀ c ∈ source.name.toList, isBlank c = false ∧ isQuote c = false := by
  cases source <;> simp [DateSource.name, isBlank, isQuote]

namespace WrittenDate

variable (d : WrittenDate)

/-- The word that chooses a zone. -/
def zoneWord (zone : QuotedText) : Word :=
  ⟨['t', 'z', '='] ++ zone.text, false⟩

/-- The words of the option, of which there are none or one. -/
lemma wordsFrom_option : wordsFrom .inside (d.option ++ d.after.text) =
    .ok ([], d.zone?.toList.map fun (_, zone) => zoneWord zone) := by
  have hafter : wordsFrom .inside d.after.text = .ok ([], []) :=
    wordsFrom_inside_blanks d.after.allBlank
  rw [option]
  cases d.zone? with
  | none => exact hafter
  | some choice =>
    obtain ⟨gap, zone⟩ := choice
    have hkey : ∀ c ∈ ['t', 'z', '='], isBlank c = false ∧ isQuote c = false := by
      simp [isBlank, isQuote]
    have hwritten : gap.text ++ (['t', 'z', '='] ++ zone.written) ++ d.after.text =
        gap.text ++ (['t', 'z', '='] ++
          (zone.quote :: (zone.text ++ zone.quote :: d.after.text))) := by
      simp [QuotedText.written]
    simp only [hwritten]
    rw [wordsFrom_inside_gap gap.ne_nil gap.allBlank, wordsFrom_between_plain (by simp) hkey,
      wordsFrom_inside_quoted zone.isQuote zone.quote_notMem, hafter]
    simp [Except.map, zoneWord]

/-- The words of a date: its name, its format, and its zone if it has one. -/
lemma words_inside : words d.inside = .ok (⟨d.source.name.toList, false⟩ :: ⟨d.format.text, true⟩ ::
    d.zone?.toList.map fun (_, zone) => zoneWord zone) := by
  rw [words, inside, wordsFrom_between_blanks d.before.allBlank,
    wordsFrom_between_plain d.source.name_ne_nil d.source.plain_name,
    wordsFrom_inside_gap d.gap.ne_nil d.gap.allBlank, QuotedText.written, List.cons_append,
    List.append_assoc, List.singleton_append,
    wordsFrom_between_quoted d.format.isQuote d.format.quote_notMem, wordsFrom_option]
  simp [Except.map]

/-- The word with the zone is an option, whatever the zone is. -/
lemma option?_zoneWord (zone : QuotedText) :
    (zoneWord zone).option? = some ("tz", String.ofList zone.text) := by
  have hsplit : splitFirst? '=' (zoneWord zone).text = some (['t', 'z'], zone.text) :=
    splitFirst?_eq_some_iff.2 ⟨rfl, by decide⟩
  rw [Word.option?, hsplit]
  rfl

/-- The word with the format is an argument, whatever the format is. -/
lemma option?_format (format : List Char) : Word.option? ⟨format, true⟩ = none := by
  rw [Word.option?]
  split <;> simp

/-- **A date is read as it was written.** -/
theorem read_inside : Expression.read d.inside = .ok d.expression := by
  rw [Expression.read, words_inside]
  cases hzone : d.zone? with
  | none =>
    simp [expression, hzone, Word.argument?, option?_format, bind, Except.bind]
  | some choice =>
    simp [expression, hzone, Word.argument?, option?_format, option?_zoneWord, bind, Except.bind]

end WrittenDate

/-! ## Braces -/

/-- A text in quotes closes no expression, if neither what comes before it nor what comes behind it
does. -/
lemma QuotedText.not_closing_append (q : QuotedText) {before after : List Char}
    (hbefore : ¬ closing <:+: before) (hafter : ¬ closing <:+: after) :
    ¬ closing <:+: before ++ (q.written ++ after) := by
  have hquote : q.quote ∉ closing := by
    have hnot : q.quote ≠ '}' := by
      intro h
      have hisQuote := q.isQuote
      simp [h, Template.isQuote] at hisQuote
    simpa [closing] using hnot
  have hinner : ¬ closing <:+: q.text ++ q.quote :: after :=
    not_infix_append_cons hquote q.not_closing hafter
  simpa [written] using not_infix_append_cons hquote hbefore hinner

lemma Blanks.brace_notMem (blanks : Blanks) : '}' ∉ blanks.text :=
  not_mem_of_allBlank (by decide) blanks.allBlank

namespace WrittenDate

variable (d : WrittenDate)

/-- The braces behind a date are the first that close it. -/
lemma not_closing_inside : ¬ closing <:+: d.inside ++ closing.dropLast := by
  have hplain {cs : List Char} (h : '}' ∉ cs) : ¬ closing <:+: cs :=
    fun hstands => h (hstands.subset (by decide))
  have hend : ¬ closing <:+: d.after.text ++ closing.dropLast :=
    not_closing_of_not_mem d.after.brace_notMem
  have hoption : ¬ closing <:+: d.option ++ (d.after.text ++ closing.dropLast) := by
    rw [option]
    cases d.zone? with
    | none => exact hend
    | some choice =>
      obtain ⟨gap, zone⟩ := choice
      have hkey : '}' ∉ gap.text ++ ['t', 'z', '='] := by simp [gap.brace_notMem]
      simpa using zone.not_closing_append (hplain hkey) hend
  have hname : '}' ∉ d.source.name.toList := by cases d.source <;> decide
  have hfront : '}' ∉ d.before.text ++ (d.source.name.toList ++ d.gap.text) := by
    simp [d.before.brace_notMem, hname, d.gap.brace_notMem]
  simpa [inside] using d.format.not_closing_append (hplain hfront) hoption

/-- **In every scope a date stands for what its expression stands for**, with the format and the
zone exactly as they stand in quotes. -/
theorem render_template_eq (scope : Scope) :
    render scope d.template = (scope d.expression).mapError (.template d.template) :=
  render_expression (String.toList_ofList) d.not_closing_inside d.read_inside

end WrittenDate

/-! ## Values -/

namespace WrittenDate

section

variable [Calendar.Zones] (d : WrittenDate) (context : Context) (now : Instant)

/-- The date in a zone. -/
def textIn (zone : Zone) : String :=
  String.ofList (formatDate (zone.read (d.source.instant context now)) d.format.text)

lemma eventScope_expression :
    eventScope context now d.expression =
      (zoneOf Zone.utc d.expression.options).map (d.textIn context now) := by
  have hdate : eventScope context now d.expression =
      dateText (d.source.instant context now) d.expression := by
    rw [eventScope, expression]
    cases d.source <;> rfl
  rw [hdate, dateText]
  cases zoneOf Zone.utc d.expression.options with
  | error fault => rfl
  | ok zone => simp [bind, Except.bind, Except.map, expression, textIn]

/-- **What a date in a template stands for**: the instant in the zone that is asked for, or in UTC,
written in exactly the format that stands in quotes.  A zone that is not known is a fault of the
template.  Which zones are known, and what they are, makes no difference to this. -/
theorem render_template :
    (d.zone? = none →
      render (eventScope context now) d.template = .ok (d.textIn context now Zone.utc)) ∧
    (∀ gap name zone, d.zone? = some (gap, name) →
      Calendar.Zones.ofName? (String.ofList name.text) = some zone →
        render (eventScope context now) d.template = .ok (d.textIn context now zone)) ∧
    (∀ gap name, d.zone? = some (gap, name) →
      Calendar.Zones.ofName? (String.ofList name.text) = none →
        render (eventScope context now) d.template =
          .error (.template d.template (.unknownZone (String.ofList name.text)))) := by
  have hrender : render (eventScope context now) d.template =
      ((zoneOf Zone.utc d.expression.options).map (d.textIn context now)).mapError
        (.template d.template) := by
    rw [render_template_eq, eventScope_expression]
  refine ⟨fun hnone => ?_, fun gap name zone hchoice hzone => ?_,
    fun gap name hchoice hzone => ?_⟩
  · rw [hrender, expression, hnone]
    rfl
  · rw [hrender, expression, hchoice]
    simp [zoneOf, hzone, Except.map]
  · rw [hrender, expression, hchoice]
    simp [zoneOf, hzone, Except.map]

end

open Builtin in
/-- What looks like an option, a quote or braces is part of the format. -/
theorem render_template_of_quotes :
    render (eventScope ⟨"refs/heads/main", "860c190", .epoch, "push", "", "main"⟩ .epoch)
      "\x7b\x7b date 'YYYY tz=\"_\" \x7b\x7b' tz=\"Asia/Tokyo\" \x7d\x7d" =
        .ok "1970 tz=\"_\" \x7b\x7b" := by
  let space : Gap := ⟨⟨[' '], by decide⟩, by decide⟩
  let format : QuotedText :=
    ⟨'\'', "YYYY tz=\"_\" \x7b\x7b".toList, by decide, by decide, by decide⟩
  let zone : QuotedText := ⟨'"', "Asia/Tokyo".toList, by decide, by decide, by decide⟩
  let d : WrittenDate := ⟨.run, format, some (space, zone), space.toBlanks, space, space.toBlanks⟩
  have htokyo : Calendar.Zones.ofName? (String.ofList zone.text) = some (Zone.fixed 32400) := by cbv
  have htemplate : d.template =
      "\x7b\x7b date 'YYYY tz=\"_\" \x7b\x7b' tz=\"Asia/Tokyo\" \x7d\x7d" := by decide
  obtain ⟨-, hknown, -⟩ := render_template d
    ⟨"refs/heads/main", "860c190", .epoch, "push", "", "main"⟩ .epoch
  rw [← htemplate, hknown space zone (Zone.fixed 32400) rfl htokyo]
  cbv

end WrittenDate

end Template

end ImageTags
