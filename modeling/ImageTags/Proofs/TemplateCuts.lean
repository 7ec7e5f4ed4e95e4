import Mathlib
import ImageTags.Proofs.Steps
import ImageTags.Template.EventScope

/-!
# Templates are cut before they are rendered

How a template is cut into literal pieces and expressions is a matter of its text alone.  `Cuts`
says so without the search that finds the pieces: an expression is opened where opening braces stand
for the first time, closed where closing braces do after that, and what follows is cut in the same
way.  Cutting stops where braces are never closed or an expression is malformed.

The values of the expressions come in later, so a value with braces or quotes in it is never looked
at again.  A reader could just as well render an expression as soon as it is found (`renderAlong`);
both ways fail alike or give the same text.

* `Text.splitAtText?_eq_some_iff` — the first place at which a text stands in another.
* **`Template.cuts_iff`** — a template is cut in exactly one way.
* `Texts`, `Segmentation.FirstFault` — what pieces stand for, and the fault that is met first.
* **`Template.renderAlong_eq`** — rendering while cutting.
* **`Template.render_by_pieces`** — what a template renders to in every scope.
-/

namespace ImageTags

open Text

/-! ## The first place of a text in another -/

namespace Text

variable {needle cs before after : List Char}

/-- A text is not split if what it is split at does not occur. -/
theorem splitAtText?_eq_none_iff : splitAtText? needle cs = none ↔ ¬ needle <:+: cs := by
  induction cs with
  | nil => simp [splitAtText?, stripStart?_eq_none_iff]
  | cons c cs ih =>
    rw [splitAtText?, List.infix_cons_iff, not_or, ← stripStart?_eq_none_iff, ← ih]
    split
    · next rest hrest => simp [hrest]
    · next hnone => simp [hnone]

/-- Where `needle` stands at all it stands before the end of the next one. -/
lemma prefix_append_dropLast_iff (hne : needle ≠ []) (before after : List Char) (c : Char) :
    needle <+: c :: (before ++ needle ++ after) ↔
      needle <+: c :: (before ++ needle.dropLast) := by
  have hlarge : c :: (before ++ needle.dropLast) <+: c :: (before ++ needle ++ after) := by
    rw [List.append_assoc]
    exact List.cons_prefix_cons.2 ⟨rfl, (List.prefix_append_right_inj before).2
      ((List.dropLast_prefix needle).trans (List.prefix_append needle after))⟩
  refine ⟨fun h => List.prefix_of_prefix_length_le h hlarge ?_, fun h => h.trans hlarge⟩
  have hpos := List.length_pos_of_ne_nil hne
  simp only [List.length_cons, List.length_append, List.length_dropLast]
  omega

/-- **A text is split at the first place where `needle` stands**: if all but the last character of
it are put behind what comes before that place, it does not occur in there. -/
theorem splitAtText?_eq_some_iff (hne : needle ≠ []) :
    splitAtText? needle cs = some (before, after) ↔
      cs = before ++ needle ++ after ∧ ¬ needle <:+: before ++ needle.dropLast := by
  have hpos := List.length_pos_of_ne_nil hne
  have hshort : ¬ needle <:+: needle.dropLast := by
    intro h
    have hlength := h.length_le
    rw [List.length_dropLast] at hlength
    omega
  constructor
  · intro h
    refine ⟨eq_append_of_splitAtText? h, ?_⟩
    induction cs generalizing before with
    | nil =>
      obtain ⟨rest, -, heq⟩ := Option.map_eq_some_iff.1 h
      obtain ⟨rfl, rfl⟩ := Prod.mk.inj heq
      exact hshort
    | cons c cs ih =>
      rw [splitAtText?] at h
      split at h
      · obtain ⟨rfl, rfl⟩ := Prod.mk.inj (Option.some.inj h)
        exact hshort
      · next hnone =>
        obtain ⟨⟨b, a⟩, hsplit, heq⟩ := Option.map_eq_some_iff.1 h
        obtain ⟨rfl, rfl⟩ := Prod.mk.inj heq
        obtain rfl := eq_append_of_splitAtText? hsplit
        rw [stripStart?_eq_none_iff, prefix_append_dropLast_iff hne] at hnone
        rw [List.cons_append, List.infix_cons_iff]
        exact not_or.2 ⟨hnone, ih hsplit⟩
  · rintro ⟨rfl, h⟩
    induction before with
    | nil =>
      obtain ⟨c, ds, rfl⟩ := List.exists_cons_of_ne_nil hne
      rw [List.nil_append, List.cons_append, splitAtText?, ← List.cons_append,
        stripStart?_eq_some_iff.2 rfl]
    | cons c before ih =>
      rw [List.cons_append, List.infix_cons_iff, not_or] at h
      have hnone : stripStart? needle (c :: (before ++ needle ++ after)) = none := by
        rw [stripStart?_eq_none_iff, prefix_append_dropLast_iff hne]
        exact h.1
      rw [List.cons_append, List.cons_append, splitAtText?, hnone, ih h.2]
      rfl

end Text

/-! ## Cutting -/

namespace Template

/-- How a template is cut into pieces.  The braces that open an expression are the first ones: even
with the next brace put behind it, what comes before holds none.  The same goes for the braces that
close it. -/
inductive Cuts : List Char → Segmentation → Prop
  | plain {cs : List Char} (hplain : ¬ opening <:+: cs) :
      Cuts cs ⟨[.literal (String.ofList cs)], none⟩
  | unclosed {before after : List Char} (hbefore : ¬ opening <:+: before ++ opening.dropLast)
      (hafter : ¬ closing <:+: after) :
      Cuts (before ++ opening ++ after)
        ⟨[.literal (String.ofList before)], some .unterminatedExpression⟩
  | malformed {before inside rest : List Char} {fault : TemplateFault}
      (hbefore : ¬ opening <:+: before ++ opening.dropLast)
      (hinside : ¬ closing <:+: inside ++ closing.dropLast)
      (hread : Expression.read inside = .error fault) :
      Cuts (before ++ opening ++ (inside ++ closing ++ rest))
        ⟨[.literal (String.ofList before)], some fault⟩
  | expression {before inside rest : List Char} {e : Expression} {s : Segmentation}
      (hbefore : ¬ opening <:+: before ++ opening.dropLast)
      (hinside : ¬ closing <:+: inside ++ closing.dropLast)
      (hread : Expression.read inside = .ok e) (hrest : Cuts rest s) :
      Cuts (before ++ opening ++ (inside ++ closing ++ rest))
        ⟨.literal (String.ofList before) :: .expression e :: s.pieces, s.stop⟩

lemma opening_ne_nil : opening ≠ [] := by decide

lemma closing_ne_nil : closing ≠ [] := by decide

/-- Cutting finds a cut. -/
lemma cuts_segment (cs : List Char) : Cuts cs (segment cs) := by
  fun_induction segment cs with
  | case1 cs hopen => exact .plain (splitAtText?_eq_none_iff.1 hopen)
  | case2 cs before after hopen hclose =>
    obtain ⟨rfl, hbefore⟩ := (splitAtText?_eq_some_iff opening_ne_nil).1 hopen
    exact .unclosed hbefore (splitAtText?_eq_none_iff.1 hclose)
  | case3 cs before after hopen inside rest hclose fault hread =>
    obtain ⟨rfl, hbefore⟩ := (splitAtText?_eq_some_iff opening_ne_nil).1 hopen
    obtain ⟨rfl, hinside⟩ := (splitAtText?_eq_some_iff closing_ne_nil).1 hclose
    exact .malformed hbefore hinside hread
  | case4 cs before after hopen inside rest hclose e hread others ih =>
    obtain ⟨rfl, hbefore⟩ := (splitAtText?_eq_some_iff opening_ne_nil).1 hopen
    obtain ⟨rfl, hinside⟩ := (splitAtText?_eq_some_iff closing_ne_nil).1 hclose
    exact .expression hbefore hinside hread ih

/-- One step of cutting. -/
lemma segment_eq (cs : List Char) : segment cs =
    match splitAtText? opening cs with
    | none => ⟨[.literal (String.ofList cs)], none⟩
    | some (before, after) =>
      match splitAtText? closing after with
      | none => ⟨[.literal (String.ofList before)], some .unterminatedExpression⟩
      | some (inside, rest) =>
        match Expression.read inside with
        | .error fault => ⟨[.literal (String.ofList before)], some fault⟩
        | .ok e =>
          ⟨.literal (String.ofList before) :: .expression e :: (segment rest).pieces,
            (segment rest).stop⟩ := by
  fun_cases segment cs with
  | case1 hopen => rw [hopen]
  | case2 before after hopen hclose => simp only [hopen, hclose]
  | case3 before after hopen inside rest hclose fault hread => simp only [hopen, hclose, hread]
  | case4 before after hopen inside rest hclose e hread others =>
    simp only [hopen, hclose, hread, others]

/-- There is one cut only. -/
lemma Cuts.segment_eq {cs : List Char} {s : Segmentation} (h : Cuts cs s) : segment cs = s := by
  induction h with
  | plain hplain => rw [Template.segment_eq, splitAtText?_eq_none_iff.2 hplain]
  | unclosed hbefore hafter =>
    rw [Template.segment_eq, (splitAtText?_eq_some_iff opening_ne_nil).2 ⟨rfl, hbefore⟩]
    simp only [splitAtText?_eq_none_iff.2 hafter]
  | malformed hbefore hinside hread =>
    rw [Template.segment_eq, (splitAtText?_eq_some_iff opening_ne_nil).2 ⟨rfl, hbefore⟩]
    simp only [(splitAtText?_eq_some_iff closing_ne_nil).2 ⟨rfl, hinside⟩, hread]
  | expression hbefore hinside hread hrest ih =>
    rw [Template.segment_eq, (splitAtText?_eq_some_iff opening_ne_nil).2 ⟨rfl, hbefore⟩]
    simp only [(splitAtText?_eq_some_iff closing_ne_nil).2 ⟨rfl, hinside⟩, hread, ih]

/-- **A template is cut in exactly one way.** -/
theorem cuts_iff {cs : List Char} {s : Segmentation} : Cuts cs s ↔ s = segment cs := by
  constructor
  · intro h
    exact h.segment_eq.symm
  · rintro rfl
    exact cuts_segment cs

/-! ## Rendering -/

variable {scope : Scope} {pieces : List Piece} {template : String}

/-- The texts that pieces stand for, one for each of them. -/
def Texts (scope : Scope) (pieces : List Piece) (texts : List String) : Prop :=
  List.Forall₂ (fun piece text => piece.render scope = .ok text) pieces texts

/-- The fault that is met first, from left to right: an expression has no value in the scope, or all
of them have one and the template could not be cut to its end. -/
inductive Segmentation.FirstFault (scope : Scope) (s : Segmentation) : TemplateFault → Prop
  | expression {before after : List Piece} {e : Expression} {texts : List String}
      {fault : TemplateFault} (hpieces : s.pieces = before ++ .expression e :: after)
      (hbefore : Texts scope before texts) (he : scope e = .error fault) :
      FirstFault scope s fault
  | stop {texts : List String} {fault : TemplateFault} (hpieces : Texts scope s.pieces texts)
      (hstop : s.stop = some fault) : FirstFault scope s fault

lemma renderPieces_eq_ok_iff {text : String} : renderPieces scope pieces = .ok text ↔
    ∃ texts, Texts scope pieces texts ∧ text = String.join texts := by
  induction pieces generalizing text with
  | nil => simp [renderPieces, Texts, eq_comm]
  | cons piece pieces ih =>
    rw [renderPieces, bind_eq_ok]
    constructor
    · rintro ⟨first, hfirst, h⟩
      obtain ⟨others, hothers, h⟩ := bind_eq_ok.1 h
      obtain ⟨texts, htexts, rfl⟩ := ih.1 hothers
      obtain rfl := Except.ok.inj h
      exact ⟨first :: texts, .cons hfirst htexts, String.join_cons.symm⟩
    · rintro ⟨_, _ | ⟨hfirst, htexts⟩, rfl⟩
      refine ⟨_, hfirst, bind_eq_ok.2 ⟨_, ih.2 ⟨_, htexts, rfl⟩, ?_⟩⟩
      rw [String.join_cons]

lemma renderPieces_eq_error_iff {fault : TemplateFault} :
    renderPieces scope pieces = .error fault ↔ ∃ before e after texts,
      pieces = before ++ .expression e :: after ∧ Texts scope before texts ∧
        scope e = .error fault := by
  induction pieces with
  | nil => simp [renderPieces]
  | cons piece pieces ih =>
    rw [renderPieces, bind_eq_error]
    constructor
    · rintro (h | ⟨first, hfirst, h⟩)
      · cases piece with
        | literal text => simp [Piece.render] at h
        | expression e => exact ⟨[], e, pieces, [], rfl, .nil, h⟩
      · rcases bind_eq_error.1 h with h | ⟨others, -, h⟩
        · obtain ⟨before, e, after, texts, rfl, hbefore, he⟩ := ih.1 h
          exact ⟨piece :: before, e, after, first :: texts, rfl, .cons hfirst hbefore, he⟩
        · simp at h
    · rintro ⟨before, e, after, texts, heq, hbefore, he⟩
      cases hbefore with
      | nil =>
        obtain ⟨rfl, rfl⟩ := List.cons.inj heq
        exact Or.inl he
      | cons hfirst htexts =>
        obtain ⟨rfl, rfl⟩ := List.cons.inj heq
        refine Or.inr ⟨_, hfirst, bind_eq_error.2 (Or.inl ?_)⟩
        exact ih.2 ⟨_, e, after, _, rfl, htexts, he⟩

lemma Segmentation.render_eq_ok_iff {s : Segmentation} {text : String} :
    s.render scope = .ok text ↔
      s.stop = none ∧ ∃ texts, Texts scope s.pieces texts ∧ text = String.join texts := by
  rw [← renderPieces_eq_ok_iff, Segmentation.render, bind_eq_ok]
  cases s.stop with
  | none => simp
  | some fault => simp

lemma Segmentation.render_eq_error_iff {s : Segmentation} {fault : TemplateFault} :
    s.render scope = .error fault ↔ s.FirstFault scope fault := by
  rw [Segmentation.render, bind_eq_error, renderPieces_eq_error_iff]
  constructor
  · rintro (⟨before, e, after, texts, hpieces, hbefore, he⟩ | ⟨text, hpieces, h⟩)
    · exact .expression hpieces hbefore he
    · obtain ⟨texts, htexts, -⟩ := renderPieces_eq_ok_iff.1 hpieces
      split at h
      · simp at h
      · next fault' hstop => exact .stop htexts (hstop.trans (congrArg some (Except.error.inj h)))
  · rintro (⟨hpieces, hbefore, he⟩ | ⟨hpieces, hstop⟩)
    · exact Or.inl ⟨_, _, _, _, hpieces, hbefore, he⟩
    · exact Or.inr ⟨_, renderPieces_eq_ok_iff.2 ⟨_, hpieces, rfl⟩, by simp [hstop]⟩

/-- A text without opening braces is one literal piece. -/
lemma segment_of_plain {cs : List Char} (h : containsText opening cs = false) :
    segment cs = ⟨[.literal (String.ofList cs)], none⟩ := by
  have hnone : splitAtText? opening cs = none := by simpa [containsText] using h
  exact (Cuts.plain (splitAtText?_eq_none_iff.1 hnone)).segment_eq

/-- **A text without opening braces stands for itself.** -/
theorem render_of_plain (h : containsText opening template.toList = false) (scope : Scope) :
    render scope template = .ok template := by
  rw [render, segment_of_plain h]
  simp [Segmentation.render, renderPieces, Piece.render, bind, Except.bind, Except.mapError]

/-! ## Rendering while cutting -/

lemma length_rest_lt {cs before after inside rest : List Char}
    (hopen : splitAtText? opening cs = some (before, after))
    (hclose : splitAtText? closing after = some (inside, rest)) : rest.length < cs.length := by
  obtain rfl := eq_append_of_splitAtText? hclose
  obtain rfl := eq_append_of_splitAtText? hopen
  simp only [List.length_append, opening, closing, List.length_cons, List.length_nil]
  omega

/-- Renders the rest of a template whose start stands for `done`.  Each expression is given its
value as soon as it is found, before the template is looked at any further. -/
def renderAlong (scope : Scope) (done : String) (cs : List Char) : Except TemplateFault String :=
  match _ho : splitAtText? opening cs with
  | none => .ok (done ++ String.ofList cs)
  | some (before, after) =>
    match _hc : splitAtText? closing after with
    | none => .error .unterminatedExpression
    | some (inside, rest) => do
      let e ← Expression.read inside
      let value ← scope e
      renderAlong scope (done ++ String.ofList before ++ value) rest
termination_by cs.length
decreasing_by exact length_rest_lt _ho _hc

/-- Rendering goes from piece to piece. -/
lemma Segmentation.render_cons (piece : Piece) (pieces : List Piece)
    (stop : Option TemplateFault) :
    Segmentation.render scope ⟨piece :: pieces, stop⟩ = (do
      let text ← piece.render scope
      (Segmentation.render scope ⟨pieces, stop⟩).map (text ++ ·)) := by
  simp only [Segmentation.render, renderPieces]
  cases piece.render scope with
  | error fault => rfl
  | ok text =>
    cases renderPieces scope pieces with
    | error fault => rfl
    | ok texts => cases stop <;> rfl

/-- One step of rendering while cutting. -/
lemma renderAlong_step (scope : Scope) (done : String) (cs : List Char) :
    renderAlong scope done cs =
      match splitAtText? opening cs with
      | none => .ok (done ++ String.ofList cs)
      | some (before, after) =>
        match splitAtText? closing after with
        | none => .error .unterminatedExpression
        | some (inside, rest) => (do
          let e ← Expression.read inside
          let value ← scope e
          renderAlong scope (done ++ String.ofList before ++ value) rest) := by
  fun_cases renderAlong scope done cs with
  | case1 hopen => rw [hopen]
  | case2 before after hopen hclose => simp only [hopen, hclose]
  | case3 before after hopen inside rest hclose => simp only [hopen, hclose]

/-- **It makes no difference whether a template is cut before it is rendered.** -/
theorem renderAlong_eq (scope : Scope) (done : String) (cs : List Char) :
    renderAlong scope done cs = ((segment cs).render scope).map (done ++ ·) := by
  fun_induction segment cs generalizing done with
  | case1 cs hopen =>
    rw [renderAlong_step, hopen]
    simp [Segmentation.render, renderPieces, Piece.render, bind, Except.bind, Except.map]
  | case2 cs before after hopen hclose =>
    rw [renderAlong_step]
    simp only [hopen, hclose]
    rfl
  | case3 cs before after hopen inside rest hclose fault hread =>
    rw [renderAlong_step]
    simp only [hopen, hclose, hread]
    rfl
  | case4 cs before after hopen inside rest hclose e hread others ih =>
    rw [renderAlong_step]
    simp only [hopen, hclose, hread, Segmentation.render_cons, Piece.render]
    cases hvalue : scope e with
    | error fault => simp [bind, Except.bind, hvalue, Except.map]
    | ok value =>
      simp only [bind, Except.bind, hvalue, ih, others]
      cases (segment rest).render scope with
      | error fault => rfl
      | ok text => simp [Except.map, String.append_assoc]

/-- **Rendering by pieces.**  What a template is cut into does not depend on the scope.  It renders
to the texts of its pieces one after the other, whatever the values of its expressions look like,
and fails with the first fault from left to right.  A template without opening braces renders to
itself. -/
theorem render_by_pieces (template : String) : ∃ s : Segmentation,
    (∀ s', Cuts template.toList s' ↔ s' = s) ∧
    ∀ scope : Scope,
      (∀ text, render scope template = .ok text ↔
        s.stop = none ∧ ∃ texts, Texts scope s.pieces texts ∧ text = String.join texts) ∧
      (∀ failure, render scope template = .error failure ↔
        ∃ fault, s.FirstFault scope fault ∧ failure = .template template fault) ∧
      render scope template =
        (renderAlong scope "" template.toList).mapError (.template template) ∧
      (containsText opening template.toList = false → render scope template = .ok template) := by
  refine ⟨segment template.toList, fun s' => cuts_iff, fun scope => ⟨?_, ?_, ?_, ?_⟩⟩
  · intro text
    rw [render, mapError_eq_ok, Segmentation.render_eq_ok_iff]
  · intro failure
    rw [render, mapError_eq_error]
    exact exists_congr fun fault => and_congr Segmentation.render_eq_error_iff eq_comm
  · rw [render, renderAlong_eq]
    cases (segment template.toList).render scope with
    | error fault => rfl
    | ok text => simp [Except.map]
  · intro hplain
    exact render_of_plain hplain scope

/-- The name of a branch that looks like an expression is not taken for one. -/
example [Calendar.Zones] : render (eventScope
    ⟨"refs/heads/\x7b\x7bsha\x7d\x7d", "860c190", .epoch, "push", "", "main"⟩ .epoch)
    "\x7b\x7bbranch\x7d\x7d-\x7d\x7d" = .ok "\x7b\x7bsha\x7d\x7d-\x7d\x7d" := by cbv

end Template

end ImageTags
