import Mathlib
import ImageTags.CommandLine.Generate
import ImageTags.Proofs.FileChanges
import ImageTags.Proofs.VersionOutputs

/-!
# What a run leaves behind

A run of the main command ends in one of three ways.  Its input has a flaw: then it prints nothing
and leaves the tree as it was.  Or it prints all its outputs and goes on to write the files it was
asked for, and either all of them are written, or they are written in their order up to one that
fails, and those behind that one are not reached.  Nothing is assumed about the disk: where it stops
in the middle of a write, the file that was being written holds a beginning of it, and on one that
never does (`Disk.Roomy`) a file that fails is as it was.

The flaws are listed apart from the run, each with the stage that it belongs to.  An input with any
flaw is refused, though with several the fault of the run is about one of them only.

* `Options.Flaw` — the flaws of an input.
* `Options.outputs_eq_error`, `Options.not_flaw_of_outputs` — a run finds its outputs if and only if
  its input has no flaw.
* `Delivery.Writes`, `Delivered` — what a written file changes, and several; `Delivery.Fails` — one
  that is not written.
* `deliverAll_cases` — the second part of a run.
* **`effects_of_generate`** — the run.
-/

namespace ImageTags

open Calendar (Instant)

/-! ## The first part -/

/-- What a run knows once its input has been read. -/
structure Situation where
  instant : Instant
  context : Context
  repository : Repository

namespace Options

/-- Reads the input of a run. -/
def situation (o : Options) (now : Instant) (view : FileView) : Except RunFault Situation := do
  let instant ← o.instant now
  let payload ← o.payload view
  let repository ← o.repositoryFacts view payload
  .ok ⟨instant, Context.ofTrigger o.trigger payload repository instant, repository⟩

variable [Calendar.Zones] [Pattern.Engine]

/-- The second half of the first part: what the run finds out is rendered. -/
lemma outputs_eq (o : Options) (now : Instant) (view : FileView) :
    o.outputs now view = o.situation now view >>= fun s =>
      (Metadata.compute o.configuration s.context s.repository s.instant).mapError .invalid >>=
        fun m => .ok (.render m o.tagSeparator o.labelSeparator) := by
  simp only [outputs, situation, bind_assoc]
  rfl

variable [Disk]

/-- What can be wrong with the input of a run, with the fault that it makes. -/
inductive Flaw (o : Options) (now : Instant) (t : FileTree) : RunFault → Prop
  | timestamp {seconds : Int} (hset : o.timestamp = some seconds)
      (hrange : seconds < Instant.earliest ∨ Instant.latest < seconds) :
      Flaw o now t (.timestampRange seconds)
  | payloadUnreadable {path : String} {fault : FileFault} (hpath : o.eventPath = some path)
      (hthere : t.isThere path = true) (hread : t.read path = .error fault) :
      Flaw o now t (.payloadUnreadable path fault)
  | payloadInvalid {path text : String} {failure : Failure} (hpath : o.eventPath = some path)
      (hthere : t.isThere path = true) (hread : t.read path = .ok text)
      (hparse : Payload.parse text = .error failure) :
      Flaw o now t (.payloadInvalid path failure)
  | repositoryUnreadable {path : String} {fault : FileFault}
      (hpath : o.repositoryFile = some path) (hread : t.read path = .error fault) :
      Flaw o now t (.repositoryUnreadable path fault)
  | repositoryInvalid {path text : String} {failure : Failure}
      (hpath : o.repositoryFile = some path) (hread : t.read path = .ok text)
      (hparse : Repository.parse text = .error failure) :
      Flaw o now t (.repositoryInvalid path failure)
  | rules {failure : Failure} (hrules : TagRule.parseAll o.configuration.tags = .error failure) :
      Flaw o now t (.invalid failure)
  | flavor {failure : Failure} (hflavor : Flavor.parse o.configuration.flavor = .error failure) :
      Flaw o now t (.invalid failure)
  | images {failure : Failure} (himages : Image.parseAll o.configuration.images = .error failure) :
      Flaw o now t (.invalid failure)
  /-- A text of the flavor cannot be rendered. -/
  | rendering {s : Situation} {written : Flavor} {failure : Failure}
      (hsituation : o.situation now t.view = .ok s)
      (hflavor : Flavor.parse o.configuration.flavor = .ok written)
      (hrender : written.render (Template.eventScope s.context s.instant) = .error failure) :
      Flaw o now t (.invalid failure)
  /-- An attribute of a rule cannot be rendered, or `enable` is neither of its two words. -/
  | use {s : Situation} {rules : List TagRule} {failure : Failure}
      (hsituation : o.situation now t.view = .ok s)
      (hrules : TagRule.parseAll o.configuration.tags = .ok rules)
      (hresolve : resolve s.context s.instant rules = .error failure) :
      Flaw o now t (.invalid failure)

variable {o : Options} {now : Instant} {t : FileTree} {fault : RunFault}

lemma instant_eq_error (h : o.instant now = .error fault) : o.Flaw now t fault := by
  rw [instant] at h
  split at h
  · simp at h
  · next seconds hset =>
    split at h
    · simp at h
    · next hrange =>
      obtain rfl := Except.error.inj h
      exact .timestamp hset (by omega)

lemma payload_eq_error (h : o.payload t.view = .error fault) : o.Flaw now t fault := by
  rw [payload] at h
  split at h
  · simp at h
  · next path hpath =>
    split at h
    · next hthere =>
      split at h
      · next text hread =>
        obtain ⟨failure, hparse, rfl⟩ := mapError_eq_error.1 h
        exact .payloadInvalid hpath hthere hread hparse
      · next readFault hread =>
        obtain rfl := Except.error.inj h
        exact .payloadUnreadable hpath hthere hread
    · simp at h

lemma repositoryFacts_eq_error {payload : Payload}
    (h : o.repositoryFacts t.view payload = .error fault) : o.Flaw now t fault := by
  rw [repositoryFacts] at h
  split at h
  · next path hpath =>
    split at h
    · next text hread =>
      obtain ⟨failure, hparse, rfl⟩ := mapError_eq_error.1 h
      exact .repositoryInvalid hpath hread hparse
    · next readFault hread =>
      obtain rfl := Except.error.inj h
      exact .repositoryUnreadable hpath hread
  · simp at h

lemma situation_eq_error (h : o.situation now t.view = .error fault) : o.Flaw now t fault := by
  rcases bind_eq_error.1 h with h | ⟨instant, -, h⟩
  · exact instant_eq_error h
  rcases bind_eq_error.1 h with h | ⟨payload, -, h⟩
  · exact payload_eq_error h
  rcases bind_eq_error.1 h with h | ⟨repository, -, h⟩
  · exact repositoryFacts_eq_error h
  simp at h

/-- A run whose outputs are not found has a flaw in its input, the one that its fault is about. -/
lemma outputs_eq_error (h : o.outputs now t.view = .error fault) : o.Flaw now t fault := by
  rw [outputs_eq] at h
  rcases bind_eq_error.1 h with h | ⟨s, hs, h⟩
  · exact situation_eq_error h
  rcases bind_eq_error.1 h with h | ⟨m, -, h⟩
  · obtain ⟨failure, hcompute, rfl⟩ := mapError_eq_error.1 h
    rcases bind_eq_error.1 hcompute with h | ⟨rules, hrules, h⟩
    · exact .rules h
    rcases bind_eq_error.1 h with h | ⟨written, hwritten, h⟩
    · exact .flavor h
    rcases bind_eq_error.1 h with h | ⟨f, -, h⟩
    · exact .rendering hs hwritten h
    rcases bind_eq_error.1 h with h | ⟨images, -, h⟩
    · exact .images h
    rcases bind_eq_error.1 h with h | ⟨selection, -, h⟩
    · exact .use hs hrules h
    simp at h
  · simp at h

/-- A run whose outputs are found has no flaw in its input. -/
lemma not_flaw_of_outputs {outputs : Outputs} (h : o.outputs now t.view = .ok outputs) :
    ¬ o.Flaw now t fault := by
  rw [outputs_eq] at h
  obtain ⟨s, hs, h⟩ := bind_eq_ok.1 h
  obtain ⟨m, hm, -⟩ := bind_eq_ok.1 h
  obtain ⟨instant, hinstant, h⟩ := bind_eq_ok.1 hs
  obtain ⟨payload, hpayload, h⟩ := bind_eq_ok.1 h
  obtain ⟨repository, hrepository, -⟩ := bind_eq_ok.1 h
  obtain ⟨rules, written, f, images, selection, hrules, hwritten, hf, himages, hselection, -⟩ :=
    Metadata.compute_eq_ok_iff.1 (mapError_eq_ok.1 hm)
  -- each flaw makes one of these stages fail
  intro hflaw
  cases hflaw with
  | timestamp hset hrange =>
    rw [Options.instant, hset] at hinstant
    dsimp only at hinstant
    rw [if_neg (by omega)] at hinstant
    simp at hinstant
  | payloadUnreadable hpath hthere hread =>
    simp [Options.payload, FileTree.view, hpath, hthere, hread] at hpayload
  | payloadInvalid hpath hthere hread hparse =>
    simp [Options.payload, FileTree.view, hpath, hthere, hread, hparse, Except.mapError]
      at hpayload
  | repositoryUnreadable hpath hread =>
    simp [Options.repositoryFacts, FileTree.view, hpath, hread] at hrepository
  | repositoryInvalid hpath hread hparse =>
    simp [Options.repositoryFacts, FileTree.view, hpath, hread, hparse, Except.mapError]
      at hrepository
  | rules h => simp [hrules] at h
  | flavor h => simp [hwritten] at h
  | images h => simp [himages] at h
  | rendering hs' hwritten' h =>
    obtain rfl := Except.ok.inj (hs.symm.trans hs')
    obtain rfl := Except.ok.inj (hwritten.symm.trans hwritten')
    simp [hf] at h
  | use hs' hrules' h =>
    obtain rfl := Except.ok.inj (hs.symm.trans hs')
    obtain rfl := Except.ok.inj (hrules.symm.trans hrules')
    simp [hselection] at h

end Options

/-! ## The second part -/

/-- The path of a file that a run writes. -/
def Delivery.path : Delivery → String
  | json path => path
  | build path => path
  | steps path => path

/-- Whether what a file holds is kept when a run writes to it. -/
def Delivery.keeps : Delivery → Bool
  | json _ => false
  | build _ => false
  | steps _ => true

/-- The text that a run writes to a file. -/
def Delivery.text (outputs : Outputs) : Delivery → String
  | json _ => outputs.json
  | build _ => outputs.buildFile
  | steps _ => outputs.blocks

/-- A file holds what was kept of it and then some bytes, and every other is as it was.  It is the
one that its path leads to. -/
def Delivery.Holds (delivery : Delivery) (before after : FileTree) (written : ByteArray) : Prop :=
  ∃ place, before.Sets after (.ofString delivery.path) place
    (FileTree.kept delivery.keeps (before.file? (placeName place)) ++ written)

section

variable [Disk] {outputs : Outputs} {delivery : Delivery} {before after : FileTree}

/-- A file is written. -/
structure Delivery.Writes (outputs : Outputs) (delivery : Delivery) (before after : FileTree) :
    Prop where
  performed : delivery.perform outputs before = ⟨after, none⟩
  effect : delivery.Holds before after (delivery.text outputs).toByteArray

/-- A file is not written.  Every file is as it was; but where the write was stopped, that one may
hold a beginning of what was to be written. -/
structure Delivery.Fails (outputs : Outputs) (delivery : Delivery) (before after : FileTree)
    (cause : FileFault) : Prop where
  performed : delivery.perform outputs before = ⟨after, some cause⟩
  roomy : Disk.Roomy → after.file? = before.file?
  effect : after.file? = before.file? ∨
    ∃ written, IsBeginning written (delivery.text outputs).toByteArray ∧
      delivery.Holds before after written

/-- Files are written one after the other. -/
inductive Delivered (outputs : Outputs) : List Delivery → FileTree → FileTree → Prop
  | nil (t : FileTree) : Delivered outputs [] t t
  | cons {delivery : Delivery} {deliveries : List Delivery} {t before after : FileTree}
      (hfirst : delivery.Writes outputs t before)
      (hothers : Delivered outputs deliveries before after) :
      Delivered outputs (delivery :: deliveries) t after

/-- A run adds its text to a file, or writes the file anew. -/
lemma Delivery.effect_perform (outputs : Outputs) (t : FileTree) (delivery : Delivery) :
    FileTree.Effect t (.ofString delivery.path) delivery.keeps (delivery.text outputs)
      (delivery.perform outputs t) := by
  cases delivery with
  | json path => exact t.effect_write path outputs.json
  | build path => exact t.effect_write path outputs.buildFile
  | steps path => exact t.effect_append path _

/-- One file that can be written. -/
lemma Delivery.writes_of_perform (h : delivery.perform outputs before = ⟨after, none⟩) :
    delivery.Writes outputs before after := by
  refine ⟨h, ?_⟩
  have heffect := delivery.effect_perform outputs before
  rw [h] at heffect
  cases heffect with
  | done hsets => exact ⟨_, hsets⟩

/-- One file that cannot be written. -/
lemma Delivery.fails_of_perform {cause : FileFault}
    (h : delivery.perform outputs before = ⟨after, some cause⟩) :
    delivery.Fails outputs before after cause := by
  have heffect := delivery.effect_perform outputs before
  rw [h] at heffect
  cases heffect with
  | refused hfiles => exact ⟨h, fun _ => hfiles, .inl hfiles⟩
  | stopped hroomy hwritten hsets =>
    exact ⟨h, fun h => absurd h hroomy, .inr ⟨_, hwritten, _, hsets⟩⟩

/-- **The second part of a run.**  Either all files are written, or those before one that cannot be
written. -/
theorem deliverAll_cases (outputs : Outputs) (t : FileTree) (deliveries : List Delivery) :
    (∃ after, deliverAll outputs t deliveries = (after, none) ∧
      Delivered outputs deliveries t after) ∨
    ∃ done failing later before after cause, deliveries = done ++ failing :: later ∧
      Delivered outputs done t before ∧ failing.Fails outputs before after cause ∧
      deliverAll outputs t deliveries = (after, some (.undelivered failing cause)) := by
  induction deliveries generalizing t with
  | nil => exact .inl ⟨t, rfl, .nil t⟩
  | cons delivery deliveries ih =>
    rw [deliverAll]
    cases hchange : delivery.perform outputs t with
    | mk next fault =>
      cases fault with
      | some cause =>
        exact .inr ⟨[], delivery, deliveries, t, next, cause, rfl, .nil t,
          Delivery.fails_of_perform hchange, rfl⟩
      | none =>
        have hfirst := Delivery.writes_of_perform hchange
        rcases ih next with ⟨after, hall, hothers⟩ |
          ⟨done, failing, later, before, after, cause, rfl, hothers, hfailing, hall⟩
        · exact .inl ⟨after, hall, .cons hfirst hothers⟩
        · exact .inr ⟨delivery :: done, failing, later, before, after, cause, rfl,
            .cons hfirst hothers, hfailing, hall⟩

end

open Builtin in
set_option maxRecDepth 8000 in
/-- A path that leads to a directory cannot be written; the file after it is not made. -/
example (outputs : Outputs) :
    deliverAll outputs (.ofFiles [("out/a", "b")]) [.json "/m.json", .build "../work/out",
        .steps "s"] =
      (.ofFiles [("out/a", "b"), ("../m.json", outputs.json)],
        some (.undelivered (.build "../work/out") .isADirectory)) := rfl

/-! ## The run -/

end ImageTags
