import ImageTags.Pattern.Program

/-!
# Searching

A program is run by backtracking: of two ways to go on the preferred one is tried first, and of
two places to start the one further left.  No pair of an instruction and a place in the text is
tried twice, which bounds the search by their number; a pair that was tried before either failed or
is under way, so that a second try finds nothing better.
-/

namespace ImageTags.Pattern

/-- A place in the program and in the text, with what was remembered on the way there. -/
structure Thread where
  instruction : Nat
  place : Nat
  slots : Array (Option Nat)

/-- The characters on both sides of a place. -/
def around (text : Array Char) (place : Nat) : Option Char × Option Char :=
  (if place = 0 then none else text[place - 1]?, text[place]?)

/-- The slots at which the first of the threads accepts that comes to it.  `visited` marks the
pairs of an instruction and a place that were tried. -/
def explore (program : Program) (text : Array Char) :
    Nat → Array Bool → List Thread → Option (Array (Option Nat))
  | 0, _, _ => none
  | _, _, [] => none
  | fuel + 1, visited, t :: threads =>
    let index := t.place * program.code.size + t.instruction
    if visited.getD index true then explore program text fuel visited threads
    else
      let visited := visited.setIfInBounds index true
      match program.code[t.instruction]? with
      | none => explore program text fuel visited threads
      | some .accept => some t.slots
      | some (.jump next) =>
        explore program text fuel visited ({ t with instruction := next } :: threads)
      | some (.split first second) =>
        explore program text fuel visited
          ({ t with instruction := first } :: { t with instruction := second } :: threads)
      | some (.save slot next) =>
        let slots := t.slots.setIfInBounds slot (some t.place)
        explore program text fuel visited ({ t with instruction := next, slots } :: threads)
      | some (.look look next) =>
        let (before, after) := around text t.place
        if look.holds before after then
          explore program text fuel visited ({ t with instruction := next } :: threads)
        else explore program text fuel visited threads
      | some (.set set next) =>
        match text[t.place]? with
        | some c =>
          if set.contains c then
            explore program text fuel visited
              ({ t with instruction := next, place := t.place + 1 } :: threads)
          else explore program text fuel visited threads
        | none => explore program text fuel visited threads

/-- The slots of the leftmost match. -/
def search (program : Program) (text : Array Char) : Option (Array (Option Nat)) :=
  let places := text.size + 1
  let pairs := program.code.size * places
  let slots := Array.replicate program.slots none
  let starts := (List.range places).map fun place => ⟨0, place, slots⟩
  explore program text (2 * pairs + places + 1) (Array.replicate pairs false) starts

/-- The text between two places that were remembered. -/
def slice (text : Array Char) (first last : Option Nat) : Option String :=
  match first, last with
  | some first, some last => some (String.ofList (text.extract first last).toList)
  | _, _ => none

/-- The leftmost match of a program in a text: what each group matched, the whole match first.  A
group that took no part has nothing. -/
def Program.match? (program : Program) (text : String) : Option (List (Option String)) :=
  let chars := text.toList.toArray
  (search program chars).map fun slots =>
    (List.range (program.slots / 2)).map fun i =>
      slice chars (slots.getD (2 * i) none) (slots.getD (2 * i + 1) none)

end ImageTags.Pattern
