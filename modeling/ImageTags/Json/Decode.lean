import ImageTags.Dictionary
import ImageTags.Json.Basic

/-!
# What JSON values stand for

Lists, dictionaries and records as they are written in JSON.  A record is an object with a member
for each field, in any order and with other members between them, or an array with the values of
its fields in their order.  A dictionary is an object; of two members with one name the later gives
the value and the earlier the place.
-/

namespace ImageTags.Json

variable {α : Type}

/-- A value that may be absent, which `null` says too. -/
def nullable? (read? : Json → Option α) : Option Json → Option (Option α)
  | none => some none
  | some null => some none
  | some value => (read? value).map some

/-- A list. -/
def list? (read? : Json → Option α) : Json → Option (List α)
  | array elements => elements.mapM read?
  | _ => none

/-- The members of an object, if the names of all of them are texts. -/
def namedMembers? (members : List (Option String × Json)) : Option (List (String × Json)) :=
  members.mapM fun (name, value) => name.map (·, value)

/-- A dictionary. -/
def dictionary? (read? : Json → Option α) : Json → Option (Dictionary α)
  | object members => do
    let entries ← namedMembers? members
    let entries ← entries.mapM fun (name, value) => (read? value).map (name, ·)
    some (.ofEntries entries)
  | _ => none

/-- The fields of a record with their values.  An object may lack any field but must not repeat
one; an array may lack the last `spare` ones. -/
def fields? (names : List String) (spare : Nat) : Json → Option (List (String × Json))
  | object members => do
    let entries ← namedMembers? members
    if names.all fun name => entries.countP (·.1 = name) ≤ 1 then some entries else none
  | array elements =>
    if elements.length ≤ names.length ∧ names.length ≤ elements.length + spare then
      some (names.zip elements)
    else none
  | _ => none

end ImageTags.Json
