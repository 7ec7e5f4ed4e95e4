import ImageTags.Text.Split

/-!
# Repositories

What labels say about the repository.  A fact that is not known is the empty text.
-/

namespace ImageTags

open Text

/-- The facts about a repository. -/
structure Repository where
  name : String
  description : String
  /-- The address of its page. -/
  url : String
  defaultBranch : String
  /-- The short name of its licence. -/
  license : String
  deriving DecidableEq, Repr

namespace Repository

/-- A repository of which nothing is known. -/
def unknown : Repository := ⟨"", "", "", "", ""⟩

instance : Inhabited Repository := ⟨unknown⟩

/-- The part of a slug after its last slash. -/
def slugName (slug : String) : String :=
  match splitLast? '/' slug.toList with
  | some (_, name) => String.ofList name
  | none => slug

/-- An address without slashes at its end. -/
def dropEndSlashes (address : String) : String :=
  String.ofList (address.toList.reverse.dropWhile (· = '/')).reverse

/-- What the slug of a repository, its owner and name, says about it. -/
def ofSlug (slug serverUrl : String) : Repository :=
  { unknown with
    name := slugName slug
    url := if slug = "" then "" else dropEndSlashes serverUrl ++ "/" ++ slug }

end Repository

end ImageTags
