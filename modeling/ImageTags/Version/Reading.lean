import ImageTags.Template.Render
import ImageTags.Version.Pep440
import ImageTags.Version.Semver

/-!
# Readings of a version

Rules speak of versions in one of two dialects and then use the same few facts: the text as it was
given, the full version in its normal spelling, three numbers, and whether the version is stable.
-/

namespace ImageTags

/-- The dialects in which the text of a version can be read. -/
inductive Dialect where
  | semver
  | pep440
  deriving DecidableEq, Repr

/-- The facts about a version that patterns can use. -/
structure VersionReading where
  raw : String
  version : String
  major : Nat
  minor : Nat
  patch : Nat
  unstable : Bool
  deriving DecidableEq, Repr

/-- Reads the text of a version in a dialect. -/
def Dialect.read? (dialect : Dialect) (raw : String) : Option VersionReading :=
  match dialect with
  | semver => (Semver.readLoose? raw.toList).map fun v =>
    ⟨raw, String.ofList v.text, v.major, v.minor, v.patch, v.pre ≠ []⟩
  | pep440 => (Pep440.read? raw.toList).map fun v =>
    ⟨raw, String.ofList v.text, v.major, v.minor, v.patch, v.isUnstable⟩

theorem Dialect.read?_semver_eq_some_iff {raw : String} {reading : VersionReading} :
    semver.read? raw = some reading ↔ ∃ v, Semver.readLoose? raw.toList = some v ∧
      ⟨raw, String.ofList v.text, v.major, v.minor, v.patch, v.pre ≠ []⟩ = reading := by
  rw [read?, Option.map_eq_some_iff]

theorem Dialect.read?_pep440_eq_some_iff {raw : String} {reading : VersionReading} :
    pep440.read? raw = some reading ↔ ∃ v, Pep440.read? raw.toList = some v ∧
      ⟨raw, String.ofList v.text, v.major, v.minor, v.patch, v.isUnstable⟩ = reading := by
  rw [read?, Option.map_eq_some_iff]

/-- The name of a dialect. -/
def Dialect.name : Dialect → String
  | semver => "semver"
  | pep440 => "pep440"

/-- The values of expressions about a version; names other than the five known ones stand for the
empty text. -/
def VersionReading.scope (v : VersionReading) : Template.Scope := fun e =>
  match e.name with
  | "raw" => .ok v.raw
  | "version" => .ok v.version
  | "major" => .ok (String.ofList (Numeral.ofNat v.major))
  | "minor" => .ok (String.ofList (Numeral.ofNat v.minor))
  | "patch" => .ok (String.ofList (Numeral.ofNat v.patch))
  | _ => .ok ""

end ImageTags
