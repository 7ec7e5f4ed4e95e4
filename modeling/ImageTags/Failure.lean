/-!
# Failures

What can be wrong with the configuration of a run.  A rule that does not apply to an event is no
failure; only malformed input is.  Each failure is recorded by its cause, and `Failure.message`
puts it into words.
-/

namespace ImageTags

/-- What can be wrong with a template. -/
inductive TemplateFault where
  | unterminatedExpression
  | unterminatedString
  | emptyExpression
  | unknownZone (name : String)
  | unknownOption (name : String)
  deriving DecidableEq, Repr

/-- What is wrong with a template, in words. -/
def TemplateFault.message : TemplateFault → String
  | unterminatedExpression => "unterminated expression"
  | unterminatedString => "unterminated string literal"
  | emptyExpression => "empty expression"
  | unknownZone name => "unknown time zone '" ++ name ++ "'"
  | unknownOption name => "Unknown " ++ name ++ " attribute"

/-- What can be wrong with a flavor directive. -/
inductive FlavorFault where
  | notAPair (field : String)
  | badLatest (value : String)
  | badOnLatest (value : String)
  | unknownKey (key : String)
  deriving DecidableEq, Repr

/-- What is wrong with a flavor directive, in words. -/
def FlavorFault.message : FlavorFault → String
  | notAPair field => "'" ++ field ++ "' is not a key=value pair"
  | badLatest value => "invalid latest value '" ++ value ++ "'"
  | badOnLatest value => "invalid onlatest value '" ++ value ++ "'"
  | unknownKey key => "unknown key '" ++ key ++ "'"

/-- What can be wrong with an image directive. -/
inductive ImageFault where
  | badEnable
  | unknownAttribute
  | emptyName
  deriving DecidableEq, Repr

/-- What is wrong with an image directive, in words. -/
def ImageFault.message : ImageFault → String
  | badEnable => "invalid enable attribute value"
  | unknownAttribute => "unknown image attribute"
  | emptyName => "image name attribute empty"

/-- The failures of a run, each with the text that is to blame. -/
inductive Failure where
  /-- A quoted field of a directive is never closed. -/
  | unterminatedQuote (directive : String)
  | unknownTagType (value directive : String)
  | missingAttribute (name directive : String)
  | invalidAttribute (name directive : String)
  | flavor (directive : String) (fault : FlavorFault)
  | image (directive : String) (fault : ImageFault)
  /-- An `enable` attribute renders to neither of `true` and `false`. -/
  | enable (text : String)
  | template (text : String) (fault : TemplateFault)
  /-- The pattern of a match rule is no regular expression. -/
  | pattern (text : String)
  /-- A text is not JSON, or not of the expected shape. -/
  | payload
  deriving DecidableEq, Repr

/-- A failure in words. -/
def Failure.message : Failure → String
  | unterminatedQuote directive =>
    "Invalid directive '" ++ directive ++ "': unterminated quoted field"
  | unknownTagType value directive =>
    "Unknown tag type attribute '" ++ value ++ "' in " ++ directive
  | missingAttribute name directive =>
    "Missing " ++ name ++ " attribute for " ++ directive
  | invalidAttribute name directive =>
    "Invalid " ++ name ++ " attribute for " ++ directive
  | flavor directive fault =>
    "Invalid flavor entry '" ++ directive ++ "': " ++ fault.message
  | image directive fault =>
    "Invalid image entry '" ++ directive ++ "': " ++ fault.message
  | enable text => "Invalid value for enable attribute: " ++ text
  | template text fault =>
    "Template error in '" ++ text ++ "': " ++ fault.message
  | pattern text => "Invalid match pattern '" ++ text ++ "'"
  | payload => "Invalid event payload"

end ImageTags
