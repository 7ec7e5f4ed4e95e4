import ImageTags.Json.Basic
import ImageTags.Numeral
import ImageTags.Text.Split
import ImageTags.Unicode.CharTable

/-!
# Reading JSON

The strict grammar: no comments, no commas at the end of a list, no control characters in strings,
nothing but blanks around the document.  Every bracket that a value opens takes a character, so the
length of the text bounds the depth of the recursion.
-/

namespace ImageTags.Json

/-- A text without its leading blanks. -/
def skipSpace (cs : List Char) : List Char :=
  cs.dropWhile isSpace

/-- The value of four hexadecimal digits and the text after them. -/
def readHex4? : List Char → Option (Nat × List Char)
  | a :: b :: c :: d :: rest => do
    let a ← Unicode.hexValue? a
    let b ← Unicode.hexValue? b
    let c ← Unicode.hexValue? c
    let d ← Unicode.hexValue? d
    some (((a * 16 + b) * 16 + c) * 16 + d, rest)
  | _ => none

/-- The character that a letter stands for after a backslash. -/
def unescape? (c : Char) : Option Char :=
  if c = '"' then some '"'
  else if c = '\\' then some '\\'
  else if c = '/' then some '/'
  else if c = 'b' then some '\x08'
  else if c = 'f' then some '\x0c'
  else if c = 'n' then some '\n'
  else if c = 'r' then some '\r'
  else if c = 't' then some '\t'
  else none

/-- The codes in a string up to its closing quote, and the text after it.  A code is that of a
character or half of a surrogate pair. -/
def readCodes? : List Char → Option (List Nat × List Char)
  | [] => none
  | '"' :: rest => some ([], rest)
  | '\\' :: 'u' :: a :: b :: c :: d :: rest =>
    match readHex4? [a, b, c, d] with
    | some (code, _) => (readCodes? rest).map fun (codes, rest) => (code :: codes, rest)
    | none => none
  | '\\' :: c :: rest =>
    match unescape? c with
    | some c => (readCodes? rest).map fun (codes, rest) => (c.toNat :: codes, rest)
    | none => none
  | c :: rest =>
    if c = '\\' ∨ c.toNat < 0x20 then none
    else (readCodes? rest).map fun (codes, rest) => (c.toNat :: codes, rest)

/-- Whether a code is the first half of a surrogate pair. -/
def isHighSurrogate (code : Nat) : Bool := 0xD800 ≤ code && code < 0xDC00

/-- Whether a code is the second half of a surrogate pair. -/
def isLowSurrogate (code : Nat) : Bool := 0xDC00 ≤ code && code < 0xE000

/-- The characters with these codes; none if half of a surrogate pair stands alone. -/
def charsOfCodes? : List Nat → Option (List Char)
  | [] => some []
  | code :: codes =>
    if isHighSurrogate code then
      match codes with
      | low :: codes =>
        if isLowSurrogate low then
          (charsOfCodes? codes).map
            (Char.ofNat (0x10000 + (code - 0xD800) * 0x400 + (low - 0xDC00)) :: ·)
        else none
      | [] => none
    else if isLowSurrogate code then none
    else (charsOfCodes? codes).map (Char.ofNat code :: ·)

/-- The content of a string after its opening quote, and the text after its closing quote. -/
def readString? (cs : List Char) : Option (Option String × List Char) :=
  (readCodes? cs).map fun (codes, rest) => ((charsOfCodes? codes).map String.ofList, rest)

/-- A run of digits that is not empty, and the text after it. -/
def readDigitRun? (cs : List Char) : Option (List Char × List Char) :=
  match Numeral.spanDigits cs with
  | ([], _) => none
  | (digits, rest) => some (digits, rest)

/-- The whole part of a numeral, which starts with 0 only if it is 0. -/
def readWhole? : List Char → Option (List Char × List Char)
  | '0' :: rest =>
    match rest with
    | c :: _ => if c.isDigit then none else some (['0'], rest)
    | [] => some (['0'], [])
  | cs => readDigitRun? cs

/-- The decimals of a numeral, which may be missing. -/
def readFraction? : List Char → Option (List Char × List Char)
  | '.' :: cs => (readDigitRun? cs).map fun (digits, rest) => ('.' :: digits, rest)
  | cs => some ([], cs)

/-- The sign of an exponent, which may be missing. -/
def readSign : List Char → List Char × List Char
  | '+' :: cs => (['+'], cs)
  | '-' :: cs => (['-'], cs)
  | cs => ([], cs)

/-- The exponent of a numeral, which may be missing. -/
def readExponent? : List Char → Option (List Char × List Char)
  | c :: cs =>
    if c = 'e' ∨ c = 'E' then
      let (sign, cs) := readSign cs
      (readDigitRun? cs).map fun (digits, rest) => (c :: sign ++ digits, rest)
    else some ([], c :: cs)
  | [] => some ([], [])

/-- A numeral and the text after it. -/
def readNumber? (cs : List Char) : Option (String × List Char) := do
  let (sign, cs) :=
    match cs with
    | '-' :: cs => (['-'], cs)
    | cs => ([], cs)
  let (whole, cs) ← readWhole? cs
  let (fraction, cs) ← readFraction? cs
  let (exponent, cs) ← readExponent? cs
  some (String.ofList (sign ++ whole ++ fraction ++ exponent), cs)

/-- The value of one of the three words of the grammar, and the text after it. -/
def readWord? (cs : List Char) : Option (Json × List Char) :=
  [("null", null), ("true", bool true), ("false", bool false)].findSome? fun (word, value) =>
    (Text.stripStart? word.toList cs).map fun rest => (value, rest)

mutual

/-- A value and the text after it; blanks before it are skipped. -/
def readValue? : Nat → List Char → Option (Json × List Char)
  | 0, _ => none
  | fuel + 1, cs =>
    match skipSpace cs with
    | [] => none
    | '"' :: cs => (readString? cs).map fun (content, rest) => (string content, rest)
    | '[' :: cs =>
      match skipSpace cs with
      | ']' :: rest => some (array [], rest)
      | _ => (readElements? fuel cs).map fun (elements, rest) => (array elements, rest)
    | '{' :: cs =>
      match skipSpace cs with
      | '}' :: rest => some (object [], rest)
      | _ => (readMembers? fuel cs).map fun (members, rest) => (object members, rest)
    | c :: cs =>
      if c = '-' ∨ c.isDigit then
        (readNumber? (c :: cs)).map fun (numeral, rest) => (number numeral, rest)
      else readWord? (c :: cs)

/-- The elements of an array up to its closing bracket, at least one, and the text after it. -/
def readElements? : Nat → List Char → Option (List Json × List Char)
  | 0, _ => none
  | fuel + 1, cs =>
    match readValue? fuel cs with
    | none => none
    | some (element, rest) =>
      match skipSpace rest with
      | ',' :: rest =>
        (readElements? fuel rest).map fun (elements, rest) => (element :: elements, rest)
      | ']' :: rest => some ([element], rest)
      | _ => none

/-- The members of an object up to its closing bracket, at least one, and the text after it. -/
def readMembers? : Nat → List Char → Option (List (Option String × Json) × List Char)
  | 0, _ => none
  | fuel + 1, cs =>
    match skipSpace cs with
    | '"' :: cs =>
      match readString? cs with
      | none => none
      | some (name, rest) =>
        match skipSpace rest with
        | ':' :: rest =>
          match readValue? fuel rest with
          | none => none
          | some (value, rest) =>
            match skipSpace rest with
            | ',' :: rest =>
              (readMembers? fuel rest).map fun (members, rest) => ((name, value) :: members, rest)
            | '}' :: rest => some ([(name, value)], rest)
            | _ => none
        | _ => none
    | _ => none

end

/-- Reads a document. -/
def ofChars? (cs : List Char) : Option Json :=
  match readValue? (2 * cs.length + 1) cs with
  | some (value, rest) => if skipSpace rest = [] then some value else none
  | none => none

/-- Reads a document. -/
def parse? (text : String) : Option Json :=
  ofChars? text.toList

end ImageTags.Json
