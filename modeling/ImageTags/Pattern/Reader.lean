import ImageTags.Pattern.Engine
import ImageTags.Pattern.Expr
import ImageTags.Pattern.Property
import ImageTags.Numeral
import ImageTags.Text.Split

/-!
# Reading patterns

Regular expressions as they are written.  A pattern is read in one pass from left to right; the
modes, such as matching without regard to case, are part of the reader's state, and what is read
has them worked in.

There are no look-around conditions and no references back to a group.  Every brace that is not
escaped has to be part of a repetition.
-/

namespace ImageTags.Pattern

open Text

/-- The deepest nesting of a pattern. -/
def maxHeight : Nat := 250

/-- The largest number of steps of a pattern. -/
def maxSize : Nat := 200000

/-- The greatest count of a repetition. -/
def maxCount : Nat := 4294967295

/-- A text without leading blanks and comments; `comment` says whether it starts inside one. -/
def skipComments (comment : Bool) : List Char → List Char
  | [] => []
  | c :: cs =>
    if comment then skipComments (c ≠ '\n') cs
    else if isBlank c then skipComments false cs
    else if c = '#' then skipComments true cs
    else c :: cs

/-- What remains of a pattern once blanks that mean nothing are skipped. -/
def Modes.skip (m : Modes) (cs : List Char) : List Char :=
  if m.ignoreSpace then skipComments false cs else cs

/-- The set together with the case variants that the modes ask for. -/
def Modes.fold (m : Modes) (s : CharSet) : CharSet :=
  if m.ignoreCase then if m.unicode then .variants s else .asciiVariants s else s

/-- The complement of a set if it is asked for.  Outside of Unicode a complement would hold bytes
that are no characters and is refused. -/
def Modes.negate? (m : Modes) (negated : Bool) (s : CharSet) : Option CharSet :=
  if negated then if m.unicode then some (.complement s) else none else some s

/-- What stands for a single place of the text, or for a condition between places. -/
inductive Atom where
  /-- A character; `byte` says that it was given by two hexadecimal digits. -/
  | literal (c : Char) (byte : Bool)
  | look (look : Look)
  | set (set : CharSet)

/-- The character with a code. -/
def charOfCode? (n : Nat) : Option Char :=
  if n < 0xD800 ∨ (0xE000 ≤ n ∧ n < 0x110000) then some (Char.ofNat n) else none

/-- Reads `count` hexadecimal digits. -/
def readHexDigits? (m : Modes) : Nat → Nat → List Char → Option (Nat × List Char)
  | 0, value, cs => some (value, cs)
  | _ + 1, _, [] => none
  | count + 1, value, c :: cs => do
    let digit ← Unicode.hexValue? c
    readHexDigits? m count (16 * value + digit) (m.skip cs)

/-- Reads hexadecimal digits up to a closing brace; `started` says whether there was one. -/
def readHexBrace? (m : Modes) : Nat → Bool → Nat → List Char → Option (Nat × List Char)
  | 0, _, _, _ => none
  | _, _, _, [] => none
  | fuel + 1, started, value, c :: cs =>
    if c = '}' then if started then some (value, m.skip cs) else none
    else do
      let digit ← Unicode.hexValue? c
      readHexBrace? m fuel true (16 * value + digit) (m.skip cs)

/-- Reads the code of a character after `x`, `u` or `U`, which has `count` digits unless it stands
in braces. -/
def readHex? (m : Modes) (count : Nat) (cs : List Char) : Option (Atom × List Char) :=
  match m.skip cs with
  | '{' :: cs => do
    let (code, rest) ← readHexBrace? m (cs.length + 1) false 0 (m.skip cs)
    let c ← charOfCode? code
    some (.literal c false, rest)
  | cs => do
    let (code, rest) ← readHexDigits? m count 0 cs
    let c ← charOfCode? code
    some (.literal c (count = 2), rest)

/-- The text up to a closing brace, without blanks that mean nothing. -/
def readName? (m : Modes) : Nat → List Char → Option (List Char × List Char)
  | 0, _ => none
  | _, [] => none
  | fuel + 1, c :: cs =>
    if c = '}' then some ([], cs)
    else (readName? m fuel (m.skip cs)).map fun (name, rest) => (c :: name, rest)

/-- The characters that the text in the braces of a property asks for, and whether it asks for all
others instead. -/
def propertyOf? (name : List Char) : Option (CharSet × Bool) :=
  match splitAtText? ['!', '='] name with
  | some (key, value) => (valueSet? key value).map (·, true)
  | none =>
    match splitFirst? ':' name with
    | some (key, value) => (valueSet? key value).map (·, false)
    | none =>
      match splitFirst? '=' name with
      | some (key, value) => (valueSet? key value).map (·, false)
      | none => (propertySet? name).map (·, false)

/-- Reads a property after `p` or `P`. -/
def readProperty? (m : Modes) (negated : Bool) (cs : List Char) : Option (Atom × List Char) := do
  let (property, rest) ←
    match m.skip cs with
    | [] => none
    | '\\' :: _ => none
    | '{' :: cs => do
      let (name, rest) ← readName? m (cs.length + 1) (m.skip cs)
      (propertyOf? name).map (·, rest)
    | c :: cs => ((propertySet? [c]).map (·, false)).map (·, m.skip cs)
  let (set, others) := property
  if m.unicode then
    let set := m.fold set
    some (.set (if negated != others then .complement set else set), rest)
  else none

/-- The class of digits, blanks or word characters that a letter stands for. -/
def shorthand? (unicode : Bool) (c : Char) : Option CharSet :=
  if c = 'd' then some (if unicode then .digit else .asciiDigit)
  else if c = 's' then some (if unicode then .blank else .asciiBlank)
  else if c = 'w' then some (if unicode then .word else .asciiWord)
  else none

/-- The control character that a letter stands for. -/
def controlOf? (c : Char) : Option Char :=
  if c = 'a' then some '\x07'
  else if c = 'f' then some '\x0c'
  else if c = 't' then some '\t'
  else if c = 'n' then some '\n'
  else if c = 'r' then some '\r'
  else if c = 'v' then some '\x0b'
  else none

/-- The letters and hyphens at the start of a text. -/
def readBoundaryName (m : Modes) : Nat → List Char → List Char × List Char
  | 0, cs => ([], cs)
  | _, [] => ([], [])
  | fuel + 1, c :: cs =>
    if c.isAlpha ∨ c = '-' then
      let (name, rest) := readBoundaryName m fuel (m.skip cs)
      (c :: name, rest)
    else ([], c :: cs)

/-- Reads what follows `b`: the name of a boundary in braces, unless the brace starts a
repetition. -/
def readBoundary? (m : Modes) (cs : List Char) : Option (Look × List Char) :=
  match cs with
  | '{' :: inside =>
    match m.skip inside with
    | [] => none
    | c :: inside =>
      if c.isAlpha ∨ c = '-' then
        match readBoundaryName m (inside.length + 2) (c :: inside) with
        | (name, '}' :: rest) =>
          match String.ofList name with
          | "start" => some (.wordStart m.unicode, rest)
          | "end" => some (.wordEnd m.unicode, rest)
          | "start-half" => some (.wordStartHalf m.unicode, rest)
          | "end-half" => some (.wordEndHalf m.unicode, rest)
          | _ => none
        | _ => none
      else some (.wordBoundary m.unicode, cs)
  | _ => some (.wordBoundary m.unicode, cs)

/-- Reads what follows a backslash. -/
def readEscape? (m : Modes) : List Char → Option (Atom × List Char)
  | [] => none
  | c :: cs =>
    if c = 'x' then readHex? m 2 cs
    else if c = 'u' then readHex? m 4 cs
    else if c = 'U' then readHex? m 8 cs
    else if c = 'p' then readProperty? m false cs
    else if c = 'P' then readProperty? m true cs
    else
      match shorthand? m.unicode c.toLower with
      | some set => do
        let set ← m.negate? c.isUpper set
        some (.set set, cs)
      | none =>
        match controlOf? c with
        | some control => some (.literal control false, cs)
        | none =>
          if c = 'A' then some (.look .textStart, cs)
          else if c = 'z' then some (.look .textEnd, cs)
          else if c = 'b' then (readBoundary? m cs).map fun (look, rest) => (.look look, rest)
          else if c = 'B' then some (.look (.noWordBoundary m.unicode), cs)
          else if c = '<' then some (.look (.wordStart m.unicode), cs)
          else if c = '>' then some (.look (.wordEnd m.unicode), cs)
          else if c.toNat < 0x80 ∧ !c.isAlphanum then some (.literal c false, cs)
          else none

/-! ## Bracketed classes -/

/-- A set with the height of the nest of classes that describes it. -/
structure ClassItem where
  set : CharSet
  height : Nat

/-- The operations that join the parts of a class. -/
inductive ClassOp where
  | intersection
  | difference
  | symmetricDifference

/-- What is open while a class is read: a bracket, or an operation that waits for its second
operand. -/
inductive ClassFrame where
  | bracket (negated : Bool) (outer : List ClassItem)
  | operation (op : ClassOp) (first : ClassItem)

/-- The union of the items read so far, latest first. -/
def unionItem (items : List ClassItem) : ClassItem :=
  match items with
  | [] => ⟨.empty, 0⟩
  | [item] => item
  | items =>
    ⟨.unions (items.reverse.map (·.set)), 1 + (items.map (·.height)).foldl max 0⟩

/-- Carries out the operation that waits for a second operand, if one does. -/
def closeOperation (m : Modes) (second : ClassItem) : List ClassFrame → ClassItem × List ClassFrame
  | .operation op first :: frames =>
    let s := m.fold first.set
    let t := m.fold second.set
    let set :=
      match op with
      | .intersection => .intersection s t
      | .difference => .difference s t
      | .symmetricDifference => .symmetricDifference s t
    (⟨set, 1 + max first.height second.height⟩, frames)
  | frames => (second, frames)

/-- Counts and skips the hyphens that stand for themselves at the start of a class. -/
def readHyphens? (m : Modes) : Nat → Nat → List Char → Option (Nat × List Char)
  | 0, _, _ => none
  | _, _, [] => none
  | fuel + 1, count, c :: cs =>
    if c = '-' then readHyphens? m fuel (count + 1) (m.skip cs) else some (count, c :: cs)

/-- Reads the start of a class after its bracket: whether it is negated, and the hyphens and the
closing bracket that stand for themselves there. -/
def readClassStart? (m : Modes) (cs : List Char) :
    Option (Bool × List ClassItem × List Char) := do
  let (negated, cs) :=
    match m.skip cs with
    | '^' :: cs => (true, m.skip cs)
    | cs => (false, cs)
  let (hyphens, cs) ← readHyphens? m (cs.length + 1) 0 cs
  let items := List.replicate hyphens ⟨.single '-', 0⟩
  match cs with
  | ']' :: rest =>
    if hyphens = 0 then
      match m.skip rest with
      | [] => none
      | rest => some (negated, [⟨.single ']', 0⟩], rest)
    else some (negated, items, cs)
  | _ => some (negated, items, cs)

/-- Reads a class such as `[:alpha:]` after its first bracket. -/
def readNamedClass? (m : Modes) (cs : List Char) : Option (Option ClassItem × List Char) := do
  let cs ← stripStart? [':'] cs
  let (negated, cs) :=
    match cs with
    | '^' :: cs => (true, cs)
    | cs => (false, cs)
  let (name, cs) ← splitFirst? ':' cs
  let rest ← stripStart? [']'] cs
  let set ← CharSet.named.lookup (String.ofList name)
  some ((m.negate? negated (m.fold set)).map (⟨·, 0⟩), rest)

/-- Reads a character, an escape or a shorthand inside a class. -/
def readClassAtom? (m : Modes) : List Char → Option (Atom × List Char)
  | [] => none
  | '\\' :: cs => readEscape? m cs
  | c :: cs => some (.literal c false, cs)

/-- The character that an atom stands for, if it may stand in a class. -/
def Atom.classChar? (m : Modes) : Atom → Option Char
  | literal c _ => if m.unicode ∨ c.toNat < 0x80 then some c else none
  | _ => none

/-- The set that an atom stands for inside a class. -/
def Atom.classSet? (m : Modes) : Atom → Option CharSet
  | set s => some s
  | atom => (atom.classChar? m).map .single

/-- Reads a member of a class: a single one or a range. -/
def readClassRange? (m : Modes) (cs : List Char) : Option (ClassItem × List Char) := do
  let (first, cs) ← readClassAtom? m cs
  let cs := m.skip cs
  let alone : Option (ClassItem × List Char) := (first.classSet? m).map fun s => (⟨s, 0⟩, cs)
  match cs with
  | [] => none
  | '-' :: after =>
    let after := m.skip after
    match after with
    | [] => none
    | c :: _ =>
      if c = ']' ∨ c = '-' then alone
      else do
        let (last, rest) ← readClassAtom? m after
        let first ← first.classChar? m
        let last ← last.classChar? m
        if first ≤ last then some (⟨.range first last, 0⟩, rest) else none
  | _ => alone

/-- Reads a class after its start, with what is open and the items of the innermost bracket. -/
def readClass? (m : Modes) :
    Nat → List ClassFrame → List ClassItem → List Char → Option (ClassItem × List Char)
  | 0, _, _, _ => none
  | fuel + 1, frames, items, cs =>
    let operation (op : ClassOp) (rest : List Char) :=
      let (first, frames) := closeOperation m (unionItem items) frames
      readClass? m fuel (.operation op first :: frames) [] rest
    let member :=
      match readClassRange? m (m.skip cs) with
      | some (item, rest) => readClass? m fuel frames (item :: items) rest
      | none => none
    match m.skip cs with
    | [] => none
    | '[' :: inside =>
      match readNamedClass? m inside with
      | some (some item, rest) => readClass? m fuel frames (item :: items) rest
      | some (none, _) => none
      | none =>
        match readClassStart? m inside with
        | some (negated, start, rest) =>
          readClass? m fuel (.bracket negated items :: frames) start rest
        | none => none
    | ']' :: rest =>
      let (item, frames) := closeOperation m (unionItem items) frames
      match frames with
      | .bracket negated outer :: frames =>
        match m.negate? negated (m.fold item.set) with
        | none => none
        | some set =>
          let closed : ClassItem := ⟨set, item.height + 1⟩
          match frames with
          | [] => some (closed, rest)
          | _ => readClass? m fuel frames (closed :: outer) rest
      | _ => none
    | '&' :: '&' :: rest => operation .intersection rest
    | '-' :: '-' :: rest => operation .difference rest
    | '~' :: '~' :: rest => operation .symmetricDifference rest
    | _ => member

/-- Reads a class after its first bracket. -/
def readBracketed? (m : Modes) (cs : List Char) : Option (ClassItem × List Char) := do
  let (negated, start, rest) ← readClassStart? m cs
  readClass? m (cs.length + 1) [.bracket negated []] start rest

/-! ## Repetitions -/

/-- Reads a run of digits in which blanks may mean nothing. -/
def readCountDigits (m : Modes) : Nat → List Char → List Char × List Char
  | 0, cs => ([], cs)
  | _, [] => ([], [])
  | fuel + 1, c :: cs =>
    if c.isDigit then
      let (digits, rest) := readCountDigits m fuel (m.skip cs)
      (c :: digits, rest)
    else ([], c :: cs)

/-- Reads a count, which may have blanks around it. -/
def readCount? (m : Modes) (cs : List Char) : Option (Nat × List Char) :=
  let cs := trimStart cs
  let (digits, rest) := readCountDigits m (cs.length + 1) cs
  if digits = [] ∨ maxCount < Numeral.value digits then none
  else
    let after := trimStart rest
    some (Numeral.value digits, if after.length < rest.length then m.skip after else after)

/-- Reads the bounds of a repetition after its opening brace. -/
def readBounds? (m : Modes) (cs : List Char) : Option ((Nat × Option Nat) × List Char) := do
  let (low, cs) ← readCount? m (m.skip cs)
  match cs with
  | '}' :: rest => some ((low, some low), m.skip rest)
  | ',' :: cs =>
    match m.skip cs with
    | '}' :: rest => some ((low, none), m.skip rest)
    | cs => do
      let (high, cs) ← readCount? m cs
      match cs with
      | '}' :: rest => if low ≤ high then some ((low, some high), m.skip rest) else none
      | _ => none
  | _ => none

/-! ## Groups -/

/-- Whether a character may stand in the name of a group. -/
def isNameChar (first : Bool) (c : Char) : Bool :=
  c = '_' || Unicode.alphabetic.contains c ||
    (!first && (c = '.' || c = '[' || c = ']' ||
      Unicode.GeneralCategory.decimalNumber.contains c ||
      Unicode.GeneralCategory.letterNumber.contains c ||
      Unicode.GeneralCategory.otherNumber.contains c))

/-- Reads the name of a group up to its closing angle bracket. -/
def readGroupName? (first : Bool) : List Char → Option (List Char × List Char)
  | [] => none
  | c :: cs =>
    if c = '>' then if first then none else some ([], cs)
    else if isNameChar first c then
      (readGroupName? false cs).map fun (name, rest) => (c :: name, rest)
    else none

/-- The modes with one of them set. -/
def Modes.set? (m : Modes) (flag : Char) (value : Bool) : Option Modes :=
  if flag = 'i' then some { m with ignoreCase := value }
  else if flag = 'm' then some { m with multiLine := value }
  else if flag = 's' then some { m with dotAll := value }
  else if flag = 'U' then some { m with swapGreed := value }
  else if flag = 'u' then some { m with unicode := value }
  else if flag = 'R' then some { m with returnEndsLine := value }
  else if flag = 'x' then some { m with ignoreSpace := value }
  else none

/-- Reads the letters of modes up to a colon or a closing bracket, each at most once.  `seen` holds
those before, latest first; the modes after a hyphen are switched off. -/
def readModes? (m : Modes) (seen : List Char) : List Char → Option (Modes × List Char)
  | [] => none
  | c :: cs =>
    if c = ':' ∨ c = ')' then if seen.head? = some '-' then none else some (m, c :: cs)
    else if seen.contains c then none
    else if c = '-' then readModes? m (c :: seen) cs
    else
      match m.set? c (!seen.contains '-') with
      | some m => readModes? m (c :: seen) cs
      | none => none

/-- What an opening bracket starts. -/
inductive GroupStart where
  | numbered
  | named (name : List Char)
  | plain (modes : Modes)
  /-- No group, but modes for what follows. -/
  | directive (modes : Modes)

/-- Reads what follows an opening bracket up to the start of the group's inside. -/
def readGroupStart? (m : Modes) (cs : List Char) : Option (GroupStart × List Char) :=
  match m.skip cs with
  | '?' :: '=' :: _ | '?' :: '!' :: _ | '?' :: '<' :: '=' :: _ | '?' :: '<' :: '!' :: _ => none
  | '?' :: 'P' :: '<' :: cs =>
    (readGroupName? true cs).map fun (name, rest) => (.named name, rest)
  | '?' :: '<' :: cs => (readGroupName? true cs).map fun (name, rest) => (.named name, rest)
  | '?' :: ')' :: _ => none
  | '?' :: cs =>
    match readModes? m [] cs with
    | some (modes, ')' :: rest) => some (.directive modes, rest)
    | some (modes, _ :: rest) => some (.plain modes, rest)
    | _ => none
  | cs => some (.numbered, cs)

/-! ## Patterns -/

/-- A part of a pattern with its height.  A directive matches nothing and cannot be repeated. -/
structure Item where
  expr : Expr
  height : Nat
  directive : Bool

/-- A group under way: its number, and what comes before it on its level. -/
structure Level where
  index : Option Nat
  modes : Modes
  branches : List Item
  items : List Item

/-- The state of the reader: the branches and the items of the branch under way, both latest first,
and the levels around them. -/
structure ReaderState where
  modes : Modes
  nextGroup : Nat
  names : List (List Char)
  levels : List Level
  branches : List Item
  items : List Item

/-- The expression for an atom outside of a class. -/
def Atom.expr? (m : Modes) : Atom → Option Expr
  | literal c byte =>
    if !m.unicode ∧ byte ∧ 0x80 ≤ c.toNat then none else some (.set (m.fold (.single c)))
  | look l => some (.look l)
  | set s => some (.set s)

/-- The expression for the dot.  Outside of Unicode it would match bytes that are no characters. -/
def Modes.dot? (m : Modes) : Option Expr :=
  if !m.unicode then none
  else if m.dotAll then some (.set .all)
  else if m.returnEndsLine then
    some (.set (.complement (.ranges [('\n', '\n'), ('\r', '\r')])))
  else some (.set (.complement (.single '\n')))

/-- The condition for the circumflex. -/
def Modes.start (m : Modes) : Look :=
  if m.multiLine then if m.returnEndsLine then .lineStartReturn else .lineStart else .textStart

/-- The condition for the dollar sign. -/
def Modes.finish (m : Modes) : Look :=
  if m.multiLine then if m.returnEndsLine then .lineEndReturn else .lineEnd else .textEnd

/-- Several items put together by `join`; a single one stays as it is. -/
def joinItems (join : List Expr → Expr) : List Item → Item
  | [] => ⟨.empty, 0, false⟩
  | [item] => ⟨item.expr, item.height, false⟩
  | items =>
    ⟨join (items.reverse.map (·.expr)), 1 + (items.map (·.height)).foldl max 0, false⟩

/-- The items of the branch under way, put together. -/
def ReaderState.branch (s : ReaderState) : Item :=
  joinItems Expr.cats s.items

/-- The branches of the level under way, put together. -/
def ReaderState.alternatives (s : ReaderState) : Item :=
  joinItems Expr.alts (s.branch :: s.branches)

/-- The state with one more item. -/
def ReaderState.push (s : ReaderState) (e : Expr) (height : Nat) : ReaderState :=
  { s with items := ⟨e, height, false⟩ :: s.items }

/-- The state with the last item repeated; there has to be one that can be. -/
def ReaderState.repeatLast? (s : ReaderState) (low : Nat) (high : Option Nat) (lazy : Bool) :
    Option ReaderState :=
  match s.items with
  | item :: items =>
    if item.directive then none
    else
      let greedy := lazy == s.modes.swapGreed
      some { s with
        items := ⟨Expr.repeated low high greedy item.expr, item.height + 1, false⟩ :: items }
  | [] => none

/-- The state inside a group that is opened. -/
def ReaderState.enter (s : ReaderState) (index : Option Nat) (modes : Modes) : ReaderState :=
  { s with
    modes
    levels := ⟨index, s.modes, s.branches, s.items⟩ :: s.levels
    branches := []
    items := [] }

/-- The state after a bracket, with what follows it. -/
def ReaderState.bracket? (s : ReaderState) (cs : List Char) : Option (ReaderState × List Char) := do
  let (start, rest) ← readGroupStart? s.modes cs
  match start with
  | .numbered =>
    some ({ s with nextGroup := s.nextGroup + 1 }.enter (some s.nextGroup) s.modes, rest)
  | .named name =>
    if s.names.contains name then none
    else
      let s := { s with names := name :: s.names }
      some ({ s with nextGroup := s.nextGroup + 1 }.enter (some s.nextGroup) s.modes, rest)
  | .plain modes => some (s.enter none modes, rest)
  | .directive modes => some ({ s with modes, items := ⟨.empty, 0, true⟩ :: s.items }, rest)

/-- The state after the innermost group is closed; there has to be one. -/
def ReaderState.leave? (s : ReaderState) : Option ReaderState :=
  match s.levels with
  | [] => none
  | level :: levels =>
    let inside := s.alternatives
    let e :=
      match level.index with
      | some index => Expr.group index inside.expr
      | none => inside.expr
    some { s with
      modes := level.modes
      levels
      branches := level.branches
      items := ⟨e, inside.height + 1, false⟩ :: level.items }

/-- The question mark that follows a repetition, if there is one. -/
def readLazy : List Char → Bool × List Char
  | '?' :: rest => (true, rest)
  | cs => (false, cs)

/-- Reads a pattern from a state to its end. -/
def readPattern? : Nat → ReaderState → List Char → Option Item
  | 0, _, _ => none
  | fuel + 1, s, cs =>
    let repetition (low : Nat) (high : Option Nat) (rest : List Char) :=
      let (lazy, rest) := readLazy rest
      match s.repeatLast? low high lazy with
      | some s => readPattern? fuel s rest
      | none => none
    match s.modes.skip cs with
    | [] => if s.levels.isEmpty then some s.alternatives else none
    | '(' :: rest =>
      match s.bracket? rest with
      | some (s, rest) => readPattern? fuel s rest
      | none => none
    | ')' :: rest =>
      match s.leave? with
      | some s => readPattern? fuel s rest
      | none => none
    | '|' :: rest =>
      readPattern? fuel { s with branches := s.branch :: s.branches, items := [] } rest
    | '[' :: rest =>
      match readBracketed? s.modes rest with
      | some (item, rest) => readPattern? fuel (s.push (.set item.set) item.height) rest
      | none => none
    | '?' :: rest => repetition 0 (some 1) rest
    | '*' :: rest => repetition 0 none rest
    | '+' :: rest => repetition 1 none rest
    | '{' :: rest =>
      match readBounds? s.modes rest with
      | some ((low, high), rest) => repetition low high rest
      | none => none
    | '\\' :: rest =>
      match readEscape? s.modes rest with
      | some (atom, rest) =>
        match atom.expr? s.modes with
        | some e => readPattern? fuel (s.push e 0) rest
        | none => none
      | none => none
    | '.' :: rest =>
      match s.modes.dot? with
      | some e => readPattern? fuel (s.push e 0) rest
      | none => none
    | '^' :: rest => readPattern? fuel (s.push (.look s.modes.start) 0) rest
    | '$' :: rest => readPattern? fuel (s.push (.look s.modes.finish) 0) rest
    | c :: rest =>
      readPattern? fuel (s.push (.set (s.modes.fold (.single c))) 0) rest

/-- Reads a pattern in the given modes. -/
def Expr.parse? (modes : Modes) (pattern : List Char) : Option Expr := do
  let item ← readPattern? (pattern.length + 1) ⟨modes, 1, [], [], [], []⟩ pattern
  if item.height ≤ maxHeight ∧ item.expr.size ≤ maxSize then some item.expr else none

end ImageTags.Pattern
