/-
  ClassTidy.Pattern.Reader — text to pattern.

  The text is read one token at a time, a token being a character or a backslash with the
  character behind it. The reader always knows the next token, so a backslash that ends
  the text is reported when the token before it is taken. What a fault points at is
  counted back from the position of the next token.

  Groups are numbered in the order in which they open. A reference needs a group that has
  closed, and its widths are known from then on. What can be said of the pattern as a
  whole only, such as the width of a look-behind, is looked at when all has been read.

  `fuel` bounds the calls inside each other; each takes a token first or is one of a fixed
  number of steps between two tokens, and three times the length is enough.
-/
import ClassTidy.Number.Integer
import ClassTidy.Pattern.Node
import ClassTidy.Text.Identifier
import ClassTidy.Text.Name.Lookup

namespace ClassTidy.Pattern

/-! ## Tokens -/

inductive Token where
  | plain (c : Char)
  | escaped (c : Char)
  deriving DecidableEq, Repr

def Token.text : Token → Text
  | .plain c => [c]
  | .escaped c => ['\\', c]

def Token.size : Token → Nat
  | .plain _ => 1
  | .escaped _ => 2

/-- What the reader knows: the text from the next token on and its position, and the groups so far. -/
structure Progress where
  rest : Text
  position : Nat
  length : Nat
  /-- How many groups have opened. -/
  groups : Nat := 0
  names : List (Text × Nat) := []
  /-- The widths of the groups that have closed. -/
  widths : List (Nat × Nat × Nat) := []
  /-- Inside a look-behind, how many groups had opened before it. -/
  behindFrom : Option Nat := none
  /-- Groups that a condition asked for by number, and where. -/
  asked : List (Nat × Nat) := []
  /-- The flags for the whole pattern. -/
  flags : List Flag := []

abbrev Reader := StateT Progress (Except ReadError)

/-- Fails at a position counted back from the next token. -/
def failBack {α : Type} (cause : Cause) (back : Nat) : Reader α := fun s =>
  .error (.fault ⟨cause, some (s.position - back)⟩)

/-- Fails at a position. -/
def failAt {α : Type} (cause : Cause) (position : Nat) : Reader α := fun _ =>
  .error (.fault ⟨cause, some position⟩)

/-- Breaks the reading off. -/
def breakOff {α : Type} (b : Breakdown) : Reader α := fun _ => .error (.breakdown b)

def tokenOf : Text → Option Token
  | [] => none
  | '\\' :: c :: _ => some (.escaped c)
  | c :: _ => some (.plain c)

/-- The next token, which stays. -/
def peek : Reader (Option Token) := fun s => .ok (tokenOf s.rest, s)

/-- Where the next token starts. -/
def position : Reader Nat := fun s => .ok (s.position, s)

/-- The state with the next token fetched; a backslash that ends the text is a fault. -/
def fetch (s : Progress) : Except ReadError Progress :=
  if s.rest = ['\\'] then .error (.fault ⟨.danglingEscape, some (s.length - 1)⟩) else .ok s

/-- Takes the next token. -/
def take : Reader (Option Token) := fun s =>
  match tokenOf s.rest with
  | none => .ok (none, s)
  | some token => do
    let s ← fetch { s with rest := s.rest.drop token.size, position := s.position + token.size }
    return (some token, s)

/-- Takes the next token if it is `c`. -/
def takeIf (c : Char) : Reader Bool := do
  if (← peek) = some (.plain c) then
    let _ ← take
    return true
  else return false

/-- Goes back to a place where the text from the next token on was `rest`. -/
def rewind (rest : Text) (position : Nat) : Reader Unit := fun s => do
  let s ← fetch { s with rest := rest, position := position }
  return ((), s)

/-- Takes up to `n` characters that satisfy a test. -/
def takeWhile (p : Char → Bool) : Nat → Reader Text
  | 0 => return []
  | n + 1 => do
    match ← peek with
    | some (.plain c) =>
      if p c then
        let _ ← take
        return c :: (← takeWhile p n)
      else return []
    | _ => return []

/-- Takes a name up to a terminator; `read` is the name so far. -/
def takeUntil (terminator : Char) (what : String) : Nat → Text → Reader Text
  | 0, read => return read
  | fuel + 1, read => do
    match ← take with
    | none => if read.isEmpty then failBack (.missingName what) 0 else failBack (.openName terminator) read.length
    | some token =>
      if token = .plain terminator then
        if read.isEmpty then failBack (.missingName what) 1 else return read
      else takeUntil terminator what fuel (read ++ token.text)

def takeName (terminator : Char) (what : String) : Reader Text := do
  let s ← get
  takeUntil terminator what (s.rest.length + 1) []

/-! ## Groups -/

def hasClosed (s : Progress) (number : Nat) : Bool := (s.widths.lookup number).isSome

/-- The width of a group. -/
def groupWidth (s : Progress) (number : Nat) : Nat × Nat := (s.widths.lookup number).getD (0, 0)

/-- Refuses a reference out of a look-behind to a group that is open or inside it. -/
def checkBehind (number : Nat) : Reader Unit := do
  let s ← get
  match s.behindFrom with
  | none => return ()
  | some first =>
    if !hasClosed s number then failBack .referenceToOpenGroup 0
    else if first < number then failBack .referenceInBehind 0
    else return ()

/-- Opens a group and gives its number. -/
def openGroup (groupName : Option Text) : Reader Nat := do
  let s ← get
  let number := s.groups + 1
  match groupName with
  | none => set { s with groups := number }
  | some n =>
    match s.names.lookup n with
    | some earlier => failBack (.nameTaken n number earlier) (n.length + 1)
    | none => set { s with groups := number, names := (n, number) :: s.names }
  return number

def closeGroup (number : Nat) (body : List Part) : Reader Unit :=
  modify fun s => { s with widths := (number, widthOf (groupWidth s) body) :: s.widths }

def checkName (n : Text) : Reader Unit :=
  if Text.isIdentifier n then return () else failBack (.badName n) (n.length + 1)

/-! ## Escapes -/

/-- What an escape stands for. -/
inductive Atom where
  | code (n : Nat)
  | category (k : Category) (negated : Bool)
  | place (s : Spot)
  | reference (number : Nat)
  deriving DecidableEq, Repr

/-- Escapes of single controls. -/
def control? : Char → Option Nat
  | 'a' => some 7
  | 'b' => some 8
  | 'f' => some 12
  | 'n' => some 10
  | 'r' => some 13
  | 't' => some 9
  | 'v' => some 11
  | '\\' => some 92
  | _ => none

def category? : Char → Option Atom
  | 'd' => some (.category .digit false)
  | 'D' => some (.category .digit true)
  | 's' => some (.category .blank false)
  | 'S' => some (.category .blank true)
  | 'w' => some (.category .word false)
  | 'W' => some (.category .word true)
  | _ => none

def place? : Char → Option Atom
  | 'A' => some (.place .textStart)
  | 'Z' => some (.place .textEnd)
  | 'b' => some (.place .boundary)
  | 'B' => some (.place .inside)
  | _ => none

def isOctal (c : Char) : Bool := 48 ≤ c.toNat && c.toNat ≤ 55

def isHex (c : Char) : Bool := (Text.hexValue? c).isSome

def octalValue (t : Text) : Nat := t.foldl (fun n c => n * 8 + (c.toNat - 48)) 0

def hexNumber (t : Text) : Nat := t.foldl (fun n c => n * 16 + (Text.hexValue? c).getD 0) 0

/-- An escape of `width` hexadecimal digits. -/
def hexEscape (c : Char) (width : Nat) : Reader Atom := do
  let digits ← takeWhile isHex width
  let escape := '\\' :: c :: digits
  if digits.length = width then
    let n := hexNumber digits
    if 0x110000 ≤ n then failBack (.badEscape escape) escape.length else return .code n
  else failBack (.incompleteEscape escape) escape.length

/-- An escape of a character by name. -/
def namedEscape : Reader Atom := do
  if ← takeIf '\x7b' then
    let n ← takeName '\x7d' "character name"
    match Text.named? n with
    | some code => return .code code
    | none => failBack (.unknownCharacter n) (n.length + 4)
  else failBack .missingBrace 0

/-- An escape that means itself, if it may. -/
def plainEscape (c : Char) : Reader Atom :=
  if Text.isAsciiLetter c.toNat || Text.isDigit c then failBack (.badEscape ['\\', c]) 2
  else return .code c.toNat

/-- A reference to a group, written in decimal. -/
def reference (digits : Text) : Reader Atom := do
  let s ← get
  let number := Text.natValue digits
  if number ≤ s.groups then
    if hasClosed s number then
      checkBehind number
      return .reference number
    else failBack .referenceToOpenGroup (digits.length + 1)
  else failBack (.badReference number) digits.length

/-- An escape of digits outside a set: three octal digits are a code, others a reference. -/
def digitEscape (c : Char) : Reader Atom := do
  match ← peek with
  | some (.plain d) =>
    if Text.isDigit d then
      let _ ← take
      match ← peek with
      | some (.plain e) =>
        if isOctal c && isOctal d && isOctal e then
          let _ ← take
          let n := octalValue [c, d, e]
          if 255 < n then failBack (.octalEscape ['\\', c, d, e]) 4 else return .code n
        else reference [c, d]
      | _ => reference [c, d]
    else reference [c]
  | _ => reference [c]

/-- An escape outside a set. -/
def escape (c : Char) : Reader Atom :=
  match place? c with
  | some a => return a
  | none =>
    match category? c with
    | some a => return a
    | none =>
      match control? c with
      | some n => return .code n
      | none =>
        if c = 'x' then hexEscape c 2
        else if c = 'u' then hexEscape c 4
        else if c = 'U' then hexEscape c 8
        else if c = 'N' then namedEscape
        else if c = '0' then do
          let digits ← takeWhile isOctal 2
          return .code (octalValue digits)
        else if Text.isDigit c then digitEscape c
        else plainEscape c

/-- An escape inside a set. -/
def setEscape (c : Char) : Reader Atom :=
  match control? c with
  | some n => return .code n
  | none =>
    match category? c with
    | some a => return a
    | none =>
      if c = 'x' then hexEscape c 2
      else if c = 'u' then hexEscape c 4
      else if c = 'U' then hexEscape c 8
      else if c = 'N' then namedEscape
      else if isOctal c then do
        let digits ← takeWhile isOctal 2
        let n := octalValue (c :: digits)
        if 255 < n then failBack (.octalEscape ('\\' :: c :: digits)) (digits.length + 2) else return .code n
      else plainEscape c

/-! ## Sets -/

def Atom.toItem : Atom → SetItem
  | .code n => .code n
  | .category k negated => .category k negated
  | .place _ => .code 0
  | .reference _ => .code 0

/-- One member of a set, before it is known whether it starts a range. -/
def setMember : Token → Reader Atom
  | .plain c => return .code c.toNat
  | .escaped c => setEscape c

/-- The items of a set from one on; `items` are those before and `here` is where the set opened. -/
def setItems (here : Nat) : Nat → List SetItem → Reader (List SetItem)
  | 0, items => return items
  | fuel + 1, items => do
    match ← take with
    | none => failAt .openSet here
    | some token =>
      if token = .plain ']' && !items.isEmpty then return items
      else
        let low ← setMember token
        if ← takeIf '-' then
          match ← take with
          | none => failAt .openSet here
          | some other =>
            if other = .plain ']' then return items ++ [low.toItem, .code 45]
            else
              let high ← setMember other
              let back := token.size + 1 + other.size
              match low, high with
              | .code a, .code b =>
                if b < a then failBack (.badRange token.text other.text) back
                else setItems here fuel (items ++ [.range a b])
              | _, _ => failBack (.badRange token.text other.text) back
        else setItems here fuel (items ++ [low.toItem])

/-- A set after its opening bracket. -/
def set : Reader Part := do
  let here := (← position) - 1
  let negated ← takeIf '^'
  let s ← get
  let items ← setItems here (s.rest.length + 1) []
  return .ofSet negated items

def Atom.toPart : Atom → Part
  | .code n => .char n false
  | .category k negated => .set false [.category k negated]
  | .place s => .place s
  | .reference number => .ref number

/-! ## Repeats -/

/-- The bounds of a quantifier. -/
structure Bounds where
  least : Nat
  most : Option Nat

/-- No count is as great as this. -/
def countEnd : Nat := 4294967295

/-- A count in decimal. -/
def countOf (digits : Text) : Reader Nat := do
  if Number.mostDigits < digits.length then breakOff (.tooManyDigits digits.length)
  let n := Text.natValue digits
  if countEnd ≤ n then breakOff .repeatTooLarge
  return n

/-- The bounds behind a `{`, or none if it is not a quantifier and means itself. -/
def braceBounds : Reader (Option Bounds) := do
  let s ← get
  let start := s.position
  if (← peek) = some (.plain '\x7d') then return none
  let low ← takeWhile Text.isDigit (s.rest.length + 1)
  let high ← if ← takeIf ',' then takeWhile Text.isDigit (s.rest.length + 1) else pure low
  if ← takeIf '\x7d' then
    let least ← if low.isEmpty then pure 0 else countOf low
    if high.isEmpty then return some ⟨least, none⟩
    let most ← countOf high
    if most < least then failAt .repeatBounds start
    return some ⟨least, some most⟩
  else
    rewind s.rest s.position
    return none

/-- How a quantifier goes about its work, by the sign behind it. -/
def repeatMode : Reader Mode := do
  if ← takeIf '?' then return .lazy
  if ← takeIf '+' then return .possessive
  return .greedy

/-- Repeats the last part; `parts` has it in front and `start` is where the quantifier starts. -/
def repeatLast (start : Nat) (b : Bounds) (parts : List Part) : Reader (List Part) := do
  match parts with
  | [] => failAt .nothingToRepeat start
  | .place _ :: _ => failAt .nothingToRepeat start
  | .rep _ _ _ _ :: _ => failAt .multipleRepeat start
  | part :: before =>
    let mode ← repeatMode
    return .rep mode b.least b.most part.unwrap :: before

/-- The bounds of a quantifier of one character. -/
def quantifier? : Char → Option Bounds
  | '?' => some ⟨0, some 1⟩
  | '*' => some ⟨0, none⟩
  | '+' => some ⟨1, none⟩
  | _ => none

/-! ## Flags -/

/-- A fault at the token `d`, which is no flag where one could stand. -/
def noFlag {α : Type} (d : Char) (expected : String) : Reader α :=
  failBack (if Text.isLetter d.toNat then .unknownFlag else .flagExpected expected) 1

/-- Flags switched on, from `flag` on, and the token that ended them. -/
def flagsOn : Nat → List Flag → Flag → Reader (List Flag × Char)
  | 0, on, _ => return (on, ')')
  | fuel + 1, on, flag => do
    if flag = .bytes then failBack .flagForBytes 0
    let on := on ++ [flag]
    if flag.isKind && on.any (fun other => other.isKind && other != flag) then failBack .flagsIncompatible 0
    match ← take with
    | none => failBack (.flagExpected "-, : or )") 0
    | some (.plain d) =>
      if d = ')' || d = '-' || d = ':' then return (on, d)
      match Flag.ofChar? d with
      | some flag => flagsOn fuel on flag
      | none => noFlag d "-, : or )"
    | some (.escaped _) => failBack (.flagExpected "-, : or )") 2

/-- Flags switched off, from `flag` on, up to the colon. -/
def flagsOff : Nat → List Flag → Flag → Reader (List Flag)
  | 0, off, _ => return off
  | fuel + 1, off, flag => do
    if flag.isKind then failBack .kindFlagOff 0
    let off := off ++ [flag]
    match ← take with
    | none => failBack (.flagExpected ":") 0
    | some (.plain d) =>
      if d = ':' then return off
      match Flag.ofChar? d with
      | some flag => flagsOff fuel off flag
      | none => noFlag d ":"
    | some (.escaped _) => failBack (.flagExpected ":") 2

/-- The first flag to be switched off, behind the minus. -/
def firstOff (fuel : Nat) : Reader (List Flag) := do
  match ← take with
  | none => failBack (.flagExpected "flag") 0
  | some (.plain d) =>
    match Flag.ofChar? d with
    | some flag => flagsOff fuel [] flag
    | none => noFlag d "flag"
  | some (.escaped _) => failBack (.flagExpected "flag") 2

/-- Flags after `(?`, from the first one (or the minus) on: for the whole pattern if there are none to be switched
off. -/
def groupFlags (first : Option Flag) : Reader (List Flag × Option (List Flag)) := do
  let s ← get
  let fuel := s.rest.length + 1
  let (on, c) ← match first with
    | some flag => flagsOn fuel [] flag
    | none => pure ([], '-')
  if c = ')' then return (on, none)
  if on.contains .template then failBack .globalFlagOn 1
  let off ← if c = '-' then firstOff fuel else pure []
  if off.contains .template then failBack .globalFlagOff 1
  if on.any off.contains then failBack .flagOnAndOff 1
  return (on, some off)

/-! ## Groups and sequences -/

/-- Skips a comment in parentheses that opened at `start`. -/
def skipComment (start : Nat) : Nat → Reader Unit
  | 0 => return ()
  | fuel + 1 => do
    match ← take with
    | none => failAt .openComment start
    | some token => if token = .plain ')' then return () else skipComment start fuel

/-- Skips a comment to the end of the line. -/
def skipLine : Nat → Reader Unit
  | 0 => return ()
  | fuel + 1 => do
    match ← take with
    | none => return ()
    | some token => if token = .plain '\n' then return () else skipLine fuel

def isVerboseBlank (c : Char) : Bool := (9 ≤ c.toNat && c.toNat ≤ 13) || c == ' '

/-- What a group after `(` turns out to be. -/
inductive Opening where
  | capture (groupName : Option Text)
  /-- A group that is not remembered, with flags of its own. -/
  | plain (on off : List Flag)
  | atomic
  | look (behind positive : Bool)
  | condition (number : Nat)
  | reference (number : Nat)
  | comment
  | flags (on : List Flag)
  deriving DecidableEq, Repr

/-- A reference by name. -/
def namedReference : Reader Opening := do
  let n ← takeName ')' "group name"
  checkName n
  let s ← get
  match s.names.lookup n with
  | none => failBack (.unknownName n) (n.length + 1)
  | some number =>
    if !hasClosed s number then failBack .referenceToOpenGroup (n.length + 1)
    checkBehind number
    return .reference number

/-- A group number, as a condition writes it. -/
def groupNumber? (n : Text) : Option Nat :=
  match Number.integer? n with
  | some (.ofNat k) => some k
  | _ => none

/-- The group that a condition asks for. -/
def condition : Reader Opening := do
  let n ← takeName ')' "group name"
  let back := n.length + 1
  let number ← if Text.isIdentifier n then do
      let s ← get
      match s.names.lookup n with
      | none => failBack (.unknownName n) back
      | some number => pure number
    else
      match groupNumber? n with
      | none => failBack (.badName n) back
      | some number => do
        if number = 0 then failBack .badGroupNumber back
        if 1073741823 ≤ number then failBack (.badReference number) back
        modify fun s =>
          if (s.asked.lookup number).isSome then s
          else { s with asked := s.asked ++ [(number, s.position - back)] }
        pure number
  checkBehind number
  return .condition number

/-- What follows `(?P`. -/
def named : Reader Opening := do
  if ← takeIf '<' then
    let n ← takeName '>' "group name"
    checkName n
    return .capture (some n)
  else if ← takeIf '=' then namedReference
  else
    match ← take with
    | none => failBack .unexpectedEnd 0
    | some token => failBack (.unknownExtension ('P' :: token.text)) (token.size + 2)

/-- What follows `(`, which stands at `start`. -/
def opening (start : Nat) : Reader Opening := do
  if ← takeIf '?' then
    match ← take with
    | none => failBack .unexpectedEnd 0
    | some (.escaped c) => failBack (.unknownExtension ['\\', c]) 3
    | some (.plain c) =>
      if c = 'P' then named
      else if c = ':' then return .plain [] []
      else if c = '#' then
        let s ← get
        skipComment start (s.rest.length + 1)
        return .comment
      else if c = '=' then return .look false true
      else if c = '!' then return .look false false
      else if c = '<' then
        match ← take with
        | none => failBack .unexpectedEnd 0
        | some token =>
          if token = .plain '=' then return .look true true
          else if token = .plain '!' then return .look true false
          else failBack (.unknownExtension ('<' :: token.text)) (token.size + 2)
      else if c = '(' then condition
      else if c = '>' then return .atomic
      else if c = '-' || (Flag.ofChar? c).isSome then
        match ← groupFlags (Flag.ofChar? c) with
        | (on, none) => return .flags on
        | (on, some off) => return .plain on off
      else failBack (.unknownExtension [c]) 2
  else return .capture none

/-- Takes the parenthesis that closes a group opened at `start`. -/
def closing (start : Nat) : Reader Unit := do
  if ← takeIf ')' then return () else failAt .openGroup start

mutual

/-- Sequences with `|` between them, of which `branches` were read; `top` is the level outside all groups. -/
def alternatives (top : Bool) : Nat → Bool → List (List Part) → Reader (List Part)
  | 0, _, branches => return ofBranches branches
  | fuel + 1, verbose, branches => do
    let branch ← sequence top branches.isEmpty fuel verbose []
    let branches := branches ++ [branch]
    if ← takeIf '|' then
      let s ← get
      alternatives top fuel (if top then s.flags.contains .verbose else verbose) branches
    else return ofBranches branches

/-- One sequence; `parts` are those before, the last in front. -/
def sequence (top first : Bool) : Nat → Bool → List Part → Reader (List Part)
  | 0, _, parts => return parts.reverse.flatMap (·.unwrap)
  | fuel + 1, verbose, parts => do
    let start ← position
    match ← peek with
    | none => return parts.reverse.flatMap (·.unwrap)
    | some (.escaped c) =>
      let _ ← take
      let atom ← escape c
      sequence top first fuel verbose (atom.toPart :: parts)
    | some (.plain c) =>
      if c = '|' || c = ')' then return parts.reverse.flatMap (·.unwrap)
      else
        let _ ← take
        if verbose && isVerboseBlank c then sequence top first fuel verbose parts
        else if verbose && c = '#' then
          let s ← get
          skipLine (s.rest.length + 1)
          sequence top first fuel verbose parts
        else if c = '[' then
          let part ← set
          sequence top first fuel verbose (part :: parts)
        else if c = '.' then sequence top first fuel verbose (.any :: parts)
        else if c = '^' then sequence top first fuel verbose (.place .caret :: parts)
        else if c = '$' then sequence top first fuel verbose (.place .dollar :: parts)
        else if c = '(' then
          match ← opening start with
          | .flags on =>
            modify fun s => { s with flags := s.flags ++ on }
            if !(top && first && parts.isEmpty) then failAt .lateFlags start
            let s ← get
            sequence top first fuel (s.flags.contains .verbose) parts
          | opened =>
            match ← group start fuel verbose opened with
            | none => sequence top first fuel verbose parts
            | some part => sequence top first fuel verbose (part :: parts)
        else if c = '\x7b' then
          match ← braceBounds with
          | none => sequence top first fuel verbose (.char c.toNat false :: parts)
          | some b =>
            let parts ← repeatLast start b parts
            sequence top first fuel verbose parts
        else
          match quantifier? c with
          | some b =>
            let parts ← repeatLast start b parts
            sequence top first fuel verbose parts
          | none => sequence top first fuel verbose (.char c.toNat false :: parts)

/-- The rest of a group; none for a comment. -/
def group (start : Nat) : Nat → Bool → Opening → Reader (Option Part)
  | 0, _, _ => return none
  | fuel + 1, verbose, opened => do
    match opened with
    | .capture n =>
      let number ← openGroup n
      let body ← alternatives false fuel verbose []
      closing start
      closeGroup number body
      return some (.group (some number) [] [] body)
    | .plain on off =>
      let body ← alternatives false fuel ((verbose || on.contains .verbose) && !off.contains .verbose) []
      closing start
      return some (.group none on off body)
    | .atomic =>
      let body ← alternatives false fuel verbose []
      closing start
      return some (.atomic body)
    | .look false positive =>
      let body ← alternatives false fuel verbose []
      closing start
      return some (.look false positive body)
    | .look true positive =>
      let outer := (← get).behindFrom
      if outer.isNone then modify fun s => { s with behindFrom := some s.groups }
      let body ← alternatives false fuel verbose []
      if outer.isNone then modify fun s => { s with behindFrom := none }
      closing start
      return some (.look true positive body)
    | .condition number =>
      let yes ← sequence false false fuel verbose []
      let no ← if ← takeIf '|' then do
          let no ← sequence false false fuel verbose []
          if (← peek) = some (.plain '|') then failBack .tooManyBranches 0
          pure no
        else pure []
      closing start
      return some (.either number yes no)
    | .reference number => return some (.ref number)
    | .comment => return none
    | .flags _ => return none

end

/-- Reads a whole pattern. -/
def whole (fuel : Nat) : Reader Pattern := do
  let parts ← alternatives true fuel false []
  let s ← get
  if s.flags.contains .ascii && s.flags.contains .all then breakOff .asciiAndAll
  if (← peek).isSome then failBack .unbalanced 0
  match s.asked.find? fun a => s.groups < a.1 with
  | some (number, position) => failAt (.badReference number) position
  | none =>
    match Pattern.ofParts (groupWidth s) (Flags.change {} s.flags []) (s.flags.contains .template) s.groups parts with
    | .ok p => return p
    | .error cause => throw (.fault ⟨cause, none⟩)

end ClassTidy.Pattern

namespace ClassTidy

/-- The pattern that a text writes. -/
def Pattern.read (t : Text) : Except Pattern.ReadError Pattern := do
  let s ← Pattern.fetch { rest := t, position := 0, length := t.length }
  let (p, _) ← (Pattern.whole (4 * t.length + 8)).run s
  return p

end ClassTidy
