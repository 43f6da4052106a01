import OscRemote.Yaml.Scalar.Read
import OscRemote.Yaml.Token
import OscRemote.Yaml.Token.Tag

/-!
# From characters to tokens

The scanner goes over a document once.  A key is known as such only by the colon behind it, so at
each place where a key may begin the scanner notes the place; when the colon comes, the sign for a
key is put in front of the token that stands there.  The brackets of block collections are put in
where the indentation grows and shrinks.
-/

namespace OscRemote.Yaml

/-- A place in a document: the octets before it, the lines before it, and the characters before it
on its line. -/
structure Place where
  octets : Nat := 0
  line : Nat := 0
  column : Nat := 0
deriving DecidableEq, Repr

namespace Place

/-- The place behind a character. -/
def step (p : Place) (c : Char) : Place :=
  let octets := p.octets + c.utf8Size
  if isBreak c then ⟨octets, p.line + 1, 0⟩ else ⟨octets, p.line, p.column + 1⟩

/-- The place behind some characters. -/
def after (p : Place) (cs : List Char) : Place :=
  cs.foldl step p

end Place

/-- A place at which a key may begin, with the number of tokens before it. -/
structure PossibleKey where
  tokens : Nat
  place : Place
  required : Bool
deriving DecidableEq, Repr

/-- The state of the scanner: what is left of the document and where it begins, the tokens so far,
the column of the innermost block collection and those around it, whether a key may begin here, and
the possible keys of the open brackets, the innermost first. -/
structure Scanner where
  rest : List Char
  place : Place := {}
  tokens : Array Token := #[]
  indent : Option Nat := none
  indents : List (Option Nat) := []
  keyAllowed : Bool := true
  keys : List (Option PossibleKey) := [none]
deriving Repr

namespace Scanner

/-- Whether the scanner is inside brackets. -/
def inFlow (s : Scanner) : Bool :=
  decide (1 < s.keys.length)

/-- Goes on to `rest`, the end of what is left. -/
def goTo (s : Scanner) (rest : List Char) : Scanner :=
  { s with rest, place := s.place.after (s.rest.take (s.rest.length - rest.length)) }

/-- Goes on by `n` characters. -/
def skip (s : Scanner) (n : Nat) : Scanner :=
  { s with rest := s.rest.drop n, place := s.place.after (s.rest.take n) }

/-- Goes on over the characters that satisfy `p`. -/
def skipWhile (s : Scanner) (p : Char → Bool) : Scanner :=
  let (passed, rest) := s.rest.span p
  { s with rest, place := s.place.after passed }

/-- Adds a token. -/
def emit (s : Scanner) (t : Token) : Scanner :=
  { s with tokens := s.tokens.push t }

/-- Whether a column lies to the right of a block collection. -/
def isInside (column : Nat) : Option Nat → Bool
  | none => true
  | some n => decide (n < column)

/-- Begins a block collection if the column lies to the right of the one around it.  Its bracket
goes in front of the token with number `at`, or behind all tokens. -/
def openBlock (s : Scanner) (column : Nat) (start : Token) (place : Option Nat) : Scanner :=
  if !s.inFlow && isInside column s.indent then
    { s with
      indents := s.indent :: s.indents
      indent := some column
      tokens := s.tokens.insertIdxIfInBounds (place.getD s.tokens.size) start }
  else s

/-- Ends the block collections to the right of a column, or all. -/
def closeBlocks (column : Option Nat) (s : Scanner) : Scanner :=
  if s.inFlow then s
  else
    let rec go (indent : Option Nat) (tokens : Array Token) :
        List (Option Nat) → Option Nat × List (Option Nat) × Array Token
      | [] => (indent, [], tokens)
      | outer :: indents =>
        match indent with
        | none => (none, outer :: indents, tokens)
        | some n =>
          if column.all fun c => decide (c < n) then go outer (tokens.push .blockEnd) indents
          else (some n, outer :: indents, tokens)
    let (indent, indents, tokens) := go s.indent s.tokens s.indents
    { s with indent, indents, tokens }

/-- Gives up the possible key of the innermost brackets.  One that had to be a key is an error. -/
def dropKey (s : Scanner) : Except Error Scanner :=
  match s.keys with
  | some k :: keys =>
    if k.required then .error .missingColon else .ok { s with keys := none :: keys }
  | _ => .ok s

/-- Notes that a key may begin here.  In a block collection it must, at the column of the items. -/
def noteKey (s : Scanner) : Except Error Scanner :=
  if s.keyAllowed then
    s.dropKey.map fun s =>
      let required := !s.inFlow && s.indent == some s.place.column
      { s with keys := some ⟨s.tokens.size, s.place, required⟩ :: s.keys.tail }
  else .ok s

/-- The octets from the start of a key to its colon, at most. -/
def maxKey : Nat := 1024

/-- Whether a key that began at `start` cannot end at `here`: it lies on one line and is not long.
-/
def isStale (start here : Place) : Bool :=
  decide (start.line < here.line) || decide (start.octets + maxKey < here.octets)

/-- Gives up the possible keys that began too far back. -/
def dropStaleKeys (s : Scanner) : Except Error Scanner := do
  let keys ← s.keys.mapM fun key? =>
    match key? with
    | some k =>
      if isStale k.place s.place then
        if k.required then throw Error.missingColon else pure none
      else pure (some k)
    | none => pure none
  pure { s with keys }

/-- Passes over blanks, comments and line ends.  A tab counts as a blank only where no key may
begin; after a line end one may.  One byte order mark may begin a line, and takes a column of it. -/
def toToken : (fuel : Nat) → Scanner → Scanner
  | 0, s => s
  | fuel + 1, s =>
    let s := if s.place.column = 0 ∧ s.rest.head? = some byteOrderMark then s.skip 1 else s
    let tabs := s.inFlow || !s.keyAllowed
    let s := s.skipWhile fun c => c == ' ' || (tabs && c == '\t')
    let s := if s.rest.head? = some '#' then s.skipWhile fun c => !isBreak c else s
    match s.rest with
    | c :: _ =>
      if isBreak c then
        let s := s.skip 1
        toToken fuel (if s.inFlow then s else { s with keyAllowed := true })
      else s
    | [] => s

/-- A sign that begins or ends a document, or a directive, ends all collections. -/
def atDocumentLevel (s : Scanner) : Except Error Scanner :=
  (s.closeBlocks none).dropKey.map fun s => { s with keyAllowed := false }

/-- Reads the digits of a version. -/
def versionNumber (cs : List Char) : Except Error (Nat × List Char) :=
  let (digits, rest) := cs.span Char.isDigit
  if 9 < digits.length then .error .directive
  else
    match Number.digits? 10 digits with
    | some n => .ok (n, rest)
    | none => .error .directive

/-- Reads a directive behind its percent sign. -/
def directive (cs : List Char) : Except Error (Token × List Char) := do
  let (name, rest) := cs.span isWord
  if name.isEmpty || !startsBlank rest then throw .directive
  let value := rest.dropWhile isBlank
  let (token, rest) ←
    if name = "YAML".toList then do
      let (major, rest) ← versionNumber value
      match rest with
      | '.' :: rest => do
        let (minor, rest) ← versionNumber rest
        pure (Token.versionDirective major minor, rest)
      | _ => throw .directive
    else if name = "TAG".toList then do
      let (handle, rest) ← tagHandle value
      if handle.getLast? ≠ some '!' then throw .directive
      if !rest.head?.any isBlank then throw .directive
      let rest := rest.dropWhile isBlank
      let (lead, after) ← tagChars true rest
      if after.length = rest.length || !startsBlank after then throw .directive
      pure (Token.tagDirective handle lead, after)
    else throw .directive
  match endOfLine rest with
  | .ok rest => pure (token, rest)
  | .error _ => throw .directive

/-- An opening bracket. -/
def openFlow (s : Scanner) (t : Token) : Except Error Scanner :=
  s.noteKey.map fun s => ({ s with keys := none :: s.keys, keyAllowed := true }.skip 1).emit t

/-- A closing bracket. -/
def closeFlow (s : Scanner) (t : Token) : Except Error Scanner :=
  s.dropKey.map fun s =>
    let keys := if s.inFlow then s.keys.tail else s.keys
    ({ s with keys, keyAllowed := false }.skip 1).emit t

/-- A comma between items in brackets. -/
def flowEntry (s : Scanner) : Except Error Scanner :=
  s.dropKey.map fun s => ({ s with keyAllowed := true }.skip 1).emit .flowEntry

/-- A dash in front of an entry. -/
def blockEntry (s : Scanner) : Except Error Scanner := do
  if !s.inFlow && !s.keyAllowed then throw .entryNotAllowed
  let s ← (s.openBlock s.place.column .blockSequenceStart none).dropKey
  pure (({ s with keyAllowed := true }.skip 1).emit .blockEntry)

/-- A question mark in front of a key. -/
def keySign (s : Scanner) : Except Error Scanner := do
  if !s.inFlow && !s.keyAllowed then throw .keyNotAllowed
  let s ← (s.openBlock s.place.column .blockMappingStart none).dropKey
  pure (({ s with keyAllowed := !s.inFlow }.skip 1).emit .key)

/-- A colon in front of a value.  What stands at the noted place is its key; without one, the colon
must stand where a key might begin. -/
def valueSign (s : Scanner) : Except Error Scanner :=
  match s.keys with
  | some k :: keys =>
    let s := { s with tokens := s.tokens.insertIdxIfInBounds k.tokens .key }
    let s := s.openBlock k.place.column .blockMappingStart (some k.tokens)
    .ok (({ s with keys := none :: keys, keyAllowed := false }.skip 1).emit .value)
  | _ =>
    if !s.inFlow && !s.keyAllowed then .error .valueNotAllowed
    else
      let s := s.openBlock s.place.column .blockMappingStart none
      .ok (({ s with keyAllowed := !s.inFlow }.skip 1).emit .value)

/-- The name of an anchor behind its sign. -/
def anchorName (cs : List Char) : Except Error (List Char × List Char) :=
  let (name, rest) := cs.span isWord
  if name.isEmpty then .error .anchor
  else if startsBlank rest || rest.head?.any fun c => "?:,]\x7d%@\x60".toList.contains c then
    .ok (name, rest)
  else .error .anchor

/-- A token that may be, or begin, a key. -/
def content (s : Scanner) (read : Except Error (Token × List Char)) : Except Error Scanner := do
  let s ← s.noteKey
  let (t, rest) ← read
  pure ({ s with keyAllowed := false }.goTo rest |>.emit t)

/-- A block scalar. -/
def block (s : Scanner) (joined : Bool) (cs : List Char) : Except Error Scanner := do
  let s ← s.dropKey
  let (text, rest) ← blockScalar joined s.indent cs
  pure ({ s with keyAllowed := true }.goTo rest
    |>.emit (.scalar text (if joined then .folded else .literal)))

/-- A plain scalar.  A key may begin behind it if that is on a later line. -/
def plain (s : Scanner) : Except Error Scanner := do
  let s ← s.noteKey
  let indent := s.indent.elim 0 (· + 1)
  let (text, rest, broken) ← plainFrom s.inFlow indent s.place.column .none s.rest
  pure ({ s with keyAllowed := broken }.goTo rest |>.emit (.scalar text .plain))

/-- Characters with which no plain scalar begins, at least not before a blank. -/
def isIndicator (c : Char) : Bool :=
  "-?:,[]\x7b\x7d#&*!|>'\"%@\x60".toList.contains c

/-- Whether a plain scalar begins here. -/
def startsPlain (flow : Bool) : List Char → Bool
  | [] => false
  | c :: cs =>
    (!isBlank c && !isBreak c && !isIndicator c) ||
    (c == '-' && !cs.head?.any isBlank) ||
    (!flow && (c == '?' || c == ':') && !startsBlank cs)

/-- Reads the token that begins here. -/
def token (s : Scanner) (c : Char) (cs : List Char) : Except Error Scanner :=
  let lineStart := s.place.column == 0
  let flow := s.inFlow
  if lineStart && c == '%' then do
    let s ← s.atDocumentLevel
    let (t, rest) ← directive cs
    pure ((s.goTo rest).emit t)
  else if lineStart && startsDocumentMark (c :: cs) then
    s.atDocumentLevel.map fun s =>
      (s.skip 3).emit (if c = '-' then .documentStart else .documentEnd)
  else if c = '[' then s.openFlow .flowSequenceStart
  else if c = '\x7b' then s.openFlow .flowMappingStart
  else if c = ']' then s.closeFlow .flowSequenceEnd
  else if c = '\x7d' then s.closeFlow .flowMappingEnd
  else if c = ',' then s.flowEntry
  else if c = '-' ∧ startsBlank cs then s.blockEntry
  else if c = '?' ∧ (flow ∨ startsBlank cs) then s.keySign
  else if c = ':' ∧ (flow ∨ startsBlank cs) then s.valueSign
  else if c = '*' then s.content ((anchorName cs).map fun (name, rest) => (.alias name, rest))
  else if c = '&' then s.content ((anchorName cs).map fun (name, rest) => (.anchor name, rest))
  else if c = '!' then
    s.content ((tagName flow (c :: cs)).map fun (handle, name, rest) => (.tag handle name, rest))
  else if c = '|' ∧ !flow then s.block false cs
  else if c = '>' ∧ !flow then s.block true cs
  else if c = '\'' then
    s.content ((singleQuotedFrom false .none cs).map fun (text, rest) =>
      (.scalar text .singleQuoted, rest))
  else if c = '"' then
    s.content ((doubleQuotedFrom false .none none cs).map fun (text, rest) =>
      (.scalar text .doubleQuoted, rest))
  else if startsPlain flow (c :: cs) then s.plain
  else .error .noToken

/-- The end of a document ends all collections, as if on a line of its own. -/
def finish (s : Scanner) : Except Error (List Token) :=
  (s.closeBlocks none).dropKey.map (·.tokens.toList)

/-- Reads tokens to the end. -/
def run : (fuel : Nat) → Scanner → Except Error (List Token)
  | 0, s => s.finish
  | fuel + 1, s => do
    let s ← (s.toToken (fuel + 1)).dropStaleKeys
    let s := s.closeBlocks (some s.place.column)
    match s.rest with
    | [] => s.finish
    | c :: cs => run fuel (← s.token c cs)

end Scanner

/-- The tokens of a document.  A byte order mark in front of everything is not part of it. -/
def tokens (text : List Char) : Except Error (List Token) :=
  if text.all isAllowed then
    let text := oneLineEnd (if text.head? = some byteOrderMark then text.tail else text)
    Scanner.run (text.length + 1) { rest := text }
  else .error .controlCharacter

end OscRemote.Yaml
