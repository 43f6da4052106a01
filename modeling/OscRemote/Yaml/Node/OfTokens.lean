import OscRemote.Yaml.Error
import OscRemote.Yaml.Node
import OscRemote.Yaml.Token.Scan

/-!
# From tokens to nodes

The grammar of documents, over tokens.  Where a node may stand but none is written, an empty plain
scalar is taken for it.
-/

namespace OscRemote.Yaml

/-- What is known of anchors and handles at some point of a document.  Each name of an anchor has a
number, and each number the serial of the node that it marks at present; the nodes are listed by
serial once they are complete. -/
structure Names where
  handles : List (List Char × Octets) := []
  anchors : List (List Char × Nat) := []
  serials : List (Nat × Nat) := []
  nodes : List (Nat × Node) := []
  nextSerial : Nat := 0

namespace Names

/-- The handles that need no directive. -/
def standardHandles : List (List Char × Octets) :=
  [(['!'], octetsOf "!"), (['!', '!'], octetsOf "tag:yaml.org,2002:")]

/-- Marks the node with the next serial.  The number of the anchor is that of the distinct names
before it. -/
def mark (names : Names) (anchor : Option (List Char)) : Names × Option Nat :=
  match anchor with
  | none => (names, none)
  | some name =>
    let number := names.anchors.length
    let others := names.anchors.filter fun (other, _) => other ≠ name
    ({ names with
        anchors := (name, number) :: others
        serials := (number, names.nextSerial) :: names.serials
        nextSerial := names.nextSerial + 1 }, some names.nextSerial)

/-- Lists a node that is complete. -/
def complete (names : Names) (serial : Option Nat) (node : Node) : Names :=
  match serial with
  | none => names
  | some serial => { names with nodes := (serial, node) :: names.nodes }

/-- The nodes that the numbers of anchors stand for at the end of the document. -/
def marked (names : Names) : List (Nat × Node) :=
  names.serials.filterMap fun (number, serial) =>
    (names.nodes.lookup serial).map fun node => (number, node)

/-- The full name of a type. -/
def typeName (names : Names) (handle : List Char) (name : Octets) : Except Error Octets :=
  if handle.isEmpty then .ok name
  else
    match names.handles.lookup handle with
    | some lead => .ok (lead ++ name)
    | none => .error .undefinedHandle

end Names

/-- What may stand before a node. -/
structure Properties where
  anchor : Option (List Char) := none
  type : Option Octets := none

/-- Reads an anchor and the name of a type, in either order. -/
def properties (names : Names) : List Token → Except Error (Properties × List Token)
  | .anchor a :: .tag handle name :: ts => do
    pure ({ anchor := some a, type := some (← names.typeName handle name) }, ts)
  | .tag handle name :: .anchor a :: ts => do
    pure ({ anchor := some a, type := some (← names.typeName handle name) }, ts)
  | .anchor a :: ts => pure ({ anchor := some a }, ts)
  | .tag handle name :: ts => do pure ({ type := some (← names.typeName handle name) }, ts)
  | ts => pure ({}, ts)

/-- Tokens before which the key of a block mapping is missing, and its value. -/
def endsBlockPart : List Token → Bool
  | .key :: _ | .value :: _ | .blockEnd :: _ => true
  | _ => false

/-- Tokens before which an entry of a block sequence is missing. -/
def endsBlockEntry : List Token → Bool
  | .blockEntry :: _ | .blockEnd :: _ => true
  | _ => false

/-- Tokens before which a key in braces, or in a pair in brackets, is missing. -/
def endsFlowKey (closing : Token) : List Token → Bool
  | t :: _ => t = .value || t = .flowEntry || t = closing
  | [] => false

/-- Tokens before which a value in braces, or in a pair in brackets, is missing. -/
def endsFlowValue (closing : Token) : List Token → Bool
  | t :: _ => t = .flowEntry || t = closing
  | [] => false

/-- What a reader of nodes gives: the node, what is left, and the names known by then. -/
abbrev Reading (α : Type) := α × List Token × Names

mutual

/-- Reads a node.  Within a block mapping a sequence may stand without an indentation of its own. -/
def node (fuel : Nat) (inBlock bareEntries : Bool) (names : Names) (ts : List Token) :
    Except Error (Reading Node) :=
  match fuel with
  | 0 => .error .missingNode
  | fuel + 1 => do
    match ts with
    | .alias name :: ts =>
      match names.anchors.lookup name with
      | some number => pure (.alias number, ts, names)
      | none => throw .undefinedAnchor
    | ts =>
      let (props, ts) ← properties names ts
      let (names, serial) := names.mark props.anchor
      let (n, ts, names) ←
        match ts with
        | .scalar text style :: ts => pure (.scalar props.type style text, ts, names)
        | .flowSequenceStart :: ts => do
          let (items, ts, names) ← flowSequence fuel true names ts
          pure (.sequence props.type items, ts, names)
        | .flowMappingStart :: ts => do
          let (entries, ts, names) ← flowMapping fuel true names ts
          pure (.mapping props.type entries, ts, names)
        | .blockSequenceStart :: rest =>
          if inBlock then do
            let (items, ts, names) ← blockSequence fuel names rest
            pure (.sequence props.type items, ts, names)
          else missingNode props names ts
        | .blockMappingStart :: rest =>
          if inBlock then do
            let (entries, ts, names) ← blockMapping fuel names rest
            pure (.mapping props.type entries, ts, names)
          else missingNode props names ts
        | .blockEntry :: _ =>
          if bareEntries then do
            let (items, ts, names) ← bareSequence fuel names ts
            pure (.sequence props.type items, ts, names)
          else missingNode props names ts
        | ts => missingNode props names ts
      pure (n, ts, names.complete serial n)
where
  /-- A node that is not written must at least have an anchor or a type. -/
  missingNode (props : Properties) (names : Names) (ts : List Token) :
      Except Error (Reading Node) :=
    if props.anchor.isSome || props.type.isSome then .ok (.scalar props.type .plain [], ts, names)
    else .error .missingNode

/-- Reads the entries of a block sequence up to its end. -/
def blockSequence (fuel : Nat) (names : Names) (ts : List Token) :
    Except Error (Reading (List Node)) :=
  match fuel with
  | 0 => .error .missingEntry
  | fuel + 1 => do
    match ts with
    | .blockEntry :: ts => do
      let (item, ts, names) ←
        if endsBlockEntry ts then pure (Node.missing, ts, names) else node fuel true false names ts
      let (items, ts, names) ← blockSequence fuel names ts
      pure (item :: items, ts, names)
    | .blockEnd :: ts => pure ([], ts, names)
    | _ => throw .missingEntry

/-- Reads the entries of a sequence that has no brackets of its own. -/
def bareSequence (fuel : Nat) (names : Names) (ts : List Token) :
    Except Error (Reading (List Node)) :=
  match fuel with
  | 0 => .error .missingEntry
  | fuel + 1 => do
    match ts with
    | .blockEntry :: ts => do
      let (item, ts, names) ←
        if endsBlockEntry ts || endsBlockPart ts then pure (Node.missing, ts, names)
        else node fuel true false names ts
      let (items, ts, names) ← bareSequence fuel names ts
      pure (item :: items, ts, names)
    | ts => pure ([], ts, names)

/-- Reads the keys and values of a block mapping up to its end. -/
def blockMapping (fuel : Nat) (names : Names) (ts : List Token) :
    Except Error (Reading (List (Node × Node))) :=
  match fuel with
  | 0 => .error .missingKey
  | fuel + 1 => do
    match ts with
    | .key :: ts => do
      let (key, ts, names) ←
        if endsBlockPart ts then pure (Node.missing, ts, names) else node fuel true true names ts
      let (value, ts, names) ←
        match ts with
        | .value :: ts =>
          if endsBlockPart ts then pure (Node.missing, ts, names) else node fuel true true names ts
        | ts => pure (Node.missing, ts, names)
      let (entries, ts, names) ← blockMapping fuel names ts
      pure ((key, value) :: entries, ts, names)
    | .blockEnd :: ts => pure ([], ts, names)
    | _ => throw .missingKey

/-- Reads the items of a sequence in brackets up to its end.  An item may be a pair. -/
def flowSequence (fuel : Nat) (first : Bool) (names : Names) (ts : List Token) :
    Except Error (Reading (List Node)) :=
  match fuel with
  | 0 => .error .missingComma
  | fuel + 1 => do
    let ts ←
      match first, ts with
      | _, .flowSequenceEnd :: _ => pure ts
      | true, ts => pure ts
      | false, .flowEntry :: ts => pure ts
      | false, _ => throw .missingComma
    match ts with
    | .flowSequenceEnd :: ts => pure ([], ts, names)
    | ts =>
      let (item, ts, names) ←
        match ts with
        | .key :: ts => do
          let (key, ts, names) ←
            -- without a key, the token behind its place is passed over
            if endsFlowKey .flowSequenceEnd ts then pure (Node.missing, ts.tail, names)
            else node fuel false false names ts
          let (value, ts, names) ←
            match ts with
            | .value :: ts =>
              if endsFlowValue .flowSequenceEnd ts then pure (Node.missing, ts, names)
              else node fuel false false names ts
            | ts => pure (Node.missing, ts, names)
          pure (Node.mapping none [(key, value)], ts, names)
        | ts => node fuel false false names ts
      let (items, ts, names) ← flowSequence fuel false names ts
      pure (item :: items, ts, names)

/-- Reads the keys and values of a mapping in braces up to its end.  A node alone is a key. -/
def flowMapping (fuel : Nat) (first : Bool) (names : Names) (ts : List Token) :
    Except Error (Reading (List (Node × Node))) :=
  match fuel with
  | 0 => .error .missingComma
  | fuel + 1 => do
    let ts ←
      match first, ts with
      | _, .flowMappingEnd :: _ => pure ts
      | true, ts => pure ts
      | false, .flowEntry :: ts => pure ts
      | false, _ => throw .missingComma
    match ts with
    | .flowMappingEnd :: ts => pure ([], ts, names)
    | ts =>
      let (entry, ts, names) ←
        match ts with
        | .key :: ts => do
          let (key, ts, names) ←
            if endsFlowKey .flowMappingEnd ts then pure (Node.missing, ts, names)
            else node fuel false false names ts
          let (value, ts, names) ←
            match ts with
            | .value :: ts =>
              if endsFlowValue .flowMappingEnd ts then pure (Node.missing, ts, names)
              else node fuel false false names ts
            | ts => pure (Node.missing, ts, names)
          pure ((key, value), ts, names)
        | ts => do
          let (key, ts, names) ← node fuel false false names ts
          pure ((key, Node.missing), ts, names)
      let (entries, ts, names) ← flowMapping fuel false names ts
      pure (entry :: entries, ts, names)

end

/-- Reads the directives in front of a document; a version, at most once, is 1.1 or 1.2. -/
def directives : (version : Bool) → (handles : List (List Char × Octets)) → List Token →
    Except Error (List (List Char × Octets) × List Token)
  | version, handles, .versionDirective major minor :: ts =>
    if version || major != 1 || (minor != 1 && minor != 2) then .error .directive
    else directives true handles ts
  | version, handles, .tagDirective handle lead :: ts =>
    if (handles.lookup handle).isSome then .error .directive
    else directives version ((handle, lead) :: handles) ts
  | _, handles, ts => .ok (handles, ts)

/-- Reads the root of a document. -/
def rootNode (names : Names) (ts : List Token) : Except Error (Reading Node) :=
  node (3 * ts.length + 3) true false names ts

/-- Tokens before which the root of a document is missing. -/
def endsDocument : List Token → Bool
  | [] => true
  | .versionDirective _ _ :: _ | .tagDirective _ _ :: _ => true
  | .documentStart :: _ | .documentEnd :: _ => true
  | _ => false

/-- The document that tokens make: there is at most one. -/
def Document.ofTokens (ts : List Token) : Except Error Document := do
  if ts.isEmpty then pure { root := none }
  else
    let (handles, rest) ← directives false [] ts
    let names : Names := { handles := handles ++ Names.standardHandles }
    let (n, rest, names) ←
      match rest with
      | .documentStart :: rest =>
        if endsDocument rest then pure (Node.missing, rest, names) else rootNode names rest
      | rest => if rest.length = ts.length then rootNode names rest else throw .missingStart
    if (rest.dropWhile (· = .documentEnd)).isEmpty then
      pure { root := some n, marked := names.marked }
    else throw .severalDocuments

/-- Reads a document. -/
def Document.read (text : String) : Except Error Document := do
  Document.ofTokens (← tokens text.toList)

end OscRemote.Yaml
