import OscRemote.Number.Integer
import OscRemote.Octets
import OscRemote.Yaml.Error
import OscRemote.Yaml.Character

/-!
# Names of types

A node may be marked with the name of its type: a handle, which a directive or the default gives a
meaning, and the rest of the name, in which octets may be given by percent signs.
-/

namespace OscRemote.Yaml

/-- Characters of the names of types; some only between angle brackets or in a directive. -/
def isTagChar (verbatim : Bool) (c : Char) : Bool :=
  isWord c || ";/?:@&=+$.!~*'()".toList.contains c ||
    (verbatim && (c == ',' || c == '[' || c == ']'))

/-- An octet that is given by a percent sign and two hexadecimal digits. -/
def percentOctet? : List Char → Option (UInt8 × List Char)
  | '%' :: a :: b :: cs =>
    (Number.digit? 16 a).bind fun x =>
      (Number.digit? 16 b).map fun y => (UInt8.ofNat (16 * x + y), cs)
  | _ => none

/-- How many octets the character takes that begins with this one. -/
def octetCount? (b : UInt8) : Option Nat :=
  if b < 0x80 then some 1
  else if b &&& 0xE0 == 0xC0 then some 2
  else if b &&& 0xF0 == 0xE0 then some 3
  else if b &&& 0xF8 == 0xF0 then some 4
  else none

/-- Reads the characters of a name.  `owed` counts the octets that a character given by percent
signs still needs. -/
def tagCharsFrom (verbatim : Bool) :
    (fuel owed : Nat) → List Char → Except Error (Octets × List Char)
  | 0, _, cs => .ok ([], cs)
  | fuel + 1, owed, cs =>
    match cs with
    | [] => if owed = 0 then .ok ([], []) else .error .tag
    | c :: rest =>
      if owed ≠ 0 ∨ c = '%' then
        match percentOctet? cs with
        | none => .error .tag
        | some (b, rest) =>
          let owed? :=
            if owed ≠ 0 then (if b &&& 0xC0 == 0x80 then some (owed - 1) else none)
            else (octetCount? b).map (· - 1)
          match owed? with
          | none => .error .tag
          | some owed =>
            (tagCharsFrom verbatim fuel owed rest).map fun (bs, rest) => (b :: bs, rest)
      else if isTagChar verbatim c then
        (tagCharsFrom verbatim fuel 0 rest).map fun (bs, rest) =>
          (octetsOf (String.singleton c) ++ bs, rest)
      else .ok ([], cs)

/-- Reads the characters of a name; a zero octet ends the name early. -/
def tagChars (verbatim : Bool) (cs : List Char) : Except Error (Octets × List Char) :=
  (tagCharsFrom verbatim (cs.length + 1) 0 cs).map fun (bs, rest) => (bs.takeWhile (· != 0), rest)

/-- Reads a handle: an exclamation mark, a word and perhaps another mark. -/
def tagHandle : List Char → Except Error (List Char × List Char)
  | '!' :: cs =>
    let (word, rest) := cs.span isWord
    match rest with
    | '!' :: rest => .ok ('!' :: word ++ ['!'], rest)
    | rest => .ok ('!' :: word, rest)
  | _ => .error .tag

/-- Reads the name of a type.  The exclamation mark alone is a name without a handle. -/
def tagName (flow : Bool) (cs : List Char) : Except Error (List Char × Octets × List Char) := do
  let (handle, name, rest) ←
    match cs with
    | '!' :: '<' :: verbatim => do
      let (name, rest) ← tagChars true verbatim
      if rest.length = verbatim.length then throw .tag
      match rest with
      | '>' :: rest => pure ([], name, rest)
      | _ => throw .tag
    | cs => do
      let (handle, rest) ← tagHandle cs
      if handle.length ≥ 2 ∧ handle.getLast? = some '!' then
        let (name, after) ← tagChars false rest
        if after.length = rest.length then throw .tag
        pure (handle, name, after)
      else
        let (name, rest) ← tagChars false rest
        let name := octetsOf (String.ofList handle.tail) ++ name
        if name.isEmpty then pure ([], octetsOf "!", rest) else pure (['!'], name, rest)
  if startsBlank rest || (flow && rest.head? == some ',') then pure (handle, name, rest)
  else throw .tag

end OscRemote.Yaml
