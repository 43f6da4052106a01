/-!
# Why a text is no document

The causes for which the reader of configuration files refuses a text.
-/

namespace OscRemote.Yaml

/-- Why a text cannot be read. -/
inductive Error where
  | controlCharacter
  | noToken
  | missingColon
  | keyNotAllowed
  | valueNotAllowed
  | entryNotAllowed
  | directive
  | documentMark
  | unclosedQuote
  | escape
  | tab
  | colon
  | blockHeader
  | anchor
  | tag
  | undefinedHandle
  | undefinedAnchor
  | missingNode
  | missingKey
  | missingEntry
  | missingComma
  | missingStart
  | severalDocuments
deriving DecidableEq, Repr

/-- The wording of a cause. -/
def Error.message : Error → String
  | .controlCharacter => "control characters are not allowed"
  | .noToken => "found character that cannot start any token"
  | .missingColon => "could not find expected ':'"
  | .keyNotAllowed => "mapping keys are not allowed in this context"
  | .valueNotAllowed => "mapping values are not allowed in this context"
  | .entryNotAllowed => "block sequence entries are not allowed in this context"
  | .directive => "found an invalid directive"
  | .documentMark => "found unexpected document indicator"
  | .unclosedQuote => "found unexpected end of stream"
  | .escape => "found unknown escape character"
  | .tab => "found a tab character that violates indentation"
  | .colon => "found unexpected ':'"
  | .blockHeader => "did not find expected comment or line break"
  | .anchor => "did not find expected alphabetic or numeric character"
  | .tag => "did not find expected tag"
  | .undefinedHandle => "found undefined tag handle"
  | .undefinedAnchor => "unknown anchor"
  | .missingNode => "did not find expected node content"
  | .missingKey => "did not find expected key"
  | .missingEntry => "did not find expected '-' indicator"
  | .missingComma => "did not find expected ','"
  | .missingStart => "did not find expected <document start>"
  | .severalDocuments =>
    "deserializing from YAML containing more than one document is not supported"

end OscRemote.Yaml
