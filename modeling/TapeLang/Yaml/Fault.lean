import TapeLang.Yaml.Cursor

/-!
# Faults in a document

Why a text is no document: what was found, where, and in many cases what was being read and where that began.
-/

namespace TapeLang.Yaml

/-- What was being read when a fault was found. -/
inductive Activity where
  | nextToken
  | simpleKey
  | directive
  | versionDirective
  | scanTagDirective
  | scanTagHandleDirective
  | parseTagHandleDirective
  | parseTagDirective
  | anchor
  | alias
  | scanTag
  | parseTag
  | blockScalar
  | scanQuoted
  | parseQuoted
  | plainScalar
  | node
  | blockNode
  | flowNode
  | blockCollection
  | blockMapping
  | flowSequence
  | flowMapping
  deriving DecidableEq

namespace Activity

def text : Activity → String
  | .nextToken => "while scanning for the next token"
  | .simpleKey => "while scanning a simple key"
  | .directive => "while scanning a directive"
  | .versionDirective => "while scanning a %YAML directive"
  | .scanTagDirective => "while scanning a %TAG directive"
  | .scanTagHandleDirective => "while scanning a tag directive"
  | .parseTagHandleDirective => "while parsing a tag directive"
  | .parseTagDirective => "while parsing a %TAG directive"
  | .anchor => "while scanning an anchor"
  | .alias => "while scanning an alias"
  | .scanTag => "while scanning a tag"
  | .parseTag => "while parsing a tag"
  | .blockScalar => "while scanning a block scalar"
  | .scanQuoted => "while scanning a quoted scalar"
  | .parseQuoted => "while parsing a quoted scalar"
  | .plainScalar => "while scanning a plain scalar"
  | .node => "while parsing a node"
  | .blockNode => "while parsing a block node"
  | .flowNode => "while parsing a flow node"
  | .blockCollection => "while parsing a block collection"
  | .blockMapping => "while parsing a block mapping"
  | .flowSequence => "while parsing a flow sequence"
  | .flowMapping => "while parsing a flow mapping"

end Activity

/-- What is wrong at a place. -/
inductive Problem where
  | noToken
  | noColon
  | mappingValue
  | mappingKey
  | sequenceEntry
  | unknownDirective
  | noLineEnd
  | noDirectiveName
  | directiveNameChar
  | noVersionDot
  | longVersion
  | noVersion
  | noWhitespace
  | noWhitespaceOrBreak
  | noAnchorName
  | noTagEnd
  | noTagMark
  | noTagUri
  | noUriEscape
  | leadingOctet
  | trailingOctet
  | zeroIndent
  | tabIndent
  | tabInPlain
  | markerInQuoted
  | endInQuoted
  | unknownEscape
  | noHexDigit
  | invalidCode
  | colonInPlain
  | noDocumentStart
  | noStreamStart
  | duplicateVersion
  | incompatibleVersion
  | duplicateTag
  | undefinedHandle
  | noContent
  | noDash
  | noKey
  | noCommaOrBracket
  | noCommaOrBrace
  deriving DecidableEq

namespace Problem

def text : Problem → String
  | .noToken => "found character that cannot start any token"
  | .noColon => "could not find expected ':'"
  | .mappingValue => "mapping values are not allowed in this context"
  | .mappingKey => "mapping keys are not allowed in this context"
  | .sequenceEntry => "block sequence entries are not allowed in this context"
  | .unknownDirective => "found unknown directive name"
  | .noLineEnd => "did not find expected comment or line break"
  | .noDirectiveName => "could not find expected directive name"
  | .directiveNameChar => "found unexpected non-alphabetical character"
  | .noVersionDot => "did not find expected digit or '.' character"
  | .longVersion => "found extremely long version number"
  | .noVersion => "did not find expected version number"
  | .noWhitespace => "did not find expected whitespace"
  | .noWhitespaceOrBreak => "did not find expected whitespace or line break"
  | .noAnchorName => "did not find expected alphabetic or numeric character"
  | .noTagEnd => "did not find the expected '>'"
  | .noTagMark => "did not find expected '!'"
  | .noTagUri => "did not find expected tag URI"
  | .noUriEscape => "did not find URI escaped octet"
  | .leadingOctet => "found an incorrect leading UTF-8 octet"
  | .trailingOctet => "found an incorrect trailing UTF-8 octet"
  | .zeroIndent => "found an indentation indicator equal to 0"
  | .tabIndent => "found a tab character where an indentation space is expected"
  | .tabInPlain => "found a tab character that violates indentation"
  | .markerInQuoted => "found unexpected document indicator"
  | .endInQuoted => "found unexpected end of stream"
  | .unknownEscape => "found unknown escape character"
  | .noHexDigit => "did not find expected hexadecimal number"
  | .invalidCode => "found invalid Unicode character escape code"
  | .colonInPlain => "found unexpected ':'"
  | .noDocumentStart => "did not find expected <document start>"
  | .noStreamStart => "did not find expected <stream-start>"
  | .duplicateVersion => "found duplicate %YAML directive"
  | .incompatibleVersion => "found incompatible YAML document"
  | .duplicateTag => "found duplicate %TAG directive"
  | .undefinedHandle => "found undefined tag handle"
  | .noContent => "did not find expected node content"
  | .noDash => "did not find expected '-' indicator"
  | .noKey => "did not find expected key"
  | .noCommaOrBracket => "did not find expected ',' or ']'"
  | .noCommaOrBrace => "did not find expected ',' or '\x7d'"

end Problem

/-- Why a text is no document. -/
inductive Fault where
  /-- A control character after the given number of bytes. -/
  | control (offset : Nat)
  /-- An alias of a name that no node has. -/
  | unknownAnchor (place : Mark)
  | syntactic (problem : Problem) (place : Mark) (context : Option (Activity × Mark))
  deriving DecidableEq

namespace Fault

/-- A fault found while something was read that began at `since`. -/
def during (a : Activity) (since : Mark) (p : Problem) (place : Mark) : Fault :=
  .syntactic p place (some (a, since))

/-- A fault by itself. -/
def bare (p : Problem) (place : Mark) : Fault := .syntactic p place none

/-- The bytes before the place of a fault. -/
def offset : Fault → Nat
  | .control offset => offset
  | .unknownAnchor place => place.offset
  | .syntactic _ place _ => place.offset

/-- The beginning of what was read is not mentioned if it is the place of the fault. -/
def message : Fault → String
  | .control offset =>
    "control characters are not allowed" ++ if offset = 0 then "" else s!" at position {offset}"
  | .unknownAnchor place => "unknown anchor" ++ place.suffix
  | .syntactic p place context =>
    p.text ++ place.suffix ++
      match context with
      | none => ""
      | some (a, since) =>
        ", " ++ a.text ++
          if since.line = place.line ∧ since.column = place.column then "" else since.suffix

end Fault

end TapeLang.Yaml
