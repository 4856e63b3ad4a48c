import Patchbay.Yaml.Source
/-!
# What is wrong with a document

A text that is no document is described by a problem and its place and, mostly, by what was being read
when it was met and where that began.
-/

namespace Patchbay.Yaml

/-- What was found, or not found. -/
inductive Problem where
  | controlCharacter
  | strayCharacter
  | missingColon
  | entryNotAllowed
  | keyNotAllowed
  | valueNotAllowed
  | unknownDirective
  | directiveTail
  | directiveName
  | directiveNameTail
  | versionSeparator
  | versionMissing
  | versionTooLong
  | tagDirectiveGap
  | gapOrBreak
  | anchorName
  | tagClose
  | tagOpen
  | tagUri
  | uriEscape
  | leadingOctet
  | trailingOctet
  | zeroIndent
  | blockHeaderTail
  | tabInIndent
  | documentIndicator
  | unexpectedEnd
  | unknownEscape
  | hexDigits
  | escapedCodePoint
  | tabInPlain
  | strayColon
  | documentStart
  | duplicateVersion
  | wrongVersion
  | duplicateTag
  | undefinedHandle
  | nodeContent
  | sequenceEntry
  | mappingKey
  | flowSequenceNext
  | flowMappingNext
  deriving DecidableEq, Repr

/-- The wording of a problem. -/
def Problem.text : Problem → String
  | controlCharacter => "control characters are not allowed"
  | strayCharacter => "found character that cannot start any token"
  | missingColon => "could not find expected ':'"
  | entryNotAllowed => "block sequence entries are not allowed in this context"
  | keyNotAllowed => "mapping keys are not allowed in this context"
  | valueNotAllowed => "mapping values are not allowed in this context"
  | unknownDirective => "found unknown directive name"
  | directiveTail | blockHeaderTail => "did not find expected comment or line break"
  | directiveName => "could not find expected directive name"
  | directiveNameTail => "found unexpected non-alphabetical character"
  | versionSeparator => "did not find expected digit or '.' character"
  | versionMissing => "did not find expected version number"
  | versionTooLong => "found extremely long version number"
  | tagDirectiveGap => "did not find expected whitespace"
  | gapOrBreak => "did not find expected whitespace or line break"
  | anchorName => "did not find expected alphabetic or numeric character"
  | tagClose => "did not find the expected '>'"
  | tagOpen => "did not find expected '!'"
  | tagUri => "did not find expected tag URI"
  | uriEscape => "did not find URI escaped octet"
  | leadingOctet => "found an incorrect leading UTF-8 octet"
  | trailingOctet => "found an incorrect trailing UTF-8 octet"
  | zeroIndent => "found an indentation indicator equal to 0"
  | tabInIndent => "found a tab character where an indentation space is expected"
  | documentIndicator => "found unexpected document indicator"
  | unexpectedEnd => "found unexpected end of stream"
  | unknownEscape => "found unknown escape character"
  | hexDigits => "did not find expected hexadecimal number"
  | escapedCodePoint => "found invalid Unicode character escape code"
  | tabInPlain => "found a tab character that violates indentation"
  | strayColon => "found unexpected ':'"
  | documentStart => "did not find expected <document start>"
  | duplicateVersion => "found duplicate %YAML directive"
  | wrongVersion => "found incompatible YAML document"
  | duplicateTag => "found duplicate %TAG directive"
  | undefinedHandle => "found undefined tag handle"
  | nodeContent => "did not find expected node content"
  | sequenceEntry => "did not find expected '-' indicator"
  | mappingKey => "did not find expected key"
  | flowSequenceNext => "did not find expected ',' or ']'"
  | flowMappingNext => "did not find expected ',' or '\x7d'"

/-- What was being read. -/
inductive Activity where
  | nextToken
  | simpleKey
  | directive
  | versionDirective
  | tagDirective
  | declaration
  | declaredHandle
  | declaredUri
  | anchor
  | reference
  | tag
  | tagUri
  | blockScalar
  | quotedScalar
  | quotedEscape
  | plainScalar
  | node
  | blockNode
  | flowNode
  | blockCollection
  | blockMapping
  | flowSequence
  | flowMapping
  deriving DecidableEq, Repr

/-- An activity in words. -/
def Activity.text : Activity → String
  | nextToken => "while scanning for the next token"
  | simpleKey => "while scanning a simple key"
  | directive => "while scanning a directive"
  | versionDirective => "while scanning a %YAML directive"
  | tagDirective => "while scanning a %TAG directive"
  | declaration => "while scanning a tag directive"
  | declaredHandle => "while parsing a tag directive"
  | declaredUri => "while parsing a %TAG directive"
  | anchor => "while scanning an anchor"
  | reference => "while scanning an alias"
  | tag => "while scanning a tag"
  | tagUri => "while parsing a tag"
  | blockScalar => "while scanning a block scalar"
  | quotedScalar => "while scanning a quoted scalar"
  | quotedEscape => "while parsing a quoted scalar"
  | plainScalar => "while scanning a plain scalar"
  | node => "while parsing a node"
  | blockNode => "while parsing a block node"
  | flowNode => "while parsing a flow node"
  | blockCollection => "while parsing a block collection"
  | blockMapping => "while parsing a block mapping"
  | flowSequence => "while parsing a flow sequence"
  | flowMapping => "while parsing a flow mapping"

/-- Why a text is no document. -/
structure SyntaxError where
  problem : Problem
  place : Mark
  context : Option (Activity × Mark)
  deriving DecidableEq, Repr

namespace SyntaxError

/-- A problem met while something that began at `since` was being read. -/
def during (activity : Activity) (since : Mark) (problem : Problem) (place : Mark) : SyntaxError :=
  { problem, place, context := some (activity, since) }

/-- A problem on its own. -/
def plain (problem : Problem) (place : Mark) : SyntaxError := { problem, place, context := none }

/-- The wording. Places that say nothing new are left out: the first of the text, and the beginning of
the activity when the problem is there too. -/
def message (e : SyntaxError) : String :=
  let place :=
    if !e.place.isOrigin then " at " ++ e.place.text
    else if e.place.index ≠ 0 then s!" at position {e.place.index}" else ""
  let context := match e.context with
    | none => ""
    | some (activity, since) =>
      let place := if since.isOrigin || (since.line = e.place.line && since.column = e.place.column) then ""
        else " at " ++ since.text
      ", " ++ activity.text ++ place
  e.problem.text ++ place ++ context

end SyntaxError
end Patchbay.Yaml
