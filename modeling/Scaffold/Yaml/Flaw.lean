namespace Scaffold.Yaml

structure Mark where
  index : Nat
  line : Nat
  column : Nat
  deriving DecidableEq, Repr

namespace Mark

def start : Mark := ⟨0, 0, 0⟩

def isAtFront (m : Mark) : Bool := m.line = 0 && m.column = 0

def render (m : Mark) : String :=
  "line " ++ toString (m.line + 1) ++ " column " ++ toString (m.column + 1)

/-- The place as the end of a message. The front of a text goes without saying. -/
def suffix (m : Mark) : String := if m.isAtFront then "" else " at " ++ m.render

end Mark

inductive Problem where
  | colonMissing
  | entryNotAllowed
  | keyNotAllowed
  | valueNotAllowed
  | noToken
  | unknownDirective
  | directiveNameMissing
  | directiveNameMalformed
  | lineEndMissing
  | versionDotMissing
  | versionTooLong
  | versionMissing
  | whitespaceMissing
  | whitespaceOrLineEndMissing
  | bangMissing
  | uriMissing
  | octetMissing
  | leadingOctet
  | trailingOctet
  | nameMissing
  | angleMissing
  | zeroIndentation
  | tabInIndentation
  | documentMarker
  | endOfText
  | unknownEscape
  | hexMissing
  | notScalarValue
  | strayColon
  | tabBeforeIndentation
  | documentStartMissing
  | repeatedVersion
  | wrongVersion
  | repeatedHandle
  | undefinedHandle
  | contentMissing
  | dashMissing
  | keyMissing
  | sequenceSeparatorMissing
  | mappingSeparatorMissing
  deriving DecidableEq, Repr

def Problem.message : Problem → String
  | colonMissing => "could not find expected ':'"
  | entryNotAllowed => "block sequence entries are not allowed in this context"
  | keyNotAllowed => "mapping keys are not allowed in this context"
  | valueNotAllowed => "mapping values are not allowed in this context"
  | noToken => "found character that cannot start any token"
  | unknownDirective => "found unknown directive name"
  | directiveNameMissing => "could not find expected directive name"
  | directiveNameMalformed => "found unexpected non-alphabetical character"
  | lineEndMissing => "did not find expected comment or line break"
  | versionDotMissing => "did not find expected digit or '.' character"
  | versionTooLong => "found extremely long version number"
  | versionMissing => "did not find expected version number"
  | whitespaceMissing => "did not find expected whitespace"
  | whitespaceOrLineEndMissing => "did not find expected whitespace or line break"
  | bangMissing => "did not find expected '!'"
  | uriMissing => "did not find expected tag URI"
  | octetMissing => "did not find URI escaped octet"
  | leadingOctet => "found an incorrect leading UTF-8 octet"
  | trailingOctet => "found an incorrect trailing UTF-8 octet"
  | nameMissing => "did not find expected alphabetic or numeric character"
  | angleMissing => "did not find the expected '>'"
  | zeroIndentation => "found an indentation indicator equal to 0"
  | tabInIndentation => "found a tab character where an indentation space is expected"
  | documentMarker => "found unexpected document indicator"
  | endOfText => "found unexpected end of stream"
  | unknownEscape => "found unknown escape character"
  | hexMissing => "did not find expected hexdecimal number"
  | notScalarValue => "found invalid Unicode character escape code"
  | strayColon => "found unexpected ':'"
  | tabBeforeIndentation => "found a tab character that violates indentation"
  | documentStartMissing => "did not find expected <document start>"
  | repeatedVersion => "found duplicate %YAML directive"
  | wrongVersion => "found incompatible YAML document"
  | repeatedHandle => "found duplicate %TAG directive"
  | undefinedHandle => "found undefined tag handle"
  | contentMissing => "did not find expected node content"
  | dashMissing => "did not find expected '-' indicator"
  | keyMissing => "did not find expected key"
  | sequenceSeparatorMissing => "did not find expected ',' or ']'"
  | mappingSeparatorMissing => "did not find expected ',' or '\x7d'"

inductive Activity where
  | simpleKey
  | nextToken
  | directive
  | versionDirective
  | handleDirective
  | handleDirectiveUri
  | anchor
  | reference
  | tag
  | tagUri
  | blockScalar
  | quotedScalar
  | quotedText
  | plainScalar
  | node
  | blockNode
  | flowNode
  | blockCollection
  | blockMapping
  | flowSequence
  | flowMapping
  deriving DecidableEq, Repr

def Activity.message : Activity → String
  | simpleKey => "while scanning a simple key"
  | nextToken => "while scanning for the next token"
  | directive => "while scanning a directive"
  | versionDirective => "while scanning a %YAML directive"
  | handleDirective => "while scanning a %TAG directive"
  | handleDirectiveUri => "while parsing a %TAG directive"
  | anchor => "while scanning an anchor"
  | reference => "while scanning an alias"
  | tag => "while scanning a tag"
  | tagUri => "while parsing a tag"
  | blockScalar => "while scanning a block scalar"
  | quotedScalar => "while scanning a quoted scalar"
  | quotedText => "while parsing a quoted scalar"
  | plainScalar => "while scanning a plain scalar"
  | node => "while parsing a node"
  | blockNode => "while parsing a block node"
  | flowNode => "while parsing a flow node"
  | blockCollection => "while parsing a block collection"
  | blockMapping => "while parsing a block mapping"
  | flowSequence => "while parsing a flow sequence"
  | flowMapping => "while parsing a flow mapping"

inductive Flaw where
  | control (offset : Nat)
  | malformed (problem : Problem) (place : Mark) (context : Option (Activity × Mark))
  | undefinedAlias (place : Mark)
  deriving DecidableEq, Repr

def Flaw.message : Flaw → String
  | control offset =>
    "control characters are not allowed" ++ (if offset = 0 then "" else " at position " ++ toString offset)
  | malformed problem place context =>
    problem.message ++ place.suffix ++
      match context with
      | none => ""
      | some (activity, since) =>
        ", " ++ activity.message ++
          (if since.line = place.line && since.column = place.column then "" else since.suffix)
  | undefinedAlias place => "unknown anchor" ++ place.suffix

abbrev Read (α : Type) := Except Flaw α

def flawIn {α : Type} (activity : Activity) (since : Mark) (problem : Problem) (place : Mark) : Read α :=
  .error (.malformed problem place (some (activity, since)))

def flawAt {α : Type} (problem : Problem) (place : Mark) : Read α :=
  .error (.malformed problem place none)

end Scaffold.Yaml
