import ArithCompiler.Text.Pieces

/-!
# Faults of settings files

A file is malformed if its text cannot be cut into tokens, if the tokens do not
form a document, or if the content of the document makes no table of settings.
-/

namespace ArithCompiler.Config.Yaml

/-! ### Form -/

/-- What is wrong with the form of a text. -/
inductive Problem where
  | controlCharacter
  | noColon
  | itemNotAllowed
  | keyNotAllowed
  | valueNotAllowed
  | noToken
  | unknownDirective
  | noDirectiveName
  | badDirectiveName
  | noVersion
  | longVersion
  | noVersionPoint
  | noLineEnd
  | noAnchorName
  | noTagMark
  | noTagSpace
  | noTagEnd
  | noTagClose
  | noTagText
  | noTagOctet
  | badTagLead
  | badTagTail
  | zeroIndentation
  | tabInIndentation
  | tabInPlain
  | markerInQuotes
  | endInQuotes
  | unknownEscape
  | noEscapeDigits
  | badEscapeCode
  | incompatibleVersion
  | repeatedVersion
  | repeatedHandle
  | noDocumentStart
  | undefinedHandle
  | noContent
  | noItem
  | noKey
  | noListEnd
  | noTableEnd
deriving DecidableEq, Repr

def Problem.text : Problem → String
  | .controlCharacter => "control characters are not allowed"
  | .noColon => "could not find expected ':'"
  | .itemNotAllowed => "block sequence entries are not allowed in this context"
  | .keyNotAllowed => "mapping keys are not allowed in this context"
  | .valueNotAllowed => "mapping values are not allowed in this context"
  | .noToken => "found character that cannot start any token"
  | .unknownDirective => "found unknown directive name"
  | .noDirectiveName => "could not find expected directive name"
  | .badDirectiveName => "found unexpected non-alphabetical character"
  | .noVersion => "did not find expected version number"
  | .longVersion => "found extremely long version number"
  | .noVersionPoint => "did not find expected digit or '.' character"
  | .noLineEnd => "did not find expected comment or line break"
  | .noAnchorName => "did not find expected alphabetic or numeric character"
  | .noTagMark => "did not find expected '!'"
  | .noTagSpace => "did not find expected whitespace"
  | .noTagEnd => "did not find expected whitespace or line break"
  | .noTagClose => "did not find the expected '>'"
  | .noTagText => "did not find expected tag URI"
  | .noTagOctet => "did not find URI escaped octet"
  | .badTagLead => "found an incorrect leading UTF-8 octet"
  | .badTagTail => "found an incorrect trailing UTF-8 octet"
  | .zeroIndentation => "found an indentation indicator equal to 0"
  | .tabInIndentation => "found a tab character where an indentation space is expected"
  | .tabInPlain => "found a tab character that violates indentation"
  | .markerInQuotes => "found unexpected document indicator"
  | .endInQuotes => "found unexpected end of stream"
  | .unknownEscape => "found unknown escape character"
  | .noEscapeDigits => "did not find expected hexdecimal number"
  | .badEscapeCode => "found invalid Unicode character escape code"
  | .incompatibleVersion => "found incompatible YAML document"
  | .repeatedVersion => "found duplicate %YAML directive"
  | .repeatedHandle => "found duplicate %TAG directive"
  | .noDocumentStart => "did not find expected <document start>"
  | .undefinedHandle => "found undefined tag handle"
  | .noContent => "did not find expected node content"
  | .noItem => "did not find expected '-' indicator"
  | .noKey => "did not find expected key"
  | .noListEnd => "did not find expected ',' or ']'"
  | .noTableEnd => "did not find expected ',' or '\x7d'"

/-! ### Content -/

/-- A value that is not of the type its place asks for. -/
structure Mismatch where
  line : Nat
  found : String
  wanted : String
deriving DecidableEq, Repr

inductive Fault where
  /-- A problem of form. Line zero stands for a line that is not told. -/
  | form (line : Nat) (problem : Problem)
  | unknownAnchor (name : String)
  /-- An alias inside the value that it stands for. -/
  | endless (name : String)
  | tooManyAliases
  | badMerge
  | badKey (shown : String)
  /-- A scalar that is not of the kind its tag names. -/
  | badScalar (kind text wanted : String)
  | badBinary
  | mismatches (found : List Mismatch)
deriving DecidableEq, Repr

namespace Fault

/-- A problem found while tokens are read; a first line is told only by what was
begun before it. -/
def ofToken (problem : Problem) (begun here : Nat) : Fault :=
  .form (if here = 0 then begun else here + 1) problem

/-- A problem found among tokens. -/
def ofGrammar (problem : Problem) (begun here : Nat) : Fault :=
  .form (if here = 0 then begun else here) problem

def message : Fault → String
  | .form line problem =>
    (if line = 0 then "" else "line " ++ toString line ++ ": ") ++ problem.text
  | .unknownAnchor name => "unknown anchor '" ++ name ++ "' referenced"
  | .endless name => "anchor '" ++ name ++ "' value contains itself"
  | .tooManyAliases => "document contains excessive aliasing"
  | .badMerge => "map merge requires map or sequence of maps as the value"
  | .badKey shown => "invalid map key: " ++ shown
  | .badScalar kind text wanted =>
    "cannot decode " ++ kind ++ " \x60" ++ text ++ "\x60 as a " ++ wanted
  | .badBinary => "!!binary value contains invalid base64 data"
  | .mismatches found =>
    "unmarshal errors:" ++ String.join (found.map fun m =>
      "\n  line " ++ toString m.line ++ ": cannot unmarshal " ++ m.found ++ " into " ++ m.wanted)

end Fault

end ArithCompiler.Config.Yaml
