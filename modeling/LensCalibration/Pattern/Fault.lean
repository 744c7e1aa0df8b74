import LensCalibration.Pattern.Cursor

/-!
# Faults of patterns

What a pattern can be refused for, and how that is shown: the text of the pattern with carets below
the stretch at fault.
-/

namespace LensCalibration.Pattern

inductive FaultKind where
  | setEscapeInvalid
  | rangeInvalid
  | rangeNotLiteral
  | setUnclosed
  | decimalEmpty
  | decimalInvalid
  | hexEmpty
  | hexInvalid
  | hexInvalidDigit
  | escapeUnfinished
  | escapeUnrecognized
  | flagDanglingNegation
  | flagDuplicate
  | flagRepeatedNegation
  | flagUnfinished
  | flagUnrecognized
  | nameDuplicate
  | nameEmpty
  | nameInvalid
  | nameUnfinished
  | groupUnclosed
  | groupUnopened
  | nestLimitExceeded
  | countInvalid
  | countEmpty
  | countUnclosed
  | repetitionMissing
  | wordEdgeUnclosed
  | wordEdgeUnrecognized
  | wordEdgeUnfinished
  | propertyInvalid
  | backreference
  | lookAround
  | unicodeNotAllowed
  | invalidText
  | propertyNotFound
  | propertyValueNotFound
  | shorthandNotFound
  | caseUnavailable
  deriving DecidableEq, Repr

def nestLimit : Nat := 250

def FaultKind.message : FaultKind → String
  | setEscapeInvalid => "invalid escape sequence found in character class"
  | rangeInvalid => "invalid character class range, the start must be <= the end"
  | rangeNotLiteral => "invalid range boundary, must be a literal"
  | setUnclosed => "unclosed character class"
  | decimalEmpty => "decimal literal empty"
  | decimalInvalid => "decimal literal invalid"
  | hexEmpty => "hexadecimal literal empty"
  | hexInvalid => "hexadecimal literal is not a Unicode scalar value"
  | hexInvalidDigit => "invalid hexadecimal digit"
  | escapeUnfinished => "incomplete escape sequence, reached end of pattern prematurely"
  | escapeUnrecognized => "unrecognized escape sequence"
  | flagDanglingNegation => "dangling flag negation operator"
  | flagDuplicate => "duplicate flag"
  | flagRepeatedNegation => "flag negation operator repeated"
  | flagUnfinished => "expected flag but got end of regex"
  | flagUnrecognized => "unrecognized flag"
  | nameDuplicate => "duplicate capture group name"
  | nameEmpty => "empty capture group name"
  | nameInvalid => "invalid capture group character"
  | nameUnfinished => "unclosed capture group name"
  | groupUnclosed => "unclosed group"
  | groupUnopened => "unopened group"
  | nestLimitExceeded =>
      s!"exceed the maximum number of nested parentheses/brackets ({nestLimit})"
  | countInvalid => "invalid repetition count range, the start must be <= the end"
  | countEmpty => "repetition quantifier expects a valid decimal"
  | countUnclosed => "unclosed counted repetition"
  | repetitionMissing => "repetition operator missing expression"
  | wordEdgeUnclosed =>
      "special word boundary assertion is either unclosed or contains an invalid character"
  | wordEdgeUnrecognized =>
      "unrecognized special word boundary assertion, " ++
        "valid choices are: start, end, start-half or end-half"
  | wordEdgeUnfinished =>
      "found either the beginning of a special word boundary or a bounded repetition on a \\b " ++
        "with an opening brace, but no closing brace"
  | propertyInvalid => "invalid Unicode character class"
  | backreference => "backreferences are not supported"
  | lookAround => "look-around, including look-ahead and look-behind, is not supported"
  | unicodeNotAllowed => "Unicode not allowed here"
  | invalidText => "pattern can match invalid UTF-8"
  | propertyNotFound => "Unicode property not found"
  | propertyValueNotFound => "Unicode property value not found"
  | shorthandNotFound =>
      "Unicode-aware Perl class not found (make sure the unicode-perl feature is enabled)"
  | caseUnavailable =>
      "Unicode-aware case insensitivity matching is not available " ++
        "(make sure the unicode-case feature is enabled)"

structure Fault where
  kind : FaultKind
  span : Span
  /-- The stretch before it that something is a repetition of. -/
  earlier : Option Span
  deriving DecidableEq, Repr

def failWith {α : Type} (kind : FaultKind) (span : Span) : Except Fault α :=
  .error ⟨kind, span, none⟩

/-! ## Showing a fault -/

/-- A line without the carriage return at its end. -/
def withoutReturn (line : String) : String :=
  if line.toList.getLast? = some '\r' then String.ofList line.toList.dropLast else line

/-- The lines of a text; what follows the last line break counts if it is not empty. -/
def linesOf (text : String) : List String :=
  let pieces := text.splitOn "\n"
  let last := pieces.getLast?.getD ""
  pieces.dropLast.map withoutReturn ++ if last = "" then [] else [last]

def spaces (count : Nat) : String := String.ofList (List.replicate count ' ')

def alignRight (width : Nat) (text : String) : String := spaces (width - text.length) ++ text

/-- Carets below stretches of one line, which are given in order; `column` is where it goes on. -/
def carets : (column : Nat) → List Span → String
  | _, [] => ""
  | column, span :: rest =>
      let blanks := span.first.column - column
      let width := max 1 (span.last.column - span.first.column)
      spaces blanks ++ String.ofList (List.replicate width '^') ++
        carets (column + blanks + width) rest

def Span.isOneLine (span : Span) : Bool := span.first.line = span.last.line

def Span.description (span : Span) : String :=
  s!"on line {span.first.line} (column {span.first.column}) " ++
    s!"through line {span.last.line} (column {span.last.column - 1})"

namespace Fault

def spans (fault : Fault) : List Span := fault.earlier.toList ++ [fault.span]

/-- A line of the pattern, and below it the carets for the stretches in it. -/
def notate (fault : Fault) (margin : String) (line : String) (number : Nat) : List String :=
  let found := fault.spans.filter fun span => span.isOneLine && span.first.line = number
  (margin ++ line) ::
    if found.isEmpty then [] else [spaces margin.length ++ carets 1 found]

/-- A pattern of several lines is shown with line numbers and between rules. -/
def report (fault : Fault) (pattern : String) : String :=
  let lines := linesOf pattern
  let body :=
    if pattern.contains '\n' then
      let count := lines.length + if pattern.toList.getLast? = some '\n' then 1 else 0
      let width := (toString count).length
      let rule := String.ofList (List.replicate 79 '~')
      let notated := (lines.zipIdx 1).flatMap fun (line, number) =>
        fault.notate (alignRight width (toString number) ++ ": ") line number
      let notes := (fault.spans.filter (!·.isOneLine)).map Span.description
      [rule] ++ notated ++ [rule] ++ notes
    else
      lines.flatMap fun line => fault.notate (spaces 4) line 1
  "\n".intercalate (["regex parse error:"] ++ body ++ [s!"error: {fault.kind.message}"])

end Fault

end LensCalibration.Pattern
