import LensCalibration.Log
import LensCalibration.Pattern.Refusal
import LensCalibration.Pattern.Stretches
import LensCalibration.Text.WhiteSpace

/-!
# Log filters

A filter is a list of directives, separated by commas: a level for everything, a target, or a target
with its level.  The directive with the longest target that an event's target starts with decides.
After a slash stands a regular expression that has to occur in the message.
-/

namespace LensCalibration.CommandLine

open Pattern Text

structure Directive where
  /-- Without a target the directive is for every event. -/
  target : Option String
  /-- The highest rank of level that is shown. -/
  ceiling : Nat
  deriving DecidableEq, Repr

structure LogFilter where
  directives : List Directive
  pattern : Option Expression
  deriving BEq, Repr

namespace LogFilter

/-! ## Reading -/

def ranks : List (String × Nat) :=
  [("off", 0), ("error", 1), ("warn", 2), ("info", 3), ("debug", 4), ("trace", 5)]

/-- Level names are read in any case. -/
def rankOf? (name : String) : Option Nat :=
  (ranks.find? (·.1.toList = name.toList.map Char.toLower)).map Prod.snd

def highest : Nat := Level.trace.rank

def invalid (part : String) : String :=
  s!"invalid logging spec '{part}'"

def readDirective (part : String) : Except String Directive :=
  match part.splitOn "=" with
  | [name] =>
      match rankOf? name with
      | some rank => .ok ⟨none, rank⟩
      | none => .ok ⟨some name, highest⟩
  | [name, level] =>
      if trim level = "" then .ok ⟨some name, highest⟩
      else
        match rankOf? (trim level) with
        | some rank => .ok ⟨some name, rank⟩
        | none => .error (invalid (trim level))
  | _ => .error (invalid part)

/-- A directive takes the place of an earlier one for the same target, or comes last. -/
def insert (directive : Directive) : List Directive → List Directive
  | [] => [directive]
  | other :: rest =>
      if other.target = directive.target then directive :: rest
      else other :: insert directive rest

def readParts (parts : List String) : List Directive × List String :=
  parts.foldl (fun (directives, complaints) part =>
    match readDirective part with
    | .ok directive => (insert directive directives, complaints)
    | .error complaint => (directives, complaints ++ [complaint])) ([], [])

/-- Without a directive only errors are shown. -/
def ofDirectives (directives : List Directive) (pattern : Option Expression) : LogFilter :=
  ⟨if directives.isEmpty then [⟨none, Level.error.rank⟩] else directives, pattern⟩

/-- A pattern that is refused filters nothing. -/
def readPattern (text : String) : Option Expression × List String :=
  match Expression.read text with
  | .ok pattern => (some pattern, [])
  | .error refusal => (none, [s!"invalid regex filter - {refusal.message text}"])

def read (spec : String) : LogFilter × List String :=
  let parts (text : String) := ((text.splitOn ",").map trim).filter (· ≠ "")
  match spec.splitOn "/" with
  | [directives] =>
      let (directives, complaints) := readParts (parts directives)
      (ofDirectives directives none, complaints)
  | [directives, text] =>
      let (directives, complaints) := readParts (parts directives)
      let (pattern, refused) := readPattern text
      (ofDirectives directives pattern, complaints ++ refused)
  | _ => (ofDirectives [] none, [s!"{invalid spec} (too many '/'s)"])

/-! ## Filtering -/

def Directive.isFor (directive : Directive) (target : String) : Bool :=
  directive.target.all fun name => name.toList.isPrefixOf target.toList

def Directive.length (directive : Directive) : Nat :=
  directive.target.elim 0 String.length

/-- The most specific directive for a target, the later of two. -/
def directiveFor? (filter : LogFilter) (target : String) : Option Directive :=
  (filter.directives.filter (Directive.isFor · target)).foldl (fun best next =>
    match best with
    | none => some next
    | some best =>
        if Directive.length best ≤ Directive.length next then some next else some best) none

def shows (filter : LogFilter) (event : Event) : Bool :=
  (filter.directiveFor? event.target).any (event.level.rank ≤ ·.ceiling) &&
    filter.pattern.all (·.occursIn event.message)

end LogFilter

end LensCalibration.CommandLine
