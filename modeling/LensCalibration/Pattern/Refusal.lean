import LensCalibration.Pattern.Automaton
import LensCalibration.Pattern.Meaning
import LensCalibration.Pattern.Reader

/-!
# Accepted and refused patterns

`Expression.read` takes the text of a pattern to what it means.
-/

namespace LensCalibration.Pattern

inductive Refusal where
  | fault (fault : Fault)
  | tooHeavy
  /-- There is no table of the words of any script. -/
  | wordsOfAnyScript
  deriving DecidableEq, Repr

def Refusal.message (pattern : String) : Refusal → String
  | fault x => x.report pattern
  | tooHeavy => s!"Compiled regex exceeds size limit of {weightLimit} bytes."
  | wordsOfAnyScript => "error building NFA"

namespace Expression

mutual

def needsWords : Expression → Bool
  | empty | literal _ | set .. => false
  | assertion (.word _ anyScript) => anyScript
  | assertion _ => false
  | capture _ part | repetition part _ => part.needsWords
  | sequence parts => needWords parts
  | either branches => needWords branches

def needWords : List Expression → Bool
  | [] => false
  | part :: rest => part.needsWords || needWords rest

end

def read (pattern : String) : Except Refusal Expression := do
  let tree ← (Tree.read pattern).mapError .fault
  let (expression, _) ← (tree.meaning .initial).mapError .fault
  if expression.isTooHeavy .forward then throw .tooHeavy
  else if expression.needsWords then throw .wordsOfAnyScript
  else if expression.isTooHeavy .backward then throw .tooHeavy
  else return expression

end Expression

end LensCalibration.Pattern
