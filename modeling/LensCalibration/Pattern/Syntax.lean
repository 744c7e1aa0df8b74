import LensCalibration.Pattern.CharSet
import LensCalibration.Pattern.Cursor

/-!
# Patterns as they are written

The tree of a pattern.  Each part knows the stretch of the text that it is written in, so that what
is wrong with it can be shown there.
-/

namespace LensCalibration.Pattern

structure Literal where
  span : Span
  char : Char
  /-- Whether it is written as a byte, `\x` and two digits. -/
  asByte : Bool
  deriving DecidableEq, Repr

/-! ## Sets -/

inductive SetOperation where
  | intersection
  | difference
  | symmetricDifference
  deriving DecidableEq, Repr

inductive SetTree where
  | literal (literal : Literal)
  | range (first last : Literal)
  /-- A name between brackets and colons. -/
  | named (span : Span) (negated : Bool) (name : NamedSet)
  /-- A backslash and the first letter of digits, white space or word characters. -/
  | shorthand (span : Span) (negated : Bool) (name : NamedSet)
  /-- A property of characters by its name, or by something else. -/
  | property (span : Span) (name : Option String)
  | union (span : Span) (parts : List SetTree)
  | bracket (span : Span) (negated : Bool) (inner : SetTree)
  | operation (kind : SetOperation) (left right : SetTree)

namespace SetTree

def span : SetTree → Span
  | literal x => x.span
  | range first last => ⟨first.span.first, last.span.last⟩
  | named span _ _ | shorthand span _ _ | property span _ | union span _ | bracket span _ _ => span
  | operation _ left right => ⟨left.span.first, right.span.last⟩

/-- The union of parts, of which there may be none at a position. -/
def ofParts (position : Position) (parts : List SetTree) : SetTree :=
  match parts with
  | [] => .union ⟨position, position⟩ []
  | [part] => part
  | first :: rest => .union ⟨first.span.first, (rest.getLast?.getD first).span.last⟩ parts

end SetTree

/-! ## Flags and assertions -/

inductive Flag where
  | ignoreCase
  | multiLine
  | dotAll
  | swapGreed
  | unicode
  | crlf
  | spaced
  deriving DecidableEq, Repr

def Flag.ofChar? : Char → Option Flag
  | 'i' => some .ignoreCase
  | 'm' => some .multiLine
  | 's' => some .dotAll
  | 'U' => some .swapGreed
  | 'u' => some .unicode
  | 'R' => some .crlf
  | 'x' => some .spaced
  | _ => none

/-- Flags that are set or taken back. -/
abbrev Settings := List (Flag × Bool)

inductive WordEdge where
  | boundary
  | noBoundary
  | start
  | finish
  | startHalf
  | finishHalf
  deriving DecidableEq, Repr

inductive AssertionKind where
  | lineStart
  | lineEnd
  | textStart
  | textEnd
  | word (edge : WordEdge)
  deriving DecidableEq, Repr

/-! ## Patterns -/

structure Quantifier where
  least : Nat
  /-- Without it there is no bound. -/
  most : Option Nat
  /-- Whether the most are tried first. -/
  greedy : Bool
  deriving DecidableEq, Repr

inductive Tree where
  | empty (span : Span)
  | flags (span : Span) (settings : Settings)
  | literal (literal : Literal)
  | dot (span : Span)
  | assertion (span : Span) (kind : AssertionKind)
  | set (set : SetTree)
  | repetition (span : Span) (part : Tree) (quantifier : Quantifier)
  /-- A group that can be referred to has a number, and no settings. -/
  | group (span : Span) (number : Option Nat) (settings : Settings) (part : Tree)
  | alternation (span : Span) (branches : List Tree)
  | concatenation (span : Span) (parts : List Tree)

namespace Tree

def span : Tree → Span
  | empty span | flags span _ | dot span | assertion span _ | repetition span _ _
  | group span _ _ _ | alternation span _ | concatenation span _ => span
  | literal x => x.span
  | set x => x.span

def ofParts (span : Span) (parts : List Tree) : Tree :=
  match parts with
  | [] => .empty span
  | [part] => part
  | _ => .concatenation span parts

def ofBranches (span : Span) (branches : List Tree) : Tree :=
  match branches with
  | [branch] => branch
  | _ => .alternation span branches

/-- Nothing and flags cannot be repeated. -/
def isRepeatable : Tree → Bool
  | empty _ | flags .. => false
  | _ => true

end Tree

/-! ## Depth -/

mutual

/-- The first part that lies deeper than so many others. -/
def SetTree.tooDeep? : (limit : Nat) → SetTree → Option Span
  | _, .literal _ | _, .range .. | _, .named .. | _, .shorthand .. | _, .property ..
  | _, .union _ [] => none
  | 0, tree => some tree.span
  | limit + 1, .union _ parts => SetTree.tooDeepAmong? limit parts
  | limit + 1, .bracket _ _ inner => inner.tooDeep? limit
  | limit + 1, .operation _ left right => (left.tooDeep? limit).or (right.tooDeep? limit)

def SetTree.tooDeepAmong? : (limit : Nat) → List SetTree → Option Span
  | _, [] => none
  | limit, part :: rest => (part.tooDeep? limit).or (SetTree.tooDeepAmong? limit rest)

end

mutual

def Tree.tooDeep? : (limit : Nat) → Tree → Option Span
  | _, .empty _ | _, .flags .. | _, .literal _ | _, .dot _ | _, .assertion .. => none
  | limit, .set x => x.tooDeep? limit
  | 0, tree => some tree.span
  | limit + 1, .repetition _ part _ => part.tooDeep? limit
  | limit + 1, .group _ _ _ part => part.tooDeep? limit
  | limit + 1, .alternation _ branches => Tree.tooDeepAmong? limit branches
  | limit + 1, .concatenation _ parts => Tree.tooDeepAmong? limit parts

def Tree.tooDeepAmong? : (limit : Nat) → List Tree → Option Span
  | _, [] => none
  | limit, part :: rest => (part.tooDeep? limit).or (Tree.tooDeepAmong? limit rest)

end

end LensCalibration.Pattern
