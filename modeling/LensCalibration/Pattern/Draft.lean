import LensCalibration.Pattern.Encoding
import Std.Data.HashMap

/-!
# Drafts of automata

An automaton reads the bytes of a text, one after the other.  It may take up to `weightLimit` bytes
of memory, so that before one is made, a draft of it tells how large it would be: the number of its
states, the weight of what leads from one state to others, and the states that can still be used
again.  A growth adds to a draft, as long as that does not become too heavy.
-/

namespace LensCalibration.Pattern

inductive Direction where
  | forward
  | backward
  deriving DecidableEq, Repr

def Direction.order {α : Type} : Direction → List α → List α
  | .forward, parts => parts
  | .backward, parts => parts.reverse

/-! ## Weight -/

def weightLimit : Nat := 10 * 1024 * 1024

def stateWeight : Nat := 32

/-- A step on some bytes, where a state has a list of them. -/
def stepWeight : Nat := 8

/-- A way to another state that reads nothing, where a state has a list of them. -/
def branchWeight : Nat := 4

structure Draft where
  states : Nat
  /-- Weight of the lists of steps and branches. -/
  lists : Nat
  /-- In each slot what the last state that came to it does, and its number. -/
  known : Std.HashMap Nat (List Nat × Nat)

namespace Draft

def init : Draft := ⟨0, 0, ∅⟩

def weight (draft : Draft) : Nat := draft.states * stateWeight + draft.lists

end Draft

/-! ## Growth -/

abbrev Growth := StateT Draft Option

namespace Growth

/-- More states, and the weight of their lists. -/
def add (states lists : Nat) : Growth Unit := fun draft =>
  let draft := { draft with states := draft.states + states, lists := draft.lists + lists }
  if draft.weight ≤ weightLimit then some ((), draft) else none

def nextState : Growth Nat := return (← get).states

def inOrder : List (Growth Unit) → Growth Unit
  | [], draft => some ((), draft)
  | first :: rest, draft =>
      match first draft with
      | none => none
      | some (_, draft) => inOrder rest draft

def times (growth : Growth Unit) : (count : Nat) → Growth Unit
  | 0, draft => some ((), draft)
  | count + 1, draft =>
      match growth draft with
      | none => none
      | some (_, draft) => times growth count draft

/-! ## States that are used again -/

/-- Slots for the states of a set that is read forward, and of one that is read backward. -/
def treeSlots : Nat := 10000

def chainSlots : Nat := 1000

def forget : Growth Unit := modify fun draft => { draft with known := ∅ }

def digest (key : List Nat) : UInt64 :=
  key.foldl (fun digest part => (digest ^^^ part.toUInt64) * 0x100000001b3) 0xcbf29ce484222325

/-- The state that does what a key says: one that is in its slot, or else a new one. -/
def shared (slots : Nat) (key : List Nat) (lists : Nat) : Growth Nat := do
  let slot := (digest key).toNat % slots
  let known := (← get).known[slot]?
  match known with
  | some (key', state) => if key' = key then return state else insert slot
  | none => insert slot
where
  insert (slot : Nat) : Growth Nat := do
    let state ← nextState
    add 1 lists
    modify fun draft => { draft with known := draft.known.insert slot (key, state) }
    return state

/-! ## Sets -/

/-- The state that reads one of some encodings, of at most so many bytes, and goes to a target. -/
def tree (target : Nat) : (length : Nat) → List Encoding → Growth Nat
  | 0, _ => return target
  | length + 1, encodings =>
      match byLead encodings with
      | [] => return target
      | groups => do
          let steps ← groups.mapM fun (lead, tails) => do
            return [lead.1.toNat, lead.2.toNat, ← tree target length tails]
          shared treeSlots steps.flatten (steps.length * stepWeight)

/-- The state that reads an encoding from its last byte to its first, and goes to a target. -/
def chain (target : Nat) : Encoding → Growth Nat
  | [] => return target
  | (first, last) :: rest => do
      chain (← shared chainSlots [target, first.toNat, last.toNat] 0) rest

/--
A character of a set.  Where all of them are single bytes, one state has a step for each range; and
there is a state behind it.
-/
def set (direction : Direction) (set : CharSet) : Growth Unit :=
  if set.isAscii then add 2 (set.ranges.length * stepWeight)
  else do
    forget
    match direction with
    | .forward =>
        let target ← nextState
        add 1 0
        discard <| tree target 4 set.encodings
    | .backward =>
        add 1 0
        let target ← nextState
        add 1 0
        inOrder (set.encodings.map fun encoding => do
          discard <| chain target encoding
          add 0 branchWeight)

/-! ## Words -/

/-- Words, cut where one is empty. -/
def chunks : List (List UInt8) → List (List (List UInt8))
  | [] => [[]]
  | [] :: rest => [] :: chunks rest
  | word :: rest =>
      match chunks rest with
      | chunk :: more => (word :: chunk) :: more
      | [] => [[word]]

/-- For each first byte of some words, what comes behind it. -/
def byFirst (words : List (List UInt8)) : List (List (List UInt8)) :=
  (words.filterMap List.head?).eraseDups.map fun first =>
    words.filterMap fun word => if word.head? = some first then some word.tail else none

/-- Empty words at the front, which are of no use but the first. -/
def dropEmpty : List (List UInt8) → List (List UInt8)
  | [] :: rest => [] :: rest.dropWhile List.isEmpty
  | words => words

/--
A choice between words of at most so many bytes.  Words with the same first byte share its step, as
long as no word ends between them, so that a word remains the choice before those behind it.
-/
def words : (length : Nat) → List (List UInt8) → Growth Unit
  | 0, _ => return
  | length + 1, list => do
      let chunks := chunks (dropEmpty list)
      let groups := (chunks.filter (· ≠ [])).map byFirst
      inOrder <| groups.flatten.map fun tails =>
        if tails.all List.isEmpty then return else words length tails
      inOrder <| groups.map fun group =>
        add 1 (if group.length = 1 then 0 else group.length * stepWeight)
      add 1 ((groups.length + (chunks.length - 1)) * branchWeight)

end Growth

end LensCalibration.Pattern
