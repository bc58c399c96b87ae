import CallContract.Registry.Basic

/-!
# Declared arguments

An argument list is declared as a list of slots. A slot has a name, or a list
of slots that take the argument apart; it may be annotated with a schema or a
type; and it is regular or takes the rest of the arguments. At most one slot of
a list takes the rest, and it comes last. This holds for lists at every depth.
-/

set_option autoImplicit false

namespace CallContract

inductive Typing where
  | none
  | schema (s : Schema)
  | type (t : TypeToken)
  deriving DecidableEq, Repr

inductive Role where
  | regular
  | rest
  deriving DecidableEq, Repr

inductive Slot where
  | named (name : String) (typing : Typing) (role : Role)
  | nested (slots : List Slot) (typing : Typing) (role : Role)
  deriving Repr

namespace Slot

def typing : Slot → Typing
  | .named _ a _ => a
  | .nested _ a _ => a

def role : Slot → Role
  | .named _ _ r => r
  | .nested _ _ r => r

def isRest (s : Slot) : Bool := s.role == .rest

def nameAt : Slot → Nat → String
  | .named name _ _, _ => name
  | .nested _ _ _, position => "arg" ++ toString position

inductive Misplacement where
  | several (count : Nat)
  | notLast (position : Nat)
  deriving DecidableEq, Repr

def Misplacement.message : Misplacement → String
  | .several count => toString count ++ " rest bindings declared, at most one allowed"
  | .notLast position =>
    "rest binding at position " ++ toString position ++ " is followed by regular arguments"

def misplacedHere? (slots : List Slot) : Option Misplacement :=
  if 1 < slots.countP isRest then some (.several (slots.countP isRest))
  else match slots.findIdx? isRest with
    | some i => if i + 1 = slots.length then none else some (.notLast i)
    | none => none

def misplacedInside? : List Slot → Option Misplacement
  | [] => none
  | .named _ _ _ :: rest => misplacedInside? rest
  | .nested inner _ _ :: rest =>
    ((misplacedHere? inner).or (misplacedInside? inner)).or (misplacedInside? rest)

/-- What is wrong first in a list, looking at the list before its nested lists. -/
def misplaced? (slots : List Slot) : Option Misplacement :=
  (misplacedHere? slots).or (misplacedInside? slots)

end Slot

end CallContract
