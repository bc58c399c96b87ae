import CallContract.Function.Error

/-!
# Bodies and their conditions

A body takes the arguments and a state, and gives a value or the cause of its
failure and the state it leaves. Conditions look at arguments and result and
change nothing. A run reports its result, what ran in which order, and the
state that it left.
-/

set_option autoImplicit false

namespace CallContract

abbrev Body (σ : Type) := List Json → σ → Except String Json × σ

structure Precondition where
  description : String
  holds : List Json → Bool

structure Postcondition where
  description : String
  holds : List Json → Json → Bool

structure ArityBody (σ : Type) where
  slots : List Slot
  body : Body σ
  pre : List Precondition
  post : List Postcondition

inductive Event where
  | pre (description : String)
  | body
  | post (description : String)
  deriving DecidableEq, Repr

def Event.text : Event → String
  | .pre description => "pre " ++ description
  | .body => "body"
  | .post description => "post " ++ description

structure Run (σ : Type) where
  result : Except CallError Json
  trace : List Event
  state : σ

namespace Run

def andThen {σ : Type} (r : Run σ) (next : Json → σ → Run σ) : Run σ :=
  match r.result with
  | .error _ => r
  | .ok v =>
    let s := next v r.state
    { s with trace := r.trace ++ s.trace }

end Run

def firstFailing : List Precondition → List Json → List String × Option String
  | [], _ => ([], none)
  | c :: rest, args =>
    if c.holds args then
      let (tried, failed) := firstFailing rest args
      (c.description :: tried, failed)
    else ([c.description], some c.description)

namespace ArityBody

variable {σ : Type}

def runBody (b : ArityBody σ) (args : List Json) (state : σ) : Run σ :=
  match b.body args state with
  | (.ok v, state) => ⟨.ok v, [.body], state⟩
  | (.error cause, state) => ⟨.error (.body cause), [.body], state⟩

def runPre (b : ArityBody σ) (args : List Json) (state : σ) : Run σ :=
  match firstFailing b.pre args with
  | (tried, none) => ⟨.ok .null, tried.map .pre, state⟩
  | (tried, some d) => ⟨.error (.condition .pre d), tried.map .pre, state⟩

def runPost (b : ArityBody σ) (args : List Json) (v : Json) (state : σ) : Run σ :=
  match firstFailing (b.post.map fun c => ⟨c.description, fun args => c.holds args v⟩) args with
  | (tried, none) => ⟨.ok v, tried.map .post, state⟩
  | (tried, some d) => ⟨.error (.condition .post d), tried.map .post, state⟩

def run (b : ArityBody σ) (assertions : Bool) (args : List Json) (state : σ) : Run σ :=
  if assertions then
    ((b.runPre args state).andThen fun _ state => b.runBody args state).andThen
      fun v state => b.runPost args v state
  else b.runBody args state

end ArityBody

end CallContract
