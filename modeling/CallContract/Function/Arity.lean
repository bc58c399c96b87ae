import CallContract.Function.Body
import CallContract.Function.Decision
import CallContract.Schema.Cell

/-!
# Compiled arities

A compiled arity is an implementation and a wrapper. The direct wrapper is the
implementation itself. A checking one holds the arguments against the input
schema before the implementation runs, and a value that it gives against the
output schema; it does so always, or while the runtime toggle is on. Its two
explainers are built when a call first needs them, so a call leaves the wrapper
with what it built.
-/

set_option autoImplicit false

namespace CallContract

inductive Wrapper where
  | direct
  | checking (always : Bool) (input output : ExplainerCell)

/-- Holds a value against the schema of a cell: nothing if it is accepted. The explainer stays in
the cell, so the number of its build is never asked for. -/
def refusal (direction : Direction) (c : ExplainerCell) (v : Json) :
    Option CallError × ExplainerCell :=
  match c.explain 0 v with
  | (.ok why, cell) => (why.map (.invalid direction c.schema), cell)
  | (.error e, cell) => (some (.schema e), cell)

namespace Wrapper

variable {σ : Type}

def ofDecision (input output : Schema) : Decision → Wrapper
  | .off => .direct
  | .always => .checking true (.new input) (.new output)
  | .conditional => .checking false (.new input) (.new output)

def name : Wrapper → String
  | .direct => "direct"
  | .checking true _ _ => "always"
  | .checking false _ _ => "conditional"

def checkResult (output : ExplainerCell) (r : Run σ) : Run σ × ExplainerCell :=
  match r.result with
  | .error _ => (r, output)
  | .ok v => match refusal .output output v with
    | (some e, output) => ({ r with result := .error e }, output)
    | (none, output) => (r, output)

def call (w : Wrapper) (implementation : List Json → σ → Run σ) (enabled : Bool)
    (args : List Json) (state : σ) : Run σ × Wrapper :=
  match w with
  | .direct => (implementation args state, .direct)
  | .checking always input output =>
    if always || enabled then
      match refusal .input input (.arr args) with
      | (some e, input) => (⟨.error e, [], state⟩, .checking always input output)
      | (none, input) =>
        let (r, output) := checkResult output (implementation args state)
        (r, .checking always input output)
    else (implementation args state, w)

end Wrapper

structure CompiledArity (σ : Type) where
  form : ArgumentForm
  implementation : List Json → σ → Run σ
  wrapper : Wrapper

namespace CompiledArity

variable {σ : Type}

def arity (a : CompiledArity σ) : Nat := a.form.arity

def isVariadic (a : CompiledArity σ) : Bool := a.form.isVariadic

def input (a : CompiledArity σ) : Schema := a.form.input

def isDirect (a : CompiledArity σ) : Bool :=
  match a.wrapper with
  | .direct => true
  | .checking _ _ _ => false

def takes (a : CompiledArity σ) (count : Nat) : Bool :=
  if a.isVariadic then a.arity ≤ count else count == a.arity

def invoke (a : CompiledArity σ) (enabled : Bool) (args : List Json) (state : σ) :
    Run σ × CompiledArity σ :=
  let r := a.wrapper.call a.implementation enabled args state
  (r.1, { a with wrapper := r.2 })

end CompiledArity

/-- Compiles one arity. Its schemas are not checked here. -/
def ArityBody.compile {σ : Type} (b : ArityBody σ) (output : Schema) (decision : Decision)
    (config : Config) (types : Registry) : Except FormError (CompiledArity σ) := do
  let form ← ArgumentForm.build types b.slots
  .ok ⟨form, b.run config.assertions, .ofDecision form.input output decision⟩

end CallContract
