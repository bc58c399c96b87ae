import CallContract.Schema.Explainer

/-!
# Cells that build their explainer once

A cell holds a schema and, after the first use that needed it, the explainer of
that schema. A failed build leaves the cell empty. Built explainers carry the
serial number of their build, so that two uses can be told to have got the same
one.
-/

set_option autoImplicit false

namespace CallContract

structure BuiltExplainer where
  serial : Nat
  explainer : Explainer

structure ExplainerCell where
  schema : Schema
  built : Option BuiltExplainer
  own : ∀ b ∈ built, b.explainer.schema = schema

namespace ExplainerCell

def new (s : Schema) : ExplainerCell := ⟨s, none, by simp⟩

def fill (c : ExplainerCell) (b : BuiltExplainer) (own : b.explainer.schema = c.schema) :
    ExplainerCell :=
  ⟨c.schema, some b, by simpa using own⟩

def isBuilt (c : ExplainerCell) : Bool := c.built.isSome

def get (c : ExplainerCell) (serial : Nat) : Except SchemaError BuiltExplainer × ExplainerCell :=
  match c.built with
  | some b => (.ok b, c)
  | none => match h : Explainer.build c.schema with
    | .ok e => (.ok ⟨serial, e⟩, c.fill ⟨serial, e⟩ (Explainer.schema_of_build h))
    | .error e => (.error e, c)

def explain (c : ExplainerCell) (serial : Nat) (v : Json) :
    Except SchemaError (Option Explanation) × ExplainerCell :=
  match c.get serial with
  | (.ok b, c) => (.ok (b.explainer.explain v), c)
  | (.error e, c) => (.error e, c)

inductive Operation where
  | isBuilt
  | schema
  | get
  | explain (v : Json)

inductive Answer where
  | built (yes : Bool)
  | schema (s : Schema)
  | got (b : BuiltExplainer)
  | explained (e : Option Explanation)
  | failed (e : SchemaError)

def step (c : ExplainerCell) (serial : Nat) : Operation → Answer × ExplainerCell
  | .isBuilt => (.built c.isBuilt, c)
  | .schema => (.schema c.schema, c)
  | .get => match c.get serial with
    | (.ok b, c) => (.got b, c)
    | (.error e, c) => (.failed e, c)
  | .explain v => match c.explain serial v with
    | (.ok e, c) => (.explained e, c)
    | (.error e, c) => (.failed e, c)

def run (c : ExplainerCell) (serial : Nat) : List Operation → List (Answer × ExplainerCell)
  | [] => []
  | op :: rest =>
    let (answer, c) := c.step serial op
    (answer, c) :: run c (serial + 1) rest

end ExplainerCell

end CallContract
