import CallContract.Function.Body

/-!
# Ready-made bodies and tests

Small bodies for functions that are declared without code of their own. The
state counts runs under numbers, one number for each counting body.
-/

set_option autoImplicit false

namespace CallContract

abbrev Counters := Nat → Nat

namespace Body

def const {σ : Type} (v : Json) : Body σ := fun _ state => (.ok v, state)

def argument {σ : Type} (i : Nat) : Body σ := fun args state => (.ok ((args[i]?).getD .null), state)

def failing {σ : Type} (cause : String) : Body σ := fun _ state => (.error cause, state)

def arguments {σ : Type} : Body σ := fun args state => (.ok (.arr args), state)

def count {σ : Type} : Body σ := fun args state => (.ok (Json.natural args.length), state)

def addAll (total : Int) : List Json → Except String Int
  | [] => .ok total
  | x :: rest =>
    let i := match x with
      | .num n => n.toInt64?
      | _ => none
    match i with
    | none => .error ("not an integer: " ++ x.compact)
    | some i =>
      if -0x8000000000000000 ≤ total + i ∧ total + i < 0x8000000000000000 then
        addAll (total + i) rest
      else .error "overflow"

def sum {σ : Type} : Body σ := fun args state => ((addAll 0 args).map fun i => .num (.int i), state)

def calls (counter : Nat) : Body Counters := fun _ state =>
  let n := state counter + 1
  (.ok (Json.natural n), fun i => if i = counter then n else state i)

end Body

inductive Test where
  | constant (b : Bool)
  | argumentCount (n : Nat)
  | positive (i : Nat)
  | result (v : Json)
  deriving DecidableEq, Repr

def Test.holds : Test → List Json → Json → Bool
  | .constant b, _, _ => b
  | .argumentCount n, args, _ => args.length == n
  | .positive i, args, _ => match args[i]? with
    | some (.num n) => n.toInt64?.any (0 < ·)
    | _ => false
  | .result v, _, r => Json.alike v r

def Test.precondition (t : Test) (description : String) : Precondition :=
  ⟨description, fun args => t.holds args .null⟩

def Test.postcondition (t : Test) (description : String) : Postcondition :=
  ⟨description, t.holds⟩

end CallContract
