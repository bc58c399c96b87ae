import CallContract.Function.Compile
import CallContract.Proofs.Function.Wrapper

/-!
# Requests leave no trace in a function

A function is asked by the number of arguments, or for the arity at a position.
Its answer is the run of one of its arities. A request leaves the function as it
was up to built explainers, so earlier requests are invisible.
-/

set_option autoImplicit false

namespace CallContract

inductive Request where
  | call (args : List Json)
  | invoke (index : Nat) (args : List Json)

namespace CompiledFunction

variable {σ τ : Type}

def answer (f : CompiledFunction σ) (request : Request) (enabled : Bool) (state : σ) :
    Option (Run σ × CompiledFunction σ) :=
  match request with
  | .call args => some (f.call enabled args state)
  | .invoke index args => f.invoke index enabled args state

def dispatched (f : CompiledFunction σ) (run : CompiledArity σ → List Json → Run τ) (state : τ) :
    Request → Option (Run τ)
  | .call args => some (((f.position args.length).bind fun i => f.arities[i]?.map (run · args)).getD
      ⟨.error (.arityMismatch f.name args.length), [], state⟩)
  | .invoke index args => f.arities[index]?.map (run · args)

theorem answer_dispatched (f : CompiledFunction σ) (request : Request) (enabled : Bool)
    (state : σ) : (f.answer request enabled state).map (·.1) =
      f.dispatched (fun a args => (a.invoke enabled args state).1) state request := by
  cases request with
  | call args =>
    simp only [answer, dispatched, call, invoke]
    cases hp : f.position args.length with
    | none => rfl
    | some i => cases h : f.arities[i]? <;> simp [h]
  | invoke index args => exact Option.map_map ..

theorem dispatched_map {f : CompiledFunction σ} {f' : CompiledFunction τ}
    {g : CompiledArity σ → CompiledArity τ} (hn : f'.name = f.name)
    (ha : f'.arities = f.arities.map g) (hg : ∀ a, (g a).form = a.form) {ρ : Type}
    (run : CompiledArity τ → List Json → Run ρ) (state : ρ) (request : Request) :
    f'.dispatched run state request = f.dispatched (fun a => run (g a)) state request := by
  have hp (count : Nat) : f'.position count = f.position count := by
    unfold position
    rw [ha, List.findIdx?_map]
    congr 1
    funext a
    change (g a).takes count = a.takes count
    unfold CompiledArity.takes CompiledArity.isVariadic CompiledArity.arity
    rw [hg a]
  cases request with
  | call args =>
    simp only [dispatched, hp, hn, ha, List.getElem?_map, Option.map_map, Function.comp_def]
  | invoke index args =>
    simp only [dispatched, ha, List.getElem?_map, Option.map_map, Function.comp_def]

theorem dispatched_congr {f : CompiledFunction σ} {run run' : CompiledArity σ → List Json → Run τ}
    (h : ∀ a ∈ f.arities, ∀ args, run a args = run' a args) (state : τ) (request : Request) :
    f.dispatched run state request = f.dispatched run' state request := by
  have hget (i : Nat) (args : List Json) :
      f.arities[i]?.map (run · args) = f.arities[i]?.map (run' · args) := by
    cases ha : f.arities[i]? with
    | none => rfl
    | some a => exact congrArg some (h a (List.mem_of_getElem? ha) args)
  cases request with
  | call args => simp only [dispatched, hget]
  | invoke index args => exact hget index args

theorem dispatched_comp {ρ : Type} {f : CompiledFunction σ}
    {run : CompiledArity σ → List Json → Run τ} {state : τ} {state' : ρ} {h : Run τ → Run ρ}
    (hm : ∀ e, h ⟨.error e, [], state⟩ = ⟨.error e, [], state'⟩) (request : Request) :
    (f.dispatched run state request).map h =
      f.dispatched (fun a args => h (run a args)) state' request := by
  cases request with
  | call args =>
    simp only [dispatched]
    cases f.position args.length with
    | none => exact congrArg some (hm _)
    | some i =>
      cases hi : f.arities[i]? with
      | none => simpa [hi] using hm _
      | some a => simp [hi]
  | invoke index args => exact Option.map_map ..

def fresh (f : CompiledFunction σ) : CompiledFunction σ :=
  { f with arities := f.arities.map (·.fresh) }

theorem answer_fresh (f : CompiledFunction σ) (request : Request) (enabled : Bool) (state : σ) :
    (f.fresh.answer request enabled state).map (·.1) =
      (f.answer request enabled state).map (·.1) := by
  have hn : f.fresh.name = f.name := rfl
  have ha : f.fresh.arities = f.arities.map (·.fresh) := rfl
  rw [answer_dispatched, answer_dispatched, dispatched_map hn ha fun _ => rfl]
  exact dispatched_congr (fun a _ args => a.invoke_fresh enabled args state) state request

theorem fresh_invoke {f : CompiledFunction σ} {index : Nat} {enabled : Bool} {args : List Json}
    {state : σ} {r : Run σ × CompiledFunction σ}
    (h : f.invoke index enabled args state = some r) : r.2.fresh = f.fresh := by
  obtain ⟨a, ha, rfl⟩ := Option.map_eq_some_iff.mp h
  have hset : (f.arities.set index (a.invoke enabled args state).2).map (·.fresh) =
      f.arities.map (·.fresh) := by
    obtain ⟨hi, rfl⟩ := List.getElem?_eq_some_iff.mp ha
    have hself := @List.set_getElem_self _ (f.arities.map (·.fresh)) index (by simpa using hi)
    rw [List.getElem_map] at hself
    rw [List.map_set, CompiledArity.fresh_invoke, hself]
  exact congrArg (fun arities => { f with arities := arities }) hset

theorem fresh_answer {f : CompiledFunction σ} {request : Request} {enabled : Bool} {state : σ}
    {r : Run σ × CompiledFunction σ} (h : f.answer request enabled state = some r) :
    r.2.fresh = f.fresh := by
  cases request with
  | call args =>
    cases h
    unfold call
    cases hb : (f.position args.length).bind (f.invoke · enabled args state) with
    | none => rfl
    | some r =>
      obtain ⟨i, -, hi⟩ := Option.bind_eq_some_iff.mp hb
      exact fresh_invoke hi
  | invoke index args => exact fresh_invoke h

def after (f : CompiledFunction σ) : List (Request × Bool × σ) → CompiledFunction σ
  | [] => f
  | (request, enabled, state) :: rest =>
    match f.answer request enabled state with
    | none => f.after rest
    | some r => r.2.after rest

theorem fresh_after (f : CompiledFunction σ) (earlier : List (Request × Bool × σ)) :
    (f.after earlier).fresh = f.fresh := by
  induction earlier generalizing f with
  | nil => rfl
  | cons asked rest ih =>
    obtain ⟨request, enabled, state⟩ := asked
    unfold after
    split
    · exact ih f
    · rename_i r hr
      rw [ih, fresh_answer hr]

/-- Earlier requests are invisible. -/
theorem answer_after (f : CompiledFunction σ) (earlier : List (Request × Bool × σ))
    (request : Request) (enabled : Bool) (state : σ) :
    ((f.after earlier).answer request enabled state).map (·.1) =
      (f.answer request enabled state).map (·.1) := by
  rw [← answer_fresh, fresh_after, answer_fresh]

end CompiledFunction

end CallContract
