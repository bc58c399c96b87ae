import CallContract.Function.Error

/-!
# Whether a function is validated

The decision is taken once, when a function is compiled, from its tags and the
configuration. An untagged function is validated on condition that the runtime
toggle is on, and only if both switches of the configuration are on.
-/

set_option autoImplicit false

namespace CallContract

structure Config where
  instrument : Bool
  assertions : Bool
  deriving DecidableEq, Repr

namespace Config

def enabled : Config := ⟨true, true⟩

def default : Config := ⟨true, true⟩

def instrumentVariable : String := "SCHEMAFN_INSTRUMENT"

def assertionsVariable : String := "SCHEMAFN_ASSERTIONS"

def variableNames : List String := [assertionsVariable, instrumentVariable]

/-- Reads the switches from variables. Only `false` turns instrumentation off; assertions follow
`true` and `false` and keep their default for anything else. Case does not matter; no letter outside
ASCII has a lower-case form that occurs in these words. -/
def ofLookup (lookup : String → Option String) : Config :=
  let instrument := match lookup instrumentVariable with
    | some v => v.toLower != "false"
    | none => default.instrument
  let assertions := match (lookup assertionsVariable).map String.toLower with
    | some "true" => true
    | some "false" => false
    | _ => default.assertions
  ⟨instrument, assertions⟩

def text (c : Config) : String :=
  "CompileConfig \x7b instrument: " ++ toString c.instrument ++ ", assertions: "
    ++ toString c.assertions ++ " \x7d"

end Config

structure Tags where
  never : Bool
  always : Bool
  deriving DecidableEq, Repr

inductive Decision where
  | off
  | always
  | conditional
  deriving DecidableEq, Repr

namespace Decision

def decide (tags : Tags) (config : Config) : Except DefinitionError Decision :=
  match tags.never, tags.always with
  | true, true => .error .conflictingTags
  | true, false => .ok .off
  | false, true => .ok .always
  | false, false =>
    if config.instrument && config.assertions then .ok .conditional else .ok .off

def validates (d : Decision) : Bool := d != .off

def name : Decision → String
  | .off => "off"
  | .always => "always"
  | .conditional => "conditional"

end Decision

end CallContract
