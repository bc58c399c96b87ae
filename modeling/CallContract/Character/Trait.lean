import CallContract.Character.Property
import CallContract.Character.Script

/-!
# Traits of characters

A trait is what a name of a category, of a property or of a script stands for.
Names are read loosely: case, blanks, underscores, hyphens and a leading `is`
do not matter.
-/

set_option autoImplicit false

namespace CallContract

inductive Trait where
  | any
  | ascii
  | assigned
  | categories (list : List Category)
  | property (p : Property)
  | script (code : String)
  | usedIn (code : String)

namespace Trait

def has : Trait → Nat → Bool
  | .any, _ => true
  | .ascii, n => n < 128
  | .assigned, n => Category.ofCodePoint n != .unassigned
  | .categories list, n => list.contains (Category.ofCodePoint n)
  | .property p, n => p.has n
  | .script code, n => Script.ofCodePoint n == code
  | .usedIn code, n => (Script.extensions n).contains code

def plainName (name : List Char) : String :=
  let (start, rest) := match name with
    | i :: s :: rest => if i.toLower = 'i' && s.toLower = 's' then (true, rest) else (false, name)
    | _ => (false, name)
  let plain := (rest.filter fun c => c.toNat < 128 && !(" _-".toList.contains c)).map Char.toLower
  String.ofList (if start && plain = ['c'] then ['i', 's', 'c'] else plain)

def ofCategoryName? (name : String) : Option Trait :=
  match name with
  | "any" => some .any
  | "ascii" => some .ascii
  | "assigned" => some .assigned
  | _ => (Category.names.lookup name).map .categories

def ofName? (name : List Char) : Option Trait :=
  let plain := plainName name
  let short := ["cf", "sc", "lc"].contains plain
  match if short then none else Property.names.lookup plain with
  | some p => some (.property p)
  | none => match ofCategoryName? plain with
    | some t => some t
    | none => (Script.names.lookup plain).map .script

def ofValue? (name value : List Char) : Option Trait :=
  match plainName name with
  | "gc" | "generalcategory" => ofCategoryName? (plainName value)
  | "sc" | "script" => (Script.names.lookup (plainName value)).map .script
  | "scx" | "scriptextensions" => (Script.names.lookup (plainName value)).map .usedIn
  | _ => none

def splitAt? (mark : List Char) : List Char → Option (List Char × List Char)
  | [] => none
  | c :: rest => match mark.isPrefixOf? (c :: rest) with
    | some after => some ([], after)
    | none => (splitAt? mark rest).map fun (before, after) => (c :: before, after)

def ofQuery? (query : List Char) : Option (Trait × Bool) :=
  match splitAt? ['!', '='] query with
  | some (name, value) => (ofValue? name value).map (·, true)
  | none => match splitAt? [':'] query with
    | some (name, value) => (ofValue? name value).map (·, false)
    | none => match splitAt? ['='] query with
      | some (name, value) => (ofValue? name value).map (·, false)
      | none => (ofName? query).map (·, false)

end Trait

end CallContract
