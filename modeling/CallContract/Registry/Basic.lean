import CallContract.Schema.Basic

/-!
# Schemas of types

A registry binds types to schemas. A type is known by a name or is built in; a
built-in type has an identity of its own and a name to be shown under, and a
named type is never a built-in one, whatever its name.
-/

set_option autoImplicit false

namespace CallContract

structure BuiltinType where
  identity : Nat
  name : String
  deriving DecidableEq, Repr

namespace BuiltinType

def integer64 : BuiltinType := ⟨0, "i64"⟩

def boolean : BuiltinType := ⟨1, "bool"⟩

def text : BuiltinType := ⟨2, "str"⟩

end BuiltinType

inductive TypeToken where
  | named (name : String)
  | builtin (type : BuiltinType)
  deriving DecidableEq, Repr

def TypeToken.name : TypeToken → String
  | .named name => name
  | .builtin type => type.name

structure Registry where
  entries : List (TypeToken × Schema)
  deriving DecidableEq, Repr

namespace Registry

def empty : Registry := ⟨[]⟩

def lookup (r : Registry) (t : TypeToken) : Option Schema := r.entries.lookup t

def erase (r : Registry) (t : TypeToken) : Registry :=
  ⟨r.entries.filter fun e => e.1 ≠ t⟩

def insert (r : Registry) (t : TypeToken) (s : Schema) : Registry :=
  ⟨(t, s) :: (r.erase t).entries⟩

def size (r : Registry) : Nat := r.entries.length

def isEmpty (r : Registry) : Bool := r.entries.isEmpty

def insertAll (r : Registry) (types : List (TypeToken × Schema)) : Registry :=
  types.foldl (fun r (t, s) => r.insert t s) r

end Registry

end CallContract
