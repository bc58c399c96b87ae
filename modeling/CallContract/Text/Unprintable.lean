import CallContract.Character.Property

/-!
# Characters without a glyph of their own

Text in messages does not show these characters as they are: controls and
format characters, separators other than the blank, private and unassigned code
points, marks that extend the character before them, and code points that are
left out where they cannot be shown.
-/

set_option autoImplicit false

namespace CallContract

def isUnprintable (n : Nat) : Bool :=
  127 < n && ((Category.others ++ Category.separators).contains (Category.ofCodePoint n)
    || Property.graphemeExtend.has n || Property.defaultIgnorableCodePoint.has n)

end CallContract
