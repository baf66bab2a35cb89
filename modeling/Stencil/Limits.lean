/-!
# Limits of a render
-/

namespace Stencil

/-- What one render may use: evaluations of nodes, and bytes of loop output after which no further
loop element is taken. -/
structure Limits where
  gas : UInt64 := 1000000
  output : Option UInt64 := none
  deriving DecidableEq, Repr

end Stencil
