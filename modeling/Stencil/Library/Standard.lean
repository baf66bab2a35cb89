import Stencil.Library.Binding
import Stencil.Library.Chance

/-!
# The standard builtins
-/

namespace Stencil.Library

/-- Called with parentheses only, output only. -/
def plain : Capabilities := {}

def storable : Capabilities := { storage := some .lenient }

def builtins : List (String × Capabilities × Builtin.Kind) :=
  [("upper", plain, .simple upper), ("lower", plain, .simple lower), ("title", plain, .simple title),
   ("len", plain, .simple len), ("slice", plain, .simple slice), ("parse", plain, .simple parse),
   ("rep", plain, .simple rep), ("void", plain, .simple void), ("set", plain, .simple set),
   ("split", plain, .simple split), ("user", storable, .simple user),
   ("nameof", storable, .simple nameof), ("member", plain, .simple member),
   ("choose", storable, .simple choose), ("wchoose", storable, .simple wchoose),
   ("num", storable, .simple num), ("time", { storable with bare := true }, .simple time),
   ("when", plain, .conditional), ("loop", plain, .iteration), ("math", plain, .simple math)]

def standard : Registry :=
  builtins.foldl (fun r (name, caps, kind) => Registry.register r name caps kind) .empty

end Stencil.Library
