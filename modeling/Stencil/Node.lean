/-!
# Templates

A template is a tree: literal text, bare names, calls, and nodes one after another.
-/

namespace Stencil

/-- A node of a template. A call has positional and named arguments and may send its value to a
variable. -/
inductive Node where
  | text (s : String)
  | var (name : String)
  | concat (children : List Node)
  | call (name : String) (args : List Node) (named : List (String × Node)) (into : Option String)

end Stencil
