/-!
# Presentation — how generated classes are presented

The comment at the head of every generated class and the modifiers in front of it.
-/

namespace ScopeGen

/-- The comment that generated classes carry unless another is chosen. -/
def defaultHeader : String :=
  "Generated by MethodScope. (https://github.com/skydoves/MethodScope)."

/-- The head comment and the modifiers of generated classes. -/
structure Presentation where
  header : Option String := some defaultHeader
  modifiers : List String := ["public"]
deriving DecidableEq

end ScopeGen
