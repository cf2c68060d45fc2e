/-!
What an expansion has to say about a template. None of these stops it.
-/

namespace SiteIndex.Template

/-- The nesting depth past which each further level is reported. -/
def depthLimit : Nat := 16

inductive Diagnostic where
  | unknownSymbol (name : String) (offset : Nat)
  | recursionLimit (depth : Nat)
  | unterminatedInvocation (offset : Nat)
  deriving DecidableEq, Repr

namespace Diagnostic

def message : Diagnostic → String
  | unknownSymbol name offset =>
      "symbol not recognised, '" ++ name ++ "' at byte " ++ toString offset
  | recursionLimit depth =>
      toString depth ++ " recursion levels reached (limit " ++ toString depthLimit ++ ")"
  | unterminatedInvocation offset =>
      "'@(' at byte " ++ toString offset ++ " has no closing ')'; rest copied as text"

end Diagnostic
end SiteIndex.Template
