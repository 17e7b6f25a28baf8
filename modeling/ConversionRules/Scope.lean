import ConversionRules.Registry
import ConversionRules.Random.Generator

/-!
The surroundings of an evaluation: the types it can name and the generator it
draws from. Only the generator changes.
-/
namespace ConversionRules

structure Scope where
  types : Registry
  generator : Generator
  deriving DecidableEq, Inhabited

namespace Scope

def seeded (types : Registry) (seed : UInt64) : Scope := ⟨types, .ofSeed seed⟩

/-- The same types with the generator restarted. -/
def reseed (s : Scope) (seed : UInt64) : Scope := seeded s.types seed

end Scope

end ConversionRules
