/-! Counters kept while a block of work is observed. -/
namespace Highlight

structure Profile where
  renders : Int := 0
  textLength : Int := 0
  fragments : Int := 0
  regions : Int := 0
  maxDepth : Int := 0
  deriving DecidableEq, Repr

namespace Profile

def recordRender (profile : Profile) (textLength fragments : Int) : Profile :=
  { profile with
    renders := profile.renders + 1
    textLength := profile.textLength + textLength
    fragments := profile.fragments + fragments }

/-- One more region scanned again, at the given level. -/
def recordRegion (profile : Profile) (depth : Int) : Profile :=
  { profile with
    regions := profile.regions + 1
    maxDepth := max profile.maxDepth depth }

end Profile

end Highlight
