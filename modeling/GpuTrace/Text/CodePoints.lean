/-!
# Code points — membership in spans of characters

A character class is a list of spans, each given by its first and last code
point.
-/

namespace GpuTrace.Text

def inSpans (spans : List (Nat × Nat)) (n : Nat) : Bool :=
  spans.any fun s => s.1 ≤ n && n ≤ s.2

end GpuTrace.Text
