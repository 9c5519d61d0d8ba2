/-!
Character classes given as ascending ranges of code points.
-/
namespace ClientGen.Text

def inRanges (ranges : List (Nat × Nat)) (code : Nat) : Bool :=
  ranges.any fun range => range.1 ≤ code && code ≤ range.2

end ClientGen.Text
