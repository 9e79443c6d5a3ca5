namespace PaddleLink.Text

def isWithin (ranges : List (Nat × Nat)) (c : Char) : Bool :=
  ranges.any fun (low, high) => low ≤ c.toNat && c.toNat ≤ high

/-- The characters of a run with their texts. A run is the code point of its first character and the texts
of that one and the following ones, with a space between them. -/
def runEntries (run : Nat × String) : List (Char × List Char) :=
  (run.2.toList.splitOn ' ').zipIdx.map fun (text, i) => (Char.ofNat (run.1 + i), text)

end PaddleLink.Text
