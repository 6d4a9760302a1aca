import DriverHub.Number.Digits

/-! Integer ranges. A range runs from its start towards its end, upwards or downwards, and holds the
end only if it is inclusive. -/

namespace DriverHub

structure Range where
  start : Int64
  stop : Int64
  inclusive : Bool
deriving DecidableEq, Inhabited

/-- One step up; the largest word stays where it is. -/
def Int64.above (i : Int64) : Int64 := if i = Int64.maxValue then i else i + 1

/-- One step down; the smallest word stays where it is. -/
def Int64.below (i : Int64) : Int64 := if i = Int64.minValue then i else i - 1

namespace Range

/-- The least and the greatest number of a range that is not empty. -/
def bounds (r : Range) : Int64 × Int64 :=
  if r.stop < r.start then
    (if r.inclusive then r.stop else Int64.above r.stop, r.start)
  else
    (r.start, if r.inclusive then r.stop else Int64.below r.stop)

def isEmpty (r : Range) : Bool := r.start = r.stop && !r.inclusive

def contains (r : Range) (i : Int64) : Bool :=
  !r.isEmpty && r.bounds.1 ≤ i && i ≤ r.bounds.2

def text (r : Range) : String :=
  Digits.intText r.start.toInt ++ (if r.inclusive then "..=" else "..") ++
    Digits.intText r.stop.toInt

end Range

end DriverHub
