/-!
# How long to hold

A vehicle at a control stop is held so that the gaps between vehicles even out. All times are in
milliseconds.

With predictions for the vehicles behind, the gap between the last departure and each of their
arrivals is shared evenly by the vehicles in between, and the largest share counts. Without them the
aim is a planned headway. What has already passed since the last departure is taken off, and no
vehicle is held for less than no time.
-/

namespace Headway

namespace Holding

/-- The share of one vehicle in the gap between the last departure and the arrival of the vehicle at
a place in line, counted from zero and rounded toward zero. -/
def share (lastDeparture arrival : Int) (place : Nat) : Int :=
  (arrival - lastDeparture).tdiv (place + 2)

/-- The largest share, which is never less than -1. -/
def largestShare (lastDeparture : Int) (arrivals : List Int) : Int :=
  arrivals.zipIdx.foldl (fun most a => max most (share lastDeparture a.1 a.2)) (-1)

/-- The hold by predicted arrivals, of which at most a given number are considered. -/
def byPredictions (arrival lastDeparture : Int) (arrivals : List Int) (maxPredictions : Nat) :
    Int :=
  max 0 (largestShare lastDeparture (arrivals.take maxPredictions) - (arrival - lastDeparture))

/-- The hold toward a planned headway. The numbers here have no bounds. In 64 bits the difference is
the same as long as it fits, which it does not where a planned headway close to the least of them is
set. -/
def byPlan (arrival lastDeparture plannedHeadway : Int) : Int :=
  max 0 (plannedHeadway - (arrival - lastDeparture).natAbs)

end Holding

end Headway
