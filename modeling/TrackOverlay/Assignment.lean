/-!
# Assignment — which detection belongs to which tracker

An assignment gives a tracker position the index of a detection, or nothing.  Indices are not
checked here; an index may point nowhere.
-/

namespace TrackOverlay

abbrev Assignment := Nat → Option Int

namespace Assignment

def empty : Assignment := fun _ => none

/-- The assignment with one position replaced.  No tracker stands at a negative position. -/
def insert (a : Assignment) (position : Int) (detection : Option Int) : Assignment :=
  fun i => if (i : Int) = position then detection else a i

/-- The assignment given by pairs, of which a later one replaces an earlier one. -/
def ofPairs (pairs : List (Int × Option Int)) : Assignment :=
  pairs.foldl (fun a pair => a.insert pair.1 pair.2) empty

/-- The assignment of the trackers from a position on, counted anew from zero. -/
def shift (a : Assignment) (count : Nat) : Assignment := fun i => a (count + i)

end Assignment
end TrackOverlay
