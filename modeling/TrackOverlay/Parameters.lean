import TrackOverlay.Number.Shortest

/-!
# Parameters — geometry and labeling of the overlay

The ten parameters of the overlay, their defaults, the bounds that they are checked against, and
their reading from settings.  Settings come from a mapping: each names a parameter or something
unknown, which is ignored, and a parameter without a setting keeps its default.

The bounds are checked one after the other and the first one that is broken is reported.  A lower
bound refuses what lies below it, so a value that is not a number passes; an interval refuses what
does not lie inside.
-/

namespace TrackOverlay

inductive RealParameter where
  | markerLifetime
  | trackHeightOffset
  | assignHeightOffset
  | textHeightOffset
  | textScale
  | trackBoxScale
  | detectBoxScale
  | lineWidth
  | probabilityThreshold
  deriving DecidableEq, Repr

namespace RealParameter

def all : List RealParameter :=
  [.markerLifetime, .trackHeightOffset, .assignHeightOffset, .textHeightOffset, .textScale,
    .trackBoxScale, .detectBoxScale, .lineWidth, .probabilityThreshold]

def key : RealParameter → String
  | .markerLifetime => "marker_lifetime"
  | .trackHeightOffset => "track_height_offset"
  | .assignHeightOffset => "assign_height_offset"
  | .textHeightOffset => "text_height_offset"
  | .textScale => "text_scale"
  | .trackBoxScale => "track_box_scale"
  | .detectBoxScale => "detect_box_scale"
  | .lineWidth => "line_width"
  | .probabilityThreshold => "probability_display_threshold"

def ofKey? (k : String) : Option RealParameter := all.find? fun p => p.key = k

end RealParameter

structure Parameters where
  /-- Seconds until a marker expires. -/
  markerLifetime : Float := 0.15
  /-- Height of track boxes above the tracked position. -/
  trackHeightOffset : Float := 1.0
  /-- Height of associated detections above the track boxes. -/
  assignHeightOffset : Float := 0.6
  /-- Height of the label above the tracked position. -/
  textHeightOffset : Float := 2.5
  textScale : Float := 0.5
  trackBoxScale : Float := 0.4
  detectBoxScale : Float := 0.2
  lineWidth : Float := 0.15
  /-- Channels below this probability are left out of labels. -/
  probabilityThreshold : Float := 0.00101
  /-- How many characters of the identity text a label shows. -/
  prefixLength : Int := 6
  deriving DecidableEq, Repr

namespace Parameters

def prefixLengthKey : String := "uuid_prefix_length"

def get (q : Parameters) : RealParameter → Float
  | .markerLifetime => q.markerLifetime
  | .trackHeightOffset => q.trackHeightOffset
  | .assignHeightOffset => q.assignHeightOffset
  | .textHeightOffset => q.textHeightOffset
  | .textScale => q.textScale
  | .trackBoxScale => q.trackBoxScale
  | .detectBoxScale => q.detectBoxScale
  | .lineWidth => q.lineWidth
  | .probabilityThreshold => q.probabilityThreshold

def set (q : Parameters) (x : Float) : RealParameter → Parameters
  | .markerLifetime => { q with markerLifetime := x }
  | .trackHeightOffset => { q with trackHeightOffset := x }
  | .assignHeightOffset => { q with assignHeightOffset := x }
  | .textHeightOffset => { q with textHeightOffset := x }
  | .textScale => { q with textScale := x }
  | .trackBoxScale => { q with trackBoxScale := x }
  | .detectBoxScale => { q with detectBoxScale := x }
  | .lineWidth => { q with lineWidth := x }
  | .probabilityThreshold => { q with probabilityThreshold := x }

theorem get_set (q : Parameters) (x : Float) (p r : RealParameter) :
    (q.set x p).get r = if r = p then x else q.get r := by
  cases p <;> cases r <;> rfl

/-! ## Bounds -/

/-- The cause for which parameters are refused. -/
inductive Refusal where
  | negative (parameter : RealParameter) (value : Float)
  | notPositive (parameter : RealParameter) (value : Float)
  | outsideUnit (parameter : RealParameter) (value : Float)
  | prefixNotPositive (length : Int)
  deriving DecidableEq, Repr

def Refusal.message : Refusal → String
  | .negative p value => p.key ++ " must be non-negative, got " ++ Shortest.text value
  | .notPositive p value => p.key ++ " must be positive, got " ++ Shortest.text value
  | .outsideUnit p value => p.key ++ " must be in [0, 1], got " ++ Shortest.text value
  | .prefixNotPositive length => prefixLengthKey ++ " must be positive, got " ++ toString length

inductive Bound where
  | nonNegative (p : RealParameter)
  | positive (p : RealParameter)
  | unit (p : RealParameter)
  | prefixPositive
  deriving DecidableEq, Repr

/-- The refusal of parameters that break a bound. -/
def Bound.refusal? (q : Parameters) : Bound → Option Refusal
  | .nonNegative p => if q.get p < 0.0 then some (.negative p (q.get p)) else none
  | .positive p => if q.get p ≤ 0.0 then some (.notPositive p (q.get p)) else none
  | .unit p =>
      if 0.0 ≤ q.get p ∧ q.get p ≤ 1.0 then none else some (.outsideUnit p (q.get p))
  | .prefixPositive =>
      if q.prefixLength ≤ 0 then some (.prefixNotPositive q.prefixLength) else none

/-- The bounds, in the order in which they are checked. -/
def bounds : List Bound :=
  [.nonNegative .markerLifetime, .positive .textScale, .positive .trackBoxScale,
    .positive .detectBoxScale, .positive .lineWidth, .unit .probabilityThreshold, .prefixPositive]

/-- The refusal of the first bound that the parameters break. -/
def refusal? (q : Parameters) : Option Refusal := bounds.findSome? (Bound.refusal? q)

/-- The parameters themselves, if they keep every bound. -/
def check (q : Parameters) : Except Refusal Parameters :=
  match q.refusal? with
  | some refusal => .error refusal
  | none => .ok q

/-! ## Settings -/

inductive Setting where
  | real (p : RealParameter) (x : Float)
  | prefixLength (n : Int)
  | unknown (key : String)
  deriving DecidableEq, Repr

def apply (q : Parameters) : Setting → Parameters
  | .real p x => q.set x p
  | .prefixLength n => { q with prefixLength := n }
  | .unknown _ => q

/-- The parameters given by settings, the others at their defaults. -/
def ofSettings (settings : List Setting) : Except Refusal Parameters :=
  (settings.foldl apply {}).check

def toSettings (q : Parameters) : List Setting :=
  RealParameter.all.map (fun p => .real p (q.get p)) ++ [.prefixLength q.prefixLength]

end Parameters
end TrackOverlay
