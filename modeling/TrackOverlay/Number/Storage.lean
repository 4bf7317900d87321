/-!
# Storage — the sizes and indices of vectors

Vectors of doubles are stored in memory, so not every whole number is a size or an index of one.
Both are signed 64-bit words.  A vector may not take more bytes than a word can count, and the system
may refuse the memory for it.
-/

namespace TrackOverlay
namespace Storage

/-- Whether a number is a signed 64-bit word. -/
def isWord (n : Int) : Bool := -Nat.pow 2 63 ≤ n && n < Nat.pow 2 63

/-! ## Sizes -/

def entryBytes : Nat := 8

/-- Why a vector of a size cannot be made. -/
inductive SizeRefusal where
  | noWord
  | negative
  | tooManyBytes
  /-- The system has no memory for the vector, in its own words. -/
  | noMemory (message : String)
  deriving DecidableEq, Repr

def SizeRefusal.message : SizeRefusal → String
  | .noWord => "Maximum allowed dimension exceeded"
  | .negative => "negative dimensions are not allowed"
  | .tooManyBytes =>
      "array is too big; `arr.size * arr.dtype.itemsize` is larger than the maximum possible size."
  | .noMemory message => message

/-- The size that a number stands for.  What the system says to a size that it has no memory for is
given. -/
def size (noMemory? : Nat → Option String) (n : Int) : Except SizeRefusal Nat :=
  if !isWord n then .error .noWord
  else if n < 0 then .error .negative
  else if !isWord (n * entryBytes) then .error .tooManyBytes
  else
    match noMemory? n.toNat with
    | some message => .error (.noMemory message)
    | none => .ok n.toNat

/-! ## Indices -/

/-- Why a vector has no entry at an index. -/
inductive IndexRefusal where
  | outside (index : Int) (size : Nat)
  /-- The index is an unsigned word, but not a signed one. -/
  | overflow
  | noWord
  deriving DecidableEq, Repr

def IndexRefusal.message : IndexRefusal → String
  | .outside index size =>
      "index " ++ toString index ++ " is out of bounds for axis 0 with size " ++ toString size
  | .overflow => "Python int too large to convert to C long"
  | .noWord =>
      "only integers, slices (`:`), ellipsis (`...`), numpy.newaxis (`None`) and integer or " ++
        "boolean arrays are valid indices"

/-- The place that an index stands for in a vector of the given size.  A negative index counts from
the end. -/
def place (index : Int) (size : Nat) : Except IndexRefusal Nat :=
  if isWord index then
    let fromStart := if index < 0 then index + size else index
    if 0 ≤ fromStart ∧ fromStart < size then .ok fromStart.toNat
    else .error (.outside index size)
  else if 0 ≤ index ∧ index < Nat.pow 2 64 then .error .overflow
  else .error .noWord

end Storage
end TrackOverlay
