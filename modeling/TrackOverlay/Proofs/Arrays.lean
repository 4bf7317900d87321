import TrackOverlay.Geometry.Position

/-!
# Arrays — which nestings of numbers are arrays

Numbers nested in arrays are an array themselves only if all parts of a level have the same sizes.
This file defines

* `Coordinates.HasShape` — the nesting is that of an array of the given sizes;
* `Coordinates.IsArray` — it is one of at most so many levels.

The reader of shapes finds exactly the shapes that there are (`Coordinates.shape?_eq_some_iff`).
-/

namespace TrackOverlay
namespace Coordinates

variable {k : Coordinates} {items : List Coordinates} {sizes : List Nat} {limit : Nat}

/-- The nesting is that of an array of the given sizes, from the outermost level inwards.  An array
without items has no further level. -/
inductive HasShape : Coordinates → List Nat → Prop
  | number (x : Float) : HasShape (.number x) []
  | empty : HasShape (.nested []) [0]
  | nested {item : Coordinates} {items : List Coordinates} {sizes : List Nat}
      (hall : ∀ k ∈ item :: items, HasShape k sizes) :
      HasShape (.nested (item :: items)) ((items.length + 1) :: sizes)

/-- The nesting is that of an array of at most so many levels. -/
def IsArray (limit : Nat) (k : Coordinates) : Prop :=
  ∃ sizes, k.HasShape sizes ∧ sizes.length ≤ limit

/-! ## Shapes -/

/-- All of at least one items have one shape exactly if the reader finds it. -/
theorem shapeOfItems?_cons_eq_some_iff {item : Coordinates} :
    shapeOfItems? (item :: items) = some sizes ↔ ∀ k ∈ item :: items, k.shape? = some sizes := by
  induction items generalizing item with
  | nil => simp [shapeOfItems?]
  | cons next items ih =>
      rw [shapeOfItems?, List.forall_mem_cons, ← ih]
      · by_cases heq : item.shape? = shapeOfItems? (next :: items)
        · rw [if_pos heq, ← heq, and_self_iff]
        · rw [if_neg heq]
          constructor
          · intro h
            simp at h
          · rintro ⟨hitem, hrest⟩
            exact absurd (hitem.trans hrest.symm) heq
      · simp

theorem HasShape.shape?_eq (h : k.HasShape sizes) : k.shape? = some sizes := by
  induction h with
  | number x => rfl
  | empty => rfl
  | nested _ ih => rw [shape?, shapeOfItems?_cons_eq_some_iff.2 ih, Option.map_some, List.length_cons]

mutual

theorem hasShape_of_shape? :
    ∀ (k : Coordinates) (sizes : List Nat), k.shape? = some sizes → k.HasShape sizes
  | .number x, sizes, h => by
      cases h
      exact .number x
  | .nested [], sizes, h => by
      cases h
      exact .empty
  | .nested (item :: items), sizes, h => by
      rcases Option.map_eq_some_iff.1 h with ⟨inner, hinner, rfl⟩
      exact .nested (hasShape_of_mem (item :: items) inner (shapeOfItems?_cons_eq_some_iff.1 hinner))

theorem hasShape_of_mem : ∀ (items : List Coordinates) (sizes : List Nat),
    (∀ k ∈ items, k.shape? = some sizes) → ∀ k ∈ items, k.HasShape sizes
  | [], sizes, _ => by simp
  | item :: items, sizes, h => by
      rw [List.forall_mem_cons] at h ⊢
      exact ⟨hasShape_of_shape? item sizes h.1, hasShape_of_mem items sizes h.2⟩

end

theorem shape?_eq_some_iff : k.shape? = some sizes ↔ k.HasShape sizes :=
  ⟨hasShape_of_shape? k sizes, HasShape.shape?_eq⟩

theorem isArray_iff : k.isArray limit = true ↔ k.IsArray limit := by
  simp only [IsArray, ← shape?_eq_some_iff]
  unfold isArray
  cases k.shape? with
  | none => simp
  | some sizes => simp

instance : Decidable (k.IsArray limit) := decidable_of_iff _ isArray_iff

end Coordinates
end TrackOverlay
