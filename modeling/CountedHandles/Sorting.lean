/-!
# Sorting

Listings appear in a fixed order that does not depend on how their entries are kept. Insertion
keeps a list in order, and sorting inserts one entry after the other.
-/

namespace CountedHandles.Sorting

/-- Puts a value in front of the first one that does not have to precede it. -/
def insert (precedes : α → α → Bool) (value : α) : List α → List α
  | [] => [value]
  | head :: rest =>
    if precedes value head then value :: head :: rest else head :: insert precedes value rest

/-- The values of a list in order. -/
def sort (precedes : α → α → Bool) (values : List α) : List α :=
  values.foldr (insert precedes) []

/-- Insertion adds one value and loses none. -/
theorem insert_perm (precedes : α → α → Bool) (value : α) (values : List α) :
    (insert precedes value values).Perm (value :: values) := by
  induction values with
  | nil => exact List.Perm.refl _
  | cons head rest ih =>
    rw [insert]
    split
    · exact List.Perm.refl _
    · exact (ih.cons head).trans (List.Perm.swap value head rest)

/-- Sorting loses no value and adds none. -/
theorem sort_perm (precedes : α → α → Bool) (values : List α) :
    (sort precedes values).Perm values := by
  induction values with
  | nil => exact List.Perm.refl _
  | cons value rest ih => exact (insert_perm precedes value _).trans (ih.cons value)

/-- Insertion keeps a list in order, if the order is total and transitive. -/
theorem pairwise_insert {precedes : α → α → Bool}
    (htotal : ∀ a b, precedes a b = true ∨ precedes b a = true)
    (htrans : ∀ a b c, precedes a b = true → precedes b c = true → precedes a c = true)
    (value : α) {values : List α} (hvalues : values.Pairwise (precedes · ·)) :
    (insert precedes value values).Pairwise (precedes · ·) := by
  induction values with
  | nil => simp [insert]
  | cons head rest ih =>
    have hrest := List.pairwise_cons.mp hvalues
    rw [insert]
    split
    · rename_i hvalue
      refine List.pairwise_cons.mpr ⟨fun other hother => ?_, hvalues⟩
      rcases List.mem_cons.mp hother with rfl | hmem
      · exact hvalue
      · exact htrans _ _ _ hvalue (hrest.1 other hmem)
    · rename_i hvalue
      refine List.pairwise_cons.mpr ⟨fun other hother => ?_, ih hrest.2⟩
      rcases List.mem_cons.mp ((insert_perm precedes value rest).mem_iff.mp hother) with rfl | hmem
      · exact (htotal other head).resolve_left hvalue
      · exact hrest.1 other hmem

/-- Sorting puts a list in order, if the order is total and transitive. -/
theorem pairwise_sort {precedes : α → α → Bool}
    (htotal : ∀ a b, precedes a b = true ∨ precedes b a = true)
    (htrans : ∀ a b c, precedes a b = true → precedes b c = true → precedes a c = true)
    (values : List α) : (sort precedes values).Pairwise (precedes · ·) := by
  induction values with
  | nil => exact List.Pairwise.nil
  | cons value rest ih => exact pairwise_insert htotal htrans value ih

end CountedHandles.Sorting
