import GridPuzzle.Location
import GridPuzzle.Proofs.ValueSet

/-!
# Locations and their neighbors

A location is written as a pair of numbers. `Location.IsNear` says which locations the operations
`neighbors` and `sideNeighbors` return for one; by `isNear_iff` these are the listed neighbors, and the
relation is symmetric.
-/

namespace GridPuzzle

namespace Location

/-! ## Locations as values -/

theorem plain_toValue (l : Location) : Value.Plain l.toValue :=
  .location l.1 l.2

theorem toValue_injective {k l : Location} (h : k.toValue = l.toValue) : k = l := by
  obtain ⟨i, j⟩ := k
  obtain ⟨i', j'⟩ := l
  simpa [toValue, Value.location, Value.pair] using h

theorem mem_setOf_toValue {ls : List Location} {l : Location} :
    l.toValue ∈ Value.setOf (ls.map toValue) ↔ l ∈ ls := by
  have plain : ∀ v ∈ ls.map toValue, Value.Plain v := by
    intro v hv
    obtain ⟨k, -, rfl⟩ := List.mem_map.mp hv
    exact plain_toValue k
  rw [(Value.isSetOf_setOf plain).mem_iff]
  constructor
  · intro h
    obtain ⟨k, hk, heq⟩ := List.mem_map.mp h
    rwa [← toValue_injective heq]
  · exact List.mem_map_of_mem

/-! ## Neighbors -/

/-- The location `l` is a neighbor of `k`, as the operations on locations say. -/
def IsNear (acrossCorners : Bool) (k l : Location) : Prop :=
  ∃ near, (if acrossCorners then neighbors k.toValue else sideNeighbors k.toValue) = .ok near ∧
    l.toValue ∈ near

theorem sideNeighbors_toValue (l : Location) :
    sideNeighbors l.toValue = .ok (.setOf (l.beside.map toValue)) :=
  rfl

theorem isNear_iff {acrossCorners : Bool} {k l : Location} :
    IsNear acrossCorners k l ↔ l ∈ if acrossCorners then k.around else k.beside := by
  unfold IsNear
  cases acrossCorners with
  | false =>
      simp only [sideNeighbors_toValue, Bool.false_eq_true, if_false, Except.ok.injEq,
        exists_eq_left', mem_setOf_toValue]
  | true =>
      have plain : ∀ v ∈ Value.canonical (k.beside.map toValue) ++
          Value.canonical (k.diagonal.map toValue), Value.Plain v := by
        intro v hv
        rcases List.mem_append.mp hv with hv | hv <;>
          obtain ⟨m, -, rfl⟩ := List.mem_map.mp (Value.mem_of_mem_canonical hv) <;>
          exact plain_toValue m
      have eq : neighbors k.toValue = .ok (.setOf (Value.canonical (k.beside.map toValue) ++
          Value.canonical (k.diagonal.map toValue))) := rfl
      simp only [eq, if_true, Except.ok.injEq, exists_eq_left',
        (Value.isSetOf_setOf plain).mem_iff, List.mem_append, around]
      exact or_congr mem_setOf_toValue mem_setOf_toValue

/-- The side neighbors are the locations at distance one. -/
theorem mem_beside_iff {k l : Location} :
    l ∈ k.beside ↔ (k.1 - l.1).natAbs + (k.2 - l.2).natAbs = 1 := by
  obtain ⟨i, j⟩ := k
  obtain ⟨i', j'⟩ := l
  simp only [beside, List.mem_cons, Prod.mk.injEq, List.not_mem_nil, or_false]
  omega

/-- The corner neighbors are one row and one column away. -/
theorem mem_diagonal_iff {k l : Location} :
    l ∈ k.diagonal ↔ (k.1 - l.1).natAbs = 1 ∧ (k.2 - l.2).natAbs = 1 := by
  obtain ⟨i, j⟩ := k
  obtain ⟨i', j'⟩ := l
  simp only [diagonal, List.mem_cons, Prod.mk.injEq, List.not_mem_nil, or_false]
  omega

theorem beside_comm {k l : Location} : l ∈ k.beside ↔ k ∈ l.beside := by
  rw [mem_beside_iff, mem_beside_iff]
  omega

theorem diagonal_comm {k l : Location} : l ∈ k.diagonal ↔ k ∈ l.diagonal := by
  rw [mem_diagonal_iff, mem_diagonal_iff]
  omega

theorem IsNear.symm {acrossCorners : Bool} {k l : Location} (h : IsNear acrossCorners k l) :
    IsNear acrossCorners l k := by
  rw [isNear_iff] at h ⊢
  cases acrossCorners with
  | false => exact beside_comm.mp h
  | true =>
      rcases List.mem_append.mp h with h | h
      · exact List.mem_append_left _ (beside_comm.mp h)
      · exact List.mem_append_right _ (diagonal_comm.mp h)

theorem not_isNear_self (acrossCorners : Bool) (l : Location) : ¬ IsNear acrossCorners l l := by
  rw [isNear_iff]
  cases acrossCorners with
  | false => simp [mem_beside_iff]
  | true => simp [around, mem_beside_iff, mem_diagonal_iff]

end Location

end GridPuzzle
