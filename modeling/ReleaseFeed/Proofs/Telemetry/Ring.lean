import Mathlib.Data.Nat.ModEq
import ReleaseFeed.Telemetry.Ring

/-! # A ring is a bounded queue

Where the elements of a ring sit depends on its head, and the head goes round.  Through
`Ring.toList`, which starts at the head, none of this is seen: a push that finds room
adds at the end (`push_of_room`), and a pop takes from the front (`toList_of_pop?`).
-/
namespace ReleaseFeed.Telemetry.Ring
variable {α : Type} {r r' : Ring α} {a : α}

theorem isFull_eq_false_iff (hle : r.count ≤ r.capacity) :
    r.isFull = false ↔ r.count < r.capacity := by
  rw [isFull, beq_eq_false_iff_ne]
  omega

/-- A full ring hands the element back. -/
theorem push_of_isFull (h : r.isFull) : r.push a = .error a :=
  if_pos h

/-- The free slot behind the last element is none of the slots in use. -/
theorem slot_ne_free {i : Nat} (hi : i < r.count) (hroom : r.count < r.capacity) :
    (r.head + i) % r.capacity ≠ (r.head + r.count) % r.capacity := by
  intro hsame
  have hmod : i ≡ r.count [MOD r.capacity] := Nat.ModEq.add_left_cancel' r.head hsame
  exact Nat.ne_of_lt hi (Nat.ModEq.eq_of_lt_of_lt hmod (Nat.lt_trans hi hroom) hroom)

variable [Inhabited α]

theorem capacity_ofCapacity (capacity : Nat) :
    (ofCapacity capacity : Ring α).capacity = capacity :=
  Array.size_replicate

theorem length_toList (r : Ring α) : r.toList.length = r.count := by
  rw [toList, List.length_map, List.length_range]

theorem toList_of_isEmpty (h : r.isEmpty) : r.toList = [] := by
  rw [← List.length_eq_zero_iff, length_toList]
  exact beq_iff_eq.mp h

/-- A ring with room takes the element at the end. -/
theorem push_of_room (hroom : r.count < r.capacity) :
    ∃ r', r.push a = .ok r' ∧ r'.toList = r.toList ++ [a] ∧ r'.count = r.count + 1 ∧
      r'.capacity = r.capacity := by
  have hfull : r.isFull = false := (isFull_eq_false_iff (Nat.le_of_lt hroom)).mpr hroom
  have hfree : (r.head + r.count) % r.capacity < r.slots.size :=
    Nat.mod_lt _ (Nat.zero_lt_of_lt hroom)
  let r' : Ring α :=
    { r with slots := r.slots.setIfInBounds ((r.head + r.count) % r.capacity) a
             count := r.count + 1 }
  have hcapacity : r'.capacity = r.capacity := Array.size_setIfInBounds
  have hlast : r'.nth r.count = a := by
    rw [nth, hcapacity, Array.getD_eq_getD_getElem?, Array.getElem?_setIfInBounds_self_of_lt hfree]
    rfl
  have hkept : ∀ i ∈ List.range r.count, r'.nth i = r.nth i := by
    intro i hi
    have hne := slot_ne_free (List.mem_range.mp hi) hroom
    rw [nth, nth, hcapacity, Array.getD_eq_getD_getElem?, Array.getD_eq_getD_getElem?,
      Array.getElem?_setIfInBounds_ne hne.symm]
  refine ⟨r', if_neg (Bool.eq_false_iff.mp hfull), ?_, rfl, hcapacity⟩
  calc r'.toList = (List.range r.count).map r'.nth ++ [r'.nth r.count] := by
        rw [toList, show r'.count = r.count + 1 from rfl, List.range_succ, List.map_append]
        rfl
    _ = r.toList ++ [a] := by rw [List.map_congr_left hkept, hlast, toList]

/-- What is popped was at the front, and the others stay in order. -/
theorem toList_of_pop? (h : r.pop? = some (a, r')) :
    r.toList = a :: r'.toList ∧ r.count = r'.count + 1 ∧ r'.capacity = r.capacity := by
  obtain ⟨hempty, hpop⟩ := Option.ite_none_left_eq_some.mp h
  have hcount : r.count = r.count - 1 + 1 := by
    have hne : r.count ≠ 0 := by simpa only [isEmpty, beq_iff_eq] using hempty
    omega
  cases hpop
  refine ⟨?_, hcount, rfl⟩
  -- seen from the new head, every element is one place nearer
  have hnext : ∀ i, r.nth (i + 1) =
      ({ r with head := (r.head + 1) % r.capacity, count := r.count - 1 } : Ring α).nth i := by
    intro i
    show r.slots.getD _ _ = r.slots.getD (((r.head + 1) % r.capacity + i) % r.capacity) _
    rw [Nat.mod_add_mod, Nat.add_assoc, Nat.add_comm 1 i]
  rw [toList, hcount, List.range_succ_eq_map, List.map_cons, List.map_map]
  exact congrArg (r.nth 0 :: ·) (List.map_congr_left fun i _ => hnext i)

end ReleaseFeed.Telemetry.Ring
