import Mathlib
import ReleaseFeed.Proofs.Capture.Saving

/-! # The capture that comes next

The number of the next capture is found in two places: by who only asks for its path (`next`), and by a
saver.  Both take the number after the highest one, so they agree on a file that is not there as long as
there is such a number (`NextCapture.room`).

The number after the greatest one is the greatest one again, and there the two part.  A saver never
writes to a file that it has not created: it gets the greatest number if only a longer name holds it,
and otherwise it tries that one name until it gives up (`Saver.run_claiming_greatest`).
-/
namespace ReleaseFeed.Capture
open Storage
variable {d d' : Disk} {folder : Path} {place : Place} {buffer : ByteArray}

/-! ## The number after the highest one -/

theorem run_next (h : d.Serves folder place) :
    (next folder).run d = (.ok (.entry folder (nextName (d.children place))), d.tick) := by
  rw [next, StateT.run_bind, run_last h]
  rfl

/-- Every capture in a folder has a lower number than the next one. -/
theorem number_lt_next {names : List String} {name : String} {number : UInt32}
    (hroom : (lastNumber names).toNat + 1 < UInt32.size) (hmem : name ∈ names)
    (hnumber : number? name = some number) : number < numberAfter (lastNumber names) :=
  UInt32.lt_of_le_of_lt (le_lastNumber hmem hnumber) (lt_numberAfter hroom)

/-! ## When there is no number left -/

theorem numberAfter_greatest {number : UInt32} (h : ¬ number.toNat + 1 < UInt32.size) :
    numberAfter number = number := by
  rw [numberAfter, if_neg h]

theorem nextName_greatest {names : List String}
    (h : ¬ (lastNumber names).toNat + 1 < UInt32.size) :
    nextName names = nameOf (lastNumber names) := by
  rw [nextName, numberAfter_greatest h]

theorem exists_get?_of_mem {name : String} (h : name ∈ d.children place) :
    ∃ node, d.get? (name :: place) = some node := by
  obtain ⟨node, hmem⟩ := Disk.mem_children_iff.mp h
  rw [Disk.get?_of_ne_nil d (List.cons_ne_nil _ _)]
  refine Option.isSome_iff_exists.mp (Option.isSome_iff_ne_none.mpr fun hnone => ?_)
  rw [List.lookup_eq_none_iff] at hnone
  have hne := hnone _ hmem
  rw [bne_self_eq_false] at hne
  cases hne

/-- A saver that has come to the greatest number tries it again and again, and leaves the disk as it
is. -/
theorem Saver.run_claiming_greatest {s : Saver} {number : UInt32} {more n : Nat} {node : Node}
    (h : d.Serves s.folder place) (hphase : s.phase = .claiming number more)
    (hgreatest : ¬ number.toNat + 1 < UInt32.size)
    (hnode : d.get? (nameOf number :: place) = some node) (hn : more < n) :
    ∃ d', (run n s).run d = (s.fail (.noFreeNumber s.folder), d') ∧ d.Same d' := by
  obtain ⟨n, rfl⟩ := Nat.exists_eq_succ_of_ne_zero (Nat.ne_of_gt (Nat.zero_lt_of_lt hn))
  induction more generalizing s d n with
  | zero =>
    refine ⟨d.tick, ?_, Disk.same_tick d⟩
    rw [run_succ, step_claiming_last h hphase hnode, run_of_done rfl]
  | succ more ih =>
    obtain ⟨n, rfl⟩ := Nat.exists_eq_succ_of_ne_zero (Nat.ne_of_gt (by omega : 0 < n))
    have hnode' : d.tick.get? (nameOf number :: place) = some node := by
      rw [Disk.get?_tick, hnode]
    obtain ⟨d', hrun, hsame⟩ := ih (s := s.goTo (.claiming number more)) h.tick rfl hnode' n
      (by omega)
    refine ⟨d', ?_, (Disk.same_tick d).trans hsame⟩
    rw [run_succ, step_claiming_taken h hphase hnode, numberAfter_greatest hgreatest]
    exact hrun

/-- A save has nothing to claim in its folder when the greatest number is taken there. -/
theorem run_save_greatest {made : Disk} (hbuffer : buffer.isEmpty = false)
    (hmade : (Disk.makeFolders folder).run d = (.ok (), made)) (h : made.Serves folder place)
    (hgreatest : ¬ (lastNumber (made.children place)).toNat + 1 < UInt32.size)
    (hmem : nameOf (lastNumber (made.children place)) ∈ made.children place) :
    ∃ d', (save folder buffer).run d = (.error (.noFreeNumber folder), d') ∧ made.Same d' := by
  obtain ⟨node, hnode⟩ := exists_get?_of_mem hmem
  have hnode' : made.tick.get? (nameOf (lastNumber (made.children place)) :: place) =
      some node := by
    rw [Disk.get?_tick, hnode]
  obtain ⟨d', hrun, hsame⟩ := Saver.run_claiming_greatest (n := Saver.attempts + 1)
    (s := ⟨folder, buffer, .claiming (lastNumber (made.children place)) (Saver.attempts - 1)⟩)
    h.tick rfl hgreatest hnode' (by decide)
  refine ⟨d', ?_, (Disk.same_tick made).trans hsame⟩
  rw [← numberAfter_greatest hgreatest] at hrun
  exact run_save_of_claiming hbuffer hmade h hrun

/-! ## Asking and saving -/

/-- What asking for the next capture of a folder and saving it have to do with each other. -/
structure NextCapture (d : Disk) (folder : Path) (place : Place) (buffer : ByteArray) : Prop where
  /-- As long as there is a number after the highest one, the next path is free, its number is above all
  numbers in the folder, and it is what a save creates and returns. -/
  room : (lastNumber (d.children place)).toNat + 1 < UInt32.size →
    ∃ number d', ((next folder).run d).1 = .ok (.entry folder (nameOf number)) ∧
      nameOf number ∉ d.children place ∧
      (∀ name ∈ d.children place, ∀ taken, number? name = some taken → taken < number) ∧
      (save folder buffer).run d = (.ok (.entry folder (nameOf number)), d') ∧
      Gained d d' place [(nameOf number, buffer)]
  /-- A save gets the greatest number if only another name holds it. -/
  greatest : (lastNumber (d.children place)).toNat + 1 = UInt32.size →
    nameOf (lastNumber (d.children place)) ∉ d.children place →
    ∃ d', (save folder buffer).run d =
        (.ok (.entry folder (nameOf (lastNumber (d.children place)))), d') ∧
      Gained d d' place [(nameOf (lastNumber (d.children place)), buffer)]
  /-- When its name is taken, too, a save fails and leaves the disk as it is. -/
  full : (lastNumber (d.children place)).toNat + 1 = UInt32.size →
    nameOf (lastNumber (d.children place)) ∈ d.children place →
    ∃ d', (save folder buffer).run d = (.error (.noFreeNumber folder), d') ∧ d.Same d'

/-- **The next capture**, whatever is in a folder that can be worked in. -/
theorem nextCapture (h : d.Serves folder place) (hbuffer : buffer.isEmpty = false) :
    NextCapture d folder place buffer where
  room hroom := by
    have hfree := get?_nextName hroom
    refine ⟨numberAfter (lastNumber (d.children place)), saved d place buffer, ?_,
      nextName_notMem hroom, fun name hmem taken hnumber => number_lt_next hroom hmem hnumber,
      run_save hfree h hbuffer, gained_saved hfree buffer⟩
    rw [run_next h]
    rfl
  greatest hsize hnotMem := by
    have hgreatest : ¬ (lastNumber (d.children place)).toNat + 1 < UInt32.size := by omega
    rw [← nextName_greatest hgreatest] at hnotMem ⊢
    have hfree := Disk.get?_eq_none hnotMem
    exact ⟨saved d place buffer, run_save hfree h hbuffer, gained_saved hfree buffer⟩
  full hsize hmem := by
    obtain ⟨d', hrun, hsame⟩ :=
      run_save_greatest hbuffer h.run_makeFolders h.tick (by rw [Disk.children_tick]; omega) hmem
    exact ⟨d', hrun, (Disk.same_tick d).trans hsame⟩

/-- A folder with several captures and other files in it. -/
def severalCaptures : Disk :=
  { nodes := Disk.foldersTo ["feed"] ++
      ["fb_000007.bin", "fb_000000000012.bin", "fb_99.bin", "notes.txt"].map fun name =>
        ([name, "feed"], .file ⟨#[0]⟩) }

/-- The highest number counts, however it is written. -/
theorem nextCapture_padded : severalCaptures.Serves (.given "feed") ["feed"] ∧
    ((next (.given "feed")).run severalCaptures).1 =
      .ok (.entry (.given "feed") "fb_000013.bin") ∧
    NextCapture severalCaptures (.given "feed") ["feed"] ⟨#[1]⟩ := by
  have hserves : severalCaptures.Serves (.given "feed") ["feed"] := ⟨by cbv, rfl, fun _ => rfl⟩
  refine ⟨hserves, ?_, nextCapture hserves rfl⟩
  rw [run_next hserves]
  decide +kernel

/-- A folder in which the greatest number is taken. -/
def greatestTaken : Disk :=
  { nodes := Disk.foldersTo ["feed"] ++ [(["fb_4294967295.bin", "feed"], .file ⟨#[0]⟩)] }

/-- There what is said to come next is taken, and a save fails. -/
theorem next_greatestTaken : greatestTaken.Serves (.given "feed") ["feed"] ∧
    ((next (.given "feed")).run greatestTaken).1 =
      .ok (.entry (.given "feed") "fb_4294967295.bin") ∧
    "fb_4294967295.bin" ∈ greatestTaken.children ["feed"] ∧
    ((save (.given "feed") ⟨#[1]⟩).run greatestTaken).1 =
      .error (.noFreeNumber (.given "feed")) := by
  have hserves : greatestTaken.Serves (.given "feed") ["feed"] := ⟨by cbv, rfl, fun _ => rfl⟩
  have hlast : lastNumber (greatestTaken.children ["feed"]) = 4294967295 := by decide +kernel
  have hmem : nameOf (lastNumber (greatestTaken.children ["feed"])) ∈
      greatestTaken.children ["feed"] := by
    decide +kernel
  have hgreatest : ¬ (lastNumber (greatestTaken.children ["feed"])).toNat + 1 < UInt32.size := by
    rw [hlast]
    decide
  have hbuffer : (⟨#[1]⟩ : ByteArray).isEmpty = false := rfl
  obtain ⟨d', hrun, -⟩ :=
    run_save_greatest hbuffer hserves.run_makeFolders hserves.tick hgreatest hmem
  refine ⟨hserves, ?_, by decide, ?_⟩
  · rw [run_next hserves]
    decide +kernel
  · rw [hrun]

end ReleaseFeed.Capture
