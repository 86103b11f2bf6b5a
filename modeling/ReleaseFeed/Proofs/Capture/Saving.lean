import ReleaseFeed.Capture.Saver
import ReleaseFeed.Proofs.Capture.Name
import ReleaseFeed.Proofs.Storage.Disk

/-! # Saving captures one after another

A saver that nobody disturbs takes four operations (`run_save`): the folder is there, the highest
number in it is found, the name with the next number is free, and the buffer is written to the
file.  So a save adds one file to the folder and touches nothing else (`gained_saved`), and many
saves in a row add one file each, with ascending numbers (`run_saveAll`).
-/
namespace ReleaseFeed.Capture
open Storage
variable {d d' d'' : Disk} {folder : Path} {place : Place} {buffer : ByteArray}

theorem plain_nameOf (number : UInt32) : Disk.Plain (nameOf number) where
  idle := isIdle_nameOf number
  up := nameOf_ne_of_number? (by decide) number
  fits := utf8ByteSize_nameOf_le number

/-! ## Files that are added to a folder -/

/-- All that happens to a disk is that new files come last in one of its folders. -/
structure Gained (d d' : Disk) (place : Place) (files : List (String × ByteArray)) : Prop where
  stays : d.Extends d'
  children : d'.children place = d.children place ++ files.map Prod.fst
  content : ∀ file ∈ files, d'.get? (file.1 :: place) = some (.file file.2)

theorem gained_nil (d : Disk) (place : Place) : Gained d d place [] where
  stays := ⟨rfl, rfl, id⟩
  children := (List.append_nil _).symm
  content := nofun

theorem Gained.trans {files more : List (String × ByteArray)} (h : Gained d d' place files)
    (h' : Gained d' d'' place more) : Gained d d'' place (files ++ more) where
  stays := h.stays.trans h'.stays
  children := by rw [h'.children, h.children, List.map_append, List.append_assoc]
  content file hfile := by
    rcases List.mem_append.mp hfile with hfile | hfile
    · exact h'.stays.kept (h.content file hfile)
    · exact h'.content file hfile

/-! ## One save -/

theorem run_last (h : d.Serves folder place) :
    (last folder).run d = (.ok (lastNumber (d.children place)), d.tick) := by
  rw [last, asked, StateT.run_bind, StateT.run_bind, h.run_names]
  rfl

theorem run_read_eq_ok {path : Path} {content : ByteArray} :
    ((read path).run d).1 = .ok content ↔ ((Disk.read path).run d).1 = .ok content := by
  rw [read, asked, StateT.run_bind]
  rcases (Disk.read path).run d with ⟨result, d'⟩
  cases result with
  | ok found =>
    show (.ok found : Except Error ByteArray) = .ok content ↔ _
    rw [Except.ok.injEq, Except.ok.injEq]
  | error fault =>
    constructor
    · intro h
      cases h
    · intro h
      cases h

namespace Saver
variable {s : Saver}

theorem run_succ (n : Nat) (s : Saver) (d : Disk) :
    (run (n + 1) s).run d = (run n (s.step.run d).1).run (s.step.run d).2 :=
  rfl

theorem step_opening (hphase : s.phase = .opening)
    (hmade : (Disk.makeFolders s.folder).run d = (.ok (), d')) :
    s.step.run d = (s.goTo .scanning, d') := by
  rw [step, hphase, StateT.run_bind, hmade]
  rfl

theorem step_opening_failed {fault : Fault} (hphase : s.phase = .opening)
    (hmade : (Disk.makeFolders s.folder).run d = (.error fault, d')) :
    s.step.run d = (s.fail (.storage s.folder fault), d') := by
  rw [step, hphase, StateT.run_bind, hmade]
  rfl

theorem step_done {result : Except Error Path} (hphase : s.phase = .done result) :
    s.step.run d = (s, d) := by
  rw [step, hphase]
  rfl

theorem run_of_done {result : Except Error Path} (h : s.phase = .done result) (n : Nat) (d : Disk) :
    (run n s).run d = (s, d) := by
  induction n with
  | zero => rfl
  | succ n ih =>
    rw [run_succ, step_done h, ih]

section Step
variable (h : d.Serves s.folder place)
include h

theorem step_scanning (hphase : s.phase = .scanning) : s.step.run d =
    (s.goTo (.claiming (numberAfter (lastNumber (d.children place))) (attempts - 1)), d.tick) := by
  rw [step, hphase, StateT.run_bind, run_last h]
  rfl

theorem step_claiming {number : UInt32} {more : Nat} (hphase : s.phase = .claiming number more)
    (hfree : d.get? (nameOf number :: place) = none) :
    s.step.run d = (s.goTo (.writing (.entry s.folder (nameOf number))),
      d.tick.put (nameOf number :: place) (.file .empty)) := by
  rw [step, hphase, StateT.run_bind, h.run_create (plain_nameOf number) hfree]
  rfl

/-- A number that is taken is passed over. -/
theorem step_claiming_taken {number : UInt32} {more : Nat} {node : Node}
    (hphase : s.phase = .claiming number (more + 1))
    (hnode : d.get? (nameOf number :: place) = some node) :
    s.step.run d = (s.goTo (.claiming (numberAfter number) more), d.tick) := by
  rw [step, hphase, StateT.run_bind, h.run_create_taken (plain_nameOf number) hnode]
  rfl

/-- When the last number that may be tried is taken, the saver gives up. -/
theorem step_claiming_last {number : UInt32} {node : Node}
    (hphase : s.phase = .claiming number 0)
    (hnode : d.get? (nameOf number :: place) = some node) :
    s.step.run d = (s.fail (.noFreeNumber s.folder), d.tick) := by
  rw [step, hphase, StateT.run_bind, h.run_create_taken (plain_nameOf number) hnode]
  rfl

theorem step_writing {number : UInt32} {content : ByteArray}
    (hphase : s.phase = .writing (.entry s.folder (nameOf number)))
    (hfile : d.get? (nameOf number :: place) = some (.file content)) :
    s.step.run d = (s.goTo (.done (.ok (.entry s.folder (nameOf number)))),
      d.tick.put (nameOf number :: place) (.file (content ++ s.buffer))) := by
  rw [step, hphase, StateT.run_bind, h.run_append (plain_nameOf number) s.buffer hfile]
  rfl

end Step

end Saver

/-- The disk after a save that nobody disturbs; it has taken four operations. -/
def saved (d : Disk) (place : Place) (buffer : ByteArray) : Disk :=
  let new := nextName (d.children place) :: place
  (d.tick.tick.tick.put new (.file .empty)).tick.put new (.file (.empty ++ buffer))

theorem get?_nextName (hroom : (lastNumber (d.children place)).toNat + 1 < UInt32.size) :
    d.get? (nextName (d.children place) :: place) = none :=
  Disk.get?_eq_none (nextName_notMem hroom)

/-- A saver whose folder has been made comes to the number after the highest one, and a save is what comes
of it then. -/
theorem run_save_of_claiming {s : Saver} (hbuffer : buffer.isEmpty = false)
    (hmade : (Disk.makeFolders folder).run d = (.ok (), d')) (h : d'.Serves folder place)
    (hrun : (Saver.run (Saver.attempts + 1) ⟨folder, buffer,
      .claiming (numberAfter (lastNumber (d'.children place))) (Saver.attempts - 1)⟩).run d'.tick =
        (s, d'')) :
    (save folder buffer).run d = (s.result?.getD (.error (.noFreeNumber folder)), d'') := by
  have hstart : Saver.start folder buffer = ⟨folder, buffer, .opening⟩ := by
    rw [Saver.start, hbuffer]
    rfl
  rw [save, StateT.run_bind, hstart, show Saver.enough = Saver.attempts + 1 + 1 + 1 from rfl,
    Saver.run_succ, Saver.step_opening rfl hmade, Saver.run_succ, Saver.step_scanning h rfl]
  show ((Saver.run (Saver.attempts + 1) ⟨folder, buffer,
    .claiming (numberAfter (lastNumber (d'.children place))) (Saver.attempts - 1)⟩).run d'.tick >>=
      fun p => _) = _
  rw [hrun]
  rfl

section Save
variable (hfree : d.get? (nextName (d.children place) :: place) = none)
include hfree

theorem run_save (h : d.Serves folder place) (hbuffer : buffer.isEmpty = false) :
    (save folder buffer).run d =
      (.ok (.entry folder (nextName (d.children place))), saved d place buffer) := by
  have hfree' : d.tick.tick.get? (nextName (d.children place) :: place) = none := by
    rw [Disk.get?_tick, Disk.get?_tick, hfree]
  have hfree'' : d.tick.tick.tick.get? (nextName (d.children place) :: place) = none :=
    (Disk.get?_tick _ _).trans hfree'
  have hcreated := h.tick.tick.tick.of_extends (Disk.extends_put hfree'' (.file .empty))
  -- the saver is done after two operations more, and what is left of them does nothing
  refine run_save_of_claiming hbuffer h.run_makeFolders h.tick
    (s := ⟨folder, buffer, .done (.ok _)⟩) ?_
  rw [show Saver.attempts + 1 = Saver.attempts - 1 + 1 + 1 from rfl, Saver.run_succ,
    Saver.step_claiming h.tick.tick rfl hfree', Saver.run_succ,
    Saver.step_writing hcreated rfl (Disk.get?_put_self _ _ (List.cons_ne_nil _ _)),
    Saver.run_of_done rfl]
  rfl

/-- A save adds one file, and that is all. -/
theorem gained_saved (buffer : ByteArray) :
    Gained d (saved d place buffer) place [(nextName (d.children place), buffer)] := by
  have hne : nextName (d.children place) :: place ≠ [] := List.cons_ne_nil _ _
  have hcreated := Disk.get?_put_self d.tick.tick.tick (.file .empty) hne
  refine ⟨⟨rfl, rfl, ?_⟩, ?_, ?_⟩
  · intro other node hnode
    have hother := Disk.ne_of_get?_eq_none hfree hnode
    simp only [saved, Disk.get?_put_of_ne _ _ hother, Disk.get?_tick, hnode]
  · rw [saved, Disk.children_put_of_some ((Disk.get?_tick _ _).trans hcreated), Disk.children_tick,
      Disk.children_put_of_none (by simp only [Disk.get?_tick, hfree])]
    rfl
  · intro file hfile
    rw [List.mem_singleton] at hfile
    subst hfile
    rw [saved, Disk.get?_put_self _ _ hne, ByteArray.empty_append]

end Save

/-! ## Many saves -/

/-- Saves buffers one after another. -/
def saveAll (folder : Path) (buffers : List ByteArray) : StateM Disk (List (Except Error Path)) :=
  buffers.mapM (save folder)

theorem run_saveAll_cons (folder : Path) (buffer : ByteArray) (rest : List ByteArray) (d : Disk) :
    (saveAll folder (buffer :: rest)).run d =
      let (result, d') := (save folder buffer).run d
      let (results, d'') := (saveAll folder rest).run d'
      (result :: results, d'') := by
  simp only [saveAll, List.mapM_cons]
  -- what a single save does is of no importance here
  generalize save folder = act
  rfl

/-- Many saves add one file each, in the order of saving and with ascending numbers. -/
theorem run_saveAll {buffers : List ByteArray} (h : d.Serves folder place)
    (hbuffers : ∀ buffer ∈ buffers, buffer.isEmpty = false)
    (hroom : (lastNumber (d.children place)).toNat + buffers.length < UInt32.size) :
    ∃ d', (saveAll folder buffers).run d =
        ((namesAfter (lastNumber (d.children place)).toNat buffers.length).map
          fun name => .ok (.entry folder name), d') ∧
      Gained d d' place
        ((namesAfter (lastNumber (d.children place)).toNat buffers.length).zip buffers) := by
  induction buffers generalizing d with
  | nil => exact ⟨d, rfl, gained_nil d place⟩
  | cons buffer rest ih =>
    rw [List.length_cons] at hroom ⊢
    have hnext : (lastNumber (d.children place)).toNat + 1 < UInt32.size := by omega
    have hsave := run_save (get?_nextName hnext) h (hbuffers buffer List.mem_cons_self)
    have hgained : Gained d (saved d place buffer) place [(nextName (d.children place), buffer)] :=
      gained_saved (get?_nextName hnext) buffer
    have hlast := toNat_lastNumber_concat hnext
    have hchildren : (saved d place buffer).children place =
        d.children place ++ [nextName (d.children place)] := hgained.children
    rw [← hchildren] at hlast
    obtain ⟨d', hrun, hrest⟩ := ih (h.of_extends hgained.stays)
      (fun other hother => hbuffers other (List.mem_cons_of_mem _ hother)) (by omega)
    rw [namesAfter_succ, ← nextName_eq hnext]
    rw [hlast] at hrun hrest
    refine ⟨d', ?_, hgained.trans hrest⟩
    rw [run_saveAll_cons, hsave]
    dsimp only
    rw [hrun]
    rfl

end ReleaseFeed.Capture
