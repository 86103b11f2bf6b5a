import Mathlib
import ReleaseFeed.Proofs.Capture.Next
import ReleaseFeed.Proofs.Capture.Order
import ReleaseFeed.Proofs.Capture.Sharing

/-! # What a failed save leaves behind

A save can fail at each of its operations, by itself or because of what it finds.  Up to the operation
that creates a file it has only looked for its folder, and made the folders on the way to it where they were
not there (`Clean`).  After that only the writing can fail, and only on a disk that is troubled: then the
file that was created stays, with the first bytes of the buffer or none, beside the folders that were made
(`Leaves`, `Remains.part`), since nothing takes them away again.

So a save is not all or nothing.  On a disk that works, though, a failed save leaves all files as they
were, and everything else where the folder was there (`Remains.clean`).  Where it was not, some or all of
the folders on the way are there afterwards; with dots in the path one of these can stand in the folder
itself (`save_fails_and_lists_more`).

`Stage` says how far a saver has come on any disk.  One operation keeps it (`Stage.step`), and so does a
whole run.
-/
namespace ReleaseFeed.Capture
open Storage
variable {d d' opened : Disk} {folder : Path} {place : Place} {buffer : ByteArray}

/-! ## What remains -/

/-- Nothing has been added to a disk but folders on the way to one, and none of these where that one was
there. -/
structure Clean (d d' : Disk) (folder : Path) : Prop where
  paves : d.Paves d' folder
  same {place : Place} : d.Reaches folder place → d.Same d'

theorem clean_refl (d : Disk) (folder : Path) : Clean d d folder :=
  ⟨.refl d folder, fun _ => ⟨rfl, rfl, rfl⟩⟩

theorem Clean.tick (h : Clean d d' folder) : Clean d d'.tick folder :=
  ⟨h.paves.trans (Disk.paves_tick d' folder), fun hreaches =>
    (h.same hreaches).trans (Disk.same_tick d')⟩

theorem clean_makeFolders (d : Disk) (folder : Path) :
    Clean d ((Disk.makeFolders folder).run d).2 folder where
  paves := Disk.paves_makeFolders d folder
  same hreaches := by
    rw [hreaches.run_makeFolders]
    exact Disk.same_tick d

/-- A file has been added to a folder, and nothing else is different. -/
structure Adds (d d' : Disk) (place : Place) (name : String) (content : ByteArray) : Prop where
  leads : d.Leads d'
  free : d.get? (name :: place) = none
  file : d'.get? (name :: place) = some (.file content)
  others {other : Place} : other ≠ name :: place → d'.get? other = d.get? other
  children : d'.children place = d.children place ++ [name]

theorem adds_put {name : String} (h : d.get? (name :: place) = none) (content : ByteArray) :
    Adds d (d.tick.put (name :: place) (.file content)) place name content where
  leads := ((Disk.extends_tick d).trans
    (Disk.extends_put ((Disk.get?_tick d _).trans h) (.file content))).leads
  free := h
  file := Disk.get?_put_self _ _ (List.cons_ne_nil _ _)
  others hother := (Disk.get?_put_of_ne _ _ hother).trans (Disk.get?_tick d _)
  children := Disk.children_put_of_none ((Disk.get?_tick d _).trans h) _

theorem Adds.rewrites {name : String} {old content : ByteArray} (h : Adds opened d place name old)
    (hrewrites : d.Rewrites d' (name :: place) content) : Adds opened d' place name content where
  leads := h.leads.trans hrewrites.leads
  free := h.free
  file := hrewrites.file
  others hother := (hrewrites.others hother).trans (h.others hother)
  children := (hrewrites.children place).trans h.children

/-- One file has been added to the folder at a path, and besides it nothing but folders on the way to that
folder. -/
structure Leaves (d d' : Disk) (folder : Path) (place : Place) (name : String) (content : ByteArray) :
    Prop where
  reaches : d'.Reaches folder place
  free : d.get? (name :: place) = none
  file : d'.get? (name :: place) = some (.file content)
  kept {other : Place} {node : Node} : d.get? other = some node → d'.get? other = some node
  way {other : Place} {node : Node} : other ≠ name :: place → d.get? other = none →
    d'.get? other = some node → node = .folder ∧ d'.OnTheWay folder other
  /-- Where the folder was there, the file is all that has been added. -/
  others {before other : Place} : d.Reaches folder before → other ≠ name :: place →
    d'.get? other = d.get? other
  children {before : Place} : d.Reaches folder before →
    d'.children place = d.children place ++ [name]

/-- A file is added once the folders on the way have been made. -/
theorem Clean.leaves {name : String} {content : ByteArray} (h : Clean d opened folder)
    (hreaches : opened.Reaches folder place) (hadds : Adds opened d' place name content) :
    Leaves d d' folder place name content := by
  have hkept {other : Place} {node : Node} (hnode : d.get? other = some node) :
      opened.get? other = some node := h.paves.widens.stays.kept hnode
  have hne {other : Place} {node : Node} (hnode : d.get? other = some node) :
      other ≠ name :: place := Disk.ne_of_get?_eq_none hadds.free (hkept hnode)
  refine ⟨⟨Disk.locate_of_leads hadds.leads hreaches.located, hadds.leads.folder hreaches.isFolder⟩,
    ?_, hadds.file, ?_, ?_, ?_, ?_⟩
  · cases hnode : d.get? (name :: place) with
    | none => rfl
    | some node => exact absurd rfl (hne hnode)
  · exact fun hnode => (hadds.others (hne hnode)).trans (hkept hnode)
  · intro other node hother hfree hnode
    rw [hadds.others hother] at hnode
    cases node with
    | folder => exact ⟨rfl, (h.paves.way hfree hnode).of_leads hadds.leads⟩
    | file content =>
      rw [h.paves.widens.file hnode] at hfree
      cases hfree
  · exact fun hbefore hother => (hadds.others hother).trans ((h.same hbefore).get?_eq _)
  · exact fun hbefore => hadds.children.trans
      (congrArg (· ++ [name]) ((h.same hbefore).children_eq place))

/-- What a save leaves on a disk that fails with an error. -/
inductive Remains (d d' : Disk) (folder : Path) (buffer : ByteArray) (error : Error) : Prop where
  /-- No file. -/
  | nothing (clean : Clean d d' folder)
  /-- The file that it created, with the first part of the buffer, because the writing failed by itself. -/
  | part {place : Place} {number : UInt32} {fault : Fault} {reached : Nat}
      (leaves : Leaves d d' folder place (nameOf number) (buffer.extract 0 reached))
      (failed : error = .storage (.entry folder (nameOf number)) fault)
      (troubled : ∃ n, d.trouble n = some fault)

/-- On a disk that works no file remains. -/
theorem Remains.clean {error : Error} (h : Remains d d' folder buffer error)
    (huntroubled : ∀ n, d.trouble n = none) : Clean d d' folder := by
  cases h with
  | nothing clean => exact clean
  | part _ _ troubled =>
    obtain ⟨n, hn⟩ := troubled
    rw [huntroubled n] at hn
    cases hn

/-! ## One operation -/

/-- How far a saver has come at a phase, and what it has left on the disk by then. -/
inductive Stage (d : Disk) (folder : Path) (buffer : ByteArray) (d' : Disk) : SaverPhase → Prop where
  | opening (same : d' = d) : Stage d folder buffer d' .opening
  | scanning (clean : Clean d d' folder) : Stage d folder buffer d' .scanning
  | claiming {number : UInt32} {more : Nat} (clean : Clean d d' folder) :
    Stage d folder buffer d' (.claiming number more)
  | writing {opened : Disk} {place : Place} {number : UInt32} (clean : Clean d opened folder)
      (reaches : opened.Reaches folder place)
      (adds : Adds opened d' place (nameOf number) .empty) :
    Stage d folder buffer d' (.writing (.entry folder (nameOf number)))
  | saved {path : Path} : Stage d folder buffer d' (.done (.ok path))
  | failed {error : Error} (remains : Remains d d' folder buffer error) :
    Stage d folder buffer d' (.done (.error error))

theorem run_last_snd (d : Disk) (folder : Path) : ((last folder).run d).2 = d.tick := by
  rw [last, asked, StateT.run_bind, StateT.run_bind]
  exact Disk.run_names_snd d folder

/-- An operation of a saver on any disk. -/
theorem Stage.step {s : Saver} (h : Stage d s.folder s.buffer d' s.phase) :
    Stage d s.folder s.buffer (s.step.run d').2 (s.step.run d').1.phase := by
  generalize hphase : s.phase = phase at h
  cases h with
  | opening same =>
    subst same
    have hclean := clean_makeFolders d' s.folder
    rcases hrun : (Disk.makeFolders s.folder).run d' with ⟨fault | _, made⟩
    · rw [hrun] at hclean
      rw [Saver.step_opening_failed hphase hrun]
      exact .failed (.nothing hclean)
    · rw [hrun] at hclean
      rw [Saver.step_opening hphase hrun]
      exact .scanning hclean
  | scanning clean =>
    have hdisk := run_last_snd d' s.folder
    rw [Saver.step, hphase, StateT.run_bind]
    rcases hrun : (last s.folder).run d' with ⟨error | number, looked⟩
    · rw [hrun] at hdisk
      subst hdisk
      exact .failed (.nothing clean.tick)
    · rw [hrun] at hdisk
      subst hdisk
      exact .claiming clean.tick
  | @claiming number more clean =>
    rw [Saver.step, hphase, StateT.run_bind]
    rcases Disk.run_create_cases d' (.entry s.folder (nameOf number)) with
      ⟨created, hrun, hlocate, hfree⟩ | ⟨fault, hrun⟩
    · obtain ⟨above, habove, hfolder, rfl⟩ :=
        (Disk.locateFile_entry_eq_ok (plain_nameOf number)).mp hlocate
      rw [hrun]
      exact .writing clean ⟨habove, hfolder⟩ (adds_put hfree .empty)
    · rw [hrun]
      cases fault with
      | alreadyThere =>
        cases more with
        | zero => exact .failed (.nothing clean.tick)
        | succ more => exact .claiming clean.tick
      | notFound | notFolder | isFolder | nameTooLong | zeroInName | noRoom | denied =>
        exact .failed (.nothing clean.tick)
  | @writing opened place number clean reaches adds =>
    have hleads := adds.leads
    have hlocate := (Disk.locateFile_entry_eq_ok (plain_nameOf number)).mpr
      ⟨place, Disk.locate_of_leads hleads reaches.located, hleads.folder reaches.isFolder, rfl⟩
    rw [Saver.step, hphase, StateT.run_bind]
    rcases Disk.run_append_cases hlocate adds.file s.buffer with
      ⟨_, hrun⟩ | ⟨fault, left, reached, hrun, htrouble, hrewrites⟩
    · rw [hrun]
      exact .saved
    · rw [hleads.trouble, clean.paves.widens.stays.trouble] at htrouble
      rw [ByteArray.empty_append] at hrewrites
      rw [hrun]
      exact .failed (.part (clean.leaves reaches (adds.rewrites hrewrites)) rfl ⟨_, htrouble⟩)
  | saved =>
    rw [Saver.step_done hphase, hphase]
    exact .saved
  | failed remains =>
    rw [Saver.step_done hphase, hphase]
    exact .failed remains

/-! ## Whole saves -/

theorem Stage.run {s : Saver} (n : Nat) (h : Stage d s.folder s.buffer d' s.phase) :
    Stage d s.folder s.buffer ((Saver.run n s).run d').2 ((Saver.run n s).run d').1.phase := by
  induction n generalizing s d' with
  | zero => exact h
  | succ n ih =>
    obtain ⟨phase, hstep, -⟩ := Saver.exists_step_eq_goTo s d'
    have hnext := h.step
    rw [Saver.run_succ]
    rw [hstep] at hnext ⊢
    exact ih (s := s.goTo phase) hnext

/-- Given as many operations as it needs, a saver is done on any disk. -/
theorem Saver.exists_done_run {s : Saver} {n : Nat} (h : operationsLeft s.phase ≤ n) (d : Disk) :
    ∃ result, ((run n s).run d).1.phase = .done result := by
  induction n generalizing s d with
  | zero =>
    show ∃ result, s.phase = .done result
    cases hphase : s.phase with
    | done result => exact ⟨result, rfl⟩
    | opening | scanning | claiming | writing =>
      rw [hphase] at h
      cases h
  | succ n ih =>
    obtain ⟨phase, hstep, hleft⟩ := exists_step_eq_goTo s d
    rw [run_succ, hstep]
    exact ih (by show operationsLeft phase ≤ n; omega) _

theorem stage_start (d : Disk) (folder : Path) (buffer : ByteArray) :
    Stage d (Saver.start folder buffer).folder (Saver.start folder buffer).buffer d
      (Saver.start folder buffer).phase := by
  rw [Saver.start]
  by_cases hempty : buffer.isEmpty = true
  · rw [if_pos hempty]
    exact .failed (.nothing (clean_refl d folder))
  · rw [if_neg hempty]
    exact .opening rfl

/-- **What a failed save leaves behind**, whatever it fails from: folders on the way to its own that were
not there, and the file that it has created if it could not be written. -/
theorem remains_of_save {error : Error} (h : (save folder buffer).run d = (.error error, d')) :
    Remains d d' folder buffer error ∧ ((∀ n, d.trouble n = none) → Clean d d' folder) := by
  obtain ⟨result, hdone⟩ := Saver.exists_done_run (Crew.operationsLeft_start folder buffer) d
  have hstage : Stage d folder buffer _ _ := (stage_start d folder buffer).run Saver.enough
  rcases hrun : (Saver.run Saver.enough (Saver.start folder buffer)).run d with ⟨saver, left⟩
  rw [hrun] at hdone hstage
  rw [save, StateT.run_bind, hrun] at h
  change (saver.result?.getD (.error (.noFreeNumber folder)), left) = (.error error, d') at h
  rw [Saver.result?, hdone, Option.getD_some, Prod.mk.injEq] at h
  obtain ⟨rfl, rfl⟩ := h
  rw [hdone] at hstage
  cases hstage with
  | failed remains => exact ⟨remains, remains.clean⟩

/-! ## Two saves that leave something -/

/-- A disk whose fourth operation finds no more room after two bytes. -/
def cramped : Disk where
  trouble n := if n = 3 then some .noRoom else none
  torn n := if n = 3 then some 2 else none

/-- What a save that fails there leaves. -/
def halfSaved : Disk :=
  (cramped.tick.tick.tick.put ["fb_000001.bin"] (.file .empty)).tick.put
    ["fb_000001.bin"] (.file ⟨#[1, 2]⟩)

theorem run_save_cramped : (save (.given ".") ⟨#[1, 2, 3]⟩).run cramped =
    (.error (.storage (.entry (.given ".") "fb_000001.bin") .noRoom), halfSaved) := by
  have hopened : (Saver.step ⟨.given ".", ⟨#[1, 2, 3]⟩, .opening⟩).run cramped =
      (⟨.given ".", ⟨#[1, 2, 3]⟩, .scanning⟩, cramped.tick) := by cbv
  have hscanned : (Saver.step ⟨.given ".", ⟨#[1, 2, 3]⟩, .scanning⟩).run cramped.tick =
      (⟨.given ".", ⟨#[1, 2, 3]⟩, .claiming 1 (Saver.attempts - 1)⟩, cramped.tick.tick) := by cbv
  have hclaimed : (Saver.step
      ⟨.given ".", ⟨#[1, 2, 3]⟩, .claiming 1 (Saver.attempts - 1)⟩).run cramped.tick.tick =
        (⟨.given ".", ⟨#[1, 2, 3]⟩, .writing (.entry (.given ".") "fb_000001.bin")⟩,
          cramped.tick.tick.tick.put ["fb_000001.bin"] (.file .empty)) := by cbv
  have hfailed : (Saver.step
      ⟨.given ".", ⟨#[1, 2, 3]⟩, .writing (.entry (.given ".") "fb_000001.bin")⟩).run
      (cramped.tick.tick.tick.put ["fb_000001.bin"] (.file .empty)) =
        (⟨.given ".", ⟨#[1, 2, 3]⟩,
          .done (.error (.storage (.entry (.given ".") "fb_000001.bin") .noRoom))⟩,
          halfSaved) := by cbv
  have hstart : Saver.start (.given ".") ⟨#[1, 2, 3]⟩ =
      ⟨.given ".", ⟨#[1, 2, 3]⟩, .opening⟩ := rfl
  rw [save, StateT.run_bind, hstart,
    show Saver.enough = Saver.attempts - 1 + 1 + 1 + 1 + 1 from rfl, Saver.run_succ, hopened,
    Saver.run_succ, hscanned, Saver.run_succ, hclaimed, Saver.run_succ, hfailed,
    Saver.run_of_done rfl]
  rfl

/-- A capture of two bytes out of three is there after a save that has failed. -/
theorem remains_cramped :
    (save (.given ".") ⟨#[1, 2, 3]⟩).run cramped =
      (.error (.storage (.entry (.given ".") "fb_000001.bin") .noRoom), halfSaved) ∧
    cramped.children [] = [] ∧ halfSaved.children [] = ["fb_000001.bin"] ∧
    halfSaved.get? ["fb_000001.bin"] = some (.file ⟨#[1, 2]⟩) ∧
    Remains cramped halfSaved (.given ".") ⟨#[1, 2, 3]⟩
      (.storage (.entry (.given ".") "fb_000001.bin") .noRoom) :=
  ⟨run_save_cramped, by decide, by decide, rfl, (remains_of_save run_save_cramped).1⟩

/-- A path to the folder that one is in, by way of a folder that is not there. -/
def roundabout : Path :=
  .entry (.entry (.given ".") "fb_4294967295.bin") ".."

/-- The folder on the way has been made. -/
def detoured : Disk :=
  (Disk.ofHome ["feed"]).tick.put ["fb_4294967295.bin", "feed"] .folder

theorem start_roundabout (d : Disk) : d.start roundabout = .ok d.home := by
  cbv

theorem names_roundabout : roundabout.names = ["..", "fb_4294967295.bin", "."] := by
  cbv

theorem run_makeFolders_roundabout :
    (Disk.makeFolders roundabout).run (Disk.ofHome ["feed"]) = (.ok (), detoured) := by
  have hstart : (Disk.ofHome ["feed"]).tick.start roundabout = .ok ["feed"] := start_roundabout _
  have hmissing : (Disk.ofHome ["feed"]).tick.withFolder ["feed"]
      ["..", "fb_4294967295.bin", "."] = .error .notFound := rfl
  have hmade : (Disk.ofHome ["feed"]).tick.withFolder ["feed"] ["fb_4294967295.bin", "."] =
      .ok detoured := rfl
  have hthere : detoured.withFolder ["feed"] ["..", "fb_4294967295.bin", "."] = .ok detoured := rfl
  have houter : outerNames ["..", "fb_4294967295.bin", "."] = ["fb_4294967295.bin", "."] := by
    decide
  have houters : (Disk.ofHome ["feed"]).tick.withFolders ["feed"] ["fb_4294967295.bin", "."] =
      (.ok (), detoured) := by
    rw [Disk.withFolders, hmade]
  rw [Disk.makeFolders, Disk.run_attempt_of_calm rfl, Disk.madeFolders, hstart, names_roundabout]
  dsimp only
  rw [Disk.withFolders, hmissing, houter]
  simp only [houters, hthere]
  rfl

theorem serves_detoured : detoured.Serves roundabout ["feed"] := by
  refine ⟨?_, rfl, fun _ => rfl⟩
  rw [Disk.locate, start_roundabout, names_roundabout]
  rfl

/-- A save that fails leaves a capture of two bytes out of three, and one that has found no number leaves a
capture in a folder that could not be listed. -/
theorem save_fails_and_lists_more :
    (((list (.given ".")).run cramped).1 = .ok [] ∧
      (save (.given ".") ⟨#[1, 2, 3]⟩).run cramped =
        (.error (.storage (.entry (.given ".") "fb_000001.bin") .noRoom), halfSaved) ∧
      ((list (.given ".")).run halfSaved).1 = .ok [.entry (.given ".") "fb_000001.bin"]) ∧
    ∃ d',
      ((list roundabout).run (Disk.ofHome ["feed"])).1 = .error (.storage roundabout .notFound) ∧
      (save roundabout ⟨#[1]⟩).run (Disk.ofHome ["feed"]) =
        (.error (.noFreeNumber roundabout), d') ∧
      ((list roundabout).run d').1 = .ok [.entry roundabout "fb_4294967295.bin"] := by
  constructor
  · have hbefore : (Disk.names (.given ".")).run cramped = (.ok [], cramped.tick) := by cbv
    have hafter : (Disk.names (.given ".")).run halfSaved =
        (.ok ["fb_000001.bin"], halfSaved.tick) := by cbv
    have hnumber : number? "fb_000001.bin" = some 1 := by decide +kernel
    refine ⟨?_, run_save_cramped, ?_⟩
    · rw [list_of_names hbefore, inOrder_nil]
      rfl
    · rw [list_of_names hafter, inOrder_singleton hnumber]
      rfl
  · have hmissing : (Disk.ofHome ["feed"]).tick.locate roundabout = .error .notFound := by
      rw [Disk.locate, start_roundabout, names_roundabout]
      rfl
    have hnames : (Disk.names roundabout).run (Disk.ofHome ["feed"]) = (.error .notFound, _) :=
      Disk.run_operate_of_error rfl (bind_eq_error.mpr (.inl hmissing))
    have hchildren : detoured.children ["feed"] = ["fb_4294967295.bin"] := by decide
    have hnumber : number? "fb_4294967295.bin" = some 4294967295 := by decide +kernel
    have hlast : lastNumber (detoured.children ["feed"]) = 4294967295 := by decide +kernel
    have hmem : nameOf (lastNumber (detoured.children ["feed"])) ∈ detoured.children ["feed"] := by
      decide +kernel
    have hgreatest : ¬ (lastNumber (detoured.children ["feed"])).toNat + 1 < UInt32.size := by
      rw [hlast]
      decide
    have hbuffer : (⟨#[1]⟩ : ByteArray).isEmpty = false := rfl
    obtain ⟨d', hsave, hsame⟩ :=
      run_save_greatest hbuffer run_makeFolders_roundabout serves_detoured hgreatest hmem
    refine ⟨d', ?_, hsave, ?_⟩
    · rw [list, asked, StateT.run_bind, StateT.run_bind, hnames]
      rfl
    · rw [run_list (serves_detoured.of_extends hsame.stays), hsame.children_eq, hchildren,
        inOrder_singleton hnumber]
      rfl

end ReleaseFeed.Capture
