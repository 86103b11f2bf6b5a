import Mathlib
import ReleaseFeed.Proofs.Capture.Saving

/-! # Savers that work side by side

Savers on one disk take turns, one operation each, in any order.  A saver has claimed a file from
the operation on that creates it (`Saver.Owns`), and no two savers have claimed one place, since
a file is only created where nothing is.  What each saver relies on at its phase (`Saver.Stands`)
is kept by its own operations and by those of all others: these only add folders and files, and
write to a file of their own (`Saver.Moves`).

`shared_of_run` says what follows for every order of turns.
-/
namespace ReleaseFeed.Capture
open Storage
variable {d d' : Disk} {s s' other : Saver} {above place : Place} {path : Path}

/-! ## What a saver relies on -/

/-- As many numbers as were tried, from the first one on, are taken. -/
def Taken (d : Disk) (above : Place) (first : UInt32) (tries : Nat) : Prop :=
  ∀ number : UInt32, first ≤ number → number.toNat < first.toNat + tries →
    (d.get? (nameOf number :: above)).isSome = true

theorem Taken.of_kept {first : UInt32} {tries : Nat} (h : Taken d above first tries)
    (hkept : ∀ place, (d.get? place).isSome = true → (d'.get? place).isSome = true) :
    Taken d' above first tries :=
  fun number hfirst htried => hkept _ (h number hfirst htried)

theorem Taken.succ {number first : UInt32} {tries : Nat} (h : Taken d above first tries)
    (hnext : number.toNat = min (first.toNat + tries) (UInt32.size - 1))
    (hnumber : (d.get? (nameOf number :: above)).isSome = true) :
    Taken d above first (tries + 1) := by
  intro tried hfirst htried
  by_cases hbefore : tried.toNat < first.toNat + tries
  · exact h tried hfirst hbefore
  · have hsize := tried.toNat_lt_size
    have hsame : tried = number := UInt32.toNat_inj.mp (by omega)
    rw [hsame]
    exact hnumber

theorem toNat_numberAfter_eq (number : UInt32) :
    (numberAfter number).toNat = min (number.toNat + 1) (UInt32.size - 1) := by
  have hsize := number.toNat_lt_size
  by_cases hroom : number.toNat + 1 < UInt32.size
  · rw [toNat_numberAfter hroom]
    omega
  · rw [numberAfter, if_neg hroom]
    omega

namespace Saver

/-- The file that a saver has claimed. -/
def claimed? (s : Saver) : Option Path :=
  match s.phase with
  | .writing path => some path
  | .done (.ok path) => some path
  | .opening | .scanning | .claiming .. | .done (.error _) => none

theorem claimed?_of_writing (h : s.phase = .writing path) : s.claimed? = some path := by
  rw [claimed?, h]

theorem claimed?_of_saved (h : s.phase = .done (.ok path)) : s.claimed? = some path := by
  rw [claimed?, h]

/-- The file at a place is the one that a saver has claimed. -/
def Owns (s : Saver) (d : Disk) (place : Place) : Prop :=
  ∃ path, s.claimed? = some path ∧ d.locate path = .ok place

/-- What a saver relies on, phase by phase. -/
inductive Stands (s : Saver) (d : Disk) : Prop where
  | opening (phase : s.phase = .opening)
  | scanning {above : Place} (phase : s.phase = .scanning) (serves : d.Serves s.folder above)
  | claiming {above : Place} {number first : UInt32} {tries more : Nat}
      (phase : s.phase = .claiming number more) (serves : d.Serves s.folder above)
      (total : tries + more + 1 = attempts)
      (next : number.toNat = min (first.toNat + tries) (UInt32.size - 1))
      (taken : Taken d above first tries)
  | writing {above : Place} {number : UInt32}
      (phase : s.phase = .writing (.entry s.folder (nameOf number)))
      (serves : d.Serves s.folder above)
      (file : d.get? (nameOf number :: above) = some (.file .empty))
  | saved {above : Place} {number : UInt32}
      (phase : s.phase = .done (.ok (.entry s.folder (nameOf number))))
      (serves : d.Serves s.folder above)
      (file : d.get? (nameOf number :: above) = some (.file s.buffer))
  | failed {error : Error} (phase : s.phase = .done (.error error))
      (exhausted : error = .noFreeNumber s.folder →
        ∃ above first, d.Serves s.folder above ∧ Taken d above first attempts)

/-- What one operation of a saver does to the disk. -/
inductive Moves (s s' : Saver) (d d' : Disk) : Prop where
  /-- No file is touched. -/
  | looks (widens : d.Widens d') (claimed : s'.claimed? = s.claimed?)
  | claims {path : Path} {place : Place} (free : d.get? place = none)
      (changed : d' = d.tick.put place (.file .empty)) (before : s.claimed? = none)
      (claimed : s'.claimed? = some path) (located : d.locate path = .ok place)
  | writes {path : Path} {place : Place} (file : d.get? place = some (.file .empty))
      (changed : d' = d.tick.put place (.file s.buffer)) (before : s.claimed? = some path)
      (claimed : s'.claimed? = some path) (located : d.locate path = .ok place)

/-! ## One operation -/

/-- An operation of a saver that finds what it relies on. -/
theorem Stands.step (h : s.Stands d) (huntroubled : ∀ n, d.trouble n = none) :
    Moves s (s.step.run d).1 d (s.step.run d).2 ∧ (s.step.run d).1.Stands (s.step.run d).2 := by
  cases h with
  | opening phase =>
    have hclaimed : s.claimed? = none := by rw [claimed?, phase]
    obtain ⟨d', hwidens, hmade⟩ := Disk.run_makeFolders_cases huntroubled s.folder
    rcases hmade with ⟨above, hrun, hserves⟩ | ⟨fault, hrun⟩
    · rw [step_opening phase hrun]
      exact ⟨.looks hwidens hclaimed.symm, .scanning rfl hserves⟩
    · rw [step_opening_failed phase hrun]
      exact ⟨.looks hwidens hclaimed.symm, .failed rfl nofun⟩
  | @scanning above phase serves =>
    have hclaimed : s.claimed? = none := by rw [claimed?, phase]
    rw [step_scanning serves phase]
    refine ⟨.looks (Disk.widens_tick d) hclaimed.symm, ?_⟩
    set first := numberAfter (lastNumber (d.children above))
    have hnext : first.toNat = min (first.toNat + 0) (UInt32.size - 1) := by
      have hsize := first.toNat_lt_size
      omega
    have hnone : Taken d.tick above first 0 := by
      intro number hfirst hnumber
      exact absurd (UInt32.le_iff_toNat_le.mp hfirst) (by omega)
    exact .claiming rfl serves.tick rfl hnext hnone
  | @claiming above number first tries more phase serves total next taken =>
    have hclaimed : s.claimed? = none := by rw [claimed?, phase]
    cases hnode : d.get? (nameOf number :: above) with
    | none =>
      rw [step_claiming serves phase hnode]
      have hextends := (Disk.extends_tick d).trans
        (Disk.extends_put ((Disk.get?_tick d _).trans hnode) (.file .empty))
      refine ⟨.claims hnode rfl hclaimed rfl (serves.locate_entry (plain_nameOf number)), ?_⟩
      exact .writing rfl (serves.of_extends hextends)
        (Disk.get?_put_self _ _ (List.cons_ne_nil _ _))
    | some node =>
      have hsome : (d.get? (nameOf number :: above)).isSome = true := by rw [hnode]; rfl
      have htaken : Taken d.tick above first (tries + 1) :=
        (taken.succ next hsome).of_kept fun _ => by rw [Disk.get?_tick]; exact id
      cases more with
      | zero =>
        rw [step_claiming_last serves phase hnode]
        refine ⟨.looks (Disk.widens_tick d) hclaimed.symm, .failed rfl fun _ => ?_⟩
        exact ⟨above, first, serves.tick, total ▸ htaken⟩
      | succ more =>
        rw [step_claiming_taken serves phase hnode]
        refine ⟨.looks (Disk.widens_tick d) hclaimed.symm, ?_⟩
        refine .claiming rfl serves.tick (by omega) ?_ htaken
        rw [toNat_numberAfter_eq, next]
        omega
  | @writing above number phase serves file =>
    rw [step_writing serves phase file, ByteArray.empty_append]
    have hfile : d.tick.get? (nameOf number :: above) = some (.file .empty) :=
      (Disk.get?_tick d _).trans file
    refine ⟨.writes file rfl (claimed?_of_writing phase) rfl
      (serves.locate_entry (plain_nameOf number)), ?_⟩
    exact .saved rfl (serves.tick.of_leads (Disk.leads_put_of_file hfile _))
      (Disk.get?_put_self _ _ (List.cons_ne_nil _ _))
  | saved phase serves file =>
    rw [step_done phase]
    exact ⟨.looks (.refl d) rfl, .saved phase serves file⟩
  | failed phase exhausted =>
    rw [step_done phase]
    exact ⟨.looks (.refl d) rfl, .failed phase exhausted⟩

/-! ## What an operation leaves alone -/

theorem Moves.leads (h : Moves s s' d d') : d.Leads d' := by
  cases h with
  | looks widens => exact widens.stays.leads
  | claims free changed =>
    rw [changed]
    exact ((Disk.extends_tick d).trans
      (Disk.extends_put ((Disk.get?_tick d _).trans free) _)).leads
  | writes file changed =>
    rw [changed]
    have hfile := (Disk.get?_tick d _).trans file
    have htick := (Disk.extends_tick d).leads
    have hput := Disk.leads_put_of_file hfile (.file s.buffer)
    exact ⟨rfl, rfl, fun hfolder => hput.folder (htick.folder hfolder)⟩

/-- What is at a place stays, unless it is the file that the saver has claimed. -/
theorem Moves.kept (h : Moves s s' d d') (hother : ¬ s.Owns d place) {node : Node}
    (hnode : d.get? place = some node) : d'.get? place = some node := by
  cases h with
  | looks widens => exact widens.stays.kept hnode
  | claims free changed =>
    rw [changed, Disk.get?_put_of_ne _ _ (Disk.ne_of_get?_eq_none free hnode), Disk.get?_tick, hnode]
  | @writes path written file changed before claimed located =>
    have hne : place ≠ written := by
      rintro rfl
      exact hother ⟨path, before, located⟩
    rw [changed, Disk.get?_put_of_ne _ _ hne, Disk.get?_tick, hnode]

theorem Moves.isSome (h : Moves s s' d d') (hsome : (d.get? place).isSome = true) :
    (d'.get? place).isSome = true := by
  have htick : (d.tick.get? place).isSome = true := by rw [Disk.get?_tick, hsome]
  cases h with
  | looks widens =>
    obtain ⟨node, hnode⟩ := Option.isSome_iff_exists.mp hsome
    rw [widens.stays.kept hnode]
    rfl
  | claims _ changed | writes _ changed =>
    rw [changed]
    exact Disk.isSome_get?_put htick _ _

/-- A saver that stands finds the file that it has claimed. -/
theorem Stands.exists_file (h : s.Stands d) (hclaimed : s.claimed? = some path) :
    ∃ place content, d.locate path = .ok place ∧ d.get? place = some (.file content) := by
  cases h with
  | opening phase | scanning phase | claiming phase | failed phase =>
    rw [claimed?, phase] at hclaimed
    cases hclaimed
  | @writing above number phase serves file | @saved above number phase serves file =>
    rw [claimed?, phase] at hclaimed
    cases hclaimed
    exact ⟨_, _, serves.locate_entry (plain_nameOf number), file⟩

/-- The file of a saver that has succeeded can be read, and holds its buffer. -/
theorem Stands.run_read (h : s.Stands d) (hphase : s.phase = .done (.ok path)) :
    ((read path).run d).1 = .ok s.buffer := by
  cases h with
  | @saved above number phase serves file =>
    rw [phase] at hphase
    cases hphase
    exact run_read_eq_ok.mpr (Disk.run_read_eq_ok.mpr ⟨serves.untroubled _, _,
      serves.locate_entry (plain_nameOf number), file⟩)
  | opening phase | scanning phase | claiming phase | writing phase | failed phase =>
    rw [phase] at hphase
    cases hphase

theorem Stands.taken (h : s.Stands d)
    (hphase : s.phase = .done (.error (.noFreeNumber s.folder))) :
    ∃ above first, d.Serves s.folder above ∧ Taken d above first attempts := by
  cases h with
  | failed phase exhausted =>
    rw [phase] at hphase
    cases hphase
    exact exhausted rfl
  | opening phase | scanning phase | claiming phase | writing phase | saved phase =>
    rw [phase] at hphase
    cases hphase

theorem Stands.file_of_owns (h : s.Stands d) (howns : s.Owns d place) :
    ∃ content, d.get? place = some (.file content) := by
  obtain ⟨path, hclaimed, hlocated⟩ := howns
  obtain ⟨place', content, hlocated', hfile⟩ := h.exists_file hclaimed
  rw [hlocated] at hlocated'
  cases hlocated'
  exact ⟨content, hfile⟩

/-- As long as all folders are kept, a saver owns the place that it owned. -/
theorem Stands.owns_iff_of_leads (h : s.Stands d) (hleads : d.Leads d')
    (hclaimed : s'.claimed? = s.claimed?) : s'.Owns d' place ↔ s.Owns d place := by
  constructor
  · rintro ⟨path, hpath, hlocated⟩
    rw [hclaimed] at hpath
    obtain ⟨place', -, hlocated', -⟩ := h.exists_file hpath
    rw [Disk.locate_of_leads hleads hlocated'] at hlocated
    cases hlocated
    exact ⟨path, hpath, hlocated'⟩
  · rintro ⟨path, hpath, hlocated⟩
    exact ⟨path, hclaimed.trans hpath, Disk.locate_of_leads hleads hlocated⟩

/-- After an operation a saver owns the places that it owned, and the one where it has just created a
file. -/
theorem Moves.owns_iff (hmoves : Moves s s' d d') (h : s.Stands d) : s'.Owns d' place ↔
    s.Owns d place ∨ d.get? place = none ∧ ∃ content, d'.get? place = some (.file content) := by
  have hleads := hmoves.leads
  cases hmoves with
  | looks widens claimed =>
    rw [h.owns_iff_of_leads hleads claimed, or_iff_left]
    rintro ⟨hfree, content, hfile⟩
    rw [widens.file hfile] at hfree
    cases hfree
  | @claims path new free changed before claimed located =>
    have hbefore : ¬ s.Owns d place := by
      rintro ⟨path, hpath, -⟩
      rw [before] at hpath
      cases hpath
    rw [or_iff_right hbefore]
    have hlocated := Disk.locate_of_leads hleads located
    constructor
    · rintro ⟨path', hpath, hplace⟩
      rw [claimed] at hpath
      cases hpath
      rw [hlocated] at hplace
      cases hplace
      rw [changed, Disk.get?_put_self _ _ (Disk.ne_nil_of_get?_eq_none free)]
      exact ⟨free, _, rfl⟩
    · rintro ⟨hfree, content, hfile⟩
      have hsame : place = new := by
        by_contra hne
        rw [changed, Disk.get?_put_of_ne _ _ hne, Disk.get?_tick, hfree] at hfile
        cases hfile
      rw [hsame]
      exact ⟨path, claimed, hlocated⟩
  | writes file changed before claimed located =>
    rw [h.owns_iff_of_leads hleads (claimed.trans before.symm), or_iff_left]
    rintro ⟨hfree, content, hfile⟩
    rw [changed, Disk.get?_put_of_ne _ _ (Disk.ne_of_get?_eq_none hfree file).symm, Disk.get?_tick,
      hfree] at hfile
    cases hfile

/-- What a saver relies on is not changed by an operation of another one. -/
theorem Stands.of_moves (h : other.Stands d) (hmoves : Moves s s' d d')
    (hapart : ∀ place, s.Owns d place → ¬ other.Owns d place) : other.Stands d' := by
  have hleads := hmoves.leads
  have hserves {above : Place} (serves : d.Serves other.folder above) :
      d'.Serves other.folder above := serves.of_leads hleads
  have htaken {above : Place} {first : UInt32} {tries : Nat} (taken : Taken d above first tries) :
      Taken d' above first tries := taken.of_kept fun _ => hmoves.isSome
  have hfile {above : Place} {number : UInt32} {content : ByteArray}
      (serves : d.Serves other.folder above)
      (claimed : other.claimed? = some (.entry other.folder (nameOf number)))
      (file : d.get? (nameOf number :: above) = some (.file content)) :
      d'.get? (nameOf number :: above) = some (.file content) :=
    hmoves.kept (fun howns => hapart _ howns
      ⟨_, claimed, serves.locate_entry (plain_nameOf number)⟩) file
  cases h with
  | opening phase => exact .opening phase
  | scanning phase serves => exact .scanning phase (hserves serves)
  | claiming phase serves total next taken =>
    exact .claiming phase (hserves serves) total next (htaken taken)
  | writing phase serves file =>
    exact .writing phase (hserves serves) (hfile serves (claimed?_of_writing phase) file)
  | saved phase serves file =>
    exact .saved phase (hserves serves) (hfile serves (claimed?_of_saved phase) file)
  | failed phase exhausted =>
    refine .failed phase fun herror => ?_
    obtain ⟨above, first, serves, taken⟩ := exhausted herror
    exact ⟨above, first, hserves serves, htaken taken⟩

/-! ## How many operations a saver needs -/

/-- Operations after which a saver at this phase is done. -/
def operationsLeft : SaverPhase → Nat
  | .opening => attempts + 3
  | .scanning => attempts + 2
  | .claiming _ more => more + 2
  | .writing _ => 1
  | .done _ => 0

/-- An operation only changes the phase, and brings the saver nearer to its end. -/
theorem exists_step_eq_goTo (s : Saver) (d : Disk) :
    ∃ phase, (s.step.run d).1 = s.goTo phase ∧
      operationsLeft phase ≤ operationsLeft s.phase - 1 := by
  cases hphase : s.phase with
  | opening =>
    rw [step, hphase, StateT.run_bind]
    rcases (Disk.makeFolders s.folder).run d with ⟨fault | _, _⟩
    · exact ⟨_, rfl, Nat.zero_le _⟩
    · exact ⟨_, rfl, Nat.le_refl _⟩
  | scanning =>
    rw [step, hphase, StateT.run_bind]
    rcases (last s.folder).run d with ⟨error | number, _⟩
    · exact ⟨_, rfl, Nat.zero_le _⟩
    · exact ⟨_, rfl, Nat.le_refl _⟩
  | claiming number more =>
    rw [step, hphase, StateT.run_bind]
    rcases (Disk.create (.entry s.folder (nameOf number))).run d with ⟨fault | _, _⟩
    · cases fault with
      | alreadyThere =>
        cases more with
        | zero => exact ⟨_, rfl, Nat.zero_le _⟩
        | succ more => exact ⟨_, rfl, Nat.le_refl _⟩
      | notFound | notFolder | isFolder | nameTooLong | zeroInName | noRoom | denied =>
        exact ⟨_, rfl, Nat.zero_le _⟩
    · exact ⟨_, rfl, Nat.le_add_left _ _⟩
  | writing path =>
    rw [step, hphase, StateT.run_bind]
    rcases (Disk.append path s.buffer).run d with ⟨fault | _, _⟩
    · exact ⟨_, rfl, Nat.zero_le _⟩
    · exact ⟨_, rfl, Nat.zero_le _⟩
  | done result =>
    rw [step_done hphase]
    exact ⟨s.phase, rfl, by rw [hphase]; exact Nat.zero_le _⟩

end Saver

/-! ## Savers in turn -/

namespace Crew
variable {c : Crew} {i j : Nat} {turns : List Nat}

/-- At its turn a saver creates a file. -/
def Creates (c : Crew) (i : Nat) (place : Place) : Prop :=
  c.disk.get? place = none ∧ ∃ content, (c.turn i).disk.get? place = some (.file content)

/-- At its turn a saver changes a file that was there. -/
def Alters (c : Crew) (i : Nat) (place : Place) : Prop :=
  ∃ content, c.disk.get? place = some (.file content) ∧
    (c.turn i).disk.get? place ≠ some (.file content)

/-- Something happens to a place at one of the turns of a saver. -/
def Along (event : Crew → Nat → Place → Prop) (c : Crew) (turns : List Nat) (i : Nat)
    (place : Place) : Prop :=
  ∃ before rest, turns = before ++ i :: rest ∧ event (c.after before) i place

theorem savers_turn_self (c : Crew) (i : Nat) :
    (c.turn i).savers i = ((c.savers i).step.run c.disk).1 :=
  if_pos rfl

theorem savers_turn_of_ne (h : j ≠ i) : (c.turn i).savers j = c.savers j :=
  if_neg h

theorem after_concat (c : Crew) (turns : List Nat) (i : Nat) :
    c.after (turns ++ [i]) = (c.after turns).turn i :=
  List.foldl_append

/-- No two savers have claimed one place, and all find what they rely on. -/
structure Orderly (c : Crew) : Prop where
  untroubled (n : Nat) : c.disk.trouble n = none
  stands (i : Nat) : (c.savers i).Stands c.disk
  apart {i j : Nat} {place : Place} (hi : (c.savers i).Owns c.disk place)
    (hj : (c.savers j).Owns c.disk place) : i = j

section Orderly
variable (hc : c.Orderly)
include hc

theorem Orderly.moves (i : Nat) :
    (c.savers i).Moves ((c.turn i).savers i) c.disk (c.turn i).disk := by
  rw [savers_turn_self]
  exact ((hc.stands i).step hc.untroubled).1

/-- A saver owns the places that it owned, and the one where it has just created a file. -/
theorem Orderly.owns_turn_iff (i j : Nat) :
    ((c.turn i).savers j).Owns (c.turn i).disk place ↔
      (c.savers j).Owns c.disk place ∨ j = i ∧ c.Creates i place := by
  have hmoves := hc.moves i
  by_cases hsame : j = i
  · rw [hsame, and_iff_right rfl]
    exact hmoves.owns_iff (hc.stands i)
  · rw [savers_turn_of_ne hsame, or_iff_left fun h => hsame h.1]
    exact (hc.stands j).owns_iff_of_leads hmoves.leads rfl

theorem Orderly.turn (i : Nat) : (c.turn i).Orderly where
  untroubled n := (congrFun (hc.moves i).leads.trouble n).trans (hc.untroubled n)
  stands j := by
    by_cases hsame : j = i
    · rw [hsame, savers_turn_self]
      exact ((hc.stands i).step hc.untroubled).2
    · rw [savers_turn_of_ne hsame]
      exact (hc.stands j).of_moves (hc.moves i) fun place hi hj => hsame (hc.apart hj hi)
  apart {j k place} hj hk := by
    rw [hc.owns_turn_iff] at hj hk
    -- where a file is created nobody has claimed one
    have hclash {j : Nat} (howns : (c.savers j).Owns c.disk place) (hfree : c.Creates i place) :
        False := by
      obtain ⟨content, hfile⟩ := (hc.stands j).file_of_owns howns
      rw [hfree.1] at hfile
      cases hfile
    rcases hj with hj | ⟨hj, hfree⟩
    · rcases hk with hk | ⟨-, hfree⟩
      · exact hc.apart hj hk
      · exact (hclash hj hfree).elim
    · rcases hk with hk | ⟨hk, -⟩
      · exact (hclash hk hfree).elim
      · exact hj.trans hk.symm

/-- A saver changes no file but the one that it has claimed. -/
theorem Orderly.owns_of_alters (h : c.Alters i place) : (c.savers i).Owns c.disk place := by
  obtain ⟨content, hfile, hchanged⟩ := h
  by_contra hother
  exact hchanged ((hc.moves i).kept hother hfile)

end Orderly

/-! ## Many turns -/

theorem along_concat {event : Crew → Nat → Place → Prop} :
    Along event c (turns ++ [j]) i place ↔
      Along event c turns i place ∨ i = j ∧ event (c.after turns) i place := by
  constructor
  · rintro ⟨before, rest, hturns, hevent⟩
    rcases List.eq_nil_or_concat rest with rfl | ⟨rest, last, rfl⟩
    · obtain ⟨rfl, hlast⟩ := List.append_inj' hturns rfl
      cases hlast
      exact .inr ⟨rfl, hevent⟩
    · rw [List.concat_eq_append, ← List.cons_append, ← List.append_assoc] at hturns
      obtain ⟨hturns, -⟩ := List.append_inj' hturns rfl
      exact .inl ⟨before, rest, hturns, hevent⟩
  · rintro (⟨before, rest, rfl, hevent⟩ | ⟨rfl, hevent⟩)
    · exact ⟨before, rest ++ [j], by rw [List.append_assoc, List.cons_append], hevent⟩
    · exact ⟨turns, [], rfl, hevent⟩

theorem Orderly.after (hc : c.Orderly) (turns : List Nat) : (c.after turns).Orderly := by
  induction turns using List.reverseRecOn with
  | nil => exact hc
  | append_singleton turns i ih =>
    rw [after_concat]
    exact ih.turn i

/-- A saver only changes its phase, and a turn brings it nearer to its end. -/
theorem exists_after_eq_goTo (c : Crew) (turns : List Nat) (i : Nat) :
    ∃ phase, (c.after turns).savers i = (c.savers i).goTo phase ∧
      Saver.operationsLeft phase ≤ Saver.operationsLeft (c.savers i).phase - turns.count i := by
  induction turns using List.reverseRecOn with
  | nil => exact ⟨(c.savers i).phase, rfl, Nat.le_refl _⟩
  | append_singleton turns j ih =>
    obtain ⟨phase, hsaver, hleft⟩ := ih
    rw [after_concat, List.count_append, List.count_singleton]
    by_cases hsame : j = i
    · subst hsame
      obtain ⟨phase', hstep, hless⟩ :=
        ((c.after turns).savers j).exists_step_eq_goTo (c.after turns).disk
      rw [hsaver] at hstep hless
      rw [savers_turn_self, hsaver, hstep, beq_self_eq_true, if_pos rfl]
      refine ⟨phase', rfl, ?_⟩
      have hphase : ((c.savers j).goTo phase).phase = phase := rfl
      rw [hphase] at hless
      omega
    · have hne : (j == i) = false := beq_eq_false_iff_ne.mpr hsame
      rw [savers_turn_of_ne (Ne.symm hsame), hsaver, hne]
      exact ⟨phase, rfl, hleft⟩

section Run
variable (hc : c.Orderly)
include hc

theorem Orderly.isSome_after (hsome : (c.disk.get? place).isSome = true) (turns : List Nat) :
    ((c.after turns).disk.get? place).isSome = true := by
  induction turns using List.reverseRecOn with
  | nil => exact hsome
  | append_singleton turns i ih =>
    rw [after_concat]
    exact ((hc.after turns).moves i).isSome ih

variable (hnone : ∀ i place, ¬ (c.savers i).Owns c.disk place)
include hnone

/-- The places that a saver owns are those where it has created a file. -/
theorem Orderly.owns_after_iff : ((c.after turns).savers i).Owns (c.after turns).disk place ↔
    Along Creates c turns i place := by
  induction turns using List.reverseRecOn with
  | nil =>
    refine ⟨fun howns => (hnone i place howns).elim, ?_⟩
    rintro ⟨before, rest, hturns, -⟩
    exact absurd hturns.symm (List.append_ne_nil_of_right_ne_nil _ (List.cons_ne_nil _ _))
  | append_singleton turns j ih =>
    rw [after_concat, (hc.after turns).owns_turn_iff, ih, along_concat]
    refine or_congr_right (and_congr_right fun hsame => ?_)
    rw [hsame]

theorem Orderly.creates_of_alters (h : Along Alters c turns i place) :
    Along Creates c turns i place := by
  obtain ⟨before, rest, rfl, halters⟩ := h
  have howns := (hc.after before).owns_of_alters halters
  obtain ⟨first, last, rfl, hcreates⟩ := (hc.owns_after_iff hnone).mp howns
  exact ⟨first, last ++ i :: rest, by rw [List.append_assoc, List.cons_append], hcreates⟩

/-- What was there before the savers started stays as it is. -/
theorem Orderly.kept_after {node : Node} (hnode : c.disk.get? place = some node) :
    (c.after turns).disk.get? place = some node := by
  induction turns using List.reverseRecOn with
  | nil => exact hnode
  | append_singleton turns i ih =>
    rw [after_concat]
    refine ((hc.after turns).moves i).kept (fun howns => ?_) ih
    obtain ⟨before, rest, -, hfree, -⟩ := (hc.owns_after_iff hnone).mp howns
    have hsome := hc.isSome_after (by rw [hnode]; rfl) before
    rw [hfree] at hsome
    cases hsome

end Run

/-! ## Savers that start together -/

theorem claimed?_start (folder : Path) (buffer : ByteArray) :
    (Saver.start folder buffer).claimed? = none := by
  rw [Saver.start]
  split_ifs <;> rfl

theorem operationsLeft_start (folder : Path) (buffer : ByteArray) :
    Saver.operationsLeft (Saver.start folder buffer).phase ≤ Saver.enough := by
  rw [Saver.start]
  split_ifs
  · exact Nat.zero_le _
  · exact Nat.le_refl _

/-- A saver that has just started owns no file. -/
theorem not_owns_start (folder : Path) (buffer : ByteArray) (place : Place) :
    ¬ (Saver.start folder buffer).Owns d place := by
  rintro ⟨path, hpath, -⟩
  rw [claimed?_start] at hpath
  cases hpath

theorem orderly_start (huntroubled : ∀ n, d.trouble n = none) (folders : Nat → Path)
    (buffers : Nat → ByteArray) : (start d folders buffers).Orderly where
  untroubled := huntroubled
  stands i := by
    show (Saver.start (folders i) (buffers i)).Stands d
    rw [Saver.start]
    split_ifs
    · exact .failed rfl (fun herror => by cases herror)
    · exact .opening rfl
  apart hi := absurd hi (not_owns_start _ _ _)

/-- What holds after savers have taken turns, in whatever order. -/
structure Shared (c : Crew) (turns : List Nat) : Prop where
  /-- Savers that have succeeded have saved to different files. -/
  distinct {i j : Nat} {path path' : Path}
    (hi : ((c.after turns).savers i).result? = some (.ok path))
    (hj : ((c.after turns).savers j).result? = some (.ok path')) (hne : i ≠ j) :
    path ≠ path' ∧ (c.after turns).disk.locate path ≠ (c.after turns).disk.locate path'
  /-- The file of a saver that has succeeded has its buffer. -/
  content {i : Nat} {path : Path} (hi : ((c.after turns).savers i).result? = some (.ok path)) :
    ((read path).run (c.after turns).disk).1 = .ok (c.savers i).buffer
  /-- What was there before the savers started stays as it is. -/
  kept {place : Place} {node : Node} (hnode : c.disk.get? place = some node) :
    (c.after turns).disk.get? place = some node
  /-- A file that a saver has changed is one that it has created, and nobody else. -/
  own {i : Nat} {place : Place} (halters : Along Alters c turns i place) :
    Along Creates c turns i place ∧ ∀ j, Along Creates c turns j place → j = i
  /-- A saver that has failed has neither created a file nor changed one. -/
  failed {i : Nat} {error : Error}
    (hi : ((c.after turns).savers i).result? = some (.error error)) (place : Place) :
    ¬ Along Creates c turns i place ∧ ¬ Along Alters c turns i place
  /-- Who has found no number has found all that it may try taken, up to the greatest one. -/
  exhausted {i : Nat} (hi : ((c.after turns).savers i).result? =
      some (.error (.noFreeNumber (c.savers i).folder))) :
    ∃ above first, (c.after turns).disk.locate (c.savers i).folder = .ok above ∧
      Taken (c.after turns).disk above first Saver.attempts
  /-- With enough turns every saver comes to an end. -/
  ends {i : Nat} (h : Saver.enough ≤ turns.count i) :
    ∃ result, ((c.after turns).savers i).result? = some result

theorem phase_of_result? {result : Except Error Path} (h : s.result? = some result) :
    s.phase = .done result := by
  unfold Saver.result? at h
  split at h
  case h_1 hphase =>
    cases h
    exact hphase
  case h_2 => cases h

/-- Savers that are in order and have done nothing yet share nothing from there on. -/
theorem Orderly.shared {c : Crew} (hc : c.Orderly)
    (hnone : ∀ i place, ¬ (c.savers i).Owns c.disk place)
    (hbegin : ∀ i, Saver.operationsLeft (c.savers i).phase ≤ Saver.enough) (turns : List Nat) :
    c.Shared turns where
  distinct {i j path path'} hi hj hne := by
    have hafter := hc.after turns
    have hpath := Saver.claimed?_of_saved (phase_of_result? hi)
    have hpath' := Saver.claimed?_of_saved (phase_of_result? hj)
    obtain ⟨place, -, hplace, -⟩ := (hafter.stands i).exists_file hpath
    have hdiffer : (c.after turns).disk.locate path ≠ (c.after turns).disk.locate path' :=
      fun hsame => hne (hafter.apart ⟨path, hpath, hplace⟩ ⟨path', hpath', hsame ▸ hplace⟩)
    exact ⟨fun hsame => hdiffer (congrArg _ hsame), hdiffer⟩
  content {i path} hi := by
    obtain ⟨phase, hgoTo, -⟩ := c.exists_after_eq_goTo turns i
    have hread := ((hc.after turns).stands i).run_read (phase_of_result? hi)
    rw [hgoTo] at hread
    exact hread
  kept := hc.kept_after hnone
  own {i place} halters := by
    have hcreates := hc.creates_of_alters hnone halters
    refine ⟨hcreates, fun j hj => ?_⟩
    rw [← hc.owns_after_iff hnone] at hcreates hj
    exact (hc.after turns).apart hj hcreates
  failed {i error} hi place := by
    have hcreates : ¬ Along Creates c turns i place := by
      rw [← hc.owns_after_iff hnone]
      rintro ⟨path, hpath, -⟩
      rw [Saver.claimed?, phase_of_result? hi] at hpath
      cases hpath
    exact ⟨hcreates, fun halters => hcreates (hc.creates_of_alters hnone halters)⟩
  exhausted {i} hi := by
    obtain ⟨phase, hgoTo, -⟩ := c.exists_after_eq_goTo turns i
    have hfolder : (c.savers i).folder = ((c.after turns).savers i).folder := by rw [hgoTo]; rfl
    rw [hfolder] at hi ⊢
    obtain ⟨above, first, serves, taken⟩ :=
      ((hc.after turns).stands i).taken (phase_of_result? hi)
    exact ⟨above, first, serves.located, taken⟩
  ends {i} hturns := by
    obtain ⟨phase, hgoTo, hleft⟩ := c.exists_after_eq_goTo turns i
    have hbegin := hbegin i
    have hzero : Saver.operationsLeft phase = 0 := by omega
    rw [hgoTo]
    cases phase with
    | done result => exact ⟨result, rfl⟩
    | opening | scanning | claiming | writing => cases hzero

/-- **Savers that work side by side never share a file**, whatever the order of their turns.  There may be
any number of them, in one folder or in many; no operation on the disk fails by itself. -/
theorem shared_of_run (d : Disk) (huntroubled : ∀ n, d.trouble n = none) (folders : Nat → Path)
    (buffers : Nat → ByteArray) (turns : List Nat) : (start d folders buffers).Shared turns := by
  have hc := orderly_start huntroubled folders buffers
  have hnone : ∀ i place, ¬ ((start d folders buffers).savers i).Owns
      (start d folders buffers).disk place := fun i => not_owns_start (folders i) (buffers i)
  have hbegin : ∀ i, Saver.operationsLeft ((start d folders buffers).savers i).phase ≤
      Saver.enough := fun i => operationsLeft_start (folders i) (buffers i)
  exact hc.shared hnone hbegin turns

/-- Savers with a byte each for the folder that all others are in. -/
def racing : Crew :=
  start .empty (fun _ => .given "/") fun i => ⟨#[.ofNat i]⟩

/-- Two savers look for the highest number before either of them claims one.  The second one loses the
first number, and comes to its end before the first one writes. -/
theorem shared_of_run_racing :
    (∀ n, Disk.empty.trouble n = none) ∧
      ((racing.after [0, 1, 0, 1, 0, 1, 1, 1, 0]).savers 0).result? =
        some (.ok (.entry (.given "/") "fb_000001.bin")) ∧
      ((racing.after [0, 1, 0, 1, 0, 1, 1, 1, 0]).savers 1).result? =
        some (.ok (.entry (.given "/") "fb_000002.bin")) ∧
      racing.Shared [0, 1, 0, 1, 0, 1, 1, 1, 0] :=
  ⟨fun _ => rfl, by cbv, by cbv, shared_of_run .empty (fun _ => rfl) _ _ _⟩

end Crew

end ReleaseFeed.Capture
