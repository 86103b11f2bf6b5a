import Mathlib.Data.List.Basic
import ReleaseFeed.Proofs.Outcome
import ReleaseFeed.Storage.Disk

/-! # Operations on disks

An operation answers as it should when the disk is not troubled, and where a path leads depends
on the folders that are there (`Leads`, `locate_of_leads`).  So whatever is only added to a disk
leaves all paths and all files as they were (`Extends`).  `Serves` is what the operations in a
folder rely on: the path of the folder leads to it, and no operation fails by itself.  Where the
folders of a path can be made, they serve afterwards (`run_makeFolders_cases`).

On a disk that is troubled an operation may fail halfway.  Even then no file is touched when folders
are made, and those that are made are on the way (`paves_makeFolders`), a file is created or it is not (`run_create_cases`), and one that is
written to keeps its content and gets the first part of what was to be added (`run_append_cases`).
-/
namespace ReleaseFeed.Storage
namespace Disk
variable {d d' : Disk} {path folder : Path} {above place : Place} {name : String} {node : Node}

/-! ## What is added to a disk -/

/-- The disk after one more operation that has left everything as it was. -/
def tick (d : Disk) : Disk :=
  { d with operations := d.operations + 1 }

@[simp] theorem get?_tick (d : Disk) (place : Place) : d.tick.get? place = d.get? place := by
  cases place <;> rfl

@[simp] theorem children_tick (d : Disk) (place : Place) :
    d.tick.children place = d.children place :=
  rfl

/-- All that is on a disk is on another one, too, and both work alike. -/
structure Extends (d d' : Disk) : Prop where
  home : d'.home = d.home
  trouble : d'.trouble = d.trouble
  kept {place : Place} {node : Node} : d.get? place = some node → d'.get? place = some node

/-- All folders of a disk are on another one, too, and both work alike, so paths lead where they led. -/
structure Leads (d d' : Disk) : Prop where
  home : d'.home = d.home
  trouble : d'.trouble = d.trouble
  folder {place : Place} : d.get? place = some .folder → d'.get? place = some .folder

theorem Extends.leads (h : d.Extends d') : d.Leads d' :=
  ⟨h.home, h.trouble, h.kept⟩

theorem Leads.trans {d'' : Disk} (h : d.Leads d') (h' : d'.Leads d'') : d.Leads d'' where
  home := h'.home.trans h.home
  trouble := h'.trouble.trans h.trouble
  folder hfolder := h'.folder (h.folder hfolder)

theorem Extends.refl (d : Disk) : d.Extends d :=
  ⟨rfl, rfl, id⟩

theorem Extends.trans {d'' : Disk} (h : d.Extends d') (h' : d'.Extends d'') : d.Extends d'' where
  home := h'.home.trans h.home
  trouble := h'.trouble.trans h.trouble
  kept hnode := h'.kept (h.kept hnode)

theorem extends_tick (d : Disk) : d.Extends d.tick where
  home := rfl
  trouble := rfl
  kept hnode := (get?_tick d _).trans hnode

/-- A disk holds what another one holds, and both work alike. -/
structure Same (d d' : Disk) : Prop where
  nodes : d'.nodes = d.nodes
  home : d'.home = d.home
  trouble : d'.trouble = d.trouble

theorem same_tick (d : Disk) : d.Same d.tick :=
  ⟨rfl, rfl, rfl⟩

theorem Same.trans {d'' : Disk} (h : d.Same d') (h' : d'.Same d'') : d.Same d'' where
  nodes := h'.nodes.trans h.nodes
  home := h'.home.trans h.home
  trouble := h'.trouble.trans h.trouble

theorem Same.get?_eq (h : d.Same d') (place : Place) : d'.get? place = d.get? place := by
  by_cases hroot : place = []
  · rw [hroot]
    rfl
  · rw [get?_of_ne_nil d' hroot, get?_of_ne_nil d hroot, h.nodes]

theorem Same.children_eq (h : d.Same d') (place : Place) : d'.children place = d.children place := by
  rw [children, children, h.nodes]

theorem Same.stays (h : d.Same d') : d.Extends d' where
  home := h.home
  trouble := h.trouble
  kept {place _} hnode := (h.get?_eq place).trans hnode

theorem ne_of_get?_eq_none {other : Place} (hplace : d.get? place = none)
    (hnode : d.get? other = some node) : other ≠ place := by
  rintro rfl
  rw [hplace] at hnode
  cases hnode

/-- Where nothing is, anything can be put. -/
theorem extends_put (hplace : d.get? place = none) (node : Node) :
    d.Extends (d.put place node) where
  home := rfl
  trouble := rfl
  kept {other _} hnode := by
    rw [get?_put_of_ne d node (ne_of_get?_eq_none hplace hnode), hnode]

/-- Only folders have been added to a disk: every file on it was there before, as it is. -/
structure Widens (d d' : Disk) : Prop where
  stays : d.Extends d'
  file {place : Place} {content : ByteArray} :
    d'.get? place = some (.file content) → d.get? place = some (.file content)

theorem Widens.refl (d : Disk) : d.Widens d :=
  ⟨.refl d, id⟩

theorem Widens.trans {d'' : Disk} (h : d.Widens d') (h' : d'.Widens d'') : d.Widens d'' :=
  ⟨h.stays.trans h'.stays, fun hfile => h.file (h'.file hfile)⟩

theorem widens_tick (d : Disk) : d.Widens d.tick where
  stays := extends_tick d
  file hfile := (get?_tick d _).symm.trans hfile

theorem ne_nil_of_get?_eq_none (h : d.get? place = none) : place ≠ [] := by
  rintro rfl
  cases h

theorem widens_put_folder (h : d.get? place = none) : d.Widens (d.put place .folder) where
  stays := extends_put h .folder
  file {other content} hfile := by
    by_cases hother : other = place
    · rw [hother, get?_put_self d .folder (ne_nil_of_get?_eq_none h)] at hfile
      cases hfile
    · rw [get?_put_of_ne d .folder hother] at hfile
      exact hfile

theorem isSome_get?_put {other : Place} (h : (d.get? other).isSome = true) (place : Place)
    (node : Node) : ((d.put place node).get? other).isSome = true := by
  by_cases hroot : other = []
  · rw [hroot]
    rfl
  by_cases hsame : other = place
  · rw [← hsame, get?_put_self d node hroot]
    rfl
  · rw [get?_put_of_ne d node hsame]
    exact h

/-- A file can be replaced without any path leading elsewhere. -/
theorem leads_put_of_file {content : ByteArray} (h : d.get? place = some (.file content))
    (node : Node) : d.Leads (d.put place node) where
  home := rfl
  trouble := rfl
  folder {other} hfolder := by
    have hother : other ≠ place := by
      rintro rfl
      rw [h] at hfolder
      cases hfolder
    rw [get?_put_of_ne d node hother, hfolder]

/-! ## Names in a folder -/

theorem mem_children_iff : name ∈ d.children above ↔ ∃ node, (name :: above, node) ∈ d.nodes := by
  rw [children, List.mem_filterMap]
  constructor
  · rintro ⟨⟨place, node⟩, hmem, hname⟩
    rcases place with _ | ⟨first, rest⟩
    · cases hname
    · dsimp only at hname
      split at hname
      case isTrue hrest =>
        cases hname
        subst hrest
        exact ⟨node, hmem⟩
      case isFalse => cases hname
  · rintro ⟨node, hmem⟩
    exact ⟨_, hmem, if_pos rfl⟩

/-- Nothing is at a place whose name is not in the folder. -/
theorem get?_eq_none (h : name ∉ d.children above) : d.get? (name :: above) = none := by
  rw [get?_of_ne_nil d (List.cons_ne_nil _ _), List.lookup_eq_none_iff]
  rintro ⟨place, node⟩ hmem
  rw [bne_iff_ne]
  rintro rfl
  exact h (mem_children_iff.mpr ⟨node, hmem⟩)

/-- What is put at a free place comes last in its folder. -/
theorem children_put_of_none (h : d.get? (name :: above) = none) (node : Node) :
    (d.put (name :: above) node).children above = d.children above ++ [name] := by
  rw [get?_of_ne_nil d (List.cons_ne_nil _ _)] at h
  simp only [children, put, h, Option.isSome_none, Bool.false_eq_true, if_false,
    List.filterMap_append, List.filterMap_cons, List.filterMap_nil, if_true]

/-- What is put in the stead of something else changes no folder. -/
theorem children_put_of_some {old : Node} (h : d.get? (name :: above) = some old) (node : Node)
    (folder : Place) : (d.put (name :: above) node).children folder = d.children folder := by
  rw [get?_of_ne_nil d (List.cons_ne_nil _ _)] at h
  simp only [children, put, h, Option.isSome_some, if_true, List.filterMap_map]
  refine List.filterMap_congr fun entry _ => ?_
  by_cases hplace : entry.1 = name :: above
  · obtain ⟨_, old⟩ := entry
    subst hplace
    rw [Function.comp_apply, if_pos rfl]
  · rw [Function.comp_apply, if_neg hplace]

/-! ## Where paths lead -/

/-- A name that a file can have. -/
structure Plain (name : String) : Prop where
  idle : isIdle name = false
  up : name ≠ ".."
  fits : name.utf8ByteSize ≤ nameLimit

theorem Plain.ne_empty (h : Plain name) : name ≠ "" := by
  rintro rfl
  have hidle := h.idle
  rw [isIdle] at hidle
  simp at hidle

theorem get?_of_enter (h : d.enter above name = .ok place) : d.get? above = some .folder := by
  rw [enter] at h
  split at h
  case h_1 => cases h
  case h_2 => cases h
  case h_3 hfolder => exact hfolder

theorem enter_plain (habove : d.get? above = some .folder) (h : Plain name) :
    d.enter above name = .ok (name :: above) := by
  rw [enter, habove]
  simp only [h.idle, Bool.false_eq_true, if_false, if_neg h.up, if_neg (Nat.not_lt.mpr h.fits)]

theorem follow_cons (d : Disk) (start : Place) (name : String) (names : List String) :
    d.follow start (name :: names) = d.follow start names >>= fun above => d.enter above name := by
  rw [follow, List.foldrM_cons]
  rfl

theorem follow_of_leads (h : d.Leads d') {start : Place} {names : List String}
    (hfollow : d.follow start names = .ok place) : d'.follow start names = .ok place := by
  induction names generalizing place with
  | nil => exact hfollow
  | cons name names ih =>
    rw [follow_cons, bind_eq_ok] at hfollow ⊢
    obtain ⟨above, habove, henter⟩ := hfollow
    refine ⟨above, ih habove, ?_⟩
    have hfolder := get?_of_enter henter
    rw [enter, hfolder] at henter
    rw [enter, h.folder hfolder]
    exact henter

theorem start_of_leads (h : d.Leads d') (path : Path) : d'.start path = d.start path := by
  rw [start, start, h.home]

/-- A path leads to the same place as long as all folders are kept. -/
theorem locate_of_leads (h : d.Leads d') (hlocate : d.locate path = .ok place) :
    d'.locate path = .ok place := by
  rw [locate, bind_eq_ok] at hlocate ⊢
  obtain ⟨start, hstart, hfollow⟩ := hlocate
  exact ⟨start, (start_of_leads h path).trans hstart, follow_of_leads h hfollow⟩

theorem enter_tick (d : Disk) : d.tick.enter = d.enter := by
  funext above name
  rw [enter, enter, get?_tick]

theorem follow_tick (d : Disk) : d.tick.follow = d.follow := by
  funext start names
  rw [follow, follow, enter_tick]

theorem locate_tick (d : Disk) (path : Path) : d.tick.locate path = d.locate path := by
  rw [locate, locate, follow_tick]
  rfl

theorem locateFile_tick (d : Disk) (path : Path) :
    d.tick.locateFile path = d.locateFile path := by
  rw [locateFile, locateFile, follow_tick, enter_tick]
  rfl

theorem locate_entry (d : Disk) (folder : Path) (name : String) :
    d.locate (.entry folder name) = d.locate folder >>= fun above => d.enter above name := by
  rw [locate, locate, show d.start (.entry folder name) = d.start folder from rfl, Path.names]
  simp only [follow_cons, bind_assoc]

theorem locateFile_entry (d : Disk) (folder : Path) (hname : name ≠ "") :
    d.locateFile (.entry folder name) = d.locate (.entry folder name) := by
  have hnames : (Path.entry folder name).names = name :: folder.names := rfl
  rw [locateFile, locate, hnames]
  refine congrArg (d.start (.entry folder name) >>= ·) (funext fun start => ?_)
  split
  case h_1 hempty =>
    cases hempty
    exact absurd rfl hname
  case h_2 => rfl

/-- A file with a plain name is in the folder that it is to be in. -/
theorem locateFile_entry_eq_ok (hname : Plain name) :
    d.locateFile (.entry folder name) = .ok place ↔
      ∃ above, d.locate folder = .ok above ∧ d.get? above = some .folder ∧ place = name :: above := by
  rw [locateFile_entry d folder hname.ne_empty, locate_entry, bind_eq_ok]
  constructor
  · rintro ⟨above, habove, henter⟩
    have hfolder := get?_of_enter henter
    rw [enter_plain hfolder hname, Except.ok.injEq] at henter
    exact ⟨above, habove, hfolder, henter.symm⟩
  · rintro ⟨above, habove, hfolder, rfl⟩
    exact ⟨above, habove, enter_plain hfolder hname⟩

/-- Slashes at the end of a path do not count. -/
theorem follow_dropWhile {start : Place} {names : List String}
    (hfollow : d.follow start names = .ok place) :
    d.follow start (names.dropWhile (·.isEmpty)) = .ok place := by
  induction names generalizing place with
  | nil => exact hfollow
  | cons name names ih =>
    by_cases hname : name.isEmpty = true
    · rw [List.dropWhile_cons_of_pos hname]
      rw [follow_cons, bind_eq_ok] at hfollow
      obtain ⟨above, habove, henter⟩ := hfollow
      rw [String.isEmpty_iff.mp hname, enter, get?_of_enter henter] at henter
      cases henter
      exact ih habove
    · rw [List.dropWhile_cons_of_neg hname]
      exact hfollow

/-! ## Folders that are made -/

/-- A folder leads to itself, however many slashes follow. -/
theorem follow_of_dropWhile {start : Place} {names : List String}
    (hfollow : d.follow start (names.dropWhile (·.isEmpty)) = .ok place)
    (hfolder : d.get? place = some .folder) : d.follow start names = .ok place := by
  induction names with
  | nil => exact hfollow
  | cons name names ih =>
    by_cases hname : name.isEmpty = true
    · rw [List.dropWhile_cons_of_pos hname] at hfollow
      rw [follow_cons, bind_eq_ok]
      refine ⟨place, ih hfollow, ?_⟩
      rw [String.isEmpty_iff.mp hname, enter, hfolder]
      rfl
    · rw [List.dropWhile_cons_of_neg hname] at hfollow
      exact hfollow

/-- A place is on the way along a path: the names of the path lead there, or the first of them do. -/
def OnTheWay (d : Disk) (path : Path) (place : Place) : Prop :=
  ∃ start names, d.start path = .ok start ∧ names <:+ path.names ∧
    d.follow start names = .ok place

theorem OnTheWay.of_leads (hway : d.OnTheWay path place) (h : d.Leads d') :
    d'.OnTheWay path place := by
  obtain ⟨start, names, hstart, hnames, hfollow⟩ := hway
  exact ⟨start, names, (start_of_leads h path).trans hstart, hnames, follow_of_leads h hfollow⟩

/-- Nothing has been added to a disk but folders on the way along a path. -/
structure Paves (d d' : Disk) (path : Path) : Prop where
  widens : d.Widens d'
  way {place : Place} : d.get? place = none → d'.get? place = some .folder →
    d'.OnTheWay path place

theorem paves_of_get?_eq (h : d.Widens d') (hsame : ∀ place, d'.get? place = d.get? place)
    (path : Path) : d.Paves d' path where
  widens := h
  way {place} hfree hfolder := by
    rw [hsame, hfree] at hfolder
    cases hfolder

theorem Paves.refl (d : Disk) (path : Path) : d.Paves d path :=
  paves_of_get?_eq (.refl d) (fun _ => rfl) path

theorem paves_tick (d : Disk) (path : Path) : d.Paves d.tick path :=
  paves_of_get?_eq (widens_tick d) (get?_tick d) path

theorem Paves.trans {d'' : Disk} (h : d.Paves d' path) (h' : d'.Paves d'' path) :
    d.Paves d'' path where
  widens := h.widens.trans h'.widens
  way {place} hfree hfolder := by
    cases hnode : d'.get? place with
    | none => exact h'.way hnode hfolder
    | some node =>
      cases node with
      | folder => exact (h.way hfree hnode).of_leads h'.widens.stays.leads
      | file content =>
        rw [h.widens.file hnode] at hfree
        cases hfree

/-- A folder is made where the first names of a path lead to. -/
theorem paves_put_folder {start : Place} {names : List String} (hstart : d.start path = .ok start)
    (hnames : names <:+ path.names) (hfollow : d.follow start names = .ok place)
    (hfree : d.get? place = none) : d.Paves (d.put place .folder) path where
  widens := widens_put_folder hfree
  way {other} hother hfolder := by
    by_cases hsame : other = place
    · subst hsame
      have hway : d.OnTheWay path other := ⟨start, names, hstart, hnames, hfollow⟩
      exact hway.of_leads (extends_put hfree .folder).leads
    · rw [get?_put_of_ne d .folder hsame, hother] at hfolder
      cases hfolder

/-- A folder has been made where the first names of a path lead to, and nothing but folders on the
way. -/
structure Opens (d d' : Disk) (path : Path) (start : Place) (names : List String) : Prop where
  paves : d.Paves d' path
  opened : ∃ place, d'.follow start names = .ok place ∧ d'.get? place = some .folder

section
variable {start : Place} {names : List String}

theorem opens_of_withFolder (hstart : d.start path = .ok start) (hnames : names <:+ path.names)
    (h : d.withFolder start names = .ok d') : d.Opens d' path start names := by
  obtain ⟨place, hfollow, hmade⟩ := bind_eq_ok.mp h
  split at hmade
  case h_1 hfolder =>
    cases hmade
    exact ⟨.refl d path, place, follow_of_dropWhile hfollow hfolder, hfolder⟩
  case h_2 => cases hmade
  case h_3 hfree =>
    cases hmade
    have hpaves := paves_put_folder hstart ((List.dropWhile_suffix _).trans hnames) hfollow hfree
    have hfolder := get?_put_self d .folder (ne_nil_of_get?_eq_none hfree)
    refine ⟨hpaves, place, follow_of_dropWhile ?_ hfolder, hfolder⟩
    exact follow_of_leads hpaves.widens.stays.leads hfollow

theorem outerNames_suffix (names : List String) : outerNames names <:+ names :=
  ((List.dropWhile_suffix _).trans (List.drop_suffix _ _)).trans (List.dropWhile_suffix _)

/-- Whether or not a folder can be made, nothing but folders on the way is; and if it can, it is
there. -/
theorem paves_withFolders (hstart : d.start path = .ok start) (hnames : names <:+ path.names) :
    d.Paves (d.withFolders start names).2 path ∧
      ((d.withFolders start names).1 = .ok () →
        d.Opens (d.withFolders start names).2 path start names) := by
  fun_induction withFolders d start names with
  | case1 names made hmade =>
    have hopens := opens_of_withFolder hstart hnames hmade
    exact ⟨hopens.paves, fun _ => hopens⟩
  | case2 => exact ⟨.refl d path, nofun⟩
  | case3 names _ _ outer houter made hmade ih =>
    obtain ⟨hpaves, -⟩ := ih ((outerNames_suffix names).trans hnames)
    rw [houter] at hpaves
    have hstart' := (start_of_leads hpaves.widens.stays.leads path).trans hstart
    have hopens := opens_of_withFolder hstart' hnames hmade
    exact ⟨hpaves.trans hopens.paves, fun _ => ⟨hpaves.trans hopens.paves, hopens.opened⟩⟩
  | case4 names _ _ outer houter _ _ ih =>
    obtain ⟨hpaves, -⟩ := ih ((outerNames_suffix names).trans hnames)
    rw [houter] at hpaves
    exact ⟨hpaves, nofun⟩
  | case5 names _ _ hfailed ih =>
    obtain ⟨hpaves, -⟩ := ih ((outerNames_suffix names).trans hnames)
    exact ⟨hpaves, fun hok => (hfailed _ (Prod.ext hok rfl)).elim⟩
  | case6 => exact ⟨.refl d path, nofun⟩

end

/-- A folder that is there needs not be made. -/
theorem withFolders_of_follow {start : Place} {names : List String}
    (hfollow : d.follow start names = .ok place) (hfolder : d.get? place = some .folder) :
    d.withFolders start names = (.ok (), d) := by
  have hwith : d.withFolder start names = .ok d := by
    refine bind_eq_ok.mpr ⟨place, follow_dropWhile hfollow, ?_⟩
    rw [hfolder]
    rfl
  rw [withFolders, hwith]

/-! ## Operations -/

theorem run_attempt_of_calm {α : Type} {halfway : Nat → Disk → Disk}
    {act : Disk → Except Fault α × Disk} (h : d.trouble d.operations = none) :
    (attempt halfway act).run d = act d.tick := by
  show attempt halfway act d = _
  rw [attempt, h]
  rfl

/-- An operation that fails by itself has changed nothing, or has come halfway. -/
theorem run_attempt_of_trouble {α : Type} {halfway : Nat → Disk → Disk}
    {act : Disk → Except Fault α × Disk} {fault : Fault}
    (h : d.trouble d.operations = some fault) :
    ∃ d', (attempt halfway act).run d = (.error fault, d') ∧
      (d' = d.tick ∨ ∃ reached, d' = halfway reached d.tick) := by
  show ∃ d', attempt halfway act d = (.error fault, d') ∧ _
  rw [attempt, h]
  cases d.torn d.operations with
  | none => exact ⟨d.tick, rfl, .inl rfl⟩
  | some reached => exact ⟨halfway reached d.tick, rfl, .inr ⟨reached, rfl⟩⟩

theorem atOnce_of_ok {α : Type} {act : Disk → Except Fault (α × Disk)} {answer : α}
    (h : act d = .ok (answer, d')) : atOnce act d = (.ok answer, d') := by
  rw [atOnce, h]

theorem atOnce_of_error {α : Type} {act : Disk → Except Fault (α × Disk)} {fault : Fault}
    (h : act d = .error fault) : atOnce act d = (.error fault, d) := by
  rw [atOnce, h]

theorem run_operate {α : Type} (act : Disk → Except Fault (α × Disk)) (d : Disk) :
    (operate act).run d = match d.trouble d.operations with
      | some fault => (.error fault, d.tick)
      | none => atOnce act d.tick := by
  rw [operate]
  cases htrouble : d.trouble d.operations with
  | none => exact run_attempt_of_calm htrouble
  | some fault =>
    obtain ⟨d', hrun, hchanged⟩ := run_attempt_of_trouble htrouble
    rw [hrun]
    rcases hchanged with rfl | ⟨_, rfl⟩
    · rfl
    · rfl

theorem run_operate_of_ok {α : Type} {act : Disk → Except Fault (α × Disk)} {answer : α}
    (htrouble : d.trouble d.operations = none) (hact : act d.tick = .ok (answer, d')) :
    (operate act).run d = (.ok answer, d') := by
  rw [run_operate, htrouble]
  exact atOnce_of_ok hact

theorem run_operate_of_error {α : Type} {act : Disk → Except Fault (α × Disk)} {fault : Fault}
    (htrouble : d.trouble d.operations = none) (hact : act d.tick = .error fault) :
    (operate act).run d = (.error fault, d.tick) := by
  rw [run_operate, htrouble]
  exact atOnce_of_error hact

/-- An operation succeeds if it does not fail by itself and its act succeeds. -/
theorem run_operate_eq_ok {α : Type} {act : Disk → Except Fault (α × Disk)} {answer : α} :
    ((operate act).run d).1 = .ok answer ↔
      d.trouble d.operations = none ∧ ∃ changed, act d.tick = .ok (answer, changed) := by
  rw [run_operate]
  cases d.trouble d.operations with
  | some fault => exact ⟨nofun, fun h => nomatch h.1⟩
  | none =>
    dsimp only
    rw [atOnce]
    rcases act d.tick with fault | ⟨found, changed⟩
    · exact ⟨nofun, fun ⟨_, _, h⟩ => nomatch h⟩
    · constructor
      · intro h
        cases h
        exact ⟨rfl, changed, rfl⟩
      · rintro ⟨-, _, h⟩
        cases h
        rfl

/-- A folder that can be worked in: its path leads to it, and no operation fails by itself. -/
structure Serves (d : Disk) (folder : Path) (place : Place) : Prop where
  located : d.locate folder = .ok place
  isFolder : d.get? place = some .folder
  untroubled (n : Nat) : d.trouble n = none

theorem Serves.of_leads (hserves : d.Serves folder place) (h : d.Leads d') :
    d'.Serves folder place where
  located := locate_of_leads h hserves.located
  isFolder := h.folder hserves.isFolder
  untroubled n := (congrFun h.trouble n).trans (hserves.untroubled n)

theorem Serves.of_extends (hserves : d.Serves folder place) (h : d.Extends d') :
    d'.Serves folder place :=
  hserves.of_leads h.leads

theorem Serves.tick (h : d.Serves folder place) : d.tick.Serves folder place :=
  h.of_extends (extends_tick d)

/-- The place of a name in a folder that can be worked in. -/
theorem Serves.locate_entry (h : d.Serves folder place) (hname : Plain name) :
    d.locate (.entry folder name) = .ok (name :: place) := by
  rw [Disk.locate_entry, h.located]
  exact enter_plain h.isFolder hname

theorem Serves.locateFile_entry (h : d.Serves folder place) (hname : Plain name) :
    d.locateFile (.entry folder name) = .ok (name :: place) := by
  rw [Disk.locateFile_entry d folder hname.ne_empty, h.locate_entry hname]

theorem paves_madeFolders (d : Disk) {names : List String} (hnames : names <:+ path.names) :
    d.Paves (madeFolders path names d).2 path := by
  rw [madeFolders]
  cases hstart : d.start path with
  | ok start => exact (paves_withFolders hstart hnames).1
  | error fault => exact .refl d path

theorem repeat_outerNames_suffix (n : Nat) (names : List String) :
    Nat.repeat outerNames n names <:+ names := by
  induction n with
  | zero => exact List.suffix_rfl
  | succ n ih => exact (outerNames_suffix _).trans ih

/-- However the making of a folder ends, the disk is as if the folder or one around it had been made, or
none. -/
theorem makeFolders_snd (d : Disk) (folder : Path) :
    ((makeFolders folder).run d).2 = d.tick ∨ ∃ names, names <:+ folder.names ∧
      ((makeFolders folder).run d).2 = (madeFolders folder names d.tick).2 := by
  rw [makeFolders]
  cases htrouble : d.trouble d.operations with
  | none =>
    rw [run_attempt_of_calm htrouble]
    exact .inr ⟨folder.names, List.suffix_rfl, rfl⟩
  | some fault =>
    obtain ⟨d', hrun, hchanged⟩ := run_attempt_of_trouble htrouble
    rw [hrun]
    rcases hchanged with rfl | ⟨inner, rfl⟩
    · exact .inl rfl
    · exact .inr ⟨_, repeat_outerNames_suffix inner _, rfl⟩

/-- However the making of a folder ends, nothing is added but folders on the way to it. -/
theorem paves_makeFolders (d : Disk) (folder : Path) :
    d.Paves ((makeFolders folder).run d).2 folder := by
  rcases makeFolders_snd d folder with hnothing | ⟨names, hnames, hmade⟩
  · rw [hnothing]
    exact paves_tick d folder
  · rw [hmade]
    exact (paves_tick d folder).trans (paves_madeFolders d.tick hnames)

/-- A folder that has been made is at its path. -/
theorem exists_locate_of_makeFolders (h : (makeFolders folder).run d = (.ok (), d')) :
    ∃ place, d'.locate folder = .ok place ∧ d'.get? place = some .folder := by
  rw [makeFolders] at h
  cases htrouble : d.trouble d.operations with
  | some fault =>
    obtain ⟨_, hrun, -⟩ := run_attempt_of_trouble htrouble
    rw [hrun] at h
    cases h
  | none =>
    rw [run_attempt_of_calm htrouble, madeFolders] at h
    cases hstart : d.tick.start folder with
    | error fault =>
      rw [hstart] at h
      cases h
    | ok start =>
      rw [hstart] at h
      dsimp only at h
      have hmade := (paves_withFolders hstart (List.suffix_refl folder.names)).2
      rw [h] at hmade
      obtain ⟨hpaves, place, hfollow, hfolder⟩ := hmade rfl
      have hstart' := (start_of_leads hpaves.widens.stays.leads folder).trans hstart
      exact ⟨place, bind_eq_ok.mpr ⟨start, hstart', hfollow⟩, hfolder⟩

/-- Where no operation fails by itself, a folder is made or it is not.  If it is, it can be worked in, and
either way no file has been touched. -/
theorem run_makeFolders_cases (huntroubled : ∀ n, d.trouble n = none) (folder : Path) :
    ∃ d', d.Widens d' ∧
      ((∃ place, (makeFolders folder).run d = (.ok (), d') ∧ d'.Serves folder place) ∨
        ∃ fault, (makeFolders folder).run d = (.error fault, d')) := by
  have hwidens := (paves_makeFolders d folder).widens
  rcases hrun : (makeFolders folder).run d with ⟨fault | _, d'⟩
  · rw [hrun] at hwidens
    exact ⟨d', hwidens, .inr ⟨fault, rfl⟩⟩
  · rw [hrun] at hwidens
    obtain ⟨place, hlocate, hfolder⟩ := exists_locate_of_makeFolders hrun
    refine ⟨d', hwidens, .inl ⟨place, rfl, hlocate, hfolder, fun n => ?_⟩⟩
    exact (congrFun hwidens.stays.trouble n).trans (huntroubled n)

section Serves
variable (h : d.Serves folder place)
include h

theorem Serves.run_makeFolders : (makeFolders folder).run d = (.ok (), d.tick) := by
  obtain ⟨start, hstart, hfollow⟩ := bind_eq_ok.mp h.tick.located
  rw [makeFolders, run_attempt_of_calm (h.untroubled _), madeFolders, hstart]
  exact withFolders_of_follow hfollow h.tick.isFolder

theorem Serves.run_names : (names folder).run d = (.ok (d.children place), d.tick) := by
  refine run_operate_of_ok (h.untroubled _) (bind_eq_ok.mpr ⟨place, h.tick.located, ?_⟩)
  rw [h.tick.isFolder]
  rfl

variable (hname : Plain name)
include hname

/-- A file is created where nothing is. -/
theorem Serves.run_create (hfree : d.get? (name :: place) = none) :
    (create (.entry folder name)).run d =
      (.ok (), d.tick.put (name :: place) (.file .empty)) := by
  refine run_operate_of_ok (h.untroubled _)
    (bind_eq_ok.mpr ⟨name :: place, h.tick.locateFile_entry hname, ?_⟩)
  rw [get?_tick, hfree]
  rfl

/-- Nothing is created where something is. -/
theorem Serves.run_create_taken {node : Node} (hnode : d.get? (name :: place) = some node) :
    (create (.entry folder name)).run d = (.error .alreadyThere, d.tick) := by
  refine run_operate_of_error (h.untroubled _)
    (bind_eq_error.mpr (.inr ⟨name :: place, h.tick.locateFile_entry hname, ?_⟩))
  rw [get?_tick, hnode]
  rfl

theorem Serves.run_append {content : ByteArray} (bytes : ByteArray)
    (hfile : d.get? (name :: place) = some (.file content)) :
    (append (.entry folder name) bytes).run d =
      (.ok (), d.tick.put (name :: place) (.file (content ++ bytes))) := by
  rw [append, alter, run_attempt_of_calm (h.untroubled _)]
  refine atOnce_of_ok (bind_eq_ok.mpr ⟨name :: place, h.tick.locateFile_entry hname, ?_⟩)
  rw [get?_tick, hfile]
  rfl

end Serves

/-! ## Operations that may fail by themselves -/

/-- The path of a folder leads to it. -/
structure Reaches (d : Disk) (folder : Path) (place : Place) : Prop where
  located : d.locate folder = .ok place
  isFolder : d.get? place = some .folder

/-- What is around a folder is reached with it. -/
theorem follow_of_suffix {start : Place} {names outer : List String} (houter : outer <:+ names)
    (hfollow : d.follow start names = .ok place) (hfolder : d.get? place = some .folder) :
    ∃ above, d.follow start outer = .ok above ∧ d.get? above = some .folder := by
  induction names generalizing place with
  | nil =>
    rw [List.suffix_nil.mp houter]
    exact ⟨place, hfollow, hfolder⟩
  | cons name names ih =>
    rcases List.suffix_cons_iff.mp houter with rfl | houter
    · exact ⟨place, hfollow, hfolder⟩
    · rw [follow_cons, bind_eq_ok] at hfollow
      obtain ⟨above, habove, henter⟩ := hfollow
      exact ih houter habove (get?_of_enter henter)

/-- When a folder is there, making it changes nothing, even halfway. -/
theorem Reaches.run_makeFolders (h : d.Reaches folder place) :
    ((makeFolders folder).run d).2 = d.tick := by
  rcases makeFolders_snd d folder with hnothing | ⟨names, hnames, hmade⟩
  · exact hnothing
  · obtain ⟨start, hstart, hfollow⟩ := bind_eq_ok.mp ((locate_tick d folder).trans h.located)
    have hfolder : d.tick.get? place = some .folder := (get?_tick d place).trans h.isFolder
    obtain ⟨above, habove, hfolder'⟩ := follow_of_suffix hnames hfollow hfolder
    rw [hmade, madeFolders, hstart]
    dsimp only
    rw [withFolders_of_follow habove hfolder']

/-- Looking into a folder leaves the disk as it is. -/
theorem run_names_snd (d : Disk) (folder : Path) : ((names folder).run d).2 = d.tick := by
  rw [names, run_operate]
  cases d.trouble d.operations with
  | some fault => rfl
  | none =>
    dsimp only
    rw [atOnce]
    split
    case h_1 answer d' hact =>
      obtain ⟨place, -, hnames⟩ := bind_eq_ok.mp hact
      split at hnames
      case h_1 =>
        cases hnames
        rfl
      case h_2 => cases hnames
      case h_3 => cases hnames
    case h_2 => rfl

/-- A file is created where nothing was, or nothing happens. -/
theorem run_create_cases (d : Disk) (path : Path) :
    (∃ place, (create path).run d = (.ok (), d.tick.put place (.file .empty)) ∧
      d.locateFile path = .ok place ∧ d.get? place = none) ∨
    ∃ fault, (create path).run d = (.error fault, d.tick) := by
  rw [create, run_operate]
  cases d.trouble d.operations with
  | some fault => exact .inr ⟨fault, rfl⟩
  | none =>
    dsimp only
    rw [atOnce]
    split
    case h_1 answer d' hact =>
      obtain ⟨place, hlocate, hput⟩ := bind_eq_ok.mp hact
      rw [locateFile_tick] at hlocate
      rw [get?_tick] at hput
      split at hput
      case h_1 => cases hput
      case h_2 hfree =>
        cases hput
        exact .inl ⟨place, rfl, hlocate, hfree⟩
    case h_2 fault _ => exact .inr ⟨fault, rfl⟩

/-- A file has a certain content, and all else is as it was. -/
structure Rewrites (d d' : Disk) (place : Place) (content : ByteArray) : Prop where
  leads : d.Leads d'
  file : d'.get? place = some (.file content)
  others {other : Place} : other ≠ place → d'.get? other = d.get? other
  children (folder : Place) : d'.children folder = d.children folder

theorem rewrites_tick {content : ByteArray} (h : d.get? place = some (.file content)) :
    d.Rewrites d.tick place content where
  leads := (extends_tick d).leads
  file := (get?_tick d place).trans h
  others _ := get?_tick d _
  children _ := rfl

theorem rewrites_put {old : ByteArray} (h : d.get? place = some (.file old))
    (content : ByteArray) : d.Rewrites (d.tick.put place (.file content)) place content := by
  cases place with
  | nil => cases h
  | cons name above =>
    have hleads : d.tick.Leads (d.tick.put (name :: above) (.file content)) :=
      leads_put_of_file ((get?_tick d _).trans h) _
    refine ⟨⟨hleads.home, hleads.trouble, fun hfolder => ?_⟩,
      get?_put_self d.tick _ (List.cons_ne_nil _ _), fun hother => ?_, fun folder => ?_⟩
    · exact hleads.folder ((get?_tick d _).trans hfolder)
    · rw [get?_put_of_ne d.tick _ hother, get?_tick]
    · exact children_put_of_some ((get?_tick d _).trans h) _ folder

/-- When bytes cannot be added to a file that is there, the disk is troubled, and the first of them may
have been added. -/
theorem run_append_cases {content : ByteArray} (hlocate : d.locateFile path = .ok place)
    (hfile : d.get? place = some (.file content)) (bytes : ByteArray) :
    (∃ d', (append path bytes).run d = (.ok (), d')) ∨
    ∃ fault d' reached, (append path bytes).run d = (.error fault, d') ∧
      d.trouble d.operations = some fault ∧
      d.Rewrites d' place (content ++ bytes.extract 0 reached) := by
  have hwritten (part : ByteArray) : atOnce (written path id part) d.tick =
      (.ok (), d.tick.put place (.file (content ++ part))) := by
    refine atOnce_of_ok (bind_eq_ok.mpr ⟨place, (locateFile_tick d path).trans hlocate, ?_⟩)
    rw [get?_tick, hfile]
    rfl
  rw [append, alter]
  cases htrouble : d.trouble d.operations with
  | none =>
    rw [run_attempt_of_calm htrouble, hwritten]
    exact .inl ⟨_, rfl⟩
  | some fault =>
    obtain ⟨d', hrun, hchanged⟩ := run_attempt_of_trouble htrouble
    rcases hchanged with rfl | ⟨reached, rfl⟩
    · have hnothing : content ++ bytes.extract 0 0 = content := by simp
      exact .inr ⟨fault, _, 0, hrun, rfl, hnothing.symm ▸ rewrites_tick hfile⟩
    · rw [hwritten] at hrun
      exact .inr ⟨fault, _, reached, hrun, rfl, rewrites_put hfile _⟩

/-- What can be read is the content of the file at the path. -/
theorem run_read_eq_ok {content : ByteArray} : ((read path).run d).1 = .ok content ↔
    d.trouble d.operations = none ∧
      ∃ place, d.locate path = .ok place ∧ d.get? place = some (.file content) := by
  constructor
  · intro hread
    obtain ⟨htrouble, changed, hact⟩ := run_operate_eq_ok.mp hread
    obtain ⟨place, hlocate, hfile⟩ := bind_eq_ok.mp hact
    rw [locate_tick] at hlocate
    rw [get?_tick] at hfile
    refine ⟨htrouble, place, hlocate, ?_⟩
    split at hfile
    case h_1 hcontent =>
      cases hfile
      exact hcontent
    case h_2 => cases hfile
    case h_3 => cases hfile
  · rintro ⟨htrouble, place, hlocate, hfile⟩
    refine run_operate_eq_ok.mpr ⟨htrouble, d.tick,
      bind_eq_ok.mpr ⟨place, (locate_tick d path).trans hlocate, ?_⟩⟩
    rw [get?_tick, hfile]
    rfl

/-- A file that can be read stays as it is when something is added to the disk. -/
theorem run_read_of_extends {content : ByteArray} (h : d.Extends d')
    (huntroubled : ∀ n, d.trouble n = none) (hread : ((read path).run d).1 = .ok content) :
    ((read path).run d').1 = .ok content := by
  obtain ⟨-, place, hlocate, hfile⟩ := run_read_eq_ok.mp hread
  exact run_read_eq_ok.mpr ⟨(congrFun h.trouble _).trans (huntroubled _), place,
    locate_of_leads h.leads hlocate, h.kept hfile⟩

end Disk

end ReleaseFeed.Storage
