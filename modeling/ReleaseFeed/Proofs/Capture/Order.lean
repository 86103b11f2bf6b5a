import Mathlib
import ReleaseFeed.Proofs.Capture.Saving

/-! # The order of captures

A folder is listed in the order of its numbers, and a save takes the number after the last one.
So what is saved later is listed later, after everything that was there before
(`captured_of_saveAll`).  Numbers are compared and not names: a name with a seventh digit comes
after all that have six, and two names may even have one number, in which case nothing is said
about which of them comes first.
-/
namespace ReleaseFeed.Capture
open Storage

/-! ## Sorting -/

section Sorting
variable {entries more sorted : List (UInt32 × String)} {newest : UInt32 × String}

/-- What is above all others comes last when everything is in order. -/
theorem eq_concat_of_perm (hperm : sorted.Perm (entries ++ [newest]))
    (hsorted : sorted.Pairwise fun a b => a.1 ≤ b.1)
    (habove : ∀ entry ∈ entries, entry.1 < newest.1) :
    ∃ rest, sorted = rest ++ [newest] ∧ rest.Perm entries := by
  rcases List.eq_nil_or_concat sorted with rfl | ⟨rest, last, rfl⟩
  · exact absurd hperm.symm.eq_nil (List.append_ne_nil_of_right_ne_nil _ (List.cons_ne_nil _ _))
  · rw [List.concat_eq_append] at *
    have hlast : last = newest := by
      have hmem : last ∈ entries ++ [newest] :=
        hperm.subset (List.mem_append_right _ List.mem_cons_self)
      rcases List.mem_append.mp hmem with hlast | hlast
      · -- an older one cannot come last, since the newest would have to stand before it
        have hnewest : newest ∈ rest ++ [last] :=
          hperm.symm.subset (List.mem_append_right _ List.mem_cons_self)
        have hlt := habove last hlast
        rcases List.mem_append.mp hnewest with hbefore | hsame
        · have hle := (List.pairwise_append.mp hsorted).2.2 newest hbefore last List.mem_cons_self
          exact absurd hlt (UInt32.not_lt.mpr hle)
        · exact (List.mem_singleton.mp hsame).symm
      · exact List.mem_singleton.mp hlast
    subst hlast
    exact ⟨rest, rfl, (List.perm_append_right_iff _).mp hperm⟩

/-- What is above all others, one above the other, comes last in this order. -/
theorem eq_append_of_perm (hperm : sorted.Perm (entries ++ more))
    (hsorted : sorted.Pairwise fun a b => a.1 ≤ b.1)
    (habove : ∀ entry ∈ entries, ∀ new ∈ more, entry.1 < new.1)
    (hmore : more.Pairwise fun a b => a.1 < b.1) :
    ∃ rest, sorted = rest ++ more ∧ rest.Perm entries := by
  induction more using List.reverseRecOn generalizing sorted with
  | nil =>
    rw [List.append_nil] at hperm
    exact ⟨sorted, (List.append_nil _).symm, hperm⟩
  | append_singleton more newest ih =>
    rw [← List.append_assoc] at hperm
    rw [List.pairwise_append] at hmore
    obtain ⟨hmore, -, hnewest⟩ := hmore
    have habove' : ∀ entry ∈ entries ++ more, entry.1 < newest.1 := by
      intro entry hentry
      rcases List.mem_append.mp hentry with hold | hnew
      · exact habove entry hold newest (List.mem_append_right _ List.mem_cons_self)
      · exact hnewest entry hnew newest List.mem_cons_self
    obtain ⟨front, rfl, hfront⟩ := eq_concat_of_perm hperm hsorted habove'
    obtain ⟨rest, rfl, hrest⟩ := ih hfront (List.pairwise_append.mp hsorted).1
      (fun entry hentry new hnew => habove entry hentry new (List.mem_append_left _ hnew)) hmore
    exact ⟨rest, List.append_assoc _ _ _, hrest⟩

end Sorting

/-! ## Listing -/

/-- The captures among the names in a folder. -/
def captures (names : List String) : List String :=
  names.filter fun name => (number? name).isSome

theorem map_snd_numbered (names : List String) :
    (numbered names).map Prod.snd = captures names := by
  induction names with
  | nil => rfl
  | cons name rest ih =>
    rw [numbered, captures] at *
    cases hnumber : number? name with
    | none => simp [hnumber, ih]
    | some number => simp [hnumber, ih]

theorem numbered_map_nameOf (numbers : List UInt32) :
    numbered (numbers.map nameOf) = numbers.map fun number => (number, nameOf number) := by
  induction numbers with
  | nil => rfl
  | cons number rest ih =>
    rw [numbered] at ih ⊢
    rw [List.map_cons, List.filterMap_cons, number?_nameOf, ih]
    rfl

theorem filterMap_number?_map_snd {entries : List (UInt32 × String)}
    (h : ∀ entry ∈ entries, number? entry.2 = some entry.1) :
    (entries.map Prod.snd).filterMap number? = entries.map Prod.fst := by
  rw [List.filterMap_map]
  exact (List.filterMap_congr h).trans (congrFun List.filterMap_eq_map' _)

/-- What is listed are the captures, in the order of their numbers. -/
theorem exists_inOrder_eq (names : List String) :
    ∃ entries : List (UInt32 × String), inOrder names = entries.map Prod.snd ∧
      entries.Perm (numbered names) ∧ entries.Pairwise fun a b => a.1 ≤ b.1 := by
  have hsorted : ((numbered names).mergeSort fun a b => a.1 ≤ b.1).Pairwise
      fun a b => decide (a.1 ≤ b.1) = true := by
    refine List.pairwise_mergeSort ?_ ?_ (numbered names)
    · intro a b c hab hbc
      rw [decide_eq_true_eq] at hab hbc ⊢
      exact UInt32.le_trans hab hbc
    · intro a b
      rw [Bool.or_eq_true, decide_eq_true_eq, decide_eq_true_eq]
      exact UInt32.le_total a.1 b.1
  exact ⟨_, rfl, List.mergeSort_perm _ _, hsorted.imp of_decide_eq_true⟩

@[simp] theorem inOrder_nil : inOrder [] = [] := by
  simp [inOrder, numbered]

theorem inOrder_singleton {name : String} {number : UInt32} (h : number? name = some number) :
    inOrder [name] = [name] := by
  rw [inOrder, numbered_singleton h, List.mergeSort_singleton]
  rfl

/-- Captures are listed in the order of their numbers, and those that are above all others, one
above the other, come last as they are. -/
theorem inOrder_append {names : List String} {numbers : List UInt32}
    (habove : ∀ number ∈ numbers, lastNumber names < number)
    (hnumbers : numbers.Pairwise (· < ·)) :
    ∃ old, inOrder (names ++ numbers.map nameOf) = old ++ numbers.map nameOf ∧
      old.Perm (captures names) ∧
      ((old ++ numbers.map nameOf).filterMap number?).Pairwise (· ≤ ·) := by
  obtain ⟨entries, hinOrder, hperm, hsorted⟩ := exists_inOrder_eq (names ++ numbers.map nameOf)
  have hnumbered : ∀ entry ∈ entries, number? entry.2 = some entry.1 := by
    intro entry hentry
    exact (mem_numbered.mp (hperm.subset hentry)).2
  rw [numbered_append, numbered_map_nameOf] at hperm
  have hold : ∀ entry ∈ numbered names, ∀ new ∈ numbers.map fun number => (number, nameOf number),
      entry.1 < new.1 := by
    intro entry hentry new hnew
    obtain ⟨number, hnumber, rfl⟩ := List.mem_map.mp hnew
    obtain ⟨hmem, hread⟩ := mem_numbered.mp hentry
    exact UInt32.lt_of_le_of_lt (le_lastNumber hmem hread) (habove number hnumber)
  obtain ⟨rest, rfl, hrest⟩ := eq_append_of_perm hperm hsorted hold (List.pairwise_map.mpr hnumbers)
  refine ⟨rest.map Prod.snd, ?_, ?_, ?_⟩
  · rw [hinOrder, List.map_append, List.map_map]
    rfl
  · rw [← map_snd_numbered]
    exact hrest.map Prod.snd
  · have hnames : rest.map Prod.snd ++ numbers.map nameOf =
        (rest ++ numbers.map fun number => (number, nameOf number)).map Prod.snd := by
      rw [List.map_append, List.map_map]
      rfl
    rw [hnames, filterMap_number?_map_snd hnumbered, List.pairwise_map]
    exact hsorted

theorem isSome_number?_of_mem_inOrder {names : List String} {name : String}
    (h : name ∈ inOrder names) : (number? name).isSome = true := by
  obtain ⟨entries, hinOrder, hperm, -⟩ := exists_inOrder_eq names
  rw [hinOrder] at h
  obtain ⟨entry, hentry, rfl⟩ := List.mem_map.mp h
  rw [(mem_numbered.mp (hperm.subset hentry)).2]
  rfl

/-! ## Saving and listing -/

section Disk
variable {d : Disk} {folder path : Path} {place : Place} {buffers : List ByteArray}

theorem list_of_names {d' : Disk} {names : List String}
    (h : (Disk.names folder).run d = (.ok names, d')) :
    ((list folder).run d).1 = .ok ((inOrder names).map (.entry folder)) := by
  rw [list, asked, StateT.run_bind, StateT.run_bind, h]
  rfl

theorem run_list (h : d.Serves folder place) :
    ((list folder).run d).1 = .ok ((inOrder (d.children place)).map (.entry folder)) :=
  list_of_names h.run_names

/-- What can be said after some buffers have been saved in a folder, one after another. -/
structure Captured (d : Disk) (folder : Path) (place : Place) (buffers : List ByteArray)
    (results : List (Except Error Path)) (d' : Disk) (new : List String) : Prop where
  saved : results = new.map fun name => .ok (.entry folder name)
  /-- No name was taken before. -/
  fresh : ∀ name ∈ new, name ∉ d.children place
  /-- The captures that were there are listed by number, and then what was saved, as it was
  saved. -/
  listed : ∃ old, old.Perm (captures (d.children place)) ∧
    ((old ++ new).filterMap number?).Pairwise (· ≤ ·) ∧
    ((list folder).run d').1 = .ok ((old ++ new).map (.entry folder))
  /-- Other names are not listed. -/
  foreign (name : String) (hname : number? name = none) (paths : List Path)
    (hlist : ((list folder).run d').1 = .ok paths) : .entry folder name ∉ paths
  readBack : List.Forall₂ (fun name buffer => ((read (.entry folder name)).run d').1 = .ok buffer)
    new buffers
  /-- All that was on the disk is still there, and reads as it did. -/
  stays (other : Place) (node : Node) (hnode : d.get? other = some node) :
    d'.get? other = some node
  readable (path : Path) (content : ByteArray) (hread : ((read path).run d).1 = .ok content) :
    ((read path).run d').1 = .ok content

/-- **What is saved later is listed later**, after all captures that were there before, and reads
as it was saved. -/
theorem captured_of_saveAll (h : d.Serves folder place)
    (hbuffers : ∀ buffer ∈ buffers, buffer.isEmpty = false)
    (hroom : (lastNumber (d.children place)).toNat + buffers.length < UInt32.size) :
    Captured d folder place buffers ((saveAll folder buffers).run d).1
      ((saveAll folder buffers).run d).2
      (namesAfter (lastNumber (d.children place)).toNat buffers.length) := by
  obtain ⟨d', hrun, hgained⟩ := run_saveAll h hbuffers hroom
  rw [hrun]
  have hserves := h.of_extends hgained.stays
  have hchildren : d'.children place = d.children place ++
      namesAfter (lastNumber (d.children place)).toNat buffers.length := by
    rw [hgained.children, List.map_fst_zip (length_namesAfter _ _).le]
  obtain ⟨old, hinOrder, hold, hsorted⟩ := inOrder_append
    (fun number hnumber => lt_of_mem_numbersAfter hroom hnumber) (pairwise_numbersAfter hroom)
  have hlist := run_list hserves
  rw [hchildren] at hlist
  refine ⟨rfl, ?_, ⟨old, hold, hsorted, ?_⟩, ?_, ?_, ?_, ?_⟩
  · intro name hname
    obtain ⟨number, hnumber, rfl⟩ := List.mem_map.mp hname
    exact nameOf_notMem (lt_of_mem_numbersAfter hroom hnumber)
  · rw [hlist, namesAfter, hinOrder]
  · intro name hname paths hpaths hmem
    rw [hlist] at hpaths
    cases hpaths
    obtain ⟨listed, hlisted, hentry⟩ := List.mem_map.mp hmem
    cases hentry
    have hsome := isSome_number?_of_mem_inOrder hlisted
    rw [hname] at hsome
    cases hsome
  · refine List.forall₂_iff_zip.mpr ⟨length_namesAfter _ _, fun {name buffer} hfile => ?_⟩
    obtain ⟨number, -, hnumber⟩ := List.mem_map.mp (List.of_mem_zip hfile).1
    have hplain : Disk.Plain name := hnumber ▸ plain_nameOf number
    exact run_read_eq_ok.mpr (Disk.run_read_eq_ok.mpr ⟨hserves.untroubled _, name :: place,
      hserves.locate_entry hplain, hgained.content (name, buffer) hfile⟩)
  · exact fun other node hnode => hgained.stays.kept hnode
  · intro path content hread
    rw [run_read_eq_ok] at hread ⊢
    exact Disk.run_read_of_extends hgained.stays h.untroubled hread

end Disk

/-- A folder with a note in it and the capture whose number is the last with six digits. -/
def sixDigits : Disk where
  nodes := [(["feed"], .folder), (["note.txt", "feed"], .file .empty),
    (["fb_999999.bin", "feed"], .file .empty)]

/-- What is saved there gets a seventh digit, and is listed last all the same. -/
theorem captured_seventh_digit :
    Captured sixDigits (.given "feed") ["feed"] [⟨#[1]⟩, ⟨#[2, 3]⟩]
      ((saveAll (.given "feed") [⟨#[1]⟩, ⟨#[2, 3]⟩]).run sixDigits).1
      ((saveAll (.given "feed") [⟨#[1]⟩, ⟨#[2, 3]⟩]).run sixDigits).2
      ["fb_1000000.bin", "fb_1000001.bin"] := by
  have hlast : lastNumber (sixDigits.children ["feed"]) = 999999 := by decide +kernel
  have hnames : namesAfter (lastNumber (sixDigits.children ["feed"])).toNat 2 =
      ["fb_1000000.bin", "fb_1000001.bin"] := by
    rw [hlast]
    decide +kernel
  have hserves : sixDigits.Serves (.given "feed") ["feed"] := ⟨by cbv, rfl, fun _ => rfl⟩
  rw [← hnames]
  refine captured_of_saveAll hserves (by decide) ?_
  rw [hlast]
  decide

end ReleaseFeed.Capture
