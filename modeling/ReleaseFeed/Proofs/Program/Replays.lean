import Mathlib.Algebra.BigOperators.Group.List.Lemmas
import Mathlib.Data.Finset.Card
import Mathlib.Order.Compare
import ReleaseFeed.Program.Replay
import ReleaseFeed.Proofs.Bus.Subscriptions
import ReleaseFeed.Proofs.Program.Verdicts

/-! # What a replay comes to

A replay publishes the contents that verify, one after the other, and counts the other files
(`foldl_step`, `Verdict.published_publishAll`).  Its two followers neither fail nor register
anybody, so each buffer is delivered to both, and what they have seen at the end is a fold over
the buffers (`seen_eq`).

The counts are raised one by one, and after each message they are those of all names that have
occurred (`Counted`).  The subscriptions that are live are those that a fold over the records
leaves (`Tracks`): a reference record opens its subscription, and the log record of its end closes
it.  What a user can rely on is put together in `summarised_of_files`.
-/
namespace ReleaseFeed.Replay
variable {visit : Visit} {visits : List Visit} {buffers : List ByteArray}

/-! ## Files -/

/-- Files are published or counted, whatever a replay has come to before. -/
theorem foldl_step (visits : List Visit) (p : Progress) : visits.foldl step p =
      { published := p.published + (verified visits).length
        rejected := p.rejected + rejectedCount visits
        post := Verdict.publishAll part visits p.post } := by
  induction visits generalizing p with
  | nil => rfl
  | cons visit rest ih =>
    obtain ⟨hpublished, hrejected⟩ := counts_cons visit rest
    rw [List.foldl_cons, ih, step, Verdict.isAccepted_of, hpublished, hrejected, ← Nat.add_assoc,
      ← Nat.add_assoc]
    cases (verified? visit.content).isSome <;> rfl

/-- A file that is put aside leaves the whole station as it is, telemetry and all. -/
theorem post_files_insert (before after : List Visit) (h : verified? visit.content = none)
    (s : Post) :
    (files (before ++ visit :: after) s).post = (files (before ++ after) s).post := by
  rw [files, files, foldl_step, foldl_step, Verdict.publishAll_insert before after h]

/-! ## Followers -/

theorem quiet_follower (o : Follower) : Observer.Quiet o := by
  intro buffer seen
  cases o with
  | references => rfl
  | census =>
    simp only [Observer.notify]
    cases Wire.verify buffer <;> rfl

/-- The types that are counted of buffers. -/
def typesOf (buffers : List ByteArray) : List RecordType :=
  buffers.filterMap fun buffer => (Wire.verify buffer).toOption

/-- The followers in the order in which they are notified. -/
def followers : List Follower :=
  [.references, .census]

/-- Each follower sees all buffers and nothing of the other one. -/
theorem seen_eq (buffers : List ByteArray) (seen : Seen) :
    buffers.foldl (fun seen buffer => Bus.notifyAll buffer followers seen) seen =
      (typesOf buffers).foldl Seen.count
        { seen with references := buffers.foldl References.notify seen.references } := by
  induction buffers generalizing seen with
  | nil => rfl
  | cons buffer rest ih =>
    rw [List.foldl_cons, ih, List.foldl_cons, typesOf, typesOf, List.filterMap_cons]
    simp only [Bus.notifyAll, followers, List.foldl_cons, List.foldl_nil, Observer.notify]
    cases Wire.verify buffer <;> rfl

/-! ## Counts -/

/-- Each name that has occurred has its number, and no other name has any. -/
def Counted (names : List String) (counts : Std.TreeMap String Nat) : Prop :=
  ∀ name n, counts[name]? = some n ↔ n ≠ 0 ∧ n = names.count name

section
variable {names : List String} {counts : Std.TreeMap String Nat}

theorem counted_nil : Counted [] {} := by
  intro name n
  rw [Std.TreeMap.getElem?_emptyc, List.count_nil]
  exact ⟨nofun, fun h => absurd h.2 h.1⟩

theorem Counted.getD_eq (h : Counted names counts) (name : String) :
    counts[name]?.getD 0 = names.count name := by
  cases hcount : counts[name]? with
  | some n => exact ((h name n).mp hcount).2
  | none =>
    by_contra hzero
    have hsome := (h name (names.count name)).mpr ⟨Ne.symm hzero, rfl⟩
    rw [hcount] at hsome
    cases hsome

/-- One more occurrence raises the number of its name, and of no other one. -/
theorem Counted.alter (h : Counted names counts) (name : String) :
    Counted (names ++ [name])
      (counts.alter name fun count? => some (count?.getD 0 + 1)) := by
  intro name' n
  rw [Std.TreeMap.getElem?_alter, List.count_append, List.count_singleton]
  by_cases hsame : name = name'
  · subst hsame
    rw [if_pos (Std.compare_self), if_pos (beq_self_eq_true name), h.getD_eq, Option.some_inj]
    constructor
    · rintro rfl
      exact ⟨Nat.succ_ne_zero _, rfl⟩
    · exact fun hn => hn.2.symm
  · rw [if_neg fun heq => hsame (Std.compare_eq_iff_eq.mp heq), if_neg (by simpa using hsame),
      Nat.add_zero]
    exact h name' n

theorem Counted.foldl_count (seen : Seen) (h : Counted names seen.counts)
    (types : List RecordType) :
    Counted (names ++ types.map RecordType.name) (types.foldl Seen.count seen).counts := by
  induction types generalizing names seen with
  | nil =>
    rw [List.map_nil, List.append_nil]
    exact h
  | cons type rest ih =>
    have hrest := ih (seen.count type) (h.alter type.name)
    rwa [List.append_assoc] at hrest

/-- The counts are no matter of the reference data. -/
theorem references_foldl_count (types : List RecordType) (seen : Seen) :
    (types.foldl Seen.count seen).references = seen.references := by
  induction types generalizing seen with
  | nil => rfl
  | cons type rest ih =>
    rw [List.foldl_cons, ih]
    rfl

theorem Counted.mem_toList_iff (h : Counted names counts) {name : String} {n : Nat} :
    (name, n) ∈ counts.toList ↔ n ≠ 0 ∧ n = names.count name := by
  rw [Std.TreeMap.mem_toList_iff_getElem?_eq_some]
  exact h name n

theorem pairwise_toList (counts : Std.TreeMap String Nat) :
    (counts.toList.map Prod.fst).Pairwise (· < ·) := by
  rw [Std.TreeMap.map_fst_toList_eq_keys]
  exact Std.TreeMap.ordered_keys.imp fun hlt => compare_lt_iff_lt.mp hlt

theorem Counted.keys_perm (h : Counted names counts) : counts.keys.Perm names.dedup := by
  rw [List.perm_ext_iff_of_nodup Std.TreeMap.nodup_keys (List.nodup_dedup names)]
  intro name
  rw [Std.TreeMap.mem_keys, List.mem_dedup, Std.TreeMap.mem_iff_isSome_getElem?,
    Option.isSome_iff_exists]
  constructor
  · rintro ⟨n, hn⟩
    obtain ⟨hzero, rfl⟩ := (h name n).mp hn
    exact List.count_pos_iff.mp (Nat.pos_of_ne_zero hzero)
  · exact fun hmem => ⟨_, (h name _).mpr ⟨(List.count_pos_iff.mpr hmem).ne', rfl⟩⟩

/-- The numbers add up to the number of all occurrences. -/
theorem Counted.sum_toList (h : Counted names counts) :
    (counts.toList.map Prod.snd).sum = names.length := by
  have hnumbers : counts.toList.map Prod.snd = counts.keys.map names.count := by
    rw [← Std.TreeMap.map_fst_toList_eq_keys, List.map_map]
    exact List.map_congr_left fun entry hmem => (h.mem_toList_iff.mp hmem).2
  rw [hnumbers, (h.keys_perm.map _).sum_eq]
  exact List.sum_map_count_dedup_eq_length names

end

/-! ## Types -/

theorem injective_name : Function.Injective RecordType.name := by
  intro type type' h
  cases type <;> cases type' <;> first | rfl | exact absurd h (by decide)

/-- The names of some types are counted as the types are. -/
theorem Counted.mem_toList_iff_of_types {types : List RecordType}
    {counts : Std.TreeMap String Nat} (h : Counted (types.map RecordType.name) counts)
    {name : String} {n : Nat} : (name, n) ∈ counts.toList ↔
      ∃ type : RecordType, name = type.name ∧ n ≠ 0 ∧ n = types.count type := by
  rw [h.mem_toList_iff]
  constructor
  · rintro ⟨hzero, hcount⟩
    have hmem : name ∈ types.map RecordType.name :=
      List.count_pos_iff.mp (hcount ▸ Nat.pos_of_ne_zero hzero)
    obtain ⟨type, -, rfl⟩ := List.mem_map.mp hmem
    rw [List.count_map_of_injective _ _ injective_name] at hcount
    exact ⟨type, rfl, hzero, hcount⟩
  · rintro ⟨type, rfl, hzero, hcount⟩
    rw [List.count_map_of_injective _ _ injective_name]
    exact ⟨hzero, hcount⟩

/-- The types that are counted are those of the records. -/
theorem typesOf_verified (visits : List Visit) :
    typesOf (verified visits) = (records visits).map Record.type := by
  rw [typesOf, records, List.map_filterMap]
  refine List.filterMap_congr fun buffer hmem => ?_
  obtain ⟨r, hr⟩ := exists_decode_of_mem_verified hmem
  rw [Record.verify_of_decode hr, hr]
  rfl

theorem length_records (visits : List Visit) :
    (records visits).length = (verified visits).length := by
  have hlength := congrArg List.length (map_decode_verified visits)
  rwa [List.length_map, List.length_map, eq_comm] at hlength

/-! ## Live subscriptions -/

/-- The live subscriptions after one more record. -/
def follow (live : Finset UInt64) : Record → Finset UInt64
  | .reference data => insert data.correlationId live
  | .log record =>
    if record.component = .subscription ∧
        (record.status = SubscriptionStatus.terminated.code ∨
          record.status = SubscriptionStatus.failure.code) then
      live.erase record.correlationId
    else
      live
  | .economic _ | .calendar _ | .seriesHeadline _ | .seriesEntry _ => live

/-- The subscriptions that are live after these records. -/
def live (records : List Record) : Finset UInt64 :=
  records.foldl follow ∅

/-- The reference data is kept of these subscriptions. -/
def Tracks (live : Finset UInt64) (r : References) : Prop :=
  ∀ id, id ∈ live ↔ (r.get? id).isSome

variable {ids : Finset UInt64} {r : References} {record : Record} {buffer : ByteArray}

theorem Tracks.card_eq (h : Tracks ids r) : r.size = ids.card := by
  have hkeys : r.entries.keys.toFinset = ids := by
    ext id
    rw [List.mem_toFinset, Std.HashMap.mem_keys, Std.HashMap.mem_iff_isSome_getElem?, h id]
    rfl
  have hnodup : r.entries.keys.Nodup := Std.HashMap.nodup_keys
  rw [← hkeys, List.toFinset_card_of_nodup hnodup, Std.HashMap.length_keys, References.size]

theorem Tracks.add (h : Tracks ids r) (data : ReferenceData) :
    Tracks (insert data.correlationId ids) (r.add data) := by
  intro id
  rw [Finset.mem_insert, h id, References.get?_add]
  by_cases hsame : data.correlationId = id
  · rw [if_pos hsame]
    exact ⟨fun _ => rfl, fun _ => .inl hsame.symm⟩
  · rw [if_neg hsame]
    exact ⟨fun hmem => hmem.resolve_left (Ne.symm hsame), .inr⟩

theorem Tracks.remove (h : Tracks ids r) (taken : UInt64) :
    Tracks (ids.erase taken) (r.remove taken) := by
  intro id
  rw [Finset.mem_erase, h id, References.get?_remove]
  by_cases hsame : taken = id
  · rw [if_pos hsame]
    exact ⟨fun hmem => absurd hsame.symm hmem.1, nofun⟩
  · rw [if_neg hsame]
    exact ⟨And.right, fun hmem => ⟨Ne.symm hsame, hmem⟩⟩

/-- The kept reference data follows the records. -/
theorem Tracks.notify (h : Tracks ids r) (hdecode : Record.decode buffer = .ok record) :
    Tracks (follow ids record) (r.notify buffer) := by
  rw [References.notify, hdecode]
  cases record with
  | reference data => exact h.add data
  | log record =>
    dsimp only [follow]
    rcases References.observeLog_cases r record with ⟨hends, hremove⟩ | ⟨hidle, hsame⟩
    · rw [hremove, if_pos ⟨hends.component_eq, hends.status_eq⟩]
      exact h.remove record.correlationId
    · rw [hsame, if_neg fun hends => hidle record.correlationId ⟨hends.1, hends.2, rfl⟩]
      exact h
  | economic | calendar | seriesHeadline | seriesEntry => exact h

theorem Tracks.foldl (h : Tracks ids r) {records : List Record}
    (hdecode : buffers.map Record.decode = records.map .ok) :
    Tracks (records.foldl follow ids) (buffers.foldl References.notify r) := by
  induction buffers generalizing ids r records with
  | nil =>
    rw [List.map_nil, eq_comm, List.map_eq_nil_iff] at hdecode
    rw [hdecode]
    exact h
  | cons buffer rest ih =>
    rw [List.map_cons, eq_comm, List.map_eq_cons_iff] at hdecode
    obtain ⟨record, more, rfl, hfirst, hrest⟩ := hdecode
    exact ih (h.notify hfirst.symm) hrest.symm

theorem tracks_live (visits : List Visit) :
    Tracks (live (records visits)) ((verified visits).foldl References.notify {}) := by
  refine Tracks.foldl (fun id => ?_) (map_decode_verified visits)
  rw [References.get?, Std.HashMap.getElem?_empty]
  constructor
  · intro hmem
    exact absurd hmem (Finset.notMem_empty id)
  · intro hsome
    cases hsome

/-! ## What a user can rely on -/

/-- A station with a bus that nobody observes yet, and with nothing seen. -/
def unobserved (sink : Sink) (counters : BusCounters)
    (telemetry : Option Telemetry.Machine) : Post :=
  { bus := some { sink, counters }, telemetry, world := {} }

/-- What holds of the replay of a list of files, and of the bus after it. -/
structure Summarised (visits : List Visit) (sink : Sink) (counters : BusCounters)
    (telemetry : Option Telemetry.Machine) (p : Progress) : Prop where
  /-- The contents that verify are published, and all other files are put aside. -/
  published : p.summary.published = (verified visits).length
  rejected : p.summary.rejected = rejectedCount visits
  total : p.summary.published + p.summary.rejected = visits.length
  /-- Of each type the contents that verify as it are counted under its name, if there are any. -/
  byType (name : String) (n : Nat) : (name, n) ∈ p.summary.byType ↔
    ∃ type : RecordType, name = type.name ∧ n ≠ 0 ∧
      n = (verified visits).countP fun buffer => (Wire.verify buffer).toOption == some type
  ordered : (p.summary.byType.map Prod.fst).Pairwise (· < ·)
  sum : (p.summary.byType.map Prod.snd).sum = p.summary.published
  /-- The subscriptions that the records have left live. -/
  decoded : (verified visits).map Record.decode = (records visits).map .ok
  references : p.summary.references = (live (records visits)).card
  /-- Each buffer was delivered to both followers, none of which has failed, and no line was
  written. -/
  bus : p.post.bus = some
    { observers := followers
      sink
      counters := { counters with
        publishes := counters.publishes + .ofNat p.summary.published
        deliveries := counters.deliveries + .ofNat (2 * p.summary.published) } }
  /-- A file that is put aside is counted, and leaves the whole station as it is, telemetry and
  all, wherever it stands. -/
  insensitive {before after : List Visit} {visit : Visit}
      (hvisits : visits = before ++ visit :: after) (hcontent : verified? visit.content = none) :
    p.summary =
        { (files (before ++ after) (unobserved sink counters telemetry)).summary with
          rejected := (files (before ++ after)
            (unobserved sink counters telemetry)).summary.rejected + 1 } ∧
      p.post = (files (before ++ after) (unobserved sink counters telemetry)).post
  /-- Telemetry is beside all this. -/
  unmeasured (other : Option Telemetry.Machine) :
    (files visits (unobserved sink counters other)).summary = p.summary ∧
      (files visits (unobserved sink counters other)).post.bus = p.post.bus

/-- What the followers have seen of these buffers, from nothing. -/
def seenOf (buffers : List ByteArray) : Seen :=
  (typesOf buffers).foldl Seen.count { references := buffers.foldl References.notify {} }

theorem counted_seenOf (buffers : List ByteArray) :
    Counted ((typesOf buffers).map RecordType.name) (seenOf buffers).counts :=
  Counted.foldl_count { references := buffers.foldl References.notify {} } counted_nil
    (typesOf buffers)

section
variable (visits : List Visit) (sink : Sink) (counters : BusCounters)
  (telemetry : Option Telemetry.Machine)

/-- The summary and the bus, from the contents that verify. -/
theorem summary_files : (files visits (unobserved sink counters telemetry)).summary =
      { published := (verified visits).length
        rejected := rejectedCount visits
        byType := (seenOf (verified visits)).counts.toList
        references := (live (records visits)).card } ∧
    (files visits (unobserved sink counters telemetry)).post.bus = some
      ({ observers := followers, sink, counters : Bus Follower }.afterDeliveries
        (verified visits).length) := by
  have hfiles := foldl_step visits (start (unobserved sink counters telemetry))
  have hposts := Verdict.published_publishAll part visits
    (start (unobserved sink counters telemetry)).post
  have hrun := Bus.run_postings_of_quiet (b := { observers := followers, sink, counters })
    (List.cons_ne_nil _ _) (fun o _ => quiet_follower o) {} (postings visits)
  rw [length_postings, ← List.foldl_map (f := Bus.Posting.buffer)
    (g := fun seen buffer => Bus.notifyAll buffer followers seen), map_buffer_postings,
    seen_eq] at hrun
  have hseen := hposts.2.trans (congrArg Prod.snd hrun)
  rw [files, hfiles, Progress.summary, hseen, ← (tracks_live visits).card_eq]
  refine ⟨?_, hposts.1.trans (congrArg (fun s => some s.1) hrun)⟩
  rw [references_foldl_count]
  simp only [start, Nat.zero_add]
  rfl

/-- **A replay publishes the contents that verify, and its summary is a fold over their records**,
whatever else is in the list, however much time passes and however full the telemetry is. -/
theorem summarised_of_files : Summarised visits sink counters telemetry
    (files visits (unobserved sink counters telemetry)) := by
  obtain ⟨hsummary, hbus⟩ := summary_files visits sink counters telemetry
  have hcounted := counted_seenOf (verified visits)
  have htypes : (typesOf (verified visits)).length = (verified visits).length := by
    rw [typesOf_verified, List.length_map, length_records]
  refine ⟨?_, ?_, ?_, ?_, ?_, ?_, map_decode_verified visits, ?_, ?_, ?_, ?_⟩
  · rw [hsummary]
  · rw [hsummary]
  · rw [hsummary]
    exact length_verified_add_rejectedCount visits
  · intro name n
    rw [hsummary, hcounted.mem_toList_iff_of_types]
    simp only [typesOf, List.count_filterMap]
  · rw [hsummary]
    exact pairwise_toList _
  · rw [hsummary, hcounted.sum_toList, List.length_map, htypes]
  · rw [hsummary]
  · rw [hbus, hsummary]
    rfl
  · intro before after visit hvisits hcontent
    obtain ⟨hsummary', -⟩ := summary_files (before ++ after) sink counters telemetry
    have hverified : verified visits = verified (before ++ after) :=
      hvisits ▸ verified_insert before after hcontent
    have hrejected : rejectedCount visits = rejectedCount (before ++ after) + 1 :=
      hvisits ▸ rejectedCount_insert before after hcontent
    refine ⟨?_, hvisits ▸ post_files_insert before after hcontent _⟩
    rw [hsummary, hsummary', records, hverified, hrejected]
    rfl
  · intro other
    obtain ⟨hsummary', hbus'⟩ := summary_files visits sink counters other
    exact ⟨hsummary'.trans hsummary.symm, hbus'.trans hbus.symm⟩

end

end ReleaseFeed.Replay
