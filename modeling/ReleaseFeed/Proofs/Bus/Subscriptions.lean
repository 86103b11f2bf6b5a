import ReleaseFeed.References
import Mathlib.Data.List.Induction

/-! # What is stored is what the history says

The reference data is a function of its whole history: of what was stored and taken out
directly, of the log records that were observed, and of the buffers that were published.  What
an operation tells about a subscription is said without the store: it stores something
(`Operation.Stores`), it ends the subscription (`Operation.Forgets`), or it is idle.

`perform_cases` says all that an operation can do.  From it follows how a look-up changes, and
then, by induction over the history, that a look-up finds what was last stored and not taken out
since (`get?_run_eq_some_iff`).
-/
namespace ReleaseFeed
namespace References

/-! ## Histories -/

/-- What is done to reference data. -/
inductive Operation where
  | add (data : ReferenceData)
  | remove (correlationId : UInt64)
  | observeLog (record : LogRecord)
  | notify (buffer : ByteArray)

/-- The reference data after an operation. -/
def perform (r : References) : Operation → References
  | .add data => r.add data
  | .remove correlationId => r.remove correlationId
  | .observeLog record => (r.observeLog record).2
  | .notify buffer => r.notify buffer

/-- The reference data after a list of operations, from none at all. -/
def run (ops : List Operation) : References :=
  ops.foldl perform empty

theorem run_concat (ops : List Operation) (op : Operation) :
    run (ops ++ [op]) = (run ops).perform op := by
  rw [run, List.foldl_append]
  rfl

/-- The subscription component reports that a subscription was terminated or has failed. -/
structure Ends (record : LogRecord) (correlationId : UInt64) : Prop where
  component_eq : record.component = .subscription
  status_eq : record.status = SubscriptionStatus.terminated.code ∨
    record.status = SubscriptionStatus.failure.code
  correlationId_eq : record.correlationId = correlationId

namespace Operation

/-- The operation stores reference data, or brings a buffer that carries them. -/
def Stores (data : ReferenceData) : Operation → Prop
  | add stored => stored = data
  | notify buffer => Record.decode buffer = .ok (.reference data)
  | remove _ | observeLog _ => False

/-- The operation takes out a subscription, or brings a log record that ends it. -/
def Forgets (correlationId : UInt64) : Operation → Prop
  | remove taken => taken = correlationId
  | observeLog record => Ends record correlationId
  | notify buffer => ∃ record, Record.decode buffer = .ok (.log record) ∧ Ends record correlationId
  | add _ => False

/-- The operation stores something for a subscription, or takes it out. -/
def Concerns (correlationId : UInt64) (op : Operation) : Prop :=
  op.Forgets correlationId ∨ ∃ data, op.Stores data ∧ data.correlationId = correlationId

end Operation

variable {r : References} {ops : List Operation} {op : Operation} {id : UInt64}
  {data : ReferenceData} {record : LogRecord}

/-! ## What an operation does -/

theorem isEnded_ofCode_iff (status : UInt8) : (SubscriptionStatus.ofCode status).isEnded ↔
    status = SubscriptionStatus.terminated.code ∨ status = SubscriptionStatus.failure.code := by
  constructor
  · intro h
    rw [SubscriptionStatus.ofCode] at h
    split at h
    case h_3 hthree => exact .inl (UInt8.toNat_inj.mp hthree)
    case h_5 hfive => exact .inr (UInt8.toNat_inj.mp hfive)
    all_goals cases h
  · rintro (rfl | rfl)
    · rfl
    · rfl

theorem endsSubscription_iff : endsSubscription record ↔ Ends record record.correlationId := by
  rw [endsSubscription, Bool.and_eq_true, beq_iff_eq, isEnded_ofCode_iff]
  exact ⟨fun h => ⟨h.1, h.2, rfl⟩, fun h => ⟨h.component_eq, h.status_eq⟩⟩

/-- A log record takes out the subscription that it ends, or else changes nothing. -/
theorem observeLog_cases (r : References) (record : LogRecord) :
    Ends record record.correlationId ∧
        r.observeLog record =
          ((r.get? record.correlationId).isSome, r.remove record.correlationId) ∨
      (∀ id, ¬ Ends record id) ∧ r.observeLog record = (false, r) := by
  by_cases hends : endsSubscription record
  · refine .inl ⟨endsSubscription_iff.mp hends, ?_⟩
    rw [observeLog, if_pos hends]
    rfl
  · refine .inr ⟨fun id h => hends (endsSubscription_iff.mpr ?_), ?_⟩
    · exact ⟨h.component_eq, h.status_eq, rfl⟩
    · rw [observeLog, if_neg hends]

/-- A buffer that carries neither reference data nor the end of a subscription is idle. -/
theorem not_concerns_notify {buffer : ByteArray}
    (hreference : ∀ data, Record.decode buffer ≠ .ok (.reference data))
    (hlog : ∀ record, Record.decode buffer = .ok (.log record) → ∀ id, ¬ Ends record id)
    (id : UInt64) : ¬ (Operation.notify buffer).Concerns id := by
  rintro (⟨record, hdecode, hends⟩ | ⟨data, hdecode, -⟩)
  · exact hlog record hdecode id hends
  · exact hreference data hdecode

/-- An operation stores what it brings, takes out what it ends, or is idle and changes nothing. -/
theorem perform_cases (r : References) (op : Operation) :
    (∃ data, op.Stores data ∧ r.perform op = r.add data) ∨
      (∃ id, op.Forgets id ∧ r.perform op = r.remove id) ∨
      (∀ id, ¬ op.Concerns id) ∧ r.perform op = r := by
  cases op with
  | add data => exact .inl ⟨data, rfl, rfl⟩
  | remove id => exact .inr (.inl ⟨id, rfl, rfl⟩)
  | observeLog record =>
    rcases observeLog_cases r record with ⟨hends, hremove⟩ | ⟨hidle, hsame⟩
    · exact .inr (.inl ⟨_, hends, congrArg Prod.snd hremove⟩)
    · refine .inr (.inr ⟨?_, congrArg Prod.snd hsame⟩)
      rintro id (hforgets | ⟨data, hstores, -⟩)
      · exact hidle id hforgets
      · exact hstores
  | notify buffer =>
    simp only [perform, notify]
    cases hdecode : Record.decode buffer with
    | error e =>
      refine .inr (.inr ⟨not_concerns_notify ?_ ?_, rfl⟩)
      · rw [hdecode]; nofun
      · rw [hdecode]; nofun
    | ok decoded =>
      cases decoded with
      | reference data => exact .inl ⟨data, hdecode, rfl⟩
      | log record =>
        rcases observeLog_cases r record with ⟨hends, hremove⟩ | ⟨hidle, hsame⟩
        · exact .inr (.inl ⟨_, ⟨record, hdecode, hends⟩, congrArg Prod.snd hremove⟩)
        · refine .inr (.inr ⟨not_concerns_notify ?_ ?_, congrArg Prod.snd hsame⟩)
          · rw [hdecode]; nofun
          · rw [hdecode]
            rintro _ ⟨⟩
            exact hidle
      | economic | calendar | seriesHeadline | seriesEntry =>
        refine .inr (.inr ⟨not_concerns_notify ?_ ?_, rfl⟩)
        · rw [hdecode]; nofun
        · rw [hdecode]; nofun

namespace Operation

theorem Stores.unique {data' : ReferenceData} (h : op.Stores data) (h' : op.Stores data') :
    data = data' := by
  cases op with
  | add stored => exact h.symm.trans h'
  | notify buffer =>
    have hsame := h.symm.trans h'
    cases hsame
    rfl
  | remove | observeLog => cases h

theorem Forgets.unique {id' : UInt64} (h : op.Forgets id) (h' : op.Forgets id') : id = id' := by
  cases op with
  | remove taken => exact h.symm.trans h'
  | observeLog record => exact h.correlationId_eq.symm.trans h'.correlationId_eq
  | notify buffer =>
    obtain ⟨record, hdecode, hends⟩ := h
    obtain ⟨record', hdecode', hends'⟩ := h'
    cases hdecode.symm.trans hdecode'
    exact hends.correlationId_eq.symm.trans hends'.correlationId_eq
  | add => cases h

/-- An operation that stores something takes nothing out. -/
theorem Stores.not_forgets (h : op.Stores data) : ¬ op.Forgets id := by
  cases op with
  | add => exact not_false
  | notify buffer =>
    rintro ⟨record, hdecode, -⟩
    cases hdecode.symm.trans h
  | remove | observeLog => cases h

end Operation

/-! ## Looking up -/

theorem get?_add (r : References) (data : ReferenceData) (id : UInt64) :
    (r.add data).get? id = if data.correlationId = id then some data else r.get? id := by
  simp only [get?, add, Std.HashMap.getElem?_insert, beq_iff_eq]

theorem get?_remove (r : References) (taken id : UInt64) :
    (r.remove taken).get? id = if taken = id then none else r.get? id := by
  simp only [get?, remove, take, Std.HashMap.getElem?_erase, beq_iff_eq]

theorem get?_perform_of_stores (h : op.Stores data) (hid : data.correlationId = id) :
    (r.perform op).get? id = some data := by
  rcases perform_cases r op with ⟨stored, hstores, hperform⟩ | ⟨taken, hforgets, -⟩ | ⟨hidle, -⟩
  · rw [hperform, hstores.unique h, get?_add, if_pos hid]
  · exact absurd hforgets h.not_forgets
  · exact absurd (.inr ⟨data, h, hid⟩) (hidle id)

theorem get?_perform_of_forgets (h : op.Forgets id) : (r.perform op).get? id = none := by
  rcases perform_cases r op with ⟨stored, hstores, -⟩ | ⟨taken, hforgets, hperform⟩ | ⟨hidle, -⟩
  · exact absurd h hstores.not_forgets
  · rw [hperform, get?_remove, if_pos (hforgets.unique h)]
  · exact absurd (.inl h) (hidle id)

theorem get?_perform_of_not_concerns (h : ¬ op.Concerns id) :
    (r.perform op).get? id = r.get? id := by
  rcases perform_cases r op with ⟨stored, hstores, hperform⟩ | ⟨taken, hforgets, hperform⟩ |
    ⟨-, hperform⟩
  · rw [hperform, get?_add, if_neg fun hid => h (.inr ⟨stored, hstores, hid⟩)]
  · rw [hperform, get?_remove, if_neg]
    rintro rfl
    exact h (.inl hforgets)
  · rw [hperform]

/-- In a history, this was stored for a subscription, and nothing that came later concerns it. -/
def LastStored (id : UInt64) (data : ReferenceData) (ops : List Operation) : Prop :=
  ∃ before op after, ops = before ++ op :: after ∧ op.Stores data ∧ data.correlationId = id ∧
    ∀ later ∈ after, ¬ later.Concerns id

theorem lastStored_concat_iff : LastStored id data (ops ++ [op]) ↔
    op.Stores data ∧ data.correlationId = id ∨ ¬ op.Concerns id ∧ LastStored id data ops := by
  constructor
  · rintro ⟨before, stored, after, hops, hstores, hid, hlater⟩
    rcases List.eq_nil_or_concat after with rfl | ⟨after, last, rfl⟩
    · obtain ⟨-, hlast⟩ := List.append_inj' hops rfl
      cases hlast
      exact .inl ⟨hstores, hid⟩
    · rw [List.concat_eq_append] at hops hlater
      rw [← List.cons_append, ← List.append_assoc] at hops
      obtain ⟨rfl, hlast⟩ := List.append_inj' hops rfl
      cases hlast
      refine .inr ⟨hlater _ (List.mem_append_right _ (List.mem_singleton_self _)), ?_⟩
      exact ⟨before, stored, after, rfl, hstores, hid,
        fun later h => hlater later (List.mem_append_left _ h)⟩
  · rintro (⟨hstores, hid⟩ | ⟨hlast, before, stored, after, rfl, hstores, hid, hlater⟩)
    · exact ⟨ops, op, [], rfl, hstores, hid, nofun⟩
    · refine ⟨before, stored, after ++ [op], ?_, hstores, hid, ?_⟩
      · rw [List.append_assoc, List.cons_append]
      · intro later h
        rcases List.mem_append.mp h with h | h
        · exact hlater later h
        · rw [List.mem_singleton.mp h]
          exact hlast

/-- A look-up finds what was last stored and not taken out since. -/
theorem get?_run_eq_some_iff (ops : List Operation) :
    (run ops).get? id = some data ↔ LastStored id data ops := by
  induction ops using List.reverseRecOn with
  | nil =>
    constructor
    · intro h
      rw [run, List.foldl_nil, get?, empty, Std.HashMap.getElem?_empty] at h
      cases h
    · rintro ⟨before, op, after, hops, -⟩
      cases before <;> cases hops
  | append_singleton ops op ih =>
    rw [run_concat, lastStored_concat_iff, ← ih]
    by_cases hforgets : op.Forgets id
    · rw [get?_perform_of_forgets hforgets]
      constructor
      · nofun
      · rintro (⟨hstores, -⟩ | ⟨hnot, -⟩)
        · exact absurd hforgets hstores.not_forgets
        · exact absurd (.inl hforgets) hnot
    · by_cases hstores : ∃ stored, op.Stores stored ∧ stored.correlationId = id
      · obtain ⟨stored, hstores, hid⟩ := hstores
        rw [get?_perform_of_stores hstores hid]
        constructor
        · rintro ⟨⟩
          exact .inl ⟨hstores, hid⟩
        · rintro (⟨hsame, -⟩ | ⟨hnot, -⟩)
          · rw [hstores.unique hsame]
          · exact absurd (.inr ⟨stored, hstores, hid⟩) hnot
      · have hnot : ¬ op.Concerns id := not_or.mpr ⟨hforgets, hstores⟩
        rw [get?_perform_of_not_concerns hnot]
        constructor
        · exact fun h => .inr ⟨hnot, h⟩
        · rintro (h | ⟨-, h⟩)
          · exact absurd ⟨data, h⟩ hstores
          · exact h

/-! ## What holds of every history -/

/-- What holds of the reference data after a history. -/
structure Current (ops : List Operation) : Prop where
  /-- A look-up finds what was last stored for the subscription and not taken out since. -/
  found (id : UInt64) (data : ReferenceData) : (run ops).get? id = some data ↔
    ∃ before op after, ops = before ++ op :: after ∧ op.Stores data ∧ data.correlationId = id ∧
      ∀ later ∈ after, ¬ later.Forgets id ∧
        ∀ other, later.Stores other → other.correlationId ≠ id
  /-- An operation that neither stores nor ends anything changes nothing. -/
  unchanged (op : Operation) (hstores : ∀ data, ¬ op.Stores data)
      (hforgets : ∀ id, ¬ op.Forgets id) : run (ops ++ [op]) = run ops
  /-- Everything is stored under its own correlation id. -/
  keyed (id : UInt64) (data : ReferenceData) (h : (run ops).entries[id]? = some data) :
    data.correlationId = id
  /-- The size is the number of live subscriptions. -/
  counted : ∃ live : List UInt64, live.Nodup ∧
    (∀ id, id ∈ live ↔ ∃ data, (run ops).get? id = some data) ∧ (run ops).size = live.length
  empty_iff : (run ops).isEmpty ↔ ∀ id, (run ops).get? id = none
  /-- What is taken out is what was stored. -/
  taken (id : UInt64) : ((run ops).take id).1 = (run ops).get? id ∧
    ((run ops).take id).2 = run (ops ++ [.remove id])
  /-- Observing a log record tells whether it ended a live subscription. -/
  observed (record : LogRecord) :
    (((run ops).observeLog record).1 ↔ ∃ id data, Ends record id ∧ (run ops).get? id = some data) ∧
      ((run ops).observeLog record).2 = run (ops ++ [.observeLog record])
  /-- A headline is joined unchanged with what is stored for its subscription, or with
  reference data that have nothing but its correlation id. -/
  headline (event : SeriesHeadline) :
    ((run ops).enrichHeadline event).1 = event ∧
      ((run ops).enrichHeadline event).2.correlationId = event.correlationId ∧
      ((run ops).enrichHeadline event).2 =
        ((run ops).get? event.correlationId).getD { correlationId := event.correlationId }
  /-- So is a calendar entry. -/
  entry (entry : SeriesEntry) :
    ((run ops).enrichEntry entry).1 = entry ∧
      ((run ops).enrichEntry entry).2.correlationId = entry.correlationId ∧
      ((run ops).enrichEntry entry).2 =
        ((run ops).get? entry.correlationId).getD { correlationId := entry.correlationId }

theorem correlationId_of_get? (h : (run ops).get? id = some data) : data.correlationId = id := by
  obtain ⟨-, -, -, -, -, hid, -⟩ := (get?_run_eq_some_iff ops).mp h
  exact hid

/-- What an event is joined with has the correlation id of the event. -/
theorem correlationId_joining (ops : List Operation) (id : UInt64) :
    ((run ops).joining id).correlationId = id := by
  rw [joining]
  cases hlive : (run ops).get? id with
  | none => rfl
  | some data => exact correlationId_of_get? hlive

theorem isEmpty_iff (r : References) : r.isEmpty ↔ ∀ id, r.get? id = none := by
  constructor
  · intro h id
    rw [get?, Std.HashMap.getElem?_of_isEmpty h]
  · intro h
    refine Std.HashMap.isEmpty_iff_forall_not_mem.mpr fun id hid => ?_
    rw [Std.HashMap.mem_iff_isSome_getElem?] at hid
    rw [show r.entries[id]? = none from h id] at hid
    cases hid

/-- **What is stored is what the history says**, whether things were stored and taken out
directly or came in buffers: for each subscription the last reference data that no later
operation replaced or took out. -/
theorem current_of_run (ops : List Operation) : Current ops := by
  refine ⟨?_, ?_, ?_, ?_, ?_, ?_, ?_, ?_, ?_⟩
  · intro id data
    rw [get?_run_eq_some_iff]
    simp only [LastStored, Operation.Concerns, not_or, not_exists, not_and, ne_eq]
  · intro op hstores hforgets
    rw [run_concat]
    rcases perform_cases (run ops) op with ⟨data, h, -⟩ | ⟨id, h, -⟩ | ⟨-, hsame⟩
    · exact absurd h (hstores data)
    · exact absurd h (hforgets id)
    · exact hsame
  · exact fun id data h => correlationId_of_get? h
  · refine ⟨(run ops).entries.keys, Std.HashMap.nodup_keys, ?_, Std.HashMap.length_keys.symm⟩
    intro id
    rw [Std.HashMap.mem_keys, Std.HashMap.mem_iff_isSome_getElem?, Option.isSome_iff_exists]
    rfl
  · exact isEmpty_iff (run ops)
  · exact fun id => ⟨rfl, (run_concat ops (.remove id)).symm⟩
  · intro record
    refine ⟨?_, (run_concat ops (.observeLog record)).symm⟩
    rcases observeLog_cases (run ops) record with ⟨hends, hremove⟩ | ⟨hidle, hsame⟩
    · rw [hremove, Option.isSome_iff_exists]
      constructor
      · rintro ⟨data, hlive⟩
        exact ⟨_, data, hends, hlive⟩
      · rintro ⟨id, data, hends', hlive⟩
        exact ⟨data, hends'.correlationId_eq ▸ hlive⟩
    · rw [hsame]
      constructor
      · nofun
      · rintro ⟨id, -, hends, -⟩
        exact absurd hends (hidle id)
  · exact fun event => ⟨rfl, correlationId_joining ops _, rfl⟩
  · exact fun entry => ⟨rfl, correlationId_joining ops _, rfl⟩

end References
end ReleaseFeed
