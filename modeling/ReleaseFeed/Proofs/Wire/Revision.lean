import ReleaseFeed.Proofs.Wire.RoundTrip

/-! # Messages of older and newer writers

A writer that knows an older layout leaves slots out, and one that knows a newer layout
puts slots behind the last one; both also do so in the small tables inside a record.
`Table.Revises` relates such a table to the table that a record has today, and a
`Filling` names the slots that the writer did fill.

A layout keeps of a revised table a revised table again (`Revises.keep`, by induction on
the layout), because slots are found by their number and not by where they sit.  What is
kept has every slot that was filled, and the readers of `Record.ofTable` put the default
in place of every other one (`Revises.ofTable`): the record is the one today's writer
would have sent, with the defaults that `Filling.record` spells out
(`Record.decode_revision`).
-/
namespace ReleaseFeed.Wire

/-- Which slots a writer fills.  A slot of an inner table is named by the number of the
slot that holds the table, and then its own. -/
abbrev Filling := List Nat → Bool

namespace Filling
variable (filled : Filling)

/-- The filling of what a slot holds; the slot itself is the empty path. -/
def inside (slot : Nat) : Filling := fun path => filled (slot :: path)

/-- The filling of the slots behind the first one. -/
def next : Filling
  | [] => false
  | slot :: path => filled ((slot + 1) :: path)

/-- What a slot gives that may be left out. -/
def pick {α : Type} (path : List Nat) (value default : α) : α :=
  if filled path then value else default

/-! ## What remains of a record -/

/-- What remains of a timestamp; the epoch if its slot is left out. -/
def timestamp (slot : Nat) (m : Timestamp) : Timestamp :=
  filled.pick [slot]
    ⟨filled.pick [slot, 0] m.micros 0, filled.pick [slot, 1] m.offset 0⟩
    .epoch

/-- What remains of an interval, whose ends are in two slots. -/
def interval (slot : Nat) (i : Interval) : Interval :=
  ⟨filled.timestamp slot i.start, filled.timestamp (slot + 1) i.stop⟩

/-- What remains of a measurement; nothing was measured if its slot is left out. -/
def measurement (slot : Nat) (m : Measurement) : Measurement :=
  filled.pick [slot]
    { count := filled.pick [slot, 0] m.count 0
      value := filled.pick [slot, 1] m.value absentReading
      low := filled.pick [slot, 2] m.low absentReading
      high := filled.pick [slot, 3] m.high absentReading
      median := filled.pick [slot, 4] m.median absentReading
      average := filled.pick [slot, 5] m.average absentReading
      deviation := filled.pick [slot, 6] m.deviation absentReading }
    .absent

/-- What remains of what economic and calendar events start with. -/
def headline (h : Headline) : Headline :=
  { globalId := filled.pick [0] h.globalId ""
    shortId := filled.pick [1] h.shortId ""
    description := filled.pick [2] h.description ""
    kind := filled.pick [3] h.kind .unknown
    subkind := filled.pick [4] h.subkind .unknown
    eventId := filled.pick [5] h.eventId 0
    period := filled.pick [6] h.period ""
    release := filled.interval 7 h.release }

/-- What remains of a record: each component whose slot is left out is the default. -/
def record : Record → Record
  | .economic e => .economic
      { headline := filled.headline e.headline
        value := filled.measurement 9 e.value
        priorValue := filled.measurement 10 e.priorValue
        priorEventId := filled.pick [11] e.priorEventId 0
        priorPeriod := filled.pick [12] e.priorPeriod ""
        priorRelease := filled.interval 13 e.priorRelease }
  | .calendar e => .calendar
      { headline := filled.headline e.headline
        status := filled.pick [9] e.status .unknown }
  | .log r => .log
      { timestamp := filled.timestamp 0 r.timestamp
        component := filled.pick [1] r.component .unknown
        status := filled.pick [2] r.status 0
        correlationId := filled.pick [3] r.correlationId 0
        message := filled.pick [4] r.message "" }
  | .reference d => .reference
      { correlationId := filled.pick [0] d.correlationId 0
        globalId := filled.pick [1] d.globalId ""
        shortId := filled.pick [2] d.shortId ""
        description := filled.pick [3] d.description ""
        frequency := filled.pick [4] d.frequency ""
        units := filled.pick [5] d.units ""
        country := filled.pick [6] d.country ""
        source := filled.pick [7] d.source ""
        seasonality := filled.pick [8] d.seasonality "" }
  | .seriesHeadline e => .seriesHeadline
      { correlationId := filled.pick [0] e.correlationId 0
        kind := filled.pick [1] e.kind .unknown
        subkind := filled.pick [2] e.subkind .unknown
        eventId := filled.pick [3] e.eventId 0
        period := filled.pick [4] e.period ""
        release := filled.interval 5 e.release
        priorEventId := filled.pick [7] e.priorEventId 0
        priorPeriod := filled.pick [8] e.priorPeriod ""
        priorRelease := filled.interval 9 e.priorRelease
        value := filled.measurement 11 e.value }
  | .seriesEntry e => .seriesEntry
      { correlationId := filled.pick [0] e.correlationId 0
        globalId := filled.pick [1] e.globalId ""
        shortId := filled.pick [2] e.shortId ""
        kind := filled.pick [3] e.kind .unknown
        subkind := filled.pick [4] e.subkind .unknown
        description := filled.pick [5] e.description ""
        eventId := filled.pick [6] e.eventId 0
        period := filled.pick [7] e.period ""
        release := filled.interval 8 e.release
        status := filled.pick [10] e.status .unknown
        relevance := filled.pick [11] e.relevance absentReading }

variable {filled}

theorem apply_pick {α β : Type} (f : α → β) (path : List Nat) (value default : α) :
    f (filled.pick path value default) = filled.pick path (f value) (f default) :=
  apply_ite f _ _ _

end Filling

/-! ## Revised tables -/

mutual

/-- A table holds what the original held in the slots that are filled, nothing in the
others, and anything at all behind the last slot of the original. -/
inductive Table.Revises : Filling → (original t : Table) → Prop where
  | intro {filled : Filling} {original t : Table}
      (slot : ∀ slot, slot < original.length →
        SlotRevises (filled.inside slot) (original.get? slot) (t.get? slot)) :
      Table.Revises filled original t

/-- What becomes of what the original held in one slot. -/
inductive SlotRevises : Filling → (original now : Option Field) → Prop where
  | unfilled {filled : Filling} {original : Option Field} (h : filled [] = false) :
      SlotRevises filled original none
  | absent {filled : Filling} : SlotRevises filled none none
  | scalar {filled : Filling} {s : Scalar} (h : filled [] = true) :
      SlotRevises filled (some (.scalar s)) (some (.scalar s))
  | text {filled : Filling} {s : String} (h : filled [] = true) :
      SlotRevises filled (some (.text s)) (some (.text s))
  | child {filled : Filling} {u w : Table} (h : filled [] = true)
      (inner : Table.Revises filled u w) :
      SlotRevises filled (some (.child u)) (some (.child w))

end

namespace Table
variable {filled : Filling} {original t : Table} {slot : Nat}

/-- The slots behind the first one. -/
def tail : Table → Table
  | done => done
  | absent rest | scalar _ rest | text _ rest | child _ rest => rest

theorem get?_tail (t : Table) (slot : Nat) : t.tail.get? slot = t.get? (slot + 1) := by
  cases t <;> rfl

theorem lt_length_tail_iff : slot < t.tail.length ↔ slot + 1 < t.length := by
  cases t with
  | done => exact ⟨fun h => absurd h (Nat.not_lt_zero _), fun h => absurd h (Nat.not_lt_zero _)⟩
  | absent | scalar | text | child => exact Nat.succ_lt_succ_iff.symm

theorem Revises.at (h : Revises filled original t) (hslot : slot < original.length) :
    SlotRevises (filled.inside slot) (original.get? slot) (t.get? slot) := by
  obtain ⟨hslots⟩ := h
  exact hslots slot hslot

theorem Revises.tail (h : Revises filled original t) :
    Revises filled.next original.tail t.tail := by
  refine ⟨fun slot hslot => ?_⟩
  rw [get?_tail, get?_tail]
  exact h.at (lt_length_tail_iff.mp hslot)

/-- A table is revised when its first slot is and those behind it are. -/
theorem revises_cons (first : SlotRevises (filled.inside 0) (original.get? 0) (t.get? 0))
    (behind : Revises filled.next original.tail t.tail) : Revises filled original t := by
  refine ⟨fun slot hslot => ?_⟩
  cases slot with
  | zero => exact first
  | succ slot =>
    rw [← get?_tail, ← get?_tail]
    exact behind.at (lt_length_tail_iff.mpr hslot)

/-- Nothing is asked of the slots that a newer writer adds. -/
theorem revises_done : Revises filled .done t :=
  ⟨fun _ hslot => absurd hslot (Nat.not_lt_zero _)⟩

end Table

/-! ## What a layout keeps -/

namespace Layout
variable {layout rest inner : Layout} {t w : Table}

theorem keep_of_absent (hlayout : layout.rest? = some rest) (hfirst : t.get? 0 = none)
    (hrest : rest.keep t.tail = some w) : layout.keep t = some (.absent w) := by
  have hkeep : layout.keep t = (rest.keep t.tail).map .absent := by
    cases layout with
    | done => cases hlayout
    | scalar | text | table =>
      cases hlayout
      cases t with
      | done | absent => rfl
      | scalar | text | child => cases hfirst
  rw [hkeep, hrest]
  rfl

theorem keep_of_scalar {s : Scalar} (hfirst : t.get? 0 = some (.scalar s))
    (hrest : rest.keep t.tail = some w) : (scalar s.kind rest).keep t = some (.scalar s w) := by
  cases t with
  | scalar =>
    cases hfirst
    exact (if_pos rfl).trans (congrArg (Option.map (Table.scalar s)) hrest)
  | done | absent | text | child => cases hfirst

theorem keep_of_text {s : String} (hfirst : t.get? 0 = some (.text s))
    (hrest : rest.keep t.tail = some w) : (text rest).keep t = some (.text s w) := by
  cases t with
  | text =>
    cases hfirst
    exact congrArg (Option.map (Table.text s)) hrest
  | done | absent | scalar | child => cases hfirst

theorem keep_of_child {u v : Table} (hfirst : t.get? 0 = some (.child u))
    (hinner : inner.keep u = some v) (hrest : rest.keep t.tail = some w) :
    (table inner rest).keep t = some (.child v w) := by
  cases t with
  | child =>
    cases hfirst
    rw [keep, hinner, Option.bind_some]
    exact congrArg (Option.map (Table.child v)) hrest
  | done | absent | scalar | text => cases hfirst

/-- A table that is kept as it is has a first slot for that of the layout, and the slots
behind it are kept as they are. -/
theorem tail_of_keep_self (hlayout : layout.rest? = some rest) (h : layout.keep t = some t) :
    0 < t.length ∧ rest.keep t.tail = some t.tail := by
  cases layout with
  | done => cases hlayout
  | scalar | text | table =>
    cases hlayout
    cases t <;> simp_all [keep, Table.length, Table.tail, Option.bind_eq_some_iff]

end Layout

namespace Table
variable {filled : Filling} {original t : Table} {layout rest : Layout}

/-- With the slots behind it kept, a first slot in which nothing was put is kept absent;
else it holds a field that the original allows. -/
theorem Revises.keep_first (hlayout : layout.rest? = some rest) (h : Revises filled original t)
    (hkeep : layout.keep original = some original)
    (ih : ∀ {filled original t}, Revises filled original t → rest.keep original = some original →
      ∃ u, rest.keep t = some u ∧ Revises filled original u) :
    (∃ u, layout.keep t = some u ∧ Revises filled original u) ∨
      ∃ field w, t.get? 0 = some field ∧
        SlotRevises (filled.inside 0) (original.get? 0) (some field) ∧
        rest.keep t.tail = some w ∧ Revises filled.next original.tail w := by
  obtain ⟨hpos, hrest⟩ := Layout.tail_of_keep_self hlayout hkeep
  obtain ⟨w, hw, behind⟩ := ih h.tail hrest
  have first := h.at hpos
  rcases hfirst : t.get? 0 with _ | field
  · rw [hfirst] at first
    exact .inl ⟨.absent w, Layout.keep_of_absent hlayout hfirst hw, revises_cons first behind⟩
  · rw [hfirst] at first
    exact .inr ⟨field, w, rfl, first, hw, behind⟩

/-- What a layout keeps of a revised table is the original revised in the same slots. -/
theorem Revises.keep (h : Revises filled original t)
    (hkeep : layout.keep original = some original) :
    ∃ u, layout.keep t = some u ∧ Revises filled original u := by
  -- a slot that was filled holds what the original did, so it is of the layout's kind
  induction layout generalizing filled original t with
  | done =>
    cases hkeep
    exact ⟨.done, rfl, revises_done⟩
  | scalar kind rest ih =>
    rcases h.keep_first rfl hkeep ih with habsent | ⟨field, w, hfirst, first, hw, behind⟩
    · exact habsent
    · cases original with
      | scalar s o =>
        obtain ⟨rfl, -⟩ := Option.ite_none_right_eq_some.mp hkeep
        cases first with
        | scalar hfilled =>
          exact ⟨.scalar s w, Layout.keep_of_scalar hfirst hw,
            revises_cons (.scalar hfilled) behind⟩
      | done | absent => cases first
      | text | child => cases hkeep
  | text rest ih =>
    rcases h.keep_first rfl hkeep ih with habsent | ⟨field, w, hfirst, first, hw, behind⟩
    · exact habsent
    · cases original with
      | text s o =>
        cases first with
        | text hfilled =>
          exact ⟨.text s w, Layout.keep_of_text hfirst hw, revises_cons (.text hfilled) behind⟩
      | done | absent => cases first
      | scalar | child => cases hkeep
  | table inner rest ihInner ih =>
    rcases h.keep_first rfl hkeep ih with habsent | ⟨field, w, hfirst, first, hw, behind⟩
    · exact habsent
    · cases original with
      | child u o =>
        obtain ⟨u', hu, hchild⟩ := Option.bind_eq_some_iff.mp hkeep
        obtain ⟨o', -, hsame⟩ := Option.map_eq_some_iff.mp hchild
        cases hsame
        cases first with
        | child hfilled hinner =>
          obtain ⟨v, hv, hinner⟩ := ihInner hinner hu
          exact ⟨.child v w, Layout.keep_of_child hfirst hv hw,
            revises_cons (.child hfilled hinner) behind⟩
      | done | absent => cases first
      | scalar | text => cases hkeep

/-! ## What is read from a revised table -/

section Readers
variable {slot : Nat}

theorem Revises.at_of_some {field : Field} (h : Revises filled original t)
    (hget : original.get? slot = some field) :
    SlotRevises (filled.inside slot) (some field) (t.get? slot) := by
  have hslot : slot < original.length := by
    by_contra hle
    rw [get?_of_length_le (Nat.not_lt.mp hle)] at hget
    cases hget
  have hrevises := h.at hslot
  rwa [hget] at hrevises

/-- A number is gone, or as it was. -/
theorem Revises.get?_scalar {s : Scalar} (h : Revises filled original t)
    (hget : original.get? slot = some (.scalar s)) :
    t.get? slot = filled.pick [slot] (some (.scalar s)) none := by
  generalize hnow : t.get? slot = now
  cases hnow ▸ h.at_of_some hget with
  | unfilled hfilled => exact (if_neg (ne_true_of_eq_false hfilled)).symm
  | scalar hfilled => exact (if_pos hfilled).symm

/-- A text is gone, or as it was. -/
theorem Revises.get?_text {s : String} (h : Revises filled original t)
    (hget : original.get? slot = some (.text s)) :
    t.get? slot = filled.pick [slot] (some (.text s)) none := by
  generalize hnow : t.get? slot = now
  cases hnow ▸ h.at_of_some hget with
  | unfilled hfilled => exact (if_neg (ne_true_of_eq_false hfilled)).symm
  | text hfilled => exact (if_pos hfilled).symm

/-- The table in a slot is gone, or is revised in turn. -/
theorem Revises.get?_child {u : Table} (h : Revises filled original t)
    (hget : original.get? slot = some (.child u)) :
    filled [slot] = false ∧ t.get? slot = none ∨
      filled [slot] = true ∧
        ∃ w, t.get? slot = some (.child w) ∧ Revises (filled.inside slot) u w := by
  generalize hnow : t.get? slot = now
  cases hnow ▸ h.at_of_some hget with
  | unfilled hfilled => exact .inl ⟨hfilled, rfl⟩
  | child hfilled hinner => exact .inr ⟨hfilled, _, rfl, hinner⟩

variable (h : Revises filled original t) (slot : Nat)
include h

theorem Revises.u8 {value : UInt8} (hget : original.get? slot = some (.u8 value)) :
    t.u8 slot = filled.pick [slot] value 0 := by
  rw [Table.u8, h.get?_scalar hget, Filling.pick, Filling.pick]
  cases filled [slot] <;> rfl

theorem Revises.i16 {value : Int16} (hget : original.get? slot = some (.scalar (.i16 value))) :
    t.i16 slot = filled.pick [slot] value 0 := by
  rw [Table.i16, h.get?_scalar hget, Filling.pick, Filling.pick]
  cases filled [slot] <;> rfl

theorem Revises.u32 {value : UInt32} (hget : original.get? slot = some (.scalar (.u32 value))) :
    t.u32 slot = filled.pick [slot] value 0 := by
  rw [Table.u32, h.get?_scalar hget, Filling.pick, Filling.pick]
  cases filled [slot] <;> rfl

theorem Revises.u64 {value : UInt64} (hget : original.get? slot = some (.u64 value)) :
    t.u64 slot = filled.pick [slot] value 0 := by
  rw [Table.u64, h.get?_scalar hget, Filling.pick, Filling.pick]
  cases filled [slot] <;> rfl

theorem Revises.reading {value : Float} (hget : original.get? slot = some (.f64 value)) :
    t.reading slot = filled.pick [slot] value absentReading := by
  rw [Table.reading, h.get?_scalar hget, Filling.pick, Filling.pick]
  cases filled [slot] <;> rfl

theorem Revises.string {value : String} (hget : original.get? slot = some (.text value)) :
    t.string slot = filled.pick [slot] value "" := by
  rw [Table.string, h.get?_text hget, Filling.pick, Filling.pick]
  cases filled [slot] <;> rfl

/-- The meaning of a code is that of the original, or that of code 0. -/
theorem Revises.coded {α : Type} (ofCode : UInt8 → α) {code : UInt8}
    (hget : original.get? slot = some (.u8 code)) :
    ofCode (t.u8 slot) = filled.pick [slot] (ofCode code) (ofCode 0) := by
  rw [h.u8 slot hget, Filling.apply_pick ofCode]

theorem Revises.timestamp {m : Timestamp} (hget : original.get? slot = some (.moment m)) :
    t.timestamp slot = filled.timestamp slot m := by
  rw [Table.timestamp, Table.inner, Filling.timestamp]
  rcases h.get?_child hget with ⟨hfilled, hnone⟩ | ⟨hfilled, w, hsome, hinner⟩
  · rw [hnone, Filling.pick, if_neg (ne_true_of_eq_false hfilled)]
    rfl
  · rw [hsome, Filling.pick, if_pos hfilled]
    exact congrArg₂ Timestamp.mk (hinner.u64 0 rfl) (hinner.i16 1 rfl)

theorem Revises.interval {i : Interval} (hstart : original.get? slot = some (.moment i.start))
    (hstop : original.get? (slot + 1) = some (.moment i.stop)) :
    t.interval slot = filled.interval slot i :=
  congrArg₂ Interval.mk (h.timestamp slot hstart) (h.timestamp (slot + 1) hstop)

theorem Revises.measurement {m : Measurement} (hget : original.get? slot = some (.measurement m)) :
    t.measurement slot = filled.measurement slot m := by
  rw [Table.measurement, Table.inner, Filling.measurement]
  rcases h.get?_child hget with ⟨hfilled, hnone⟩ | ⟨hfilled, w, hsome, hinner⟩
  · rw [hnone, Filling.pick, if_neg (ne_true_of_eq_false hfilled)]
    rfl
  · rw [hsome, Filling.pick, if_pos hfilled]
    dsimp only
    rw [hinner.u32 0 rfl, hinner.reading 1 rfl, hinner.reading 2 rfl, hinner.reading 3 rfl,
      hinner.reading 4 rfl, hinner.reading 5 rfl, hinner.reading 6 rfl]
    rfl

end Readers

theorem Revises.headline {h : Headline} {fields : List Field}
    (hrevises : Revises filled (.ofFields (Field.headline h ++ fields)) t) :
    t.headline = filled.headline h := by
  rw [Table.headline, hrevises.string 0 rfl, hrevises.string 1 rfl, hrevises.string 2 rfl,
    hrevises.coded 3 EventKind.ofCode rfl, hrevises.coded 4 EventSubkind.ofCode rfl,
    hrevises.u64 5 rfl, hrevises.string 6 rfl, hrevises.interval 7 rfl rfl, EventKind.ofCode_code,
    EventSubkind.ofCode_code]
  rfl

/-- The record in a revised table: what was filled, and defaults. -/
theorem Revises.ofTable {r : Record} (h : Revises filled r.table t) :
    Record.ofTable r.type t = filled.record r := by
  cases r with
  | economic e =>
    rw [Record.type, Record.ofTable, h.headline, h.measurement 9 rfl, h.measurement 10 rfl,
      h.u64 11 rfl, h.string 12 rfl, h.interval 13 rfl rfl]
    rfl
  | calendar e =>
    rw [Record.type, Record.ofTable, h.headline, h.coded 9 ReleaseStatus.ofCode rfl,
      ReleaseStatus.ofCode_code]
    rfl
  | log r =>
    rw [Record.type, Record.ofTable, h.timestamp 0 rfl, h.coded 1 Component.ofCode rfl, h.u8 2 rfl,
      h.u64 3 rfl, h.string 4 rfl, Component.ofCode_code]
    rfl
  | reference d =>
    rw [Record.type, Record.ofTable, h.u64 0 rfl, h.string 1 rfl, h.string 2 rfl, h.string 3 rfl,
      h.string 4 rfl, h.string 5 rfl, h.string 6 rfl, h.string 7 rfl, h.string 8 rfl]
    rfl
  | seriesHeadline e =>
    rw [Record.type, Record.ofTable, h.u64 0 rfl, h.coded 1 EventKind.ofCode rfl,
      h.coded 2 EventSubkind.ofCode rfl, h.u64 3 rfl, h.string 4 rfl, h.interval 5 rfl rfl,
      h.u64 7 rfl, h.string 8 rfl, h.interval 9 rfl rfl, h.measurement 11 rfl,
      EventKind.ofCode_code, EventSubkind.ofCode_code]
    rfl
  | seriesEntry e =>
    rw [Record.type, Record.ofTable, h.u64 0 rfl, h.string 1 rfl, h.string 2 rfl,
      h.coded 3 EventKind.ofCode rfl, h.coded 4 EventSubkind.ofCode rfl, h.string 5 rfl,
      h.u64 6 rfl, h.string 7 rfl, h.interval 8 rfl rfl, h.coded 10 ReleaseStatus.ofCode rfl,
      h.reading 11 rfl, EventKind.ofCode_code, EventSubkind.ofCode_code, ReleaseStatus.ofCode_code]
    rfl

end Table

end ReleaseFeed.Wire

namespace ReleaseFeed.Record
open Wire

/-- **An older or newer writer is understood.**  Let a table hold what the table of a record
holds in the slots that are filled, nothing in the other slots of the layouts, and anything
behind the last ones.  Its message gives the record, with the default in place of each
component whose slot is not filled. -/
theorem decode_revision (r : Record) (filled : Filling) (t : Wire.Table)
    (hrevises : Table.Revises filled r.table t)
    (hnarrow : (Envelope.table r.type t).Narrow 4)
    (hsize : (enclose r.type t).size ≤ maxMessageSize) (hencode : r.encode.size ≤ maxMessageSize) :
    decode r.encode = .ok r ∧ decode (enclose r.type t) = .ok (filled.record r) := by
  obtain ⟨-, horiginal⟩ := decode_enclose hencode r.narrow_table r.keep_table
  obtain ⟨u, hkeep, hkept⟩ := hrevises.keep r.keep_table
  obtain ⟨-, hdecode⟩ := decode_enclose hsize hnarrow hkeep
  rw [ofTable_table] at horiginal
  rw [hkept.ofTable] at hdecode
  exact ⟨horiginal, hdecode⟩

/-- A log line with nothing left out. -/
def wholeLine : Record :=
  .log ⟨⟨1700000000000000, 60⟩, .subscription, 9, 77, "gap"⟩

/-- The line of a newer writer that leaves out the offset and the status: there is a third slot
in the timestamp, and two more behind the text. -/
def revisedLine : Wire.Table :=
  .child (.scalar (.u64 1700000000000000) (.absent (.text "zone" .done)))
    (.scalar (.u8 3) (.absent (.scalar (.u64 77) (.text "gap" (.absent
      (.child (.text "next" (.child .done .done)) .done))))))

/-- The slots of a log line but for the offset of its timestamp and its status. -/
def revisedFilling : Filling := fun path => path != [0, 1] && path != [2]

theorem decode_revision_line :
    Table.Revises revisedFilling wholeLine.table revisedLine ∧
      (Envelope.table wholeLine.type revisedLine).Narrow 4 ∧
      (enclose wholeLine.type revisedLine).size ≤ maxMessageSize ∧
      wholeLine.encode.size ≤ maxMessageSize ∧
      decode wholeLine.encode = .ok wholeLine ∧
      decode (enclose wholeLine.type revisedLine) =
        .ok (.log ⟨⟨1700000000000000, 0⟩, .subscription, 0, 77, "gap"⟩) := by
  have hmoment : Table.Revises (revisedFilling.inside 0)
      (.ofFields [.u64 1700000000000000, .scalar (.i16 60)])
      (.scalar (.u64 1700000000000000) (.absent (.text "zone" .done))) :=
    Table.revises_cons (.scalar rfl) (Table.revises_cons (.unfilled rfl) Table.revises_done)
  have hrevises : Table.Revises revisedFilling wholeLine.table revisedLine :=
    Table.revises_cons (.child rfl hmoment) <| Table.revises_cons (.scalar rfl) <|
      Table.revises_cons (.unfilled rfl) <| Table.revises_cons (.scalar rfl) <|
        Table.revises_cons (.text rfl) Table.revises_done
  have hnarrow : (Envelope.table wholeLine.type revisedLine).Narrow 4 :=
    Table.narrow_of_widest (by decide) (by decide)
  have hsize : (enclose wholeLine.type revisedLine).size ≤ maxMessageSize := by
    rw [size_enclose]
    decide +kernel
  have hencode : wholeLine.encode.size ≤ maxMessageSize := by
    rw [encode, size_enclose]
    decide +kernel
  exact ⟨hrevises, hnarrow, hsize, hencode,
    decode_revision wholeLine revisedFilling revisedLine hrevises hnarrow hsize hencode⟩

end ReleaseFeed.Record
