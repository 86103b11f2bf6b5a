import ReleaseFeed.Proofs.Wire.Checked

/-! # No default stands in for a slot that is present

The decoder takes the defaults of absent slots from the same accessors that would
give them for a slot that reaches out of the buffer, or that the layout has
another kind for.  `Strict` reads a record off a view without that way out: each
field has its slot, its width and its default, and a slot that is present but
not wholly inside its table, a table that is not inside the buffer, and bytes
that are not UTF-8 give no record at all.  Numbers are the bytes at their
positions (`valueAt`), texts are ranges of the buffer, and no layout is asked.

After a check the strict reader gives the very record that the decoder gives
(`decode_strict`).  The layout, the strict reader and the decoder each number the
slots on their own; that they agree is `View.Found.record_eq`, from one
lemma for each kind of slot.
-/
namespace ReleaseFeed.Wire
open Bytes

/-! ## The strict reader -/

namespace Strict

/-- What a slot of `n` bytes gives.  `read` is told the position in the buffer. -/
def slot {α : Type} (v : View) (slot n : Nat) (default : α) (read : Nat → Option α) : Option α :=
  match v.position? slot with
  | none => some default
  | some position =>
    if 4 ≤ position ∧ position + n ≤ v.size ∧ v.start + v.size ≤ v.buffer.size then
      read (v.start + position)
    else
      none

/-- A number of `n` bytes. -/
def number {α : Type} (v : View) (n : Nat) (default : α) (ofNat : Nat → α) (i : Nat) : Option α :=
  slot v i n default fun pos => some (ofNat (valueAt v.buffer n pos))

/-- A one-byte number. -/
def u8 (v : View) : (i : Nat) → Option UInt8 :=
  number v 1 0 UInt8.ofNat

/-- A signed two-byte number. -/
def i16 (v : View) : (i : Nat) → Option Int16 :=
  number v 2 0 fun image => (UInt16.ofNat image).toInt16

/-- A four-byte number. -/
def u32 (v : View) : (i : Nat) → Option UInt32 :=
  number v 4 0 UInt32.ofNat

/-- An eight-byte number. -/
def u64 (v : View) : (i : Nat) → Option UInt64 :=
  number v 8 0 UInt64.ofNat

/-- A reading. -/
def reading (v : View) : (i : Nat) → Option Float :=
  number v 8 absentReading fun image => Float.ofBits (UInt64.ofNat image)

/-- A text, which must lie inside the buffer. -/
def string (v : View) (i : Nat) : Option String :=
  slot v i 4 "" fun pos =>
    if View.textStop v.buffer pos ≤ v.buffer.size then
      String.fromUTF8? (View.textRange v.buffer pos)
    else
      none

/-- What an inner table holds. -/
def inner {α : Type} (v : View) (i : Nat) (default : α) (read : View → Option α) : Option α :=
  slot v i 4 default fun pos =>
    match View.childFrom v.buffer pos with
    | .ok child => read child
    | .error _ => none

/-- A timestamp. -/
def timestamp (v : View) (i : Nat) : Option Timestamp :=
  inner v i .epoch fun t => do return ⟨← u64 t 0, ← i16 t 1⟩

/-- An interval whose ends are in two slots. -/
def interval (v : View) (i : Nat) : Option Interval := do
  return ⟨← timestamp v i, ← timestamp v (i + 1)⟩

/-- A measurement. -/
def measurement (v : View) (i : Nat) : Option Measurement :=
  inner v i .absent fun m => do
    return { count := ← u32 m 0, value := ← reading m 1, low := ← reading m 2
             high := ← reading m 3, median := ← reading m 4, average := ← reading m 5
             deviation := ← reading m 6 }

/-- What economic and calendar events start with. -/
def headline (v : View) : Option Headline := do
  return { globalId := ← string v 0, shortId := ← string v 1, description := ← string v 2
           kind := .ofCode (← u8 v 3), subkind := .ofCode (← u8 v 4), eventId := ← u64 v 5
           period := ← string v 6, release := ← interval v 7 }

/-- The record of a type. -/
def record (type : RecordType) (v : View) : Option Record := do
  match type with
  | .economic =>
    return .economic
      { headline := ← headline v, value := ← measurement v 9, priorValue := ← measurement v 10
        priorEventId := ← u64 v 11, priorPeriod := ← string v 12
        priorRelease := ← interval v 13 }
  | .calendar =>
    return .calendar { headline := ← headline v, status := .ofCode (← u8 v 9) }
  | .log =>
    return .log
      { timestamp := ← timestamp v 0, component := .ofCode (← u8 v 1), status := ← u8 v 2
        correlationId := ← u64 v 3, message := ← string v 4 }
  | .reference =>
    return .reference
      { correlationId := ← u64 v 0, globalId := ← string v 1, shortId := ← string v 2
        description := ← string v 3, frequency := ← string v 4, units := ← string v 5
        country := ← string v 6, source := ← string v 7, seasonality := ← string v 8 }
  | .seriesHeadline =>
    return .seriesHeadline
      { correlationId := ← u64 v 0, kind := .ofCode (← u8 v 1), subkind := .ofCode (← u8 v 2)
        eventId := ← u64 v 3, period := ← string v 4, release := ← interval v 5
        priorEventId := ← u64 v 7, priorPeriod := ← string v 8, priorRelease := ← interval v 9
        value := ← measurement v 11 }
  | .seriesEntry =>
    return .seriesEntry
      { correlationId := ← u64 v 0, globalId := ← string v 1, shortId := ← string v 2
        kind := .ofCode (← u8 v 3), subkind := .ofCode (← u8 v 4), description := ← string v 5
        eventId := ← u64 v 6, period := ← string v 7, release := ← interval v 8
        status := .ofCode (← u8 v 10), relevance := ← reading v 11 }

end Strict

theorem Strict.slot_of_none {α : Type} {v : View} {i n : Nat} {default : α}
    {read : Nat → Option α} (h : v.position? i = none) :
    Strict.slot v i n default read = some default := by
  rw [Strict.slot, h]

/-- A slot that lies inside is read. -/
theorem Strict.slot_of_some {α : Type} {v : View} {i n position : Nat} {default : α}
    {read : Nat → Option α} (hinside : v.SlotInside i n) (hbelow : v.Below v.buffer.size)
    (h : v.position? i = some position) :
    Strict.slot v i n default read = read (v.start + position) := by
  obtain ⟨hfour, hsize⟩ := hinside position h
  simp only [Strict.slot, h]
  rw [if_pos ⟨hfour, hsize, hbelow.inPlace_le⟩]

/-! ## One slot of a layout -/

/-- The layout of the slots from the `i`-th on. -/
def Layout.drop : Layout → Nat → Layout
  | layout, 0 => layout
  | .done, _ + 1 => .done
  | .scalar _ rest, i + 1 | .text rest, i + 1 | .table _ rest, i + 1 => rest.drop i

namespace View.Found
variable {layout rest : Layout} {v : View} {slot : Nat} {t : Table}

/-- A slot of a table that was found is the first of a table that was found. -/
theorem drop (h : Found layout v slot t) (i : Nat) :
    ∃ t', Found (layout.drop i) v (slot + i) t' ∧ t.get? i = t'.get? 0 := by
  induction i generalizing layout slot t with
  | zero =>
    rw [Layout.drop]
    exact ⟨t, h, rfl⟩
  | succ i ih =>
    -- whatever the first slot shows, the others were found behind it
    have hstep : ∀ {next : Layout} {t' : Table}, Found next v (slot + 1) t' →
        t.get? (i + 1) = t'.get? i →
        ∃ t'', Found (next.drop i) v (slot + (i + 1)) t'' ∧ t.get? (i + 1) = t''.get? 0 := by
      intro next t' hnext hget
      obtain ⟨t'', hfound, hget'⟩ := ih hnext
      rw [Nat.add_assoc, Nat.add_comm 1] at hfound
      exact ⟨t'', hfound, hget.trans hget'⟩
    cases layout with
    | done =>
      obtain ⟨hsits, -, hread⟩ := h
      cases hread
      exact ⟨.done, ⟨hsits, trivial, rfl⟩, rfl⟩
    | scalar kind rest =>
      obtain ⟨-, t', hrest, ⟨-, rfl⟩ | ⟨_, -, rfl⟩⟩ := found_scalar_iff.mp h <;>
        exact hstep hrest rfl
    | text rest =>
      obtain ⟨-, t', hrest, ⟨-, rfl⟩ | ⟨_, _, -, -, rfl⟩⟩ := found_text_iff.mp h <;>
        exact hstep hrest rfl
    | table inner rest =>
      obtain ⟨-, t', hrest, ⟨-, rfl⟩ | ⟨_, _, _, -, -, -, rfl⟩⟩ := found_table_iff.mp h <;>
        exact hstep hrest rfl

/-! ## What the strict reader finds there -/

/-- A number that was found is the one that the strict reader gives, which knows
neither its kind nor its place in the layout. -/
theorem number (h : Found layout v 0 t) {i : Nat} {kind : ScalarKind}
    (hi : layout.drop i = .scalar kind rest) :
    (t.get? i = none ∧ ∀ {α : Type} (default : α) (ofNat : Nat → α),
      Strict.number v kind.size default ofNat i = some default) ∨
    ∃ image, t.get? i = some (.scalar (.ofImage kind image)) ∧
      ∀ {α : Type} (default : α) (ofNat : Nat → α),
        Strict.number v kind.size default ofNat i = some (ofNat image) := by
  obtain ⟨t₀, h₀, hget⟩ := h.drop i
  rw [hi, Nat.zero_add] at h₀
  obtain ⟨hinside, t', -, ⟨hposition, rfl⟩ | ⟨position, hposition, rfl⟩⟩ := found_scalar_iff.mp h₀
  · exact .inl ⟨hget, fun default ofNat => Strict.slot_of_none hposition⟩
  · exact .inr ⟨_, hget, fun default ofNat =>
      Strict.slot_of_some hinside h.sits.below hposition⟩

theorem u8 (h : Found layout v 0 t) (i : Nat) (hi : layout.drop i = .scalar .u8 rest) :
    Strict.u8 v i = some (t.u8 i) := by
  rw [Table.u8]
  obtain ⟨hget, hnumber⟩ | ⟨image, hget, hnumber⟩ := h.number hi <;> rw [hget] <;>
    exact hnumber ..

theorem i16 (h : Found layout v 0 t) (i : Nat) (hi : layout.drop i = .scalar .i16 rest) :
    Strict.i16 v i = some (t.i16 i) := by
  rw [Table.i16]
  obtain ⟨hget, hnumber⟩ | ⟨image, hget, hnumber⟩ := h.number hi <;> rw [hget] <;>
    exact hnumber ..

theorem u32 (h : Found layout v 0 t) (i : Nat) (hi : layout.drop i = .scalar .u32 rest) :
    Strict.u32 v i = some (t.u32 i) := by
  rw [Table.u32]
  obtain ⟨hget, hnumber⟩ | ⟨image, hget, hnumber⟩ := h.number hi <;> rw [hget] <;>
    exact hnumber ..

theorem u64 (h : Found layout v 0 t) (i : Nat) (hi : layout.drop i = .scalar .u64 rest) :
    Strict.u64 v i = some (t.u64 i) := by
  rw [Table.u64]
  obtain ⟨hget, hnumber⟩ | ⟨image, hget, hnumber⟩ := h.number hi <;> rw [hget] <;>
    exact hnumber ..

theorem reading (h : Found layout v 0 t) (i : Nat) (hi : layout.drop i = .scalar .f64 rest) :
    Strict.reading v i = some (t.reading i) := by
  rw [Table.reading]
  obtain ⟨hget, hnumber⟩ | ⟨image, hget, hnumber⟩ := h.number hi <;> rw [hget] <;>
    exact hnumber ..

theorem string (h : Found layout v 0 t) (i : Nat) (hi : layout.drop i = .text rest) :
    Strict.string v i = some (t.string i) := by
  obtain ⟨t₀, h₀, hget⟩ := h.drop i
  rw [hi, Nat.zero_add] at h₀
  rw [Table.string, hget]
  obtain ⟨hinside, t', -, ⟨hposition, rfl⟩ | ⟨position, s, hposition, hs, rfl⟩⟩ :=
    found_text_iff.mp h₀
  · exact Strict.slot_of_none hposition
  · obtain ⟨-, hstop, hrange⟩ := View.textFrom_eq_ok_iff.mp hs
    refine (Strict.slot_of_some hinside h.sits.below hposition).trans ?_
    rw [if_pos hstop]
    exact Text.fromUTF8?_eq_some_iff.mpr hrange

/-- What the strict reader makes of an inner table, given what it makes of any such
table that was found; one without slots is what an absent one counts as. -/
theorem inner {α : Type} {innerLayout : Layout} {default : α} {read : View → Option α}
    (h : Found layout v 0 t) (i : Nat) (ofTable : Table → α)
    (hi : layout.drop i = .table innerLayout rest) (hdefault : ofTable .done = default)
    (hread : ∀ {child u}, Found innerLayout child 0 u → read child = some (ofTable u)) :
    Strict.inner v i default read = some (ofTable (t.inner i)) := by
  obtain ⟨t₀, h₀, hget⟩ := h.drop i
  rw [hi, Nat.zero_add] at h₀
  rw [Table.inner, hget]
  obtain ⟨hinside, t', -, ⟨hposition, rfl⟩ | ⟨position, child, u, hposition, hchild, hu, rfl⟩⟩ :=
    found_table_iff.mp h₀
  · exact (Strict.slot_of_none hposition).trans (congrArg some hdefault.symm)
  · refine (Strict.slot_of_some hinside h.sits.below hposition).trans ?_
    rw [hchild]
    exact hread hu

theorem timestamp (h : Found layout v 0 t) (i : Nat) (hi : layout.drop i = .table .moment rest) :
    Strict.timestamp v i = some (t.timestamp i) := by
  refine h.inner i (fun u => (⟨u.u64 0, u.i16 1⟩ : Timestamp)) hi rfl fun hu => ?_
  rw [hu.u64 0 rfl, hu.i16 1 rfl]
  rfl

theorem interval {next : Layout} (h : Found layout v 0 t) (i : Nat)
    (hi : layout.drop i = .table .moment rest) (hi' : layout.drop (i + 1) = .table .moment next) :
    Strict.interval v i = some (t.interval i) := by
  rw [Strict.interval, h.timestamp i hi, h.timestamp (i + 1) hi']
  rfl

theorem measurement (h : Found layout v 0 t) (i : Nat)
    (hi : layout.drop i = .table .measurement rest) :
    Strict.measurement v i = some (t.measurement i) := by
  refine h.inner i (fun m => (⟨m.u32 0, m.reading 1, m.reading 2, m.reading 3, m.reading 4,
    m.reading 5, m.reading 6⟩ : Measurement)) hi rfl fun hm => ?_
  rw [hm.u32 0 rfl, hm.reading 1 rfl, hm.reading 2 rfl, hm.reading 3 rfl, hm.reading 4 rfl,
    hm.reading 5 rfl, hm.reading 6 rfl]
  rfl

/-- Headlines are read alike, whatever slots come after theirs. -/
theorem headline {more : List (Layout → Layout)}
    (h : Found (.ofSlots (Layout.headlineSlots ++ more)) v 0 t) :
    Strict.headline v = some t.headline := by
  rw [Strict.headline, h.string 0 rfl, h.string 1 rfl, h.string 2 rfl, h.u8 3 rfl, h.u8 4 rfl,
    h.u64 5 rfl, h.string 6 rfl, h.interval 7 rfl rfl]
  rfl

/-- The strict reader and the decoder number the slots of every record alike, and
as its layout does. -/
theorem record_eq {type : RecordType} (h : Found type.layout v 0 t) :
    Strict.record type v = some (Record.ofTable type t) := by
  cases type with
  | economic =>
    rw [Strict.record, h.headline, h.measurement 9 rfl, h.measurement 10 rfl, h.u64 11 rfl,
      h.string 12 rfl, h.interval 13 rfl rfl]
    rfl
  | calendar =>
    rw [Strict.record, h.headline, h.u8 9 rfl]
    rfl
  | log =>
    rw [Strict.record, h.timestamp 0 rfl, h.u8 1 rfl, h.u8 2 rfl, h.u64 3 rfl, h.string 4 rfl]
    rfl
  | reference =>
    rw [Strict.record, h.u64 0 rfl, h.string 1 rfl, h.string 2 rfl, h.string 3 rfl,
      h.string 4 rfl, h.string 5 rfl, h.string 6 rfl, h.string 7 rfl, h.string 8 rfl]
    rfl
  | seriesHeadline =>
    rw [Strict.record, h.u64 0 rfl, h.u8 1 rfl, h.u8 2 rfl, h.u64 3 rfl, h.string 4 rfl,
      h.interval 5 rfl rfl, h.u64 7 rfl, h.string 8 rfl, h.interval 9 rfl rfl,
      h.measurement 11 rfl]
    rfl
  | seriesEntry =>
    rw [Strict.record, h.u64 0 rfl, h.string 1 rfl, h.string 2 rfl, h.u8 3 rfl, h.u8 4 rfl,
      h.string 5 rfl, h.u64 6 rfl, h.string 7 rfl, h.interval 8 rfl rfl, h.u8 10 rfl,
      h.reading 11 rfl]
    rfl

end View.Found

end ReleaseFeed.Wire

namespace ReleaseFeed.Record
open Wire

/-- **A buffer is decoded exactly when it verifies**, and is refused for the same
reason otherwise.  After a check every slot of the envelope, of the record's
table and of the tables inside it lies where it should, and what is decoded is
what the bytes at those places spell: no default stands in for a slot that is
present. -/
theorem decode_strict (b : ByteArray) :
    (∀ e, decode b = .error e ↔ verify b = .error e) ∧
    ∀ type, verify b = .ok type →
      ∃ root message r, Envelope.find b = .ok root ∧ Envelope.message root = .ok message ∧
        root.buffer = b ∧ root.Below b.size ∧
        View.Sound b.size (Envelope.layout type) root 0 ∧
        message.buffer = b ∧ message.Below b.size ∧
        View.Sound b.size type.layout message 0 ∧
        Strict.record type message = some r ∧ decode b = .ok r := by
  refine ⟨fun e => ?_, fun type hverify => ?_⟩
  · cases hverify : verify b with
    | error e' =>
      have hdecode : decode b = .error e' := by
        rw [decode, hverify]
        rfl
      rw [hdecode, Except.error.injEq, Except.error.injEq]
    | ok type =>
      obtain ⟨r, hr⟩ := exists_decode_of_verify hverify
      rw [hr]
      constructor <;> intro h <;> cases h
  · obtain ⟨root, message, hroot, hmessage, hrootSits, rfl, hsits, hbuffer, hrootSound, hsound⟩ :=
      exists_message_of_verify hverify
    obtain ⟨t, hread⟩ := View.read_of_sound hsits hsound (Nat.le_of_eq (congrArg _ hbuffer.symm))
    -- the decoder reads the table that was checked, and no other
    have hbelow := hsits.below
    have hfound : View.Found type.layout message 0 t := ⟨hsits, by rwa [hbuffer], hread⟩
    rw [hbuffer] at hbelow
    exact ⟨root, message, ofTable type t, hroot, hmessage, rfl, hrootSits.below, hrootSound,
      hbuffer, hbelow, hsound, hfound.record_eq,
      decode_eq_ok_iff.mpr ⟨type, root, message, t, hverify, hroot, hmessage, hread, rfl⟩⟩

theorem decode_strict_sparse :
    verify sparse = .ok .log ∧
      ∃ root message r, Envelope.find sparse = .ok root ∧ Envelope.message root = .ok message ∧
        root.buffer = sparse ∧ root.Below sparse.size ∧
        View.Sound sparse.size (Envelope.layout .log) root 0 ∧
        message.buffer = sparse ∧ message.Below sparse.size ∧
        View.Sound sparse.size RecordType.log.layout message 0 ∧
        Strict.record .log message = some r ∧ decode sparse = .ok r :=
  ⟨rfl, (decode_strict sparse).2 .log rfl⟩

end ReleaseFeed.Record
