import ReleaseFeed.Proofs.Wire.Extension
import ReleaseFeed.Proofs.Wire.RoundTrip

/-! # Messages that were cut

A prefix of a message that is accepted by itself is read as it is in the whole
message (`decode_append`), so a cut message is never taken for another one.  A
written message cannot even be cut and accepted, but for its last bytes: what
comes last in it is a text with its NUL and padding, or the in-place part of a
table with its padding, and no more than 4 bytes of that are not looked at.

The argument for this is `Table.Written.end_le`, an induction over the table: if all
that its slots show lies in the first `n` bytes, then what is laid out for them ends
at `n + 4` at the latest.  A cut message that verifies says of its first `n` bytes
that everything in the envelope's layout lies there, and this stays true in the whole
message (`View.Sound.extend`).
-/
namespace ReleaseFeed.Wire
open Bytes

/-- What is laid out for the slots of a table ends no more than 4 bytes after the bytes
within which the slots are sound. -/
theorem Table.Written.end_le {layout : Layout} {t : Table} {v : View} {slot q n : Nat}
    (h : t.Written v slot q) (hkeep : layout.keep t = some t)
    (hsound : View.Sound n layout v slot) (hq : q ≤ n + 4) :
    q + (join (outline q t).2).size ≤ n + 4 := by
  induction t generalizing layout v slot q with
  | done => exact hq
  | absent rest ih =>
    -- nothing is laid out for the slot, whatever the layout has there
    have hstep : ∀ {next : Layout}, (next.keep rest).map Table.absent = some (.absent rest) →
        View.Sound n next v (slot + 1) → q + (join (outline q rest).2).size ≤ n + 4 := by
      intro next hnext hsound
      obtain ⟨w, hw, hrest⟩ := Option.map_eq_some_iff.mp hnext
      cases hrest
      exact ih h.2 hw hsound hq
    cases layout with
    | done => cases hkeep
    | scalar | text | table => exact hstep hkeep hsound.2
  | scalar s rest ih =>
    cases layout with
    | scalar kind next =>
      simp only [Layout.keep, Option.ite_none_right_eq_some] at hkeep
      obtain ⟨w, hw, hrest⟩ := Option.map_eq_some_iff.mp hkeep.2
      cases hrest
      exact ih h.2 hw hsound.2 hq
    | done | text | table => cases hkeep
  | text s rest ih =>
    cases layout with
    | text next =>
      obtain ⟨w, hw, hrest⟩ := Option.map_eq_some_iff.mp hkeep
      cases hrest
      obtain ⟨⟨position, hslot, htarget, hs⟩, hwritten⟩ := h
      -- behind a text that ends within `n` come its NUL and padding only
      have hstop := (hsound.1.2 position hslot.position?_eq).1
      have hsize := (size_textBytes s).2
      rw [View.textStop_eq hs, htarget] at hstop
      have hend := ih hwritten hw hsound.2 (by omega)
      simp only [outline, join_cons, ByteArray.size_append]
      omega
    | done | scalar | table => cases hkeep
  | child u rest ihInner ih =>
    cases layout with
    | table inner next =>
      obtain ⟨u', hu, hkeep⟩ := Option.bind_eq_some_iff.mp hkeep
      obtain ⟨w, hw, hrest⟩ := Option.map_eq_some_iff.mp hkeep
      cases hrest
      obtain ⟨⟨position, hslot, hchild, hinner⟩, hwritten⟩ := h
      obtain ⟨child, hchild', hbelow, hsoundInner⟩ := hsound.1.2 position hslot.position?_eq
      cases hchild.symm.trans hchild'
      -- the inner table ends within `n`, so its own texts and tables start at `n + 4` at most
      have hstop := Nat.le_trans (stop_le_viewAt v.buffer q u) hbelow.inPlace_le
      have hout := u.outlineStart_lt q
      have hsize := end_write q u
      have hendInner := ihInner hinner hu hsoundInner (by omega)
      have hend := ih hwritten hw hsound.2 (by omega)
      simp only [outline, join_cons, ByteArray.size_append]
      change q + ((u.write q).size + (join (outline (q + (u.write q).size) rest).2).size) ≤ n + 4
      omega
    | done | scalar | text => cases hkeep

end ReleaseFeed.Wire

namespace ReleaseFeed.Record
open Wire

theorem extract_append_extract (b : ByteArray) {n : Nat} (h : n ≤ b.size) :
    b.extract 0 n ++ b.extract n b.size = b := by
  rw [← ByteArray.extract_eq_extract_append_extract n (Nat.zero_le n) h,
    ByteArray.extract_zero_size]

theorem extract_of_size_le {b : ByteArray} {n : Nat} (h : b.size ≤ n) : b.extract 0 n = b := by
  apply ByteArray.ext
  rw [ByteArray.data_extract]
  exact Array.extract_eq_self_of_le h

/-- A written message that lacks more than its last 4 bytes does not verify. -/
theorem verify_ne_ok_of_cut {r : Record} {n : Nat} {type : RecordType}
    (hsize : r.encode.size ≤ maxMessageSize) (hn : n + 4 < r.encode.size) :
    verify (r.encode.extract 0 n) ≠ .ok type := by
  intro hverify
  have hle : n ≤ r.encode.size := by omega
  have hjoin := extract_append_extract r.encode hle
  have hsizeCut : (r.encode.extract 0 n).size = n := by
    rw [ByteArray.size_extract, Nat.min_eq_left hle, Nat.sub_zero]
  generalize r.encode.extract 0 n = p at hverify hjoin hsizeCut
  generalize r.encode.extract n r.encode.size = x at hjoin
  obtain ⟨root, -, hroot, -, hrootSits, rfl, -, -, hsound, -⟩ := exists_message_of_verify hverify
  have hsizeJoin : (root.buffer ++ x).size ≤ maxMessageSize := by rwa [hjoin]
  -- the type and the envelope of the cut message are those of the whole one
  have hverify' := verify_append x hverify hsizeJoin
  have hfind := Envelope.find_append x hroot hsizeJoin
  rw [hjoin] at hverify' hfind
  cases hverify'.symm.trans (decode_enclose hsize r.narrow_table r.keep_table).1
  obtain ⟨hfind', hsits, hwritten⟩ := find_enclose hsize r.narrow_table
  have hview := Except.ok.inj (hfind.symm.trans hfind')
  have hsound' := hsound.extend x hrootSits (Nat.le_refl _)
  have hbelow : (root.extend x).Below n :=
    ⟨hsizeCut ▸ hrootSits.below.index_le, hsizeCut ▸ hrootSits.below.inPlace_le⟩
  rw [hview] at hsound' hbelow
  rw [hsizeCut] at hsound'
  -- so all that the envelope refers to lies in the bytes that were kept
  have hstop := Nat.le_trans (Table.stop_le_viewAt _ 4 _) hbelow.inPlace_le
  have hout := (Envelope.table r.type r.table).outlineStart_lt 4
  have hend := Table.end_write 4 (Envelope.table r.type r.table)
  have hend' := hwritten.end_le (keep_envelope r.keep_table) hsound' (by omega)
  have hwhole : r.encode.size = _ := size_enclose r.type r.table
  omega

/-- **A cut or padded message is never decoded as another one.**  Bytes after an
accepted message change nothing, so a prefix of a message is refused or decodes as the
message does; and a prefix of a written message is refused if it lacks more than the
last 4 bytes. -/
theorem decode_prefix :
    (∀ (p x : ByteArray) (m : Record), decode p = .ok m → (p ++ x).size ≤ maxMessageSize →
      decode (p ++ x) = .ok m) ∧
    (∀ (b : ByteArray) (n : Nat), b.size ≤ maxMessageSize →
      (∃ e, decode (b.extract 0 n) = .error e) ∨ decode (b.extract 0 n) = decode b) ∧
    (∀ (r : Record) (n : Nat), r.encode.size ≤ maxMessageSize → n + 4 < r.encode.size →
      ∃ e, decode (r.encode.extract 0 n) = .error e) := by
  refine ⟨fun p x m h hx => decode_append x h hx, fun b n hb => ?_, fun r n hsize hn => ?_⟩
  · cases hdecode : decode (b.extract 0 n) with
    | error e => exact .inl ⟨e, rfl⟩
    | ok m =>
      refine .inr ?_
      rcases Nat.le_total n b.size with hn | hn
      · have hjoin := extract_append_extract b hn
        have hwhole := decode_append (b.extract n b.size) hdecode (by rwa [hjoin])
        rw [hjoin] at hwhole
        exact hwhole.symm
      · rw [← hdecode, extract_of_size_le hn]
  · cases hdecode : decode (r.encode.extract 0 n) with
    | error e => exact ⟨e, rfl⟩
    | ok m =>
      obtain ⟨type, _, _, _, hverify, -⟩ := decode_eq_ok_iff.mp hdecode
      exact absurd hverify (verify_ne_ok_of_cut hsize hn)

theorem decode_prefix_sparse :
    (decode sparse = .ok (.log { timestamp := ⟨7, 0⟩, message := "ok" }) ∧
      (sparse ++ ⟨#[33]⟩).size ≤ maxMessageSize ∧
      decode (sparse ++ ⟨#[33]⟩) = .ok (.log { timestamp := ⟨7, 0⟩, message := "ok" })) ∧
    (sparse.size ≤ maxMessageSize ∧
      ((∃ e, decode (sparse.extract 0 77) = .error e) ∨
        decode (sparse.extract 0 77) = decode sparse)) ∧
    ((reference {}).encode.size ≤ maxMessageSize ∧ 160 + 4 < (reference {}).encode.size ∧
      ∃ e, decode ((reference {}).encode.extract 0 160) = .error e) :=
  have hsize : (reference {}).encode.size = 168 :=
    (size_enclose _ _).trans (by decide +kernel)
  ⟨⟨decode_sparse, by decide, decode_prefix.1 sparse ⟨#[33]⟩ _ decode_sparse (by decide)⟩,
    ⟨by decide, decode_prefix.2.1 sparse 77 (by decide)⟩,
    ⟨by rw [hsize]; decide, by rw [hsize]; decide,
      decode_prefix.2.2 (.reference {}) 160 (by rw [hsize]; decide) (by rw [hsize]; decide)⟩⟩

end ReleaseFeed.Record
