import ReleaseFeed.Program.Verdict
import ReleaseFeed.Proofs.Bus.Publishing
import ReleaseFeed.Proofs.Wire.Checked

/-! # What is published of a list of files

Of a list of files the contents that verify are published, in order and each at its own time
(`postings`, `Verdict.published_publishAll`); the other files leave no trace at a station, wherever
they stand (`Verdict.publishAll_insert`).  A content that verifies always decodes, to a record of the
type that the check has found (`map_decode_verified`, `Record.verify_of_decode`), so whoever follows
the bus has a record for each of them.
-/
namespace ReleaseFeed
variable {content : Except Capture.Error ByteArray} {visit : Visit} {visits : List Visit}

/-- The content of a file, if the file could be read and the content verifies. -/
def verified? : Except Capture.Error ByteArray → Option ByteArray
  | .error _ => none
  | .ok buffer => if (Wire.verify buffer).toBool then some buffer else none

/-- The contents that verify, in the order of the files. -/
def verified (visits : List Visit) : List ByteArray :=
  visits.filterMap fun visit => verified? visit.content

/-- What is published of a file. -/
def Visit.posting? (visit : Visit) : Option Bus.Posting :=
  (verified? visit.content).map (⟨visit.time.published, ·⟩)

/-- What is published of a list of files. -/
def postings (visits : List Visit) : List Bus.Posting :=
  visits.filterMap Visit.posting?

theorem postings_cons (visit : Visit) (rest : List Visit) :
    postings (visit :: rest) = visit.posting?.toList ++ postings rest := by
  rw [postings, List.filterMap_cons]
  cases visit.posting? <;> rfl

/-- What is published are the contents that verify. -/
theorem map_buffer_postings (visits : List Visit) :
    (postings visits).map Bus.Posting.buffer = verified visits := by
  rw [postings, List.map_filterMap, verified]
  refine List.filterMap_congr fun visit _ => ?_
  rw [Visit.posting?]
  cases verified? visit.content <;> rfl

theorem length_postings (visits : List Visit) :
    (postings visits).length = (verified visits).length := by
  rw [← map_buffer_postings, List.length_map]

/-- How many files are put aside. -/
def rejectedCount (visits : List Visit) : Nat :=
  visits.countP fun visit => (verified? visit.content).isNone

theorem verified_cons_of_none (h : verified? visit.content = none) (rest : List Visit) :
    verified (visit :: rest) = verified rest :=
  List.filterMap_cons_none h

/-- One more file is one more content that verifies, or one more file that is put aside. -/
theorem counts_cons (visit : Visit) (rest : List Visit) :
    (verified (visit :: rest)).length =
        (if (verified? visit.content).isSome then 1 else 0) + (verified rest).length ∧
      rejectedCount (visit :: rest) =
        (if (verified? visit.content).isSome then 0 else 1) + rejectedCount rest := by
  rw [rejectedCount, List.countP_cons, Nat.add_comm (List.countP _ _)]
  cases hverified : verified? visit.content with
  | none =>
    rw [verified_cons_of_none hverified]
    exact ⟨(Nat.zero_add _).symm, rfl⟩
  | some buffer =>
    have hcons : verified (visit :: rest) = buffer :: verified rest :=
      List.filterMap_cons_some hverified
    rw [hcons, List.length_cons, Nat.add_comm]
    exact ⟨rfl, rfl⟩

/-- Every file is published or put aside. -/
theorem length_verified_add_rejectedCount (visits : List Visit) :
    (verified visits).length + rejectedCount visits = visits.length := by
  induction visits with
  | nil => rfl
  | cons visit rest ih =>
    obtain ⟨hpublished, hrejected⟩ := counts_cons visit rest
    rw [hpublished, hrejected, List.length_cons, ← ih]
    cases (verified? visit.content).isSome with
    | false =>
      simp only [Bool.false_eq_true, if_false]
      omega
    | true =>
      simp only [if_true]
      omega

/-- A file that is put aside changes nothing wherever it stands. -/
theorem verified_insert (before after : List Visit) (h : verified? visit.content = none) :
    verified (before ++ visit :: after) = verified (before ++ after) := by
  have hcons := verified_cons_of_none h after
  rw [verified] at hcons
  rw [verified, verified, List.filterMap_append, List.filterMap_append, hcons, verified]

theorem rejectedCount_insert (before after : List Visit) (h : verified? visit.content = none) :
    rejectedCount (before ++ visit :: after) = rejectedCount (before ++ after) + 1 := by
  rw [rejectedCount, rejectedCount, List.countP_append, List.countP_append,
    List.countP_cons_of_pos (by rw [h]; rfl), Nat.add_assoc]

/-! ## Verdicts -/

namespace Verdict

/-- A file is accepted when its content verifies, and then the verdict has both. -/
theorem of_cases (content : Except Capture.Error ByteArray) :
    (∃ buffer type, verified? content = some buffer ∧ Wire.verify buffer = .ok type ∧
        of content = accepted buffer type) ∨
      verified? content = none ∧
        ((∃ error, of content = unreadable error) ∨ ∃ error, of content = rejected error) := by
  cases content with
  | error error => exact .inr ⟨rfl, .inl ⟨error, rfl⟩⟩
  | ok buffer =>
    rw [of, verified?]
    cases hverify : Wire.verify buffer with
    | error error => exact .inr ⟨rfl, .inr ⟨error, rfl⟩⟩
    | ok type => exact .inl ⟨buffer, type, rfl, hverify, rfl⟩

theorem isAccepted_of (content : Except Capture.Error ByteArray) :
    (of content).isAccepted = (verified? content).isSome := by
  rcases of_cases content with ⟨buffer, type, hsome, -, hof⟩ | ⟨hnone, ⟨_, hof⟩ | ⟨_, hof⟩⟩
  · rw [hof, hsome]
    rfl
  all_goals
    rw [hof, hnone]
    rfl

variable {ω σ : Type} [Observer ω σ]

/-- A file that is put aside leaves the whole station as it is, telemetry and all. -/
theorem publish_of_rejected (h : verified? content = none) (time : CallTime) (part : String)
    (s : Station ω σ) : (of content).publish time part s = s := by
  rcases of_cases content with ⟨buffer, type, hsome, -⟩ | ⟨-, ⟨_, hof⟩ | ⟨_, hof⟩⟩
  · rw [h] at hsome
    cases hsome
  all_goals
    rw [hof]
    rfl

/-- The station publishes the content if it verifies. -/
theorem published (visit : Visit) (part : String) (s : Station ω σ) :
    Station.Published visit.posting?.toList s
      ((of visit.content).publish visit.time part s) := by
  rw [Visit.posting?]
  rcases of_cases visit.content with ⟨buffer, type, hsome, -, hof⟩ | ⟨hnone, -⟩
  · rw [hsome, hof]
    exact Station.published_timed (Station.published_publish visit.time.published buffer) s
  · rw [publish_of_rejected hnone, hnone]
    exact Station.published_nil rfl rfl

/-- The station after the contents of a list of files are published, as far as they verify. -/
def publishAll (part : String) (visits : List Visit) (s : Station ω σ) : Station ω σ :=
  visits.foldl (fun s visit => (of visit.content).publish visit.time part s) s

theorem published_publishAll (part : String) (visits : List Visit) (s : Station ω σ) :
    Station.Published (postings visits) s (publishAll part visits s) := by
  induction visits generalizing s with
  | nil => exact Station.published_nil rfl rfl
  | cons visit rest ih =>
    rw [postings_cons, publishAll, List.foldl_cons]
    exact (published visit part s).trans (ih _)

theorem publishAll_insert (before after : List Visit) (h : verified? visit.content = none)
    (part : String) (s : Station ω σ) :
    publishAll part (before ++ visit :: after) s = publishAll part (before ++ after) s := by
  rw [publishAll, publishAll, List.foldl_append, List.foldl_append, List.foldl_cons,
    publish_of_rejected h]

end Verdict

/-! ## Records -/

theorem Record.type_ofTable (type : RecordType) (t : Wire.Table) :
    (ofTable type t).type = type := by
  cases type <;> rfl

/-- A record has the type that the check has found. -/
theorem Record.verify_of_decode {b : ByteArray} {r : Record} (h : decode b = .ok r) :
    Wire.verify b = .ok r.type := by
  obtain ⟨type, -, -, t, hverify, -, -, -, rfl⟩ := decode_eq_ok_iff.mp h
  rw [hverify, type_ofTable]

/-- The records of the contents that verify, in order. -/
def records (visits : List Visit) : List Record :=
  (verified visits).filterMap fun buffer => (Record.decode buffer).toOption

theorem exists_decode_of_mem_verified {buffer : ByteArray} (h : buffer ∈ verified visits) :
    ∃ r, Record.decode buffer = .ok r := by
  obtain ⟨visit, -, hsome⟩ := List.mem_filterMap.mp h
  rcases Verdict.of_cases visit.content with ⟨buffer', type, hsome', hverify, -⟩ | ⟨hnone, -⟩
  · cases hsome.symm.trans hsome'
    exact Record.exists_decode_of_verify hverify
  · rw [hnone] at hsome
    cases hsome

/-- Contents that decode all have their records, in order. -/
theorem map_decode_filterMap {buffers : List ByteArray}
    (h : ∀ buffer ∈ buffers, ∃ r, Record.decode buffer = .ok r) :
    buffers.map Record.decode =
      (buffers.filterMap fun buffer => (Record.decode buffer).toOption).map .ok := by
  induction buffers with
  | nil => rfl
  | cons buffer rest ih =>
    obtain ⟨r, hr⟩ := h buffer List.mem_cons_self
    rw [List.map_cons, ih fun b hb => h b (List.mem_cons_of_mem _ hb), List.filterMap_cons, hr]
    rfl

/-- Every content that verifies decodes. -/
theorem map_decode_verified (visits : List Visit) :
    (verified visits).map Record.decode = (records visits).map .ok :=
  map_decode_filterMap fun _ h => exists_decode_of_mem_verified h

end ReleaseFeed
