import ReleaseFeed.Telemetry.Outlet

/-! # What a buffered outlet keeps

Text that is written to a buffered outlet goes behind the text so far, in the file or held
back, or it is dropped; and the file ends where one of the texts ended.  `Buffered.Keeps`
says so, whatever attempts fail.  Of a line three things can be kept: nothing, the line
without its end, or all of it (`writeLine_cases`).

On a file that does not fail, a line is kept whole and nothing is held back after it
(`writeLine_of_reliable`).
-/
namespace ReleaseFeed.Telemetry

/-- No attempt to write fails. -/
def Outlet.Reliable (o : Outlet) : Prop :=
  ∀ attempt, o.fails attempt = false

/-- An attempt adds all of a text or nothing, and nothing only if it fails. -/
theorem Outlet.write_cases (o : Outlet) (s : String) :
    (∃ o', o.write s = (true, o') ∧ o'.content = o.content ++ s ∧ o'.fails = o.fails) ∨
      ∃ o', o.write s = (false, o') ∧ o'.content = o.content ∧ o'.fails = o.fails ∧
        ¬ o.Reliable := by
  by_cases hfails : o.fails o.attempts = true
  · refine .inr ⟨_, if_pos hfails, rfl, rfl, fun hreliable => ?_⟩
    rw [hreliable] at hfails
    cases hfails
  · exact .inl ⟨_, if_neg hfails, rfl, rfl⟩

namespace Buffered
variable {b b' b'' : Buffered} {s : String} {texts more : List String}

/-- All text so far, in the file or held back. -/
def text (b : Buffered) : String :=
  b.outlet.content ++ b.held

/-- These texts went behind the text so far.  The file has what it had, or all text so far and
some of these texts. -/
structure Keeps (b : Buffered) (texts : List String) (b' : Buffered) : Prop where
  text : b'.text = b.text ++ String.join texts
  filed : b'.outlet.content = b.outlet.content ∨
    ∃ n, b'.outlet.content = b.text ++ String.join (texts.take n)
  fails_eq : b'.outlet.fails = b.outlet.fails

theorem keeps_self (b : Buffered) : b.Keeps [] b :=
  ⟨(String.append_empty).symm, .inl rfl, rfl⟩

theorem Keeps.trans (h : b.Keeps texts b') (h' : b'.Keeps more b'') :
    b.Keeps (texts ++ more) b'' := by
  refine ⟨?_, ?_, h'.fails_eq.trans h.fails_eq⟩
  · rw [h'.text, h.text, String.join_append, String.append_assoc]
  rcases h'.filed with hsame | ⟨n, hn⟩
  · rcases h.filed with hsame' | ⟨n, hn⟩
    · exact .inl (hsame.trans hsame')
    · refine .inr ⟨min n texts.length, ?_⟩
      rw [hsame, hn, List.take_append_of_le_length (Nat.min_le_right _ _), List.take_eq_take_min]
  · refine .inr ⟨texts.length + n, ?_⟩
    rw [hn, h.text, List.take_length_add_append, String.join_append, String.append_assoc]

/-- No attempt fails later if none fails now. -/
theorem Keeps.reliable (h : b.Keeps texts b') (hreliable : b.outlet.Reliable) :
    b'.outlet.Reliable := by
  intro attempt
  rw [h.fails_eq]
  exact hreliable attempt

/-- Where nothing is held back, the file has all text. -/
theorem content_of_held_eq (h : b.held = "") : b.outlet.content = b.text := by
  rw [text, h, String.append_empty]

/-- A flush keeps what was kept.  It leaves nothing held back, or else an attempt has failed. -/
theorem flush_cases (b : Buffered) :
    (∃ b', b.flush = (true, b') ∧ b.Keeps [] b' ∧ b'.held = "") ∨
      ∃ b', b.flush = (false, b') ∧ b.Keeps [] b' ∧ ¬ b.outlet.Reliable := by
  by_cases hheld : b.held = ""
  · exact .inl ⟨b, if_pos (by rw [hheld]; rfl), keeps_self b, hheld⟩
  have hflush : b.flush = ((b.outlet.write b.held).1,
      ⟨(b.outlet.write b.held).2, if (b.outlet.write b.held).1 then "" else b.held⟩) :=
    if_neg (by rwa [String.isEmpty_iff])
  rcases b.outlet.write_cases b.held with
    ⟨o, hwrite, hcontent, hfails⟩ | ⟨o, hwrite, hcontent, hfails, hnot⟩
  · rw [hwrite] at hflush
    refine .inl ⟨_, hflush, ⟨?_, .inr ⟨0, ?_⟩, hfails⟩, rfl⟩
    · show o.content ++ "" = _
      rw [hcontent]
      rfl
    · show o.content = _
      rw [hcontent, List.take_nil, String.join_nil, String.append_empty]
      rfl
  · rw [hwrite] at hflush
    refine .inr ⟨_, hflush, ⟨?_, .inl hcontent, hfails⟩, hnot⟩
    show o.content ++ b.held = _
    rw [hcontent, String.join_nil, String.append_empty]
    rfl

/-- Where nothing is held back, there is nothing to do at the end. -/
theorem close_of_held_eq (h : b.held = "") : b.close = b := by
  rw [close, flush, if_pos (by rw [h]; rfl), ← h]

/-- Holding a text back keeps it. -/
theorem keeps_held (b : Buffered) (s : String) : b.Keeps [s] { b with held := b.held ++ s } := by
  refine ⟨?_, .inl rfl, rfl⟩
  show b.outlet.content ++ (b.held ++ s) = _
  rw [String.join_cons, String.join_nil, String.append_empty, text, String.append_assoc]

/-- Where nothing is held back, an attempt keeps all of a text or nothing of it. -/
theorem attempt_cases (hheld : b.held = "") (s : String) :
    (∃ o, b.outlet.write s = (true, o) ∧ b.Keeps [s] { b with outlet := o }) ∨
      ∃ o, b.outlet.write s = (false, o) ∧ b.Keeps [] { b with outlet := o } ∧
        ¬ b.outlet.Reliable := by
  rcases b.outlet.write_cases s with
    ⟨o, hwrite, hcontent, hfails⟩ | ⟨o, hwrite, hcontent, hfails, hnot⟩
  · have hall : o.content = b.text ++ String.join [s] := by
      rw [hcontent, content_of_held_eq hheld, String.join_cons, String.join_nil,
        String.append_empty]
    refine .inl ⟨o, hwrite, ?_, .inr ⟨1, hall⟩, hfails⟩
    show o.content ++ b.held = _
    rw [hheld, String.append_empty, hall]
  · refine .inr ⟨o, hwrite, ⟨?_, .inl hcontent, hfails⟩, hnot⟩
    show o.content ++ b.held = _
    rw [hcontent, String.join_nil, String.append_empty]
    rfl

/-- Before a text that does not fit, what is held back is flushed. -/
theorem makeRoom_cases (hsize : room - b.held.utf8ByteSize ≤ s.utf8ByteSize) :
    (∃ b', (if room - b.held.utf8ByteSize < s.utf8ByteSize then b.flush else (true, b)) =
        (true, b') ∧ b.Keeps [] b' ∧ (room ≤ s.utf8ByteSize → b'.held = "")) ∨
      ∃ b', (if room - b.held.utf8ByteSize < s.utf8ByteSize then b.flush else (true, b)) =
        (false, b') ∧ b.Keeps [] b' ∧ ¬ b.outlet.Reliable := by
  by_cases hspare : room - b.held.utf8ByteSize < s.utf8ByteSize
  · rw [if_pos hspare]
    rcases b.flush_cases with ⟨b', hflush, hkeeps, hheld⟩ | hfailed
    · exact .inl ⟨b', hflush, hkeeps, fun _ => hheld⟩
    · exact .inr hfailed
  · refine .inl ⟨b, if_neg hspare, keeps_self b, fun hroom => ?_⟩
    -- the text fills the spare room exactly, so all the room is spare
    have hroom_pos : 0 < room := by decide
    exact String.utf8ByteSize_eq_zero_iff.mp (by omega)

/-- A text is kept, or it is dropped and an attempt has failed. -/
theorem write_cases (b : Buffered) (s : String) :
    (∃ b', b.write s = (true, b') ∧ b.Keeps [s] b') ∨
      ∃ b', b.write s = (false, b') ∧ b.Keeps [] b' ∧ ¬ b.outlet.Reliable := by
  by_cases hfits : s.utf8ByteSize < room - b.held.utf8ByteSize
  · exact .inl ⟨_, if_pos hfits, keeps_held b s⟩
  rcases makeRoom_cases (Nat.not_lt.mp hfits) with
    ⟨b₁, hroom, hkeeps, hheld⟩ | ⟨b₁, hroom, hfailed⟩
  · by_cases hlarge : room ≤ s.utf8ByteSize
    · rcases attempt_cases (hheld hlarge) s with
        ⟨o, hwrite, hkeeps'⟩ | ⟨o, hwrite, hkeeps', hnot⟩
      · refine .inl ⟨_, ?_, hkeeps.trans hkeeps'⟩
        simp only [write, if_neg hfits, hroom, Bool.not_true, Bool.false_eq_true, if_false,
          if_pos hlarge, hwrite]
      · refine .inr ⟨_, ?_, hkeeps.trans hkeeps', fun h => hnot (hkeeps.reliable h)⟩
        simp only [write, if_neg hfits, hroom, Bool.not_true, Bool.false_eq_true, if_false,
          if_pos hlarge, hwrite]
    · refine .inl ⟨_, ?_, hkeeps.trans (keeps_held b₁ s)⟩
      simp only [write, if_neg hfits, hroom, Bool.not_true, Bool.false_eq_true, if_false,
        if_neg hlarge]
  · refine .inr ⟨b₁, ?_, hfailed⟩
    simp only [write, if_neg hfits, hroom, Bool.not_false, if_true]

/-- A line and its end are kept, with nothing held back; or an attempt has failed, and what is
kept of them is both, only the line, or nothing. -/
theorem writeLine_cases (b : Buffered) (line : String) :
    (∃ b', b.writeLine line = (true, b') ∧ b.Keeps [line, "\n"] b' ∧ b'.held = "") ∨
      ∃ b', b.writeLine line = (false, b') ∧ (∃ n, b.Keeps ([line, "\n"].take n) b') ∧
        ¬ b.outlet.Reliable := by
  rcases b.write_cases line with ⟨b₁, hline, hkeeps₁⟩ | ⟨b₁, hline, hkeeps₁, hnot⟩
  · rcases b₁.write_cases "\n" with ⟨b₂, hend, hkeeps₂⟩ | ⟨b₂, hend, hkeeps₂, hnot⟩
    · have hboth := hkeeps₁.trans hkeeps₂
      have hlast : b.writeLine line = b₂.flush := by
        simp only [writeLine, hline, hend]
      rcases b₂.flush_cases with ⟨b₃, hflush, hkeeps₃, hheld⟩ | ⟨b₃, hflush, hkeeps₃, hnot⟩
      · exact .inl ⟨b₃, hlast.trans hflush, hboth.trans hkeeps₃, hheld⟩
      · exact .inr ⟨b₃, hlast.trans hflush, ⟨2, hboth.trans hkeeps₃⟩,
          fun h => hnot (hboth.reliable h)⟩
    · refine .inr ⟨b₂, ?_, ⟨1, hkeeps₁.trans hkeeps₂⟩, fun h => hnot (hkeeps₁.reliable h)⟩
      simp only [writeLine, hline, hend]
  · refine .inr ⟨b₁, ?_, ⟨0, hkeeps₁⟩, hnot⟩
    simp only [writeLine, hline]

/-- On a file that does not fail, a line is in the file with all text before it. -/
theorem writeLine_of_reliable (h : b.outlet.Reliable) (line : String) :
    ∃ b', b.writeLine line = (true, b') ∧ b.Keeps [line, "\n"] b' ∧ b'.held = "" := by
  rcases b.writeLine_cases line with hdone | ⟨-, -, -, hnot⟩
  · exact hdone
  · exact absurd h hnot

end Buffered

end ReleaseFeed.Telemetry
