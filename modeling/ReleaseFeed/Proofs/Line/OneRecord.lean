import ReleaseFeed.Proofs.Line.Shape

/-! # One record, one line

Whatever a buffer holds, its line has no character that ends a line: the texts of a record are
escaped or in quotes, and so is the reason why a buffer is refused (`oneLine_ofBuffer`).

The line of a log record has no control characters at all, and is taken apart at its first four
bars: the four parts before the message have neither (`Plain`), so the bars are the ones that were
put between the parts, and a bar in the message comes too late to be taken for one of them
(`splitAtBars_ofLog`).
-/
namespace ReleaseFeed.Line
open Text

/-! ## Buffers -/

theorem oneLine_ofError (now : WallClock) (e : Wire.Error) (size : Nat) :
    OneLine (ofError now e size) := by
  have herror : Bare "error" := by decide
  have hbytes : Bare "bytes" := by decide
  refine oneLine_ofPairs ((digitsAnd_stamp now).oneLine (by decide)) ?_
  rw [List.forall_mem_cons, List.forall_mem_singleton]
  exact ⟨⟨herror, trivial⟩, ⟨hbytes, bare_nat size⟩⟩

theorem oneLine_ofBuffer (now : WallClock) (buffer : ByteArray) :
    OneLine (ofBuffer now buffer) := by
  rw [ofBuffer]
  cases Record.decode buffer with
  | ok r => exact oneLine_ofRecord now r
  | error e => exact oneLine_ofError now e buffer.size

/-! ## Parts of the line of a log record -/

/-- A line in parts, taken apart at its first `n` bars. -/
def splitAtBars : Nat → List Char → List (List Char)
  | 0, line => [line]
  | n + 1, line =>
    match line.dropWhile (· ≠ '|') with
    | [] => [line]
    | _ :: rest => line.takeWhile (· ≠ '|') :: splitAtBars n rest

theorem splitAtBars_append {part : List Char} (h : ∀ c ∈ part, c ≠ '|') (n : Nat)
    (rest : List Char) :
    splitAtBars (n + 1) (part ++ '|' :: rest) = part :: splitAtBars n rest := by
  have hpart : ∀ c ∈ part, decide (c ≠ '|') = true := fun c hc => decide_eq_true (h c hc)
  rw [splitAtBars, List.dropWhile_append_of_pos hpart, List.takeWhile_append_of_pos hpart,
    List.dropWhile_cons_of_neg (by decide), List.takeWhile_cons_of_neg (by decide),
    List.append_nil]

theorem splitAtBars_ofLog (r : LogRecord) : splitAtBars 4 (ofLog r).toList =
    [(logTime r.timestamp).toList, r.component.label.toList, r.statusLabel.toList,
      (correlationPart r).toList, (onOneLine r.message).toList] := by
  have hstatus : Plain r.statusLabel := r.component.plain_statusLabel r.status
  rw [toList_ofLog, splitAtBars_append (plain_logTime _).ne_bar,
    splitAtBars_append r.component.plain_label.ne_bar, splitAtBars_append hstatus.ne_bar,
    splitAtBars_append (plain_correlationPart r).ne_bar]
  rfl

/-! ## One line -/

/-- The line of a buffer is one line, and can be taken apart if it is that of a log record. -/
structure OneRecord (now : WallClock) (buffer : ByteArray) : Prop where
  oneLine : OneLine (ofBuffer now buffer)
  /-- The line of a log record has no control characters. -/
  noControl : ∀ r, Record.decode buffer = .ok (.log r) → NoControl (ofBuffer now buffer)
  /-- Its first four bars are between the time, the component, the status in the vocabulary of the
  component, the subscription, and the message with its control characters escaped. -/
  parts : ∀ r, Record.decode buffer = .ok (.log r) →
    splitAtBars 4 (ofBuffer now buffer).toList =
      [(logTime r.timestamp).toList, r.component.label.toList,
        (r.component.statusLabel r.status).toList,
        ("CorrelationID(" ++ toString r.correlationId.toNat ++ ")").toList,
        r.message.toList.flatMap fun c => if isControl c then escape c else [c]]

/-- **One record, one line**, whatever the buffer holds and whenever the line is made. -/
theorem oneRecord (now : WallClock) (buffer : ByteArray) : OneRecord now buffer where
  oneLine := oneLine_ofBuffer now buffer
  noControl r hdecode := by
    rw [ofBuffer, hdecode]
    exact noControl_ofLog r
  parts r hdecode := by
    rw [ofBuffer, hdecode]
    show splitAtBars 4 (ofLog r).toList = _
    rw [splitAtBars_ofLog, onOneLine, String.toList_ofList]
    rfl

end ReleaseFeed.Line
