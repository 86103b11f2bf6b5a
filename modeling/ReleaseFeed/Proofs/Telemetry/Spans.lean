import ReleaseFeed.Proofs.Telemetry.Sessions

/-! # Events with one id are the start and the end of one span

The events of a session that carry a given id are none, or one, or two; and two of them are
the start and the end of the same span, which name the same part and metric (`Paired`).

What makes it so is `Matched`.  The next fresh id is above every id in use, so an event that
draws it is the only one that has it.  And for each span that is still open and recorded, its
start is the only event with its id; so its end, whenever it comes, is the second one, and
no other open span has this id.  Each of the six effects of an action keeps this
(`Matched.effect`).
-/
namespace ReleaseFeed.Telemetry

/-! ## Entries with an id -/

/-- The entries whose events carry an id. -/
def withId (id : UInt64) (entries : List Entry) : List Entry :=
  entries.filter fun e => e.event.id = id

/-- How many fresh ids are in use: an end takes the id of its start. -/
def drawn (entries : List Entry) : Nat :=
  entries.countP fun e => !e.origin.isFinish

/-- What can share an id. -/
inductive Paired : List Entry → Prop where
  | none : Paired []
  | alone {e : Entry} (origin : e.origin.isFinish = false) : Paired [e]
  | pair {k : Nat} {first last : Event} (part : last.part = first.part)
      (metric : last.metric = first.metric) :
      Paired [⟨.start k, first⟩, ⟨.finish k, last⟩]

section Entries
variable {entries : List Entry} {spans spans' : List (Option Span)} {nextId nextId' id : UInt64}
  {e : Entry}

theorem mem_withId_iff : e ∈ withId id entries ↔ e ∈ entries ∧ e.event.id = id := by
  rw [withId, List.mem_filter, decide_eq_true_iff]

theorem withId_concat_self (h : e.event.id = id) :
    withId id (entries ++ [e]) = withId id entries ++ [e] := by
  rw [withId, List.filter_append, List.filter_cons_of_pos (by rwa [decide_eq_true_iff])]
  rfl

theorem withId_concat_of_ne (h : e.event.id ≠ id) :
    withId id (entries ++ [e]) = withId id entries := by
  rw [withId, List.filter_append, List.filter_cons_of_neg (by rwa [decide_eq_true_iff])]
  exact List.append_nil _

theorem drawn_le_length : drawn entries ≤ entries.length :=
  List.countP_le_length

theorem drawn_concat_of_isFinish (h : e.origin.isFinish) :
    drawn (entries ++ [e]) = drawn entries := by
  rw [drawn, List.countP_append, List.countP_singleton, h]
  rfl

theorem drawn_concat_of_not_isFinish (h : e.origin.isFinish = false) :
    drawn (entries ++ [e]) = drawn entries + 1 := by
  rw [drawn, List.countP_append, List.countP_singleton, h]
  rfl

/-! ## Open spans -/

/-- The accepted events, the open spans and the next fresh id fit together. -/
structure Matched (entries : List Entry) (spans : List (Option Span)) (nextId : UInt64) : Prop where
  nextId_eq : nextId = UInt64.ofNat (drawn entries + 1)
  id_bounds : ∀ e ∈ entries, 0 < e.event.id.toNat ∧ e.event.id.toNat ≤ drawn entries
  paired : ∀ id, Paired (withId id entries)
  /-- An open span that is recorded has left its start, and nothing else. -/
  started : ∀ k span, spans[k]? = some (some span) → span.id ≠ 0 →
    ∃ part metric, span = .ofStart part metric span.id ∧
      withId span.id entries = [⟨.start k, .of part metric Span.startMessage span.id⟩]

namespace Matched

theorem toNat_nextId (h : Matched entries spans nextId) (hfew : drawn entries + 1 < 2 ^ 64) :
    nextId.toNat = drawn entries + 1 := by
  rw [h.nextId_eq]
  exact Machine.toNat_firstId hfew

/-- The next fresh id is not in use. -/
theorem withId_nextId (h : Matched entries spans nextId) (hfew : drawn entries + 1 < 2 ^ 64) :
    withId nextId entries = [] := by
  refine List.filter_eq_nil_iff.mpr fun e he hid => ?_
  have hle := (h.id_bounds e he).2
  rw [of_decide_eq_true hid, h.toNat_nextId hfew] at hle
  omega

/-- An event that draws the next id is the only one that has it. -/
theorem draw (h : Matched entries spans nextId) (hfew : drawn entries + 1 < 2 ^ 64)
    (hid : e.event.id = nextId) (horigin : e.origin.isFinish = false) :
    Matched (entries ++ [e]) spans (nextId + 1) where
  nextId_eq := by
    rw [drawn_concat_of_not_isFinish horigin, h.nextId_eq, UInt64.ofNat_add (_ + 1) 1]
    rfl
  id_bounds := by
    intro e' he'
    rw [drawn_concat_of_not_isFinish horigin]
    rcases List.mem_append.mp he' with hold | hnew
    · have hbounds := h.id_bounds e' hold
      omega
    · rw [List.mem_singleton.mp hnew, hid, h.toNat_nextId hfew]
      omega
  paired := by
    intro id
    by_cases hsame : e.event.id = id
    · rw [withId_concat_self hsame, ← hsame, hid, h.withId_nextId hfew]
      exact .alone horigin
    · rw [withId_concat_of_ne hsame]
      exact h.paired id
  started := by
    intro k span hopen hrecorded
    obtain ⟨part, metric, hspan, honly⟩ := h.started k span hopen hrecorded
    refine ⟨part, metric, hspan, ?_⟩
    rw [withId_concat_of_ne, honly]
    intro hsame
    rw [← hsame, hid, h.withId_nextId hfew] at honly
    cases honly

/-- A span can be opened that is not recorded, or whose start is in. -/
theorem opened (h : Matched entries spans nextId) (span : Span)
    (hstarted : span.id ≠ 0 → ∃ part metric, span = .ofStart part metric span.id ∧
      withId span.id entries =
        [⟨.start spans.length, .of part metric Span.startMessage span.id⟩]) :
    Matched entries (spans ++ [some span]) nextId where
  nextId_eq := h.nextId_eq
  id_bounds := h.id_bounds
  paired := h.paired
  started := by
    intro k span' hopen hrecorded
    rcases Nat.lt_or_ge k spans.length with hlt | hge
    · rw [List.getElem?_append_left hlt] at hopen
      exact h.started k span' hopen hrecorded
    · rw [List.getElem?_append_right hge, List.getElem?_singleton] at hopen
      obtain ⟨hk, hsame⟩ := Option.ite_none_right_eq_some.mp hopen
      cases hsame
      obtain rfl : k = spans.length := by omega
      exact hstarted hrecorded

/-- A span that is open stays open when another one is closed. -/
theorem open_of_open_set {k j : Nat} {span : Span}
    (h : (spans.set k none)[j]? = some (some span)) : j ≠ k ∧ spans[j]? = some (some span) := by
  rcases eq_or_ne j k with rfl | hne
  · rw [List.getElem?_set_self'] at h
    obtain ⟨_, -, hnone⟩ := Option.map_eq_some_iff.mp h
    cases hnone
  · rw [List.getElem?_set_ne hne.symm] at h
    exact ⟨hne, h⟩

/-- A span can end without a trace. -/
theorem vanished (h : Matched entries spans nextId) (k : Nat) :
    Matched entries (spans.set k none) nextId where
  nextId_eq := h.nextId_eq
  id_bounds := h.id_bounds
  paired := h.paired
  started := fun j span hopen hrecorded =>
    h.started j span (open_of_open_set hopen).2 hrecorded

/-- The end of a recorded span joins its start. -/
theorem ended (h : Matched entries spans nextId) {k : Nat} {span : Span}
    (began : spans[k]? = some (some span)) (hrecorded : span.id ≠ 0) (elapsedMicros : Nat)
    (hend : e = ⟨.finish k,
      .of span.part.text span.metric.text (Span.endMessage elapsedMicros) span.id⟩) :
    Matched (entries ++ [e]) (spans.set k none) nextId := by
  obtain ⟨part, metric, hspan, honly⟩ := h.started k span began hrecorded
  have hid : e.event.id = span.id := by rw [hend]; rfl
  have hdrawn : drawn (entries ++ [e]) = drawn entries :=
    drawn_concat_of_isFinish (by rw [hend]; rfl)
  refine ⟨hdrawn ▸ h.nextId_eq, ?_, ?_, ?_⟩
  · intro e' he'
    rw [hdrawn]
    rcases List.mem_append.mp he' with hold | hnew
    · exact h.id_bounds e' hold
    · obtain ⟨hstart, hstartId⟩ := mem_withId_iff.mp (honly ▸ List.mem_singleton_self _)
      have hbounds := h.id_bounds _ hstart
      rwa [hstartId, ← hid, ← List.mem_singleton.mp hnew] at hbounds
  · intro id
    by_cases hsame : e.event.id = id
    · rw [withId_concat_self hsame, ← hsame, hid, honly, hend]
      -- the names were cut to size at the start, so the end does not cut them again
      refine .pair ?_ ?_
      · rw [hspan]
        exact FixedText.ofString_text _
      · rw [hspan]
        exact FixedText.ofString_text _
    · rw [withId_concat_of_ne hsame]
      exact h.paired id
  · intro j span' hopen' hrecorded'
    obtain ⟨hne, hopen⟩ := open_of_open_set hopen'
    obtain ⟨part', metric', hspan', honly'⟩ := h.started j span' hopen hrecorded'
    refine ⟨part', metric', hspan', ?_⟩
    rw [withId_concat_of_ne, honly']
    intro hsame
    -- a start with the same id would be the start of the same span
    rw [← hsame, hid, honly] at honly'
    have hstart : [Origin.start k] = [.start j] := congrArg (List.map Entry.origin) honly'
    cases hstart
    exact hne rfl

theorem effect {entry : Option Entry} (h : Matched entries spans nextId)
    (heffect : Session.Effect spans nextId entry spans' nextId')
    (hfew : (entries ++ entry.toList).length < 2 ^ 64) :
    Matched (entries ++ entry.toList) spans' nextId' := by
  have hfits : ∀ e : Entry, (entries ++ [e]).length < 2 ^ 64 → drawn entries + 1 < 2 ^ 64 := by
    intro e hlength
    rw [List.length_append, List.length_singleton] at hlength
    exact Nat.lt_of_le_of_lt (Nat.succ_le_succ drawn_le_length) hlength
  cases heffect with
  | idle =>
    rw [Option.toList_none, List.append_nil]
    exact h
  | single part metric message => exact h.draw (hfits _ hfew) rfl rfl
  | recorded part metric =>
    refine (h.draw (hfits _ hfew) rfl rfl).opened _ fun _ => ⟨part, metric, rfl, ?_⟩
    let first : Entry := ⟨.start spans.length, .of part metric Span.startMessage nextId⟩
    have hself : withId nextId (entries ++ [first]) = withId nextId entries ++ [first] :=
      withId_concat_self rfl
    rwa [h.withId_nextId (hfits _ hfew)] at hself
  | unrecorded part metric =>
    rw [Option.toList_none, List.append_nil]
    exact h.opened _ fun hrecorded => absurd rfl hrecorded
  | ended elapsedMicros began hrecorded => exact h.ended began hrecorded elapsedMicros rfl
  | vanished k =>
    rw [Option.toList_none, List.append_nil]
    exact h.vanished k

end Matched

end Entries

/-! ## Runs -/

namespace Session
variable {capacity : Nat} {outlet : Outlet} {actions : List Action} {s : Session}

/-- A session keeps its events, its open spans and the next id together. -/
theorem matched_of_run (hrun : (idle capacity outlet).run? actions = some s)
    (hfew : (entries (idle capacity outlet) actions).length < 2 ^ 64) :
    Matched (entries (idle capacity outlet) actions) s.spans s.machine.queue.nextId := by
  refine Runs.run_induction (P := fun actions s =>
    (entries (idle capacity outlet) actions).length < 2 ^ 64 →
      Matched (entries (idle capacity outlet) actions) s.spans s.machine.queue.nextId)
    ?_ ?_ hrun hfew
  · intro _
    exact ⟨rfl, nofun, fun _ => .none, nofun⟩
  · intro actions a s s' hrun ih hact hfew
    obtain ⟨steps, hsteps, -⟩ := run_machine hrun
    obtain ⟨hsound, -⟩ := Machine.account_of_run hsteps
    rw [entries, Runs.history_concat hrun, ← entries] at hfew ⊢
    have hprefix : (entries (idle capacity outlet) actions).length < 2 ^ 64 := by
      rw [List.length_append] at hfew
      omega
    exact (ih hprefix).effect (effect_of_act? hsound hact) hfew

/-- What a reader of the file can rely on, and who begins a span, after a run. -/
structure Coherent (capacity : Nat) (outlet : Outlet) (actions : List Action) (s : Session) :
    Prop where
  /-- An id is carried by one event, or by the start and the end of one span. -/
  paired (id : UInt64) : Paired (withId id (entries (idle capacity outlet) actions))
  /-- Before the end of a span comes its start. -/
  ended {k : Nat} {last : Event}
      (h : ⟨.finish k, last⟩ ∈ entries (idle capacity outlet) actions) :
    ∃ first, [⟨.start k, first⟩, ⟨.finish k, last⟩].Sublist
      (entries (idle capacity outlet) actions)
  /-- A span whose start was refused changes nothing when it ends. -/
  refused {k : Nat} {span : Span} (began : s.spans[k]? = some (some span))
      (h : ∀ first, ⟨.start k, first⟩ ∉ entries (idle capacity outlet) actions)
      (elapsedMicros : Nat) :
    s.machine.finish span elapsedMicros = s.machine
  /-- The events are those that the machine accepts. -/
  accepted : ∃ steps, (Machine.idle capacity outlet).run? steps = some s.machine ∧
    Machine.accepted (Machine.idle capacity outlet) steps =
      (entries (idle capacity outlet) actions).map Entry.event

/-- **The events with one id are a single event, or the start and the end of one span.**  This
is so after every run in which fewer than 2⁶⁴ events are accepted, for spans and single events
in any order, any ring, and stops at any time. -/
theorem coherent_of_run (capacity : Nat) (outlet : Outlet) (actions : List Action) (s : Session)
    (hrun : (idle capacity outlet).run? actions = some s)
    (hfew : (entries (idle capacity outlet) actions).length < 2 ^ 64) :
    Coherent capacity outlet actions s := by
  have hmatched := matched_of_run hrun hfew
  refine ⟨hmatched.paired, ?_, ?_, run_machine hrun⟩
  · intro k last hmem
    have hlast := mem_withId_iff.mpr ⟨hmem, rfl⟩
    have hpaired := hmatched.paired last.id
    have hsub : (withId last.id (entries (idle capacity outlet) actions)).Sublist _ :=
      List.filter_sublist
    generalize withId last.id (entries (idle capacity outlet) actions) = same at *
    cases hpaired with
    | none => cases hlast
    | alone horigin =>
      cases List.mem_singleton.mp hlast
      cases horigin
    | pair part metric =>
      rcases List.mem_cons.mp hlast with hstart | hend
      · cases hstart
      · cases List.mem_singleton.mp hend
        exact ⟨_, hsub⟩
  · intro k span began hrefused elapsedMicros
    have hunrecorded : ¬ span.id ≠ 0 := by
      intro hrecorded
      obtain ⟨part, metric, -, honly⟩ := hmatched.started k span began hrecorded
      have hstart := mem_withId_iff.mp (honly ▸ List.mem_singleton_self _)
      exact hrefused _ hstart.1
    rw [Machine.finish, finish?_eq, if_neg hunrecorded]

/-- Two slots, a name that is cut to size, a span inside a span whose start finds the ring full,
and a stop between the start and the end of another. -/
def nestedRun : List Action :=
  [.begin "intake.subscription.headlines.decode" "latency", .begin "codec" "latency",
    .begin "bus" "latency", .step .attach, .step .take, .step (.write 10), .finish 2 5,
    .finish 0 30, .step .take, .step (.write 11), .push "intake" "status" "idle",
    .step (.signal 0), .finish 1 40]

theorem coherent_of_run_nested :
    ∃ s, (idle 2 {}).run? nestedRun = some s ∧ (entries (idle 2 {}) nestedRun).length = 4 ∧
      Coherent 2 {} nestedRun s := by
  have hrun : (idle 2 {}).run? nestedRun = some _ := rfl
  have hlength : (entries (idle 2 {}) nestedRun).length = 4 := by decide +kernel
  exact ⟨_, hrun, hlength,
    coherent_of_run 2 {} nestedRun _ hrun (by rw [hlength]; decide)⟩

end Session

end ReleaseFeed.Telemetry
