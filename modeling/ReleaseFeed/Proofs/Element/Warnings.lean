import ReleaseFeed.Proofs.Element.Contents

/-! # What is noted while an element is read

Some fields of an element are choices: the times, and the measurements.  One that is there and
selects no known variant is misread, and reading notes it.  What is misread is said here without
the readers: which elements are looked at for which fields, in which order, comes from
`choicesRead`, and what is wrong with a field from `ChoiceField.anomaly?`.

Reading notes just that (`outcome_readRecord`), as long as the identifiers that a record
needs are there; if one of them is not, reading stops before it comes to any choice.
-/
namespace ReleaseFeed

/-! ## Computations that note -/

/-- Whatever was noted before, the computation gives this value and notes these anomalies. -/
def Noting.Adds {α : Type} (m : Noting α) (value : α) (anomalies : List Anomaly) : Prop :=
  ∀ notes, m.run notes = (value, notes ++ anomalies)

/-- Whatever was noted before, the reading ends with this result and notes these anomalies. -/
def Reading.Adds {α : Type} (m : Reading α) (result : Except FeedError α)
    (anomalies : List Anomaly) : Prop :=
  Noting.Adds m.run result anomalies

section Adds
variable {α β : Type} {value : α} {anomalies more : List Anomaly}

theorem Noting.adds_pure (value : α) : Noting.Adds (pure value) value [] := by
  intro notes
  rw [List.append_nil]
  rfl

theorem Noting.Adds.bind {m : Noting α} {f : α → Noting β} {value' : β}
    (h : Noting.Adds m value anomalies) (h' : Noting.Adds (f value) value' more) :
    Noting.Adds (m >>= f) value' (anomalies ++ more) := by
  intro notes
  rw [StateT.run_bind, h notes, ← List.append_assoc]
  exact h' _

theorem Noting.Adds.andReturn {m : Noting α} (h : Noting.Adds m value anomalies) (f : α → β) :
    Noting.Adds (m >>= fun a => pure (f a)) (f value) anomalies := by
  have hbind := h.bind (f := fun a => pure (f a)) (Noting.adds_pure (f value))
  rwa [List.append_nil] at hbind

theorem Reading.adds_pure (value : α) : Reading.Adds (pure value) (.ok value) [] :=
  Noting.adds_pure _

theorem Reading.Adds.bind {m : Reading α} {f : α → Reading β} {result : Except FeedError β}
    (h : Reading.Adds m (.ok value) anomalies) (h' : Reading.Adds (f value) result more) :
    Reading.Adds (m >>= f) result (anomalies ++ more) :=
  Noting.Adds.bind (m := m.run) (f := ExceptT.bindCont f) h h'

theorem Reading.Adds.andReturn {m : Reading α} (h : Reading.Adds m (.ok value) anomalies)
    (f : α → β) : Reading.Adds (m >>= fun a => pure (f a)) (.ok (f value)) anomalies := by
  have hbind := h.bind (f := fun a => pure (f a)) (Reading.adds_pure (f value))
  rwa [List.append_nil] at hbind

/-- What comes after a failure is not done. -/
theorem Reading.Adds.bind_error {m : Reading α} {f : α → Reading β} {error : FeedError}
    (h : Reading.Adds m (.error error) anomalies) :
    Reading.Adds (m >>= f) (.error error) anomalies := by
  have hbind := Noting.Adds.bind (m := m.run) (f := ExceptT.bindCont f) h
    (Noting.adds_pure (Except.error error))
  rwa [List.append_nil] at hbind

/-- A computation that cannot fail, among others that can. -/
theorem Noting.Adds.lift {m : Noting α} (h : Noting.Adds m value anomalies) :
    Reading.Adds (liftM m) (.ok value) anomalies := by
  intro notes
  show (Except.ok <$> m).run notes = _
  rw [StateT.run_map, h notes]
  rfl

/-- A computation that notes nothing, among others that do. -/
theorem Reading.adds_liftExcept (result : Except FeedError α) :
    Reading.Adds (liftM result) result [] := by
  intro notes
  rw [List.append_nil]
  cases result <;> rfl

end Adds

namespace Element
variable {ε : Type} [Element ε]

/-! ## Choices -/

/-- A field that is a choice: the element that may have it, and the variants that are known. -/
structure ChoiceField (ε : Type) where
  holder : ε
  name : String
  known : List String

namespace ChoiceField

/-- When something is released. -/
def time (e : ε) (name : String) : ChoiceField ε :=
  ⟨e, name, ["DATETIME", "DATE", "DATARANGE"]⟩

/-- What was measured. -/
def measurement (e : ε) (name : String) : ChoiceField ε :=
  ⟨e, name, ["SINGLE", "DISTRIBUTION"]⟩

/-- What is wrong with the field: it is there and is no choice, or selects a variant that is not
known. -/
def anomaly? (f : ChoiceField ε) : Option Anomaly :=
  match field? f.holder f.name with
  | none => none
  | some field =>
    match choice? field with
    | none => some ⟨f.name, "<not a choice>"⟩
    | some variant =>
      if Element.name variant ∈ f.known then none else some ⟨f.name, Element.name variant⟩

end ChoiceField

/-- What is wrong with some choices. -/
def anomalies (choices : List (ChoiceField ε)) : List Anomaly :=
  choices.filterMap ChoiceField.anomaly?

theorem anomalies_singleton (f : ChoiceField ε) : anomalies [f] = f.anomaly?.toList := by
  rw [anomalies, List.filterMap_cons]
  cases f.anomaly? <;> rfl

theorem anomalies_append (choices more : List (ChoiceField ε)) :
    anomalies (choices ++ more) = anomalies choices ++ anomalies more :=
  List.filterMap_append

/-- The choices of a record, in the order in which they are read.  The replaced release is read
before the current one on a series headline, whose own field stands in for a group that is not
there. -/
def choicesRead : FeedKind → ε → List (ChoiceField ε)
  | .economic, e =>
    .time e "ECO_RELEASE_DT" ::
      (field? e "REVISION_METADATA").toList.map (.time · "PRIOR_ECO_RELEASE_DT") ++
      [.measurement e "VALUE", .measurement e "PRIOR_VALUE"]
  | .calendar, e => [.time e "ECO_RELEASE_DT"]
  | .reference, _ => []
  | .seriesHeadline, e =>
    [.time ((field? e "REVISION_METADATA").getD e) "PRIOR_ECO_RELEASE_DT",
      .time e "ECO_RELEASE_DT", .measurement e "VALUE"]
  | .seriesEntry, e => [.time e "ECO_RELEASE_DT"]

/-- The fields that a record cannot do without; they are read before all others. -/
def identifiers : FeedKind → List String
  | .economic | .calendar | .reference | .seriesEntry => ["ID_BB_GLOBAL", "PARSEKYABLE_DES"]
  | .seriesHeadline => []

/-- The first identifier of a record that an element does not have. -/
def missing? (kind : FeedKind) (e : ε) : Option String :=
  (identifiers kind).find? fun field => !hasField e field

/-- What is wrong with the choices of a record; none is looked at before all identifiers are
found. -/
def warningsAs (kind : FeedKind) (e : ε) : List Anomaly :=
  match missing? kind e with
  | none => anomalies (choicesRead kind e)
  | some _ => []

/-- What is wrong with the choices of the record that an element holds. -/
def warnings (e : ε) : List Anomaly :=
  match resolve e with
  | .ok (kind, node) => warningsAs kind node
  | .error _ => []

end Element

section Choices
open Element
variable {ε α β : Type} [Element ε] {value : α} {choices more : List (ChoiceField ε)}

/-- Choices are noted in the order in which they are read. -/
theorem Noting.Adds.bindChoices {m : Noting α} {f : α → Noting β} {value' : β}
    (h : Noting.Adds m value (anomalies choices))
    (h' : Noting.Adds (f value) value' (anomalies more)) :
    Noting.Adds (m >>= f) value' (anomalies (choices ++ more)) :=
  anomalies_append choices more ▸ h.bind h'

theorem Reading.Adds.bindChoices {m : Reading α} {f : α → Reading β} {result : Except FeedError β}
    (h : Reading.Adds m (.ok value) (anomalies choices))
    (h' : Reading.Adds (f value) result (anomalies more)) :
    Reading.Adds (m >>= f) result (anomalies (choices ++ more)) :=
  anomalies_append choices more ▸ h.bind h'

end Choices

namespace Element
variable {ε : Type} [Element ε]

/-! ## Readers -/

/-- A choice is read in a known variant, and noted in any other. -/
theorem choiceField_adds {α : Type} {convert : ε → Option α} {known : List String}
    (hknown : ∀ variant, (convert variant).isSome ↔ name variant ∈ known) (absent : α) (e : ε)
    (field : String) : Noting.Adds (choiceField convert absent e field)
      (((field? e field).map fun found => ((choice? found).bind convert).getD absent).getD absent)
      (ChoiceField.anomaly? ⟨e, field, known⟩).toList := by
  rw [choiceField, ChoiceField.anomaly?]
  cases field? e field with
  | none => exact Noting.adds_pure absent
  | some found =>
    simp only [Option.map_some, Option.getD_some]
    cases hchoice : choice? found with
    | none =>
      intro notes
      rfl
    | some variant =>
      simp only [Option.bind_some]
      cases hconvert : convert variant with
      | none =>
        have hunknown : name variant ∉ known := by
          rw [← hknown, hconvert]
          exact Bool.false_ne_true
        rw [if_neg hunknown]
        intro notes
        rfl
      | some value =>
        have hmem : name variant ∈ known := by
          rw [← hknown, hconvert]
          rfl
        rw [if_pos hmem]
        exact Noting.adds_pure value

theorem isSome_intervalOf?_iff (variant : ε) :
    (intervalOf? variant).isSome ↔ name variant ∈ ["DATETIME", "DATE", "DATARANGE"] := by
  rw [intervalOf?]
  split
  case h_1 h => simp [h]
  case h_2 h => simp [h]
  case h_3 h =>
    rw [h]
    split <;> simp
  case h_4 hdatetime hdate hrange =>
    simp only [Option.isSome_none, Bool.false_eq_true, List.mem_cons, List.not_mem_nil, or_false,
      false_iff, not_or]
    exact ⟨hdatetime, hdate, hrange⟩

theorem isSome_measurementOf?_iff (variant : ε) :
    (measurementOf? variant).isSome ↔ name variant ∈ ["SINGLE", "DISTRIBUTION"] := by
  rw [measurementOf?]
  split
  case h_1 h => simp [h]
  case h_2 h => simp [h]
  case h_3 hsingle hdistribution =>
    simp only [Option.isSome_none, Bool.false_eq_true, List.mem_cons, List.not_mem_nil, or_false,
      false_iff, not_or]
    exact ⟨hsingle, hdistribution⟩

theorem intervalField_adds (e : ε) (field : String) :
    Noting.Adds (intervalField e field) (intervalAt e field) (anomalies [.time e field]) := by
  rw [anomalies_singleton]
  exact choiceField_adds isSome_intervalOf?_iff _ e field

theorem measurementField_adds (e : ε) (field : String) :
    Noting.Adds (measurementField e field) (measurementAt e field)
      (anomalies [.measurement e field]) := by
  rw [anomalies_singleton]
  exact choiceField_adds isSome_measurementOf?_iff _ e field

theorem revisionOf_adds (e : ε) :
    Noting.Adds (revisionOf e) (revisionAt e) (anomalies [.time e "PRIOR_ECO_RELEASE_DT"]) :=
  (intervalField_adds e "PRIOR_ECO_RELEASE_DT").andReturn _

theorem groupedRevision_adds (e : ε) :
    Noting.Adds (groupedRevision e) (groupedRevisionAt e)
      (anomalies ((field? e "REVISION_METADATA").toList.map (.time · "PRIOR_ECO_RELEASE_DT"))) := by
  rw [groupedRevision, groupedRevisionAt, revisionGroup?]
  cases field? e "REVISION_METADATA" with
  | none => exact Noting.adds_pure _
  | some group => exact revisionOf_adds group

/-! ## Records -/

/-- An identifier is read if it is there, and else named in the failure. -/
theorem requiredText_eq (e : ε) (kind : FeedKind) (field : String) :
    requiredText e kind field =
      if hasField e field then .ok (textField e field) else .error (.missing kind field) := by
  rw [requiredText, hasField, textField]
  cases field? e field <;> rfl

/-- How a reading of a record ends, and what it notes: it gives a value and notes what is wrong
with some choices, or it stops at the first identifier that is missing and notes nothing. -/
def Follows {α : Type} (m : Reading α) (kind : FeedKind) (e : ε) (value : α)
    (choices : List (ChoiceField ε)) : Prop :=
  match missing? kind e with
  | none => Reading.Adds m (.ok value) (anomalies choices)
  | some field => Reading.Adds m (.error (.missing kind field)) []

section Follows
variable {α β : Type} {kind : FeedKind} {e : ε} {value : α} {choices : List (ChoiceField ε)}

/-- A reading that looks for both identifiers first. -/
theorem follows_identified {rest : String → String → Reading α}
    (hkind : identifiers kind = ["ID_BB_GLOBAL", "PARSEKYABLE_DES"])
    (hrest : Reading.Adds (rest (textField e "ID_BB_GLOBAL") (textField e "PARSEKYABLE_DES"))
      (.ok value) (anomalies choices)) :
    Follows (do
      let globalId ← requiredText e kind "ID_BB_GLOBAL"
      let shortId ← requiredText e kind "PARSEKYABLE_DES"
      rest globalId shortId) kind e value choices := by
  rw [Follows, missing?, hkind]
  simp only [requiredText_eq]
  cases hglobal : hasField e "ID_BB_GLOBAL" with
  | true =>
    cases hshort : hasField e "PARSEKYABLE_DES" with
    | true =>
      simp only [List.find?_cons, hglobal, hshort, Bool.not_true, List.find?_nil, if_true]
      exact (Reading.adds_liftExcept _).bind ((Reading.adds_liftExcept _).bind hrest)
    | false =>
      simp only [List.find?_cons, hglobal, hshort, Bool.not_true, Bool.not_false, if_true,
        Bool.false_eq_true, if_false]
      exact (Reading.adds_liftExcept _).bind (Reading.adds_liftExcept _).bind_error
  | false =>
    simp only [List.find?_cons, hglobal, Bool.not_false, Bool.false_eq_true, if_false]
    exact (Reading.adds_liftExcept _).bind_error

/-- What comes after a reading may note more. -/
theorem Follows.bind {m : Reading α} {f : α → Reading β} {value' : β}
    {more : List (ChoiceField ε)} (h : Follows m kind e value choices)
    (hf : Reading.Adds (f value) (.ok value') (anomalies more)) :
    Follows (m >>= f) kind e value' (choices ++ more) := by
  rw [Follows] at h ⊢
  cases hmissing : missing? kind e with
  | none =>
    rw [hmissing] at h
    rw [anomalies_append]
    exact h.bind hf
  | some field =>
    rw [hmissing] at h
    exact h.bind_error

theorem Follows.andReturn {m : Reading α} (h : Follows m kind e value choices) (f : α → β) :
    Follows (m >>= fun a => pure (f a)) kind e (f value) choices := by
  have hbind : Follows (m >>= fun a => pure (f a)) kind e (f value) (choices ++ []) :=
    h.bind (Reading.adds_pure (f value))
  rwa [List.append_nil] at hbind

end Follows

variable (e : ε) (correlationId : UInt64)

theorem readHeadline_follows (kind : FeedKind)
    (hkind : identifiers kind = ["ID_BB_GLOBAL", "PARSEKYABLE_DES"]) :
    Follows (readHeadline kind e) kind e (headlineAt e) [.time e "ECO_RELEASE_DT"] :=
  follows_identified hkind ((intervalField_adds e "ECO_RELEASE_DT").lift.andReturn _)

theorem readEconomic_follows :
    Follows (readEconomic e) .economic e (economicAt e) (choicesRead .economic e) :=
  (readHeadline_follows e .economic rfl).bind
    ((groupedRevision_adds e).lift.bindChoices
      ((measurementField_adds e "VALUE").lift.bindChoices
        ((measurementField_adds e "PRIOR_VALUE").lift.andReturn _)))

theorem readCalendar_follows :
    Follows (readCalendar e) .calendar e (calendarAt e) (choicesRead .calendar e) :=
  (readHeadline_follows e .calendar rfl).andReturn _

theorem readReference_follows :
    Follows (readReference e correlationId) .reference e (referenceAt e correlationId)
      (choicesRead .reference e) :=
  follows_identified rfl (Reading.adds_pure _)

theorem readSeriesEntry_follows :
    Follows (readSeriesEntry e correlationId) .seriesEntry e (seriesEntryAt e correlationId)
      (choicesRead .seriesEntry e) :=
  follows_identified rfl ((intervalField_adds e "ECO_RELEASE_DT").lift.andReturn _)

theorem readSeriesHeadline_adds :
    Noting.Adds (readSeriesHeadline e correlationId) (seriesHeadlineAt e correlationId)
      (anomalies (choicesRead .seriesHeadline e)) :=
  (revisionOf_adds ((revisionGroup? e).getD e)).bindChoices
    ((intervalField_adds e "ECO_RELEASE_DT").bindChoices
      ((measurementField_adds e "VALUE").andReturn _))

/-- Reading a record gives the one that its fields make up, and follows the order of its choices. -/
theorem readAs_follows (kind : FeedKind) :
    Follows (readAs kind e correlationId) kind e (recordAt kind e correlationId)
      (choicesRead kind e) := by
  cases kind with
  | economic => exact (readEconomic_follows e).andReturn _
  | calendar => exact (readCalendar_follows e).andReturn _
  | reference => exact (readReference_follows e correlationId).andReturn _
  | seriesHeadline => exact (readSeriesHeadline_adds e correlationId).lift.andReturn _
  | seriesEntry => exact (readSeriesEntry_follows e correlationId).andReturn _

/-- How reading a record of a given kind ends. -/
def resultAs (kind : FeedKind) (e : ε) (correlationId : UInt64) : Except FeedError Record :=
  match missing? kind e with
  | none => .ok (recordAt kind e correlationId)
  | some field => .error (.missing kind field)

theorem readAs_adds (kind : FeedKind) :
    Reading.Adds (readAs kind e correlationId) (resultAs kind e correlationId)
      (warningsAs kind e) := by
  have h := readAs_follows e correlationId kind
  rw [Follows] at h
  rw [resultAs, warningsAs]
  cases hmissing : missing? kind e with
  | none => rwa [hmissing] at h
  | some field => rwa [hmissing] at h

theorem readRecord_adds :
    Reading.Adds (readRecord e correlationId)
      (resolve e >>= fun found => resultAs found.1 found.2 correlationId) (warnings e) := by
  rw [readRecord, warnings]
  cases resolve e with
  | error error => exact (Reading.adds_liftExcept _).bind_error
  | ok found => exact (Reading.adds_liftExcept _).bind (readAs_adds found.2 correlationId found.1)

/-- What an element gives: its kind is told, and then the record of that kind is read. -/
theorem result_readRecord : (readRecord e correlationId).result =
    resolve e >>= fun found => resultAs found.1 found.2 correlationId :=
  congrArg Prod.fst (readRecord_adds e correlationId [])

/-- Reading an element notes what is wrong with the choices of its record, and nothing else. -/
theorem outcome_readRecord :
    (readRecord e correlationId).outcome = ((readRecord e correlationId).result, warnings e) := by
  rw [result_readRecord]
  exact readRecord_adds e correlationId []

end Element

end ReleaseFeed
