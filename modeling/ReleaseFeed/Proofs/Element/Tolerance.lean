import Mathlib.Data.Set.Insert
import ReleaseFeed.Element.Tree
import ReleaseFeed.Proofs.Element.Columns
import ReleaseFeed.Proofs.Element.Warnings
import ReleaseFeed.Proofs.Outcome

/-! # A bad field costs the record nothing else

Reading fails because the kind is not told or because an identifier is missing, and for no other
reason (`result_eq_error_iff`).  What the other fields hold shows in the components that are read
from them and nowhere else, and the correlation id goes through to the record untouched.
`tolerant` puts this together, in the terms of `columns`.
-/
namespace ReleaseFeed

/-- The record of another subscription.  Only series records know theirs. -/
def Record.withCorrelation (correlationId : UInt64) : Record → Record
  | reference data => .reference { data with correlationId }
  | seriesHeadline event => .seriesHeadline { event with correlationId }
  | seriesEntry entry => .seriesEntry { entry with correlationId }
  | economic event => .economic event
  | calendar event => .calendar event
  | log record => .log record

namespace Element
variable {ε : Type} [Element ε]

/-! ## Why reading fails -/

/-- Why there is no record in an element. -/
inductive Unreadable : ε → FeedError → Prop where
  /-- Neither the element nor the variant that it selects has the name of a kind. -/
  | unknown {e : ε} (hname : FeedKind.ofName? (name e) = none)
      (hvariant : ∀ variant, choice? e = some variant → FeedKind.ofName? (name variant) = none) :
      Unreadable e (.unknownKind (name e))
  | globalId {e node : ε} {kind : FeedKind} (hkind : resolve e = .ok (kind, node))
      (hneeds : kind ≠ .seriesHeadline) (hglobal : field? node "ID_BB_GLOBAL" = none) :
      Unreadable e (.missing kind "ID_BB_GLOBAL")
  | shortId {e node : ε} {kind : FeedKind} (hkind : resolve e = .ok (kind, node))
      (hneeds : kind ≠ .seriesHeadline) (hglobal : field? node "ID_BB_GLOBAL" ≠ none)
      (hshort : field? node "PARSEKYABLE_DES" = none) :
      Unreadable e (.missing kind "PARSEKYABLE_DES")

theorem resolve_eq_error_iff {e : ε} {error : FeedError} : resolve e = .error error ↔
    FeedKind.ofName? (name e) = none ∧
      (∀ variant, choice? e = some variant → FeedKind.ofName? (name variant) = none) ∧
      error = .unknownKind (name e) := by
  rw [resolve]
  cases hname : FeedKind.ofName? (name e) with
  | some kind =>
    constructor
    · intro h
      split at h <;> contradiction
    · rintro ⟨hnone, -⟩
      cases hnone
  | none =>
    cases hchoice : choice? e with
    | none => simp [eq_comm]
    | some variant =>
      cases hvariant : FeedKind.ofName? (name variant) <;> simp [hvariant, eq_comm]

theorem missing?_eq_some_iff {kind : FeedKind} {e : ε} {field : String} :
    missing? kind e = some field ↔ kind ≠ .seriesHeadline ∧
      (field = "ID_BB_GLOBAL" ∧ field? e "ID_BB_GLOBAL" = none ∨
        field = "PARSEKYABLE_DES" ∧ field? e "ID_BB_GLOBAL" ≠ none ∧
          field? e "PARSEKYABLE_DES" = none) := by
  have hboth : (["ID_BB_GLOBAL", "PARSEKYABLE_DES"].find? fun name => !hasField e name) =
      some field ↔ (field = "ID_BB_GLOBAL" ∧ field? e "ID_BB_GLOBAL" = none ∨
        field = "PARSEKYABLE_DES" ∧ field? e "ID_BB_GLOBAL" ≠ none ∧
          field? e "PARSEKYABLE_DES" = none) := by
    simp only [hasField]
    cases hglobal : field? e "ID_BB_GLOBAL" <;> cases hshort : field? e "PARSEKYABLE_DES" <;>
      simp [hglobal, hshort, eq_comm]
  cases kind <;> simp [missing?, identifiers, hboth]

/-- Reading fails for one of these reasons only. -/
theorem result_eq_error_iff {e : ε} {correlationId : UInt64} {error : FeedError} :
    (readRecord e correlationId).result = .error error ↔ Unreadable e error := by
  rw [result_readRecord, bind_eq_error]
  constructor
  · rintro (h | ⟨⟨kind, node⟩, hkind, h⟩)
    · obtain ⟨hname, hvariant, rfl⟩ := resolve_eq_error_iff.mp h
      exact .unknown hname hvariant
    · rw [resultAs] at h
      cases hmissing : missing? kind node with
      | none =>
        rw [hmissing] at h
        cases h
      | some field =>
        rw [hmissing] at h
        cases h
        obtain ⟨hneeds, ⟨rfl, hglobal⟩ | ⟨rfl, hglobal, hshort⟩⟩ := missing?_eq_some_iff.mp hmissing
        · exact .globalId hkind hneeds hglobal
        · exact .shortId hkind hneeds hglobal hshort
  · intro h
    cases h with
    | unknown hname hvariant => exact .inl (resolve_eq_error_iff.mpr ⟨hname, hvariant, rfl⟩)
    | globalId hkind hneeds hglobal =>
      refine .inr ⟨_, hkind, ?_⟩
      rw [resultAs, missing?_eq_some_iff.mpr ⟨hneeds, .inl ⟨rfl, hglobal⟩⟩]
    | shortId hkind hneeds hglobal hshort =>
      refine .inr ⟨_, hkind, ?_⟩
      rw [resultAs, missing?_eq_some_iff.mpr ⟨hneeds, .inr ⟨rfl, hglobal, hshort⟩⟩]

/-! ## What reading gives -/

theorem result_of_resolve {e node : ε} {kind : FeedKind} (hkind : resolve e = .ok (kind, node))
    (correlationId : UInt64) :
    (readRecord e correlationId).result = resultAs kind node correlationId := by
  rw [result_readRecord, hkind]
  rfl

/-- A record that is read is the one that the fields make up. -/
theorem eq_recordAt_of_result {e node : ε} {kind : FeedKind} {correlationId : UInt64} {r : Record}
    (hkind : resolve e = .ok (kind, node)) (h : (readRecord e correlationId).result = .ok r) :
    r = recordAt kind node correlationId := by
  rw [result_of_resolve hkind, resultAs] at h
  cases hmissing : missing? kind node with
  | none =>
    rw [hmissing] at h
    exact (Except.ok.inj h).symm
  | some field =>
    rw [hmissing] at h
    cases h

theorem type_recordAt (kind : FeedKind) (e : ε) (correlationId : UInt64) :
    (recordAt kind e correlationId).type = kind.recordType := by
  cases kind <;> rfl

/-- Which identifier is missing depends on the identifiers only. -/
theorem missing?_congr {kind : FeedKind} {e e' : ε}
    (h : ∀ name ∈ identifiers kind, field? e name = field? e' name) :
    missing? kind e = missing? kind e' := by
  rw [missing?, missing?, ← List.head?_filter, ← List.head?_filter]
  refine congrArg List.head? (List.filter_congr fun name hname => ?_)
  rw [hasField, hasField, h name hname]

theorem recordAt_withCorrelation (kind : FeedKind) (e : ε) (correlationId other : UInt64) :
    recordAt kind e other = (recordAt kind e correlationId).withCorrelation other := by
  cases kind <;> rfl

theorem result_withCorrelation (e : ε) (correlationId other : UInt64) :
    (readRecord e other).result =
      (readRecord e correlationId).result.map (Record.withCorrelation other) := by
  rw [result_readRecord, result_readRecord]
  cases resolve e with
  | error error => rfl
  | ok found =>
    obtain ⟨kind, node⟩ := found
    show resultAs kind node other = (resultAs kind node correlationId).map _
    rw [resultAs, resultAs]
    cases missing? kind node with
    | none => exact congrArg Except.ok (recordAt_withCorrelation kind node correlationId other)
    | some field => rfl

/-! ## Two elements -/

/-- Two readings of a kind end alike: with the same failure, or with records that have the same
under each of some names. -/
def Alike (kind : FeedKind) (same : String → Prop) (result result' : Except FeedError Record) :
    Prop :=
  (∃ error, result = .error error ∧ result' = .error error) ∨
    ∃ r r', result = .ok r ∧ result' = .ok r' ∧
      r.type = kind.recordType ∧ r'.type = kind.recordType ∧
      ∀ key, same key → r.attribute? key = r'.attribute? key

/-- No column of this name looks up one of these fields. -/
def Clear (kind : FeedKind) (node : ε) (bad : Set String) (key : String) : Prop :=
  ∀ column : Column ε, column ∈ columns kind → column.key = key →
    ∀ name ∈ column.source.reads node, name ∉ bad

theorem alike_of_resolve {e e' node node' : ε} {kind : FeedKind} {bad : Set String}
    (hkind : resolve e = .ok (kind, node)) (hkind' : resolve e' = .ok (kind, node'))
    (hbad : ∀ name ∈ identifiers kind, name ∉ bad)
    (hsame : ∀ name ∉ bad, field? node name = field? node' name) (correlationId : UInt64) :
    Alike kind (Clear kind node bad) (readRecord e correlationId).result
      (readRecord e' correlationId).result := by
  have hmissing : missing? kind node = missing? kind node' :=
    missing?_congr fun name hname => hsame name (hbad name hname)
  rw [result_of_resolve hkind, result_of_resolve hkind', resultAs, resultAs, ← hmissing]
  cases missing? kind node with
  | some field => exact .inl ⟨_, rfl, rfl⟩
  | none =>
    refine .inr ⟨_, _, rfl, rfl, type_recordAt _ _ _, type_recordAt _ _ _, fun key hclear => ?_⟩
    exact attribute?_congr correlationId fun column hcolumn hkey name hname =>
      hsame name (hclear column hcolumn hkey name hname)

/-! ## Tolerance -/

/-- What can be said of reading the elements of a feed. -/
structure Tolerant (ε : Type) [Element ε] : Prop where
  /-- Reading fails if the kind is not told or an identifier is missing, and otherwise not. -/
  fails : ∀ (e : ε) (correlationId : UInt64) (error : FeedError),
    (readRecord e correlationId).result = .error error ↔ Unreadable e error
  /-- What is in fields that are no identifiers shows in the components that are read from them. -/
  confined : ∀ (e e' node node' : ε) (kind : FeedKind) (bad : Set String) (correlationId : UInt64),
    resolve e = .ok (kind, node) → resolve e' = .ok (kind, node') →
    (∀ name ∈ identifiers kind, name ∉ bad) →
    (∀ name ∉ bad, field? node name = field? node' name) →
    Alike kind (Clear kind node bad) (readRecord e correlationId).result
      (readRecord e' correlationId).result
  /-- A component whose field is there is converted from it. -/
  present : ∀ (e node field : ε) (kind : FeedKind) (correlationId : UInt64) (r : Record),
    resolve e = .ok (kind, node) → (readRecord e correlationId).result = .ok r →
    ∀ column : Column ε, column ∈ columns kind → column.source.find? node = some field →
      r.attribute? column.key = some (column.convert field)
  /-- A component whose field is not there has its default. -/
  absent : ∀ (e node : ε) (kind : FeedKind) (correlationId : UInt64) (r : Record),
    resolve e = .ok (kind, node) → (readRecord e correlationId).result = .ok r →
    ∀ column : Column ε, column ∈ columns kind → column.source.find? node = none →
      r.attribute? column.key = kind.blank.attribute? column.key
  /-- There are no components but these. -/
  whole : ∀ (e node : ε) (kind : FeedKind) (correlationId : UInt64) (r : Record),
    resolve e = .ok (kind, node) → (readRecord e correlationId).result = .ok r →
    r.attributes.map Attribute.key =
      (correlation kind correlationId).map Attribute.key ++
        (columns kind : List (Column ε)).map Column.key ∧
    ∀ r' : Record, r'.type = r.type → r'.attributes = r.attributes → r' = r
  /-- The correlation id goes into series records, and has no say in anything else. -/
  correlated : ∀ (e : ε) (correlationId other : UInt64),
    (readRecord e other).outcome =
      ((readRecord e correlationId).result.map (Record.withCorrelation other),
        (readRecord e correlationId).outcome.2)

/-- **A bad field costs the record nothing else**: what reads an element fails only where the kind
or an identifier is missing, and each component of the record depends on its own field. -/
theorem tolerant : Tolerant ε where
  fails _ _ _ := result_eq_error_iff
  confined _ _ _ _ _ _ correlationId hkind hkind' hbad hsame :=
    alike_of_resolve hkind hkind' hbad hsame correlationId
  present e node field kind correlationId r hkind hread column hcolumn hfind := by
    rw [eq_recordAt_of_result hkind hread, attribute?_recordAt hcolumn, Column.component, hfind]
    rfl
  absent e node kind correlationId r hkind hread column hcolumn hfind := by
    rw [eq_recordAt_of_result hkind hread, attribute?_recordAt hcolumn, attribute?_blank hcolumn,
      Column.component, hfind]
    rfl
  whole e node kind correlationId r hkind hread := by
    refine ⟨?_, fun r' htype hattributes => Record.eq_of_attributes htype hattributes⟩
    rw [eq_recordAt_of_result hkind hread, attributes_recordAt, List.map_append, List.map_map]
    rfl
  correlated e correlationId other := by
    rw [outcome_readRecord, outcome_readRecord, result_withCorrelation e correlationId other]

/-- A headline with a value of no known shape and a description that is nothing reads like the one
without them, its kind included. -/
theorem tolerant_misread :
    let fields := [.leaf "ID_BB_GLOBAL" (.text "BBG002SBQ4Q1"),
      .leaf "PARSEKYABLE_DES" (.text "CPI"), .leaf "EVENT_TYPE" (.text "ACTUAL")]
    let plain := Tree.sequence "HeadlineEconomicEvent" fields
    let misread := Tree.sequence "HeadlineEconomicEvent"
      (fields ++ [.choice "VALUE" (.leaf "RANGE" (.text "1-2")), .null "DESCRIPTION"])
    Alike .economic (Clear .economic plain {"VALUE", "DESCRIPTION"}) (readRecord plain 7).result
        (readRecord misread 7).result ∧
      Clear .economic plain {"VALUE", "DESCRIPTION"} "kind" := by
  intro fields plain misread
  have hsame : ∀ name ∉ ({"VALUE", "DESCRIPTION"} : Set String),
      field? plain name = field? misread name := by
    intro name hname
    rw [Set.mem_insert_iff, Set.mem_singleton_iff, not_or] at hname
    have hother : [Tree.choice "VALUE" (.leaf "RANGE" (.text "1-2")), .null "DESCRIPTION"].find?
        (fun child => child.name == name) = none := by
      simp [Tree.name, Ne.symm hname.1, Ne.symm hname.2]
    show fields.find? (fun child => child.name == name) = List.find? _ (fields ++ _)
    rw [List.find?_append, hother, Option.or_none]
  refine ⟨tolerant.confined plain misread plain misread .economic _ 7 rfl rfl ?_ hsame, ?_⟩
  · simp [identifiers]
  · simp [Clear, columns, Column.headline, Column.revision, Column.globalId, Column.shortId,
      Column.description, Column.kind, Column.subkind, Column.eventId, Column.period,
      Column.release, Column.value, Column.text, Column.id, Column.label, Column.interval,
      Column.measurement, Source.reads]

end Element

end ReleaseFeed
