import Mathlib.Data.List.Nodup
import ReleaseFeed.Attributes
import ReleaseFeed.Proofs.Element.Contents

/-! # The components of a record and the fields they are read from

Each component of a record has a `Source`: the one field that it is read from.  A `Column` is a
component with its source, with the conversion of what is found there, and with what stands for it
if nothing is.  The columns of a kind and the correlation id are all that a record is made of
(`attributes_recordAt`).  So a component of a record tells nothing of the fields that it is not
read from (`attribute?_congr`), and the components together tell the record
(`Record.eq_of_attributes`).
-/
namespace ReleaseFeed

/-! ## Records by key -/

/-- The component of a record that has a name. -/
def Record.attribute? (r : Record) (key : String) : Option AttributeValue :=
  (r.attributes.find? fun a => a.key == key).map Attribute.value

/-- The names of the components of a record are all different. -/
theorem Record.keys_nodup (r : Record) : (r.attributes.map Attribute.key).Nodup := by
  -- the names do not depend on what the record holds
  cases r with
  | economic _ => exact (by decide : ((economic {}).attributes.map Attribute.key).Nodup)
  | calendar _ => exact (by decide : ((calendar {}).attributes.map Attribute.key).Nodup)
  | log _ => exact (by decide : ((log {}).attributes.map Attribute.key).Nodup)
  | reference _ => exact (by decide : ((reference {}).attributes.map Attribute.key).Nodup)
  | seriesHeadline _ =>
    exact (by decide : ((seriesHeadline {}).attributes.map Attribute.key).Nodup)
  | seriesEntry _ => exact (by decide : ((seriesEntry {}).attributes.map Attribute.key).Nodup)

theorem Record.attribute?_of_mem {r : Record} {a : Attribute} (h : a ∈ r.attributes) :
    r.attribute? a.key = some a.value := by
  rw [attribute?]
  cases hfind : r.attributes.find? fun b => b.key == a.key with
  | none => exact absurd (beq_self_eq_true a.key) (List.find?_eq_none.mp hfind a h)
  | some b =>
    have hkey : b.key = a.key := by
      have hfound := List.find?_some hfind
      exact eq_of_beq hfound
    have hmem := List.mem_of_find?_eq_some hfind
    have hb : b = a := List.inj_on_of_nodup_map r.keys_nodup hmem h hkey
    rw [hb]
    rfl

/-! A label tells the value that has it, so the components of a record tell the record. -/

theorem EventKind.label_injective : Function.Injective EventKind.label := by
  have h : Function.LeftInverse ofLabel label := fun k => by cases k <;> rfl
  exact h.injective

theorem EventSubkind.label_injective : Function.Injective EventSubkind.label := by
  have h : Function.LeftInverse ofLabel label := fun k => by cases k <;> rfl
  exact h.injective

theorem ReleaseStatus.label_injective : Function.Injective ReleaseStatus.label := by
  have h : Function.LeftInverse ofLabel label := fun s => by cases s <;> rfl
  exact h.injective

theorem Component.label_injective : Function.Injective Component.label := by
  intro c c' h
  cases c <;> cases c' <;> first | rfl | exact absurd h (by decide)

theorem Headline.eq_of_attributes {h h' : Headline} (heq : h.attributes = h'.attributes) :
    h = h' := by
  cases h
  cases h'
  simpa [attributes, EventKind.label_injective.eq_iff, EventSubkind.label_injective.eq_iff]
    using heq

theorem Record.eq_of_attributes {r r' : Record} (htype : r.type = r'.type)
    (h : r.attributes = r'.attributes) : r = r' := by
  cases r with
  | economic a =>
    cases r' with
    | economic b =>
      obtain ⟨hheadline, hrest⟩ := List.append_inj h rfl
      obtain ⟨ha⟩ := a
      obtain ⟨hb⟩ := b
      have hheadline' : ha = hb := Headline.eq_of_attributes hheadline
      simpa [hheadline'] using hrest
    | _ => cases htype
  | calendar a =>
    cases r' with
    | calendar b =>
      obtain ⟨hheadline, hrest⟩ := List.append_inj h rfl
      obtain ⟨ha⟩ := a
      obtain ⟨hb⟩ := b
      have hheadline' : ha = hb := Headline.eq_of_attributes hheadline
      simpa [hheadline', ReleaseStatus.label_injective.eq_iff] using hrest
    | _ => cases htype
  | log a =>
    cases r' with
    | log b =>
      cases a
      cases b
      simp only [attributes, List.cons.injEq, Attribute.mk.injEq, AttributeValue.time.injEq,
        AttributeValue.label.injEq, Component.label_injective.eq_iff, AttributeValue.number.injEq,
        UInt8.toNat_inj, AttributeValue.id.injEq, AttributeValue.text.injEq, true_and] at h
      simp [h]
    | _ => cases htype
  | reference a =>
    cases r' with
    | reference b =>
      cases a
      cases b
      simpa [attributes] using h
    | _ => cases htype
  | seriesHeadline a =>
    cases r' with
    | seriesHeadline b =>
      cases a
      cases b
      simpa [attributes, EventKind.label_injective.eq_iff, EventSubkind.label_injective.eq_iff]
        using h
    | _ => cases htype
  | seriesEntry a =>
    cases r' with
    | seriesEntry b =>
      cases a
      cases b
      simpa [attributes, EventKind.label_injective.eq_iff, EventSubkind.label_injective.eq_iff,
        ReleaseStatus.label_injective.eq_iff] using h
    | _ => cases htype

/-- The record of a kind in which every component has its default. -/
def FeedKind.blank : FeedKind → Record
  | economic => .economic {}
  | calendar => .calendar {}
  | reference => .reference {}
  | seriesHeadline => .seriesHeadline {}
  | seriesEntry => .seriesEntry {}

namespace Element
variable {ε : Type} [Element ε]

/-! ## Where a component comes from -/

/-- Where a component of a record is read. -/
inductive Source where
  /-- In a field of the element. -/
  | own (name : String)
  /-- In the group of a replaced release. -/
  | grouped (name : String)
  /-- In the group of a replaced release, or in the element itself if there is no group. -/
  | flat (name : String)

namespace Source

/-- The field that the component is converted from, if there is one. -/
def find? : Source → ε → Option ε
  | own name, e => field? e name
  | grouped name, e => (field? e "REVISION_METADATA").bind fun group => field? group name
  | flat name, e => field? ((field? e "REVISION_METADATA").getD e) name

/-- The fields of the element that are looked up for the component. -/
def reads : Source → ε → List String
  | own name, _ => [name]
  | grouped _, _ => ["REVISION_METADATA"]
  | flat name, e =>
    match field? e "REVISION_METADATA" with
    | some _ => ["REVISION_METADATA"]
    | none => ["REVISION_METADATA", name]

/-- What is found depends on the fields that are looked up, and on nothing else. -/
theorem find?_congr {source : Source} {e e' : ε}
    (h : ∀ name ∈ source.reads e, field? e name = field? e' name) :
    source.find? e = source.find? e' := by
  cases source with
  | own name => exact h name (List.mem_singleton.mpr rfl)
  | grouped name => rw [find?, find?, h "REVISION_METADATA" (List.mem_singleton.mpr rfl)]
  | flat name =>
    rw [reads] at h
    rw [find?, find?]
    cases hgroup : field? e "REVISION_METADATA" with
    | some group =>
      rw [hgroup] at h
      rw [← h "REVISION_METADATA" (List.mem_singleton.mpr rfl), hgroup]
      rfl
    | none =>
      rw [hgroup] at h
      rw [← h "REVISION_METADATA" List.mem_cons_self, hgroup]
      exact h name (List.mem_cons_of_mem _ List.mem_cons_self)

end Source

/-! ## Columns -/

/-- A component of a record: its name, where it is read, how, and what stands for it if it is not
there. -/
structure Column (ε : Type) where
  key : String
  source : Source
  convert : ε → AttributeValue
  default : AttributeValue

namespace Column

/-- The component that an element has. -/
def component (column : Column ε) (e : ε) : Attribute :=
  ⟨column.key, ((column.source.find? e).map column.convert).getD column.default⟩

/-- A text. -/
def text (key : String) (source : Source) : Column ε :=
  ⟨key, source, fun field => .text (textIn field), .text ""⟩

/-- An id. -/
def id (key : String) (source : Source) : Column ε :=
  ⟨key, source, fun field => .id (idIn field), .id 0⟩

/-- A label of a vocabulary. -/
def label {α : Type} (ofLabel : String → α) (label : α → String) (key : String)
    (source : Source) : Column ε :=
  ⟨key, source, fun field => .label (label (ofLabel (textIn field))), .label "UNKNOWN"⟩

/-- A release. -/
def interval (key : String) (source : Source) : Column ε :=
  ⟨key, source, fun field => .interval (intervalIn field), .interval {}⟩

/-- A measurement. -/
def measurement (key : String) (source : Source) : Column ε :=
  ⟨key, source, fun field => .measurement (measurementIn field), .measurement .absent⟩

/-- A reading. -/
def reading (key : String) (source : Source) : Column ε :=
  ⟨key, source, fun field => .reading (readingOf field), .reading absentReading⟩

/-! Most columns are common to several kinds. -/

def globalId : Column ε := .text "global_id" (.own "ID_BB_GLOBAL")
def shortId : Column ε := .text "short_id" (.own "PARSEKYABLE_DES")
def description : Column ε := .text "description" (.own "DESCRIPTION")
def kind : Column ε := .label EventKind.ofLabel EventKind.label "kind" (.own "EVENT_TYPE")
def subkind : Column ε :=
  .label EventSubkind.ofLabel EventSubkind.label "subkind" (.own "EVENT_SUBTYPE")
def eventId : Column ε := .id "event_id" (.own "EVENT_ID")
def period : Column ε := .text "observation_period" (.own "OBSERVATION_PERIOD")
def release : Column ε := .interval "release" (.own "ECO_RELEASE_DT")
def value : Column ε := .measurement "value" (.own "VALUE")
def status : Column ε :=
  .label ReleaseStatus.ofLabel ReleaseStatus.label "release_status" (.own "RELEASE_STATUS")

/-- The columns of a replaced release, which comes in the group or in the element itself. -/
def revision (source : String → Source) : List (Column ε) :=
  [.id "prior_event_id" (source "PRIOR_EVENT_ID"),
    .text "prior_observation_period" (source "PRIOR_OBSERVATION_PERIOD"),
    .interval "prior_release" (source "PRIOR_ECO_RELEASE_DT")]

/-- The columns that economic and calendar headlines start with. -/
def headline : List (Column ε) :=
  [globalId, shortId, description, kind, subkind, eventId, period, release]

end Column

open Column in
/-- The columns of a kind, in the order of the record's components. -/
def columns : FeedKind → List (Column ε)
  | .economic =>
    headline ++ [value, .measurement "prior_value" (.own "PRIOR_VALUE")] ++ revision .grouped
  | .calendar => headline ++ [status]
  | .reference =>
    [globalId, shortId, description, .text "frequency" (.own "INDX_FREQ"),
      .text "units" (.own "INDX_UNITS"), .text "country_iso" (.own "COUNTRY_ISO"),
      .text "source" (.own "INDX_SOURCE"),
      .text "seasonality" (.own "SEASONALITY_AND_TRANSFORMATION")]
  | .seriesHeadline => [kind, subkind, eventId, period, release] ++ revision .flat ++ [value]
  | .seriesEntry =>
    [globalId, shortId, kind, subkind, description, eventId, period, release, status,
      .reading "relevance" (.own "RELEVANCE_VALUE")]

/-- The component that does not come from the element. -/
def correlation : FeedKind → UInt64 → List Attribute
  | .economic, _ | .calendar, _ => []
  | .reference, correlationId | .seriesHeadline, correlationId | .seriesEntry, correlationId =>
    [⟨"correlation_id", .id correlationId⟩]

/-! ## Records column by column -/

section
variable (key name : String) (e : ε)

theorem component_text :
    (Column.text key (.own name)).component e = ⟨key, .text (textField e name)⟩ := by
  rw [textField_eq, Column.component, Column.text, Source.find?]
  cases field? e name <;> rfl

theorem component_id : (Column.id key (.own name)).component e = ⟨key, .id (idField e name)⟩ := by
  rw [idField_eq, Column.component, Column.id, Source.find?]
  cases field? e name <;> rfl

theorem component_label {α : Type} (ofLabel : String → α) (label : α → String)
    (h : label (ofLabel "") = "UNKNOWN") :
    (Column.label ofLabel label key (.own name)).component e =
      ⟨key, .label (label (labelField ofLabel e name))⟩ := by
  rw [labelField_eq, Column.component, Column.label, Source.find?, ← h]
  cases field? e name <;> rfl

theorem component_interval :
    (Column.interval key (.own name)).component e = ⟨key, .interval (intervalAt e name)⟩ := by
  rw [intervalAt, Column.component, Column.interval, Source.find?]
  cases field? e name <;> rfl

theorem component_measurement :
    (Column.measurement key (.own name)).component e =
      ⟨key, .measurement (measurementAt e name)⟩ := by
  rw [measurementAt, Column.component, Column.measurement, Source.find?]
  cases field? e name <;> rfl

theorem component_reading :
    (Column.reading key (.own name)).component e = ⟨key, .reading (readingField e name)⟩ := by
  rw [readingField, Column.component, Column.reading, Source.find?]
  cases field? e name <;> rfl

end

theorem component_kind (e : ε) :
    Column.kind.component e = ⟨"kind", .label (kindField e).label⟩ :=
  component_label _ _ e _ _ rfl

theorem component_subkind (e : ε) :
    Column.subkind.component e = ⟨"subkind", .label (subkindField e).label⟩ :=
  component_label _ _ e _ _ rfl

theorem component_status (e : ε) :
    Column.status.component e = ⟨"release_status", .label (statusField e).label⟩ :=
  component_label _ _ e _ _ rfl

theorem map_headline (e : ε) :
    Column.headline.map (·.component e) = (headlineAt e).attributes := by
  simp only [Column.headline, List.map_cons, List.map_nil, Column.globalId, Column.shortId,
    Column.description, component_kind, component_subkind, Column.eventId, Column.period,
    Column.release, component_text, component_id, component_interval]
  rfl

/-- A replaced release in an element of its own. -/
theorem map_revision_own (e : ε) :
    (Column.revision .own).map (·.component e) =
      [⟨"prior_event_id", .id (revisionAt e).eventId⟩,
        ⟨"prior_observation_period", .text (revisionAt e).period⟩,
        ⟨"prior_release", .interval (revisionAt e).release⟩] := by
  simp only [Column.revision, List.map_cons, List.map_nil, component_text, component_id,
    component_interval]
  rfl

theorem map_revision_grouped (e : ε) :
    (Column.revision .grouped).map (·.component e) =
      [⟨"prior_event_id", .id (groupedRevisionAt e).eventId⟩,
        ⟨"prior_observation_period", .text (groupedRevisionAt e).period⟩,
        ⟨"prior_release", .interval (groupedRevisionAt e).release⟩] := by
  rw [groupedRevisionAt, revisionGroup?]
  cases hgroup : field? e "REVISION_METADATA" with
  | none =>
    simp only [Column.revision, List.map_cons, List.map_nil, Column.component, Column.id,
      Column.text, Column.interval, Source.find?, hgroup]
    rfl
  | some group =>
    rw [Option.map_some, Option.getD_some, ← map_revision_own group]
    simp only [Column.revision, List.map_cons, List.map_nil, Column.component, Column.id,
      Column.text, Column.interval, Source.find?, hgroup, Option.bind_some]

theorem map_revision_flat (e : ε) :
    (Column.revision .flat).map (·.component e) =
      (Column.revision .own).map (·.component ((field? e "REVISION_METADATA").getD e)) :=
  rfl

/-- A record has the columns of its kind, and nothing but these and the correlation id. -/
theorem attributes_recordAt (kind : FeedKind) (e : ε) (correlationId : UInt64) :
    (recordAt kind e correlationId).attributes =
      correlation kind correlationId ++ (columns kind).map (·.component e) := by
  cases kind with
  | economic =>
    simp only [columns, List.map_append, map_headline, List.map_cons, List.map_nil, Column.value,
      component_measurement, map_revision_grouped]
    rfl
  | calendar =>
    simp only [columns, List.map_append, map_headline, List.map_cons, List.map_nil,
      component_status]
    rfl
  | reference =>
    simp only [columns, List.map_cons, List.map_nil, Column.globalId, Column.shortId,
      Column.description, component_text]
    rfl
  | seriesHeadline =>
    simp only [columns, List.map_append, List.map_cons, List.map_nil, component_kind,
      component_subkind, Column.eventId, Column.period, Column.release, component_text,
      component_id, component_interval, map_revision_flat, map_revision_own, Column.value,
      component_measurement]
    rfl
  | seriesEntry =>
    simp only [columns, List.map_cons, List.map_nil, Column.globalId, Column.shortId,
      component_kind, component_subkind, Column.description, Column.eventId, Column.period,
      Column.release, component_status, component_text, component_id, component_interval,
      component_reading]
    rfl

/-- What a record has under the name of a column is what the column gives. -/
theorem attribute?_recordAt {kind : FeedKind} {column : Column ε} (h : column ∈ columns kind)
    (e : ε) (correlationId : UInt64) :
    (recordAt kind e correlationId).attribute? column.key = some (column.component e).value := by
  have hmem : column.component e ∈ (recordAt kind e correlationId).attributes := by
    rw [attributes_recordAt]
    exact List.mem_append_right _ (List.mem_map_of_mem h)
  exact Record.attribute?_of_mem hmem

theorem attributes_blank (ε : Type) [Element ε] (kind : FeedKind) :
    kind.blank.attributes = correlation kind 0 ++
      (columns kind).map fun column : Column ε => ⟨column.key, column.default⟩ := by
  cases kind <;> rfl

/-- What stands for a component that is not there is its default. -/
theorem attribute?_blank {kind : FeedKind} {column : Column ε} (h : column ∈ columns kind) :
    kind.blank.attribute? column.key = some column.default := by
  have hmem : ⟨column.key, column.default⟩ ∈ kind.blank.attributes := by
    rw [attributes_blank ε]
    exact List.mem_append_right _ (List.mem_map_of_mem (f := fun column : Column ε => _) h)
  exact Record.attribute?_of_mem hmem

theorem component_congr {column : Column ε} {e e' : ε}
    (h : ∀ name ∈ column.source.reads e, field? e name = field? e' name) :
    column.component e = column.component e' := by
  rw [Column.component, Source.find?_congr h]
  rfl

/-- Two elements give the same component if they agree on the fields that it is read from. -/
theorem attribute?_congr {kind : FeedKind} {e e' : ε} {key : String} (correlationId : UInt64)
    (h : ∀ column : Column ε, column ∈ columns kind → column.key = key →
      ∀ name ∈ column.source.reads e, field? e name = field? e' name) :
    (recordAt kind e correlationId).attribute? key =
      (recordAt kind e' correlationId).attribute? key := by
  have hcolumns : ((columns kind).map (·.component e)).find? (fun a => a.key == key) =
      ((columns kind).map (·.component e')).find? (fun a => a.key == key) := by
    rw [List.find?_map, List.find?_map]
    -- the column is found by its name, whatever the element holds
    show ((columns kind).find? fun column => column.key == key).map (·.component e) =
      ((columns kind).find? fun column => column.key == key).map (·.component e')
    cases hfind : (columns kind).find? fun column : Column ε => column.key == key with
    | none => rfl
    | some column =>
      have hkey := List.find?_some hfind
      exact congrArg some
        (component_congr (h column (List.mem_of_find?_eq_some hfind) (eq_of_beq hkey)))
  rw [Record.attribute?, Record.attribute?, attributes_recordAt, attributes_recordAt,
    List.find?_append, List.find?_append, hcolumns]

end Element

end ReleaseFeed
