import ReleaseFeed.Proofs.Line.Shape
import ReleaseFeed.Proofs.Text.Unquoted

/-! # Reading a line back

A line is read without the record: it is split at the spaces that stand outside quotes, what stands
before the first equals sign of a part is a key, and a value that starts with a quote has its escapes
undone.  This reader finds the stamp, the type and then the fields that are there, in their order and
with their texts to the letter (`readLine_record`); `Record.present` says what those are, apart from
how a line is put together.

No text can be mistaken for anything else, however much it looks like pairs.  A text without quotes is
bare, so the scan stays outside all the way through it and meets no space; a text with quotes is gone
through to its own closing quote, because an escape is never that (`Pair.Tame.through_token`).
-/
namespace ReleaseFeed

/-! ## The fields that are there -/

namespace Present

/-- A text, unless it is empty. -/
def text (key value : String) : List (String × String) :=
  if value = "" then [] else [(key, value)]

def label (key value : String) : List (String × String) :=
  [(key, value)]

def id (key : String) (value : UInt64) : List (String × String) :=
  [(key, toString value.toNat)]

/-- A reading, unless it is absent. -/
def reading (key : String) (value : Float) : List (String × String) :=
  if value.isNaN then [] else [(key, Number.text value)]

/-- A time, unless it is the epoch. -/
def time (key : String) (value : Timestamp) : List (String × String) :=
  if value.isEpoch then [] else [(key, value.text)]

/-- A release has one key if it is a point in time, and two otherwise. -/
def interval (key : String) (value : Interval) : List (String × String) :=
  if value.start = value.stop then time key value.start
  else time (key ++ ".start") value.start ++ time (key ++ ".end") value.stop

/-- The number of contributors, and then the readings that are there; nothing if nothing was
measured. -/
def measurement (key : String) (m : Measurement) : List (String × String) :=
  if m.isAbsent then []
  else (key ++ ".count", toString m.count.toNat) :: (reading (key ++ ".value") m.value
    ++ reading (key ++ ".low") m.low ++ reading (key ++ ".high") m.high
    ++ reading (key ++ ".median") m.median ++ reading (key ++ ".average") m.average
    ++ reading (key ++ ".standard_deviation") m.deviation)

end Present

open Present in
/-- What economic and calendar events have in common. -/
def Headline.present (h : Headline) : List (String × String) :=
  text "global_id" h.globalId ++ text "short_id" h.shortId ++ text "description" h.description
    ++ label "kind" h.kind.label ++ label "subkind" h.subkind.label ++ id "event_id" h.eventId
    ++ text "observation_period" h.period ++ interval "release" h.release

open Present in
/-- The fields of a record that are there, by key.  The line of a log record has no keys. -/
def Record.present : Record → List (String × String)
  | economic e => e.headline.present
    ++ measurement "value" e.value ++ measurement "prior_value" e.priorValue
    ++ id "prior_event_id" e.priorEventId ++ text "prior_observation_period" e.priorPeriod
    ++ interval "prior_release" e.priorRelease
  | calendar e => e.headline.present ++ label "release_status" e.status.label
  | log _ => []
  | reference d => id "correlation_id" d.correlationId
    ++ text "global_id" d.globalId ++ text "short_id" d.shortId ++ text "description" d.description
    ++ text "frequency" d.frequency ++ text "units" d.units ++ text "country_iso" d.country
    ++ text "source" d.source ++ text "seasonality" d.seasonality
  | seriesHeadline e => id "correlation_id" e.correlationId
    ++ label "kind" e.kind.label ++ label "subkind" e.subkind.label ++ id "event_id" e.eventId
    ++ text "observation_period" e.period ++ interval "release" e.release
    ++ id "prior_event_id" e.priorEventId ++ text "prior_observation_period" e.priorPeriod
    ++ interval "prior_release" e.priorRelease ++ measurement "value" e.value
  | seriesEntry e => id "correlation_id" e.correlationId
    ++ text "global_id" e.globalId ++ text "short_id" e.shortId
    ++ label "kind" e.kind.label ++ label "subkind" e.subkind.label
    ++ text "description" e.description ++ id "event_id" e.eventId
    ++ text "observation_period" e.period ++ interval "release" e.release
    ++ label "release_status" e.status.label ++ reading "relevance" e.relevance

/-- The texts of a record, empty ones too. -/
def Record.texts : Record → List String
  | economic e => [e.headline.globalId, e.headline.shortId, e.headline.description,
      e.headline.period, e.priorPeriod]
  | calendar e => [e.headline.globalId, e.headline.shortId, e.headline.description,
      e.headline.period]
  | log r => [r.message]
  | reference d => [d.globalId, d.shortId, d.description, d.frequency, d.units, d.country, d.source,
      d.seasonality]
  | seriesHeadline e => [e.period, e.priorPeriod]
  | seriesEntry e => [e.globalId, e.shortId, e.description, e.period]

/-- The keys of these texts. -/
def RecordType.textKeys : RecordType → List String
  | economic => ["global_id", "short_id", "description", "observation_period",
      "prior_observation_period"]
  | calendar => ["global_id", "short_id", "description", "observation_period"]
  | log => ["message"]
  | reference => ["global_id", "short_id", "description", "frequency", "units", "country_iso",
      "source", "seasonality"]
  | seriesHeadline => ["observation_period", "prior_observation_period"]
  | seriesEntry => ["global_id", "short_id", "description", "observation_period"]

/-! ## Looking a text up -/

namespace Present

variable {key k : String}

theorem lookup_text_self (key value : String) :
    (text key value).lookup key = if value = "" then none else some value := by
  unfold text
  split_ifs
  · rfl
  · exact List.lookup_cons_self

theorem lookup_single (h : k ≠ key) (value : String) : [(key, value)].lookup k = none := by
  rw [List.lookup_cons, beq_eq_false_iff_ne.mpr h]
  rfl

theorem lookup_unless (h : k ≠ key) (absent : Prop) [Decidable absent] (value : String) :
    (if absent then [] else [(key, value)]).lookup k = none := by
  split_ifs
  · rfl
  · exact lookup_single h value

theorem lookup_text (h : k ≠ key) (value : String) : (text key value).lookup k = none :=
  lookup_unless h _ value

theorem lookup_reading (h : k ≠ key) (value : Float) : (reading key value).lookup k = none :=
  lookup_unless h _ _

theorem lookup_time (h : k ≠ key) (value : Timestamp) : (time key value).lookup k = none :=
  lookup_unless h _ _

/-- A key without a dot is no key of a part. -/
theorem ne_part (hk : '.' ∉ k.toList) (key : String) {part : String} (hpart : '.' ∈ part.toList) :
    k ≠ key ++ part := by
  rintro rfl
  rw [String.toList_append, List.mem_append, not_or] at hk
  exact hk.2 hpart

theorem lookup_interval (h : k ≠ key) (hk : '.' ∉ k.toList) (value : Interval) :
    (interval key value).lookup k = none := by
  unfold interval
  split_ifs
  · exact lookup_time h _
  · rw [List.lookup_append, lookup_time (ne_part hk key (by decide)),
      lookup_time (ne_part hk key (by decide)), Option.none_or]

theorem lookup_measurement (hk : '.' ∉ k.toList) (key : String) (m : Measurement) :
    (measurement key m).lookup k = none := by
  have hreading {part : String} (hpart : '.' ∈ part.toList) (value : Float) :
      (reading (key ++ part) value).lookup k = none :=
    lookup_reading (ne_part hk key hpart) value
  have hcount : k ≠ key ++ ".count" := ne_part hk key (by decide)
  unfold measurement
  split_ifs
  · rfl
  · rw [List.lookup_cons, beq_eq_false_iff_ne.mpr hcount]
    simp only [List.lookup_append]
    rw [hreading (by decide), hreading (by decide), hreading (by decide), hreading (by decide),
      hreading (by decide), hreading (by decide)]
    rfl

end Present

open Present in
/-- Each text of a record stands under its key, unless it is empty. -/
theorem Record.texts_eq {r : Record} (h : r.type ≠ .log) :
    r.texts = r.type.textKeys.map fun key => (r.present.lookup key).getD "" := by
  have hgetD (value : String) : (if value = "" then none else some value).getD "" = value := by
    split_ifs with hempty
    · exact hempty.symm
    · rfl
  cases r with
  | log => exact absurd rfl h
  | economic | calendar | reference | seriesHeadline | seriesEntry =>
    simp (disch := decide) only [texts, type, RecordType.textKeys, present, Headline.present,
      List.map_cons, List.map_nil, List.lookup_append, label, Present.id, lookup_single,
      lookup_text_self, lookup_text, lookup_reading, lookup_interval, lookup_measurement,
      Option.none_or, Option.or_none, hgetD]

namespace Line

/-! ## Reading -/

/-- The parts of a line between the spaces outside quotes. -/
def fieldsFrom : Text.QuoteState → List Char → List (List Char)
  | _, [] => [[]]
  | state, c :: rest =>
    if state.separates c then [] :: fieldsFrom (state.after c) rest
    else match fieldsFrom (state.after c) rest with
      | field :: fields => (c :: field) :: fields
      | [] => [[c]]

/-- A value, whose escapes are undone if it starts with a quote. -/
def readValue (cs : List Char) : Option (List Char) :=
  if cs.head? = some '"' then Text.unquote? cs else some cs

/-- A key and its value; nothing for a part without an equals sign. -/
def readField (cs : List Char) : Option (String × String) :=
  if '=' ∈ cs then
    (readValue (cs.dropWhile (· ≠ '=')).tail).map fun value =>
      (String.ofList (cs.takeWhile (· ≠ '=')), String.ofList value)
  else none

/-- The stamp of a line, and its keys and values in order. -/
def readLine (line : String) : Option (String × List (String × String)) :=
  match fieldsFrom .outside line.toList with
  | stamp :: fields => (fields.mapM readField).map fun pairs => (String.ofList stamp, pairs)
  | [] => none

/-! ## Splitting -/

/-- Characters none of which separates are the start of the first part. -/
theorem fieldsFrom_append {state next : Text.QuoteState} {cs : List Char}
    (h : state.through cs = some next) (rest : List Char) {field : List Char}
    {fields : List (List Char)} (hrest : fieldsFrom next rest = field :: fields) :
    fieldsFrom state (cs ++ rest) = (cs ++ field) :: fields := by
  induction cs generalizing state with
  | nil =>
    cases h
    exact hrest
  | cons c cs ih =>
    rw [Text.QuoteState.through] at h
    by_cases hseparates : state.separates c = true
    · rw [if_pos hseparates] at h
      cases h
    · rw [if_neg hseparates] at h
      rw [List.cons_append, fieldsFrom, if_neg hseparates, ih h]
      rfl

/-- A part that the scan is outside of again ends at the next space. -/
theorem fieldsFrom_space {cs : List Char} (h : Text.QuoteState.outside.through cs = some .outside)
    (rest : List Char) :
    fieldsFrom .outside (cs ++ ' ' :: rest) = cs :: fieldsFrom .outside rest := by
  have hspace : fieldsFrom .outside (' ' :: rest) = [] :: fieldsFrom .outside rest := rfl
  rw [fieldsFrom_append h _ hspace, List.append_nil]

theorem fieldsFrom_last {cs : List Char} (h : Text.QuoteState.outside.through cs = some .outside) :
    fieldsFrom .outside cs = [cs] := by
  have hend : fieldsFrom .outside [] = [[]] := rfl
  have hlast := fieldsFrom_append h [] hend
  rwa [List.append_nil] at hlast

/-- A line that is put together of parts with spaces between them is split into these parts. -/
theorem fieldsFrom_flatMap {head : List Char} {parts : List (List Char)}
    (hhead : Text.QuoteState.outside.through head = some .outside)
    (hparts : ∀ part ∈ parts, Text.QuoteState.outside.through part = some .outside) :
    fieldsFrom .outside (head ++ parts.flatMap (' ' :: ·)) = head :: parts := by
  induction parts generalizing head with
  | nil =>
    rw [List.flatMap_nil, List.append_nil]
    exact fieldsFrom_last hhead
  | cons part parts ih =>
    rw [List.flatMap_cons, List.cons_append, fieldsFrom_space hhead,
      ih (hparts part List.mem_cons_self) fun p hp => hparts p (List.mem_cons_of_mem _ hp)]

/-! ## Pairs -/

theorem Bare.through {s : String} (h : Bare s) :
    Text.QuoteState.outside.through s.toList = some .outside := by
  refine Text.QuoteState.through_outside fun c hc => ?_
  have hbare := h c hc
  constructor
  · rintro rfl
    exact absurd hbare (by decide)
  · rintro rfl
    exact absurd hbare (by decide)

theorem Bare.not_mem {s : String} (h : Bare s) {c : Char} (hc : Value.needsQuotes c = true) :
    c ∉ s.toList := by
  intro hmem
  rw [h c hmem] at hc
  cases hc

/-- What a value says, without quotes. -/
def Value.content : Value → String
  | plain s => s
  | text s => s

/-- A value is bare, or it is a text in quotes. -/
theorem Value.Tame.bare_or_quoted {v : Value} (h : v.Tame) :
    (Bare v.content ∧ v.written = v.content) ∨ v.written = Text.quoted v.content := by
  cases v with
  | plain s => exact .inl ⟨h, rfl⟩
  | text s =>
    rw [written]
    by_cases hquotes : s.toList.any needsQuotes = true
    · rw [if_pos hquotes]
      exact .inr rfl
    · rw [if_neg hquotes]
      exact .inl ⟨bare_of_not_any hquotes, rfl⟩

theorem Value.Tame.through_written {v : Value} (h : v.Tame) :
    Text.QuoteState.outside.through v.written.toList = some .outside := by
  rcases h.bare_or_quoted with ⟨hbare, hwritten⟩ | hwritten
  · rw [hwritten]
    exact hbare.through
  · rw [hwritten]
    exact Text.QuoteState.through_quoted _

theorem Value.Tame.readValue_written {v : Value} (h : v.Tame) :
    readValue v.written.toList = some v.content.toList := by
  rcases h.bare_or_quoted with ⟨hbare, hwritten⟩ | hwritten
  · have hhead : v.content.toList.head? ≠ some '"' := by
      intro hquote
      exact hbare.not_mem rfl (List.mem_of_mem_head? hquote)
    rw [hwritten, readValue, if_neg hhead]
  · have hhead : (Text.quoted v.content).toList.head? = some '"' := by
      rw [Text.quoted, String.toList_ofList]
      rfl
    rw [hwritten, readValue, if_pos hhead, Text.unquote?_quoted]

/-- What a reader finds for a pair. -/
def Pair.shown (pair : Pair) : String × String :=
  (pair.key, pair.value.content)

/-- A pair as it stands on a line, without the space before it. -/
def Pair.token (pair : Pair) : List Char :=
  pair.key.toList ++ '=' :: pair.value.written.toList

theorem Pair.toList_text (pair : Pair) : pair.text.toList = ' ' :: pair.token := by
  have hspace : " ".toList = [' '] := by decide
  have hequals : "=".toList = ['='] := by decide
  rw [text, token, String.toList_append, String.toList_append, String.toList_append, hspace,
    hequals, List.append_assoc, List.append_assoc]
  rfl

/-- A scan goes through a pair without meeting a space that separates. -/
theorem Pair.Tame.through_token {pair : Pair} (h : pair.Tame) :
    Text.QuoteState.outside.through pair.token = some .outside := by
  rw [token, Text.QuoteState.through_append, h.key.through, Option.bind_some]
  exact h.value.through_written

theorem Pair.Tame.readField_token {pair : Pair} (h : pair.Tame) :
    readField pair.token = some pair.shown := by
  have hkey : ∀ c ∈ pair.key.toList, decide (c ≠ '=') = true := by
    intro c hc
    refine decide_eq_true ?_
    rintro rfl
    exact h.key.not_mem rfl hc
  have hequals : '=' ∈ pair.token := List.mem_append_right _ List.mem_cons_self
  rw [readField, if_pos hequals, token, List.dropWhile_append_of_pos hkey,
    List.takeWhile_append_of_pos hkey, List.dropWhile_cons_of_neg (by decide),
    List.takeWhile_cons_of_neg (by decide), List.tail_cons, h.value.readValue_written,
    Option.map_some, List.append_nil, String.ofList_toList, String.ofList_toList]
  rfl

/-! ## Attributes -/

/-- What a reader finds for an attribute. -/
def shownAttribute (key : String) : AttributeValue → List (String × String)
  | .text value => Present.text key value
  | .label value => Present.label key value
  | .number value => Present.label key (toString value)
  | .id value => Present.id key value
  | .reading value => Present.reading key value
  | .time value => Present.time key value
  | .interval value => Present.interval key value
  | .measurement value => Present.measurement key value

theorem shown_text (key value : String) :
    (single key (.text value)).map Pair.shown = Present.text key value := by
  rw [single, Present.text]
  split_ifs <;> rfl

theorem shown_reading (key : String) (value : Float) :
    (single key (.reading value)).map Pair.shown = Present.reading key value := by
  rw [single, Present.reading]
  split_ifs <;> rfl

theorem shown_time (key : String) (value : Timestamp) :
    (single key (.time value)).map Pair.shown = Present.time key value := by
  rw [single, Present.time]
  split_ifs <;> rfl

theorem shown_interval (key : String) (i : Interval) :
    (pairsOf ⟨key, .interval i⟩).map Pair.shown = Present.interval key i := by
  simp only [pairsOf, Present.interval, Interval.isPoint, beq_iff_eq]
  split_ifs
  · exact shown_time key i.start
  · rw [List.map_append, shown_time, shown_time]

theorem shown_measurement (key : String) (m : Measurement) :
    (pairsOf ⟨key, .measurement m⟩).map Pair.shown = Present.measurement key m := by
  simp only [pairsOf, Present.measurement]
  split_ifs
  · rfl
  · simp only [Measurement.attributes, List.flatMap_cons, List.flatMap_nil, List.map_append,
      shown_reading, List.append_assoc, String.append_assoc, String.reduceAppend,
      List.append_nil]
    rfl

theorem shown_pairsOf (a : Attribute) :
    (pairsOf a).map Pair.shown = shownAttribute a.key a.value := by
  obtain ⟨key, value⟩ := a
  cases value with
  | text value => exact shown_text key value
  | label | number | id => rfl
  | reading value => exact shown_reading key value
  | time value => exact shown_time key value
  | interval i => exact shown_interval key i
  | measurement m => exact shown_measurement key m

/-- What a reader finds for the attributes of a record is what is there. -/
theorem shown_attributes {r : Record} (h : r.type ≠ .log) :
    (r.attributes.flatMap pairsOf).map Pair.shown = r.present := by
  have hshown (a : Attribute) (rest : List Attribute) :
      ((a :: rest).flatMap pairsOf).map Pair.shown =
        shownAttribute a.key a.value ++ (rest.flatMap pairsOf).map Pair.shown := by
    rw [List.flatMap_cons, List.map_append, shown_pairsOf]
  cases r with
  | log => exact absurd rfl h
  | economic | calendar | reference | seriesHeadline | seriesEntry =>
    simp only [Record.attributes, Headline.attributes, List.cons_append, List.nil_append, hshown,
      shownAttribute, Record.present, Headline.present, List.append_assoc, List.flatMap_nil,
      List.map_nil, List.append_nil]

/-! ## Lines -/

theorem mapM_readField {pairs : List Pair} (h : ∀ pair ∈ pairs, pair.Tame) :
    (pairs.map Pair.token).mapM readField = some (pairs.map Pair.shown) := by
  induction pairs with
  | nil => rfl
  | cons pair pairs ih =>
    rw [List.map_cons, List.mapM_cons, (h pair List.mem_cons_self).readField_token,
      ih fun p hp => h p (List.mem_cons_of_mem _ hp)]
    rfl

theorem toList_ofPairs (stamp : String) (pairs : List Pair) :
    (ofPairs stamp pairs).toList = stamp.toList ++ (pairs.map Pair.token).flatMap (' ' :: ·) := by
  rw [ofPairs_eq, String.toList_append]
  congr 1
  induction pairs with
  | nil => rfl
  | cons pair pairs ih =>
    rw [List.map_cons, String.join_cons, String.toList_append, Pair.toList_text, ih]
    rfl

theorem bare_stamp (now : WallClock) : Bare (stamp now) :=
  bare_of_digitsAnd (digitsAnd_stamp now) (by decide)

theorem readLine_ofPairs {stamp : String} (hstamp : Bare stamp) {pairs : List Pair}
    (hpairs : ∀ pair ∈ pairs, pair.Tame) :
    readLine (ofPairs stamp pairs) = some (stamp, pairs.map Pair.shown) := by
  have htokens : ∀ token ∈ pairs.map Pair.token,
      Text.QuoteState.outside.through token = some .outside := by
    intro token htoken
    obtain ⟨pair, hpair, rfl⟩ := List.mem_map.mp htoken
    exact (hpairs pair hpair).through_token
  rw [readLine, toList_ofPairs, fieldsFrom_flatMap hstamp.through htokens]
  show ((pairs.map Pair.token).mapM readField).map _ = _
  rw [mapM_readField hpairs, Option.map_some, String.ofList_toList]

/-! ## Records -/

theorem readLine_record (now : WallClock) {r : Record} (h : r.type ≠ .log) :
    readLine (ofRecord now r) = some (stamp now, ("type", r.type.name) :: r.present) := by
  have htame : ∀ pair ∈ typePair r :: r.attributes.flatMap pairsOf, pair.Tame :=
    List.forall_mem_cons.mpr ⟨tame_typePair r, tame_pairs r⟩
  rw [ofRecord_eq now h, readLine_ofPairs (bare_stamp now) htame, List.map_cons, shown_attributes h]
  rfl

/-- A line tells all texts of its record. -/
theorem texts_eq_of_ofRecord_eq {now now' : WallClock} {r r' : Record} (h : r.type ≠ .log)
    (htype : r'.type = r.type) (hline : ofRecord now' r' = ofRecord now r) :
    r'.texts = r.texts := by
  have hread := readLine_record now' (htype ▸ h : r'.type ≠ .log)
  rw [hline, readLine_record now h, Option.some_inj, Prod.mk.injEq, List.cons.injEq] at hread
  obtain ⟨-, -, hpresent⟩ := hread
  rw [Record.texts_eq (htype ▸ h), Record.texts_eq h, htype, hpresent]

/-- What the line of a record gives back. -/
structure ReadsBack (now : WallClock) (r : Record) : Prop where
  /-- The stamp, the type, and then the fields that are there, in order. -/
  read : readLine (ofRecord now r) = some (stamp now, ("type", r.type.name) :: r.present)
  /-- Every text is among them to the letter, unless it is empty. -/
  texts : r.texts = r.type.textKeys.map fun key => (r.present.lookup key).getD ""
  /-- No record of the type with other texts has this line, whenever its line is made. -/
  distinct : ∀ now' r', r'.type = r.type → r'.texts ≠ r.texts → ofRecord now' r' ≠ ofRecord now r

/-- **Lines can be read back**, whatever texts the record has. -/
theorem readsBack (now : WallClock) (r : Record) (h : r.type ≠ .log) : ReadsBack now r where
  read := readLine_record now h
  texts := Record.texts_eq h
  distinct _ _ htype htexts hline := htexts (texts_eq_of_ofRecord_eq h htype hline)

/-- An entry whose texts look like pairs, escapes and ends of quotes. -/
def lookalike : Record :=
  .seriesEntry
    { correlationId := 7, globalId := "a kind=\"NEW\" type=log", shortId := "back\\slash\u200b",
      description := "\"\\\" \u00a0=", period := "C:\\\\", release := ⟨⟨0, 0⟩, ⟨1, 0⟩⟩ }

theorem readsBack_lookalike : lookalike.type ≠ .log ∧
    readLine (ofRecord ⟨⟨2024, 2, 29⟩, ⟨13, 5, 9, 7_000_000⟩⟩ lookalike) =
      some ("2024-02-29T13:05:09.007Z",
        [("type", "macro_calendar_event"), ("correlation_id", "7"),
          ("global_id", "a kind=\"NEW\" type=log"), ("short_id", "back\\slash\u200b"),
          ("kind", "UNKNOWN"), ("subkind", "UNKNOWN"), ("description", "\"\\\" \u00a0="),
          ("event_id", "0"), ("observation_period", "C:\\\\"),
          ("release.end", "1970-01-01T00:00:00.000001+00:00"), ("release_status", "UNKNOWN")]) := by
  have hlog : lookalike.type ≠ .log := by decide
  refine ⟨hlog, (readsBack _ lookalike hlog).read.trans ?_⟩
  decide +kernel

end Line

end ReleaseFeed
