import ReleaseFeed.Line
import ReleaseFeed.Proofs.Text.Lines

/-! # The shape of a line

Keys, labels, numbers and times are `Bare`: they have no white space, no equals sign and no quote, so
nothing in them is taken for what stands between two pairs (`tame_pairs`).  Bare texts end no line
either, and each text of the feed is escaped, in quotes, or without white space; so the line of a record
stays on one line whatever texts the record has (`oneLine_ofRecord`).

What kind of line it is can be read off its start.  A stamp has neither a space nor a bar, so after
it comes the key of the first pair, which is `type` for a record and `error` for a buffer that holds
none.  The time of a log record has no `T`, which every stamp has before its first space
(`ofRecord_ne_ofError`).
-/
namespace ReleaseFeed
open Text

/-! ## Bare texts -/

namespace Line

/-- No character is white space, an equals sign or a quote. -/
def Bare (s : String) : Prop :=
  ∀ c ∈ s.toList, Value.needsQuotes c = false

instance (s : String) : Decidable (Bare s) :=
  List.decidableBAll (fun c => Value.needsQuotes c = false) s.toList

theorem Bare.append {s t : String} (hs : Bare s) (ht : Bare t) : Bare (s ++ t) := by
  intro c hc
  rw [String.toList_append, List.mem_append] at hc
  exact hc.elim (hs c) (ht c)

theorem Bare.oneLine {s : String} (h : Bare s) : OneLine s := by
  refine oneLine_of_not_isSpace fun c hc => ?_
  have hbare := h c hc
  rw [Value.needsQuotes, Bool.or_eq_false_iff, Bool.or_eq_false_iff] at hbare
  exact hbare.1.1

theorem not_needsQuotes_of_isDigit {c : Char} (h : isDigit c = true) :
    Value.needsQuotes c = false := by
  have hrange := isDigit_iff_toNat.mp h
  have hspace : isSpace c = false := by
    simp only [isSpace, loneSpaces, Bool.or_eq_false_iff, Bool.and_eq_false_iff,
      decide_eq_false_iff_not, List.contains_cons, List.contains_nil, beq_eq_false_iff_ne,
      and_true]
    omega
  rw [Value.needsQuotes, Bool.or_eq_false_iff, Bool.or_eq_false_iff]
  exact ⟨⟨hspace, decide_eq_false (ne_of_isDigit h rfl)⟩, decide_eq_false (ne_of_isDigit h rfl)⟩

theorem bare_of_digitsAnd {marks : List Char} {s : String} (h : DigitsAnd marks s)
    (hmarks : marks.any Value.needsQuotes = false) : Bare s :=
  h.lacks (fun _ => not_needsQuotes_of_isDigit) hmarks

theorem bare_nat (n : Nat) : Bare (toString n) :=
  bare_of_digitsAnd (digitsAnd_nat n : DigitsAnd [] _) rfl

end Line

/-! ## Numbers and times -/

namespace Number

theorem digitsAnd_positional (digits : Nat) (k : Int) : DigitsAnd ['.'] (positional digits k) := by
  have hdigits : ∀ c ∈ (toString digits).toList, isDigit c = true ∨ c ∈ ['.'] :=
    digitsAnd_nat digits
  have hzeros (n : Nat) : ∀ c ∈ List.replicate n '0', isDigit c = true ∨ c ∈ ['.'] := by
    intro c hc
    rw [List.eq_of_mem_replicate hc]
    exact .inl rfl
  intro c hc
  unfold positional at hc
  split_ifs at hc
  · rw [String.toList_ofList, List.mem_append] at hc
    exact hc.elim (hdigits c) (hzeros _ c)
  · rw [String.toList_ofList, List.mem_append, List.mem_cons] at hc
    have hpadded : ∀ c ∈ List.replicate (k.natAbs + 1 - (toString digits).toList.length) '0' ++
        (toString digits).toList, isDigit c = true ∨ c ∈ ['.'] := by
      intro c hc
      exact (List.mem_append.mp hc).elim (hzeros _ c) (hdigits c)
    rcases hc with hwhole | rfl | hplaces
    · exact hpadded c (List.mem_of_mem_take hwhole)
    · exact .inr (List.mem_singleton_self _)
    · exact hpadded c (List.mem_of_mem_drop hplaces)

/-- What the text of a reading has besides digits. -/
def textMarks : List Char :=
  ['-', '.', 'N', 'a', 'i', 'n', 'f']

theorem digitsAnd_text (x : Float) : DigitsAnd textMarks (text x) := by
  unfold text
  extract_lets bits sign magnitude
  have hsign : DigitsAnd textMarks sign := by
    unfold sign
    split_ifs
    · decide
    · decide
  by_cases hnan : x.isNaN
  · rw [if_pos hnan]
    decide
  rw [if_neg hnan]
  by_cases hzero : magnitude = 0
  · rw [if_pos hzero]
    exact hsign.append (by decide)
  rw [if_neg hzero]
  by_cases hinf : x.isInf
  · rw [if_pos hinf]
    exact hsign.append (by decide)
  rw [if_neg hinf]
  exact hsign.append ((digitsAnd_positional _ _).mono (by decide))

end Number

theorem Date.digitsAnd_text (d : Date) : DigitsAnd ['-', '+'] d.text := by
  have hyear : DigitsAnd ['-', '+'] (yearText d.year) := by
    unfold yearText
    split_ifs
    · exact digitsAnd_padded 4 _
    · exact DigitsAnd.append (by decide) (digitsAnd_padded 4 _)
    · exact DigitsAnd.append (by decide) (digitsAnd_padded 4 _)
  have hhyphen : DigitsAnd ['-', '+'] "-" := by decide
  exact (((hyear.append hhyphen).append (digitsAnd_padded 2 _)).append hhyphen).append
    (digitsAnd_padded 2 _)

theorem TimeOfDay.digitsAnd_clockText (t : TimeOfDay) : DigitsAnd [':'] t.clockText := by
  have hcolon : DigitsAnd [':'] ":" := by decide
  exact ((((digitsAnd_padded 2 _).append hcolon).append (digitsAnd_padded 2 _)).append
    hcolon).append (digitsAnd_padded 2 _)

namespace Timestamp

theorem digitsAnd_zoneText (offset : Int) : DigitsAnd ['-', '+', ':'] (zoneText offset) := by
  have hsign : DigitsAnd ['-', '+', ':'] (if offset < 0 then "-" else "+") := by
    split_ifs <;> decide
  have hcolon : DigitsAnd ['-', '+', ':'] ":" := by decide
  exact ((hsign.append (digitsAnd_padded 2 _)).append hcolon).append (digitsAnd_padded 2 _)

/-- What the text of a timestamp has besides digits. -/
def textMarks : List Char :=
  ['-', '+', ':', 'T', '.', 'u', 's', 'm']

theorem digitsAnd_text (t : Timestamp) : DigitsAnd textMarks t.text := by
  unfold text
  split
  · next instant w _ _ =>
    have hdate : DigitsAnd textMarks w.date.text := w.date.digitsAnd_text.mono (by decide)
    have hclock : DigitsAnd textMarks w.time.clockText :=
      w.time.digitsAnd_clockText.mono (by decide)
    have hzone : DigitsAnd textMarks (zoneText t.offset.toInt) :=
      (digitsAnd_zoneText t.offset.toInt).mono (by decide)
    have hT : DigitsAnd textMarks "T" := by decide
    have hpoint : DigitsAnd textMarks "." := by decide
    exact ((((hdate.append hT).append hclock).append hpoint).append
      (digitsAnd_padded 6 _)).append hzone
  · have hoffset : DigitsAnd textMarks (signed t.offset.toInt) :=
      (digitsAnd_signed t.offset.toInt).mono (by decide)
    have hus : DigitsAnd textMarks "us" := by decide
    have hm : DigitsAnd textMarks "m" := by decide
    exact (((digitsAnd_nat _).append hus).append hoffset).append hm

end Timestamp

/-! ## Labels -/

open Line (Bare)

theorem Component.plain_label (c : Component) : Plain c.label := by
  cases c <;> decide

theorem Component.bare_label (c : Component) : Bare c.label := by
  cases c <;> decide

/-- The names of statuses in all vocabularies. -/
def Component.statusLabels : List String :=
  ["Unknown", "ConnectionUp", "Started", "ConnectionDown", "Terminated", "InvalidOptions", "Failure",
    "StreamsActivated", "Success", "Opened", "Closed", "Info", "Warning", "Error"]

theorem Component.statusLabel_mem (c : Component) (status : UInt8) :
    c.statusLabel status ∈ statusLabels := by
  cases c with
  | session =>
    rw [statusLabel]
    cases SessionStatus.ofCode status <;> decide
  | subscription =>
    rw [statusLabel]
    cases SubscriptionStatus.ofCode status <;> decide
  | service =>
    rw [statusLabel]
    cases ServiceStatus.ofCode status <;> decide
  | system | heartbeat =>
    rw [statusLabel]
    cases SystemStatus.ofCode status <;> decide
  | unknown =>
    rw [statusLabel]
    decide

theorem Component.plain_statusLabel (c : Component) (status : UInt8) :
    Plain (c.statusLabel status) := by
  have hplain : ∀ label ∈ statusLabels, Plain label := by decide
  exact hplain _ (c.statusLabel_mem status)

theorem Component.bare_statusLabel (c : Component) (status : UInt8) :
    Bare (c.statusLabel status) := by
  have hbare : ∀ label ∈ statusLabels, Bare label := by decide
  exact hbare _ (c.statusLabel_mem status)

theorem EventKind.bare_label (k : EventKind) : Bare k.label := by
  cases k <;> decide

theorem EventSubkind.bare_label (k : EventSubkind) : Bare k.label := by
  cases k <;> decide

theorem ReleaseStatus.bare_label (s : ReleaseStatus) : Bare s.label := by
  cases s <;> decide

/-! ## Attributes -/

/-- If the value is a label, it is bare. -/
def AttributeValue.LabelBare : AttributeValue → Prop
  | .label value => Bare value
  | .text _ | .number _ | .id _ | .reading _ | .time _ | .interval _ | .measurement _ => True

/-- The key of an attribute is bare, and so is its label if it has one. -/
structure Attribute.Tame (a : Attribute) : Prop where
  key : Bare a.key
  label : a.value.LabelBare

theorem Attribute.Tame.of {key : String} {value : AttributeValue} (hkey : Bare key)
    (hvalue : value.LabelBare) : Attribute.Tame ⟨key, value⟩ :=
  ⟨hkey, hvalue⟩

theorem Headline.tame_attributes (h : Headline) : ∀ a ∈ h.attributes, a.Tame := by
  simp only [attributes, List.forall_mem_cons]
  refine ⟨?_, ?_, ?_, .of (by decide) h.kind.bare_label,
    .of (by decide) h.subkind.bare_label, ?_, ?_, ?_, nofun⟩
  all_goals exact .of (by decide) trivial

/-- Keys are fixed, and labels come from the vocabularies. -/
theorem Record.tame_attributes (r : Record) : ∀ a ∈ r.attributes, a.Tame := by
  cases r with
  | economic e =>
    simp only [attributes, List.forall_mem_append, List.forall_mem_cons]
    refine ⟨e.headline.tame_attributes, ?_, ?_, ?_, ?_, ?_, nofun⟩
    all_goals exact .of (by decide) trivial
  | calendar e =>
    simp only [attributes, List.forall_mem_append, List.forall_mem_cons]
    exact ⟨e.headline.tame_attributes, .of (by decide) e.status.bare_label, nofun⟩
  | log r =>
    simp only [attributes, List.forall_mem_cons]
    refine ⟨?_, .of (by decide) r.component.bare_label, ?_,
      .of (by decide) (r.component.bare_statusLabel r.status), ?_, ?_, nofun⟩
    all_goals exact .of (by decide) trivial
  | reference d =>
    simp only [attributes, List.forall_mem_cons]
    refine ⟨?_, ?_, ?_, ?_, ?_, ?_, ?_, ?_, ?_, nofun⟩
    all_goals exact .of (by decide) trivial
  | seriesHeadline e =>
    simp only [attributes, List.forall_mem_cons]
    refine ⟨?_, .of (by decide) e.kind.bare_label, .of (by decide) e.subkind.bare_label,
      ?_, ?_, ?_, ?_, ?_, ?_, ?_, nofun⟩
    all_goals exact .of (by decide) trivial
  | seriesEntry e =>
    simp only [attributes, List.forall_mem_cons]
    refine ⟨?_, ?_, ?_, .of (by decide) e.kind.bare_label,
      .of (by decide) e.subkind.bare_label, ?_, ?_, ?_, ?_,
      .of (by decide) e.status.bare_label, ?_, nofun⟩
    all_goals exact .of (by decide) trivial

theorem Measurement.tame_attributes (m : Measurement) : ∀ a ∈ m.attributes, a.Tame := by
  simp only [attributes, List.forall_mem_cons]
  refine ⟨?_, ?_, ?_, ?_, ?_, ?_, ?_, nofun⟩
  all_goals exact .of (by decide) trivial

/-! ## Pairs -/

namespace Line

/-- A text that is put on a line as it is. -/
theorem Value.bare_of_not_any {s : String} (h : ¬ s.toList.any needsQuotes = true) : Bare s := by
  intro c hc
  by_contra hneeds
  exact h (List.any_eq_true.mpr ⟨c, hc, Bool.not_eq_false _ ▸ hneeds⟩)

theorem Value.oneLine_written_text (s : String) : OneLine (Value.text s).written := by
  rw [written]
  by_cases hquotes : s.toList.any needsQuotes = true
  · rw [if_pos hquotes]
    exact (noControl_quoted s).oneLine
  · rw [if_neg hquotes]
    exact (bare_of_not_any hquotes).oneLine

/-- A value that is not a text of the feed is bare. -/
def Value.Tame : Value → Prop
  | plain s => Bare s
  | text _ => True

theorem Value.Tame.oneLine {v : Value} (h : v.Tame) : OneLine v.written := by
  cases v with
  | plain s => exact Bare.oneLine h
  | text s => exact oneLine_written_text s

/-- The key of a pair is bare, and so is its value if it is not a text of the feed. -/
structure Pair.Tame (p : Pair) : Prop where
  key : Bare p.key
  value : p.value.Tame

theorem tame_single {key : String} (hkey : Bare key) {value : AttributeValue}
    (hvalue : value.LabelBare) : ∀ p ∈ single key value, p.Tame := by
  cases value with
  | text value =>
    rw [single]
    split_ifs
    · nofun
    · exact List.forall_mem_singleton.mpr ⟨hkey, trivial⟩
  | label value => exact List.forall_mem_singleton.mpr ⟨hkey, hvalue⟩
  | number value => exact List.forall_mem_singleton.mpr ⟨hkey, bare_nat value⟩
  | id value => exact List.forall_mem_singleton.mpr ⟨hkey, bare_nat value.toNat⟩
  | reading value =>
    rw [single]
    split_ifs
    · nofun
    · exact List.forall_mem_singleton.mpr
        ⟨hkey, bare_of_digitsAnd (Number.digitsAnd_text value) (by decide)⟩
  | time value =>
    rw [single]
    split_ifs
    · nofun
    · exact List.forall_mem_singleton.mpr
        ⟨hkey, bare_of_digitsAnd value.digitsAnd_text (by decide)⟩
  | interval | measurement => nofun

theorem tame_pairsOf {a : Attribute} (h : a.Tame) : ∀ p ∈ pairsOf a, p.Tame := by
  obtain ⟨key, value⟩ := a
  obtain ⟨hkey, hlabel⟩ := h
  cases value with
  | interval i =>
    simp only [pairsOf]
    split_ifs
    · exact tame_single hkey trivial
    · refine List.forall_mem_append.mpr ⟨?_, ?_⟩
      · exact tame_single (hkey.append (by decide)) trivial
      · exact tame_single (hkey.append (by decide)) trivial
  | measurement m =>
    simp only [pairsOf]
    split_ifs
    · nofun
    · intro p hp
      obtain ⟨part, hpart, hmem⟩ := List.mem_flatMap.mp hp
      have htame := m.tame_attributes part hpart
      have hdot : Bare "." := by decide
      exact tame_single ((hkey.append hdot).append htame.key) htame.label p hmem
  | text | label | number | id | reading | time => exact tame_single hkey hlabel

/-- Every pair that stands for something in a record is tame. -/
theorem tame_pairs (r : Record) : ∀ p ∈ r.attributes.flatMap pairsOf, p.Tame := by
  intro p hp
  obtain ⟨a, ha, hmem⟩ := List.mem_flatMap.mp hp
  exact tame_pairsOf (r.tame_attributes a ha) p hmem

/-! ## Lines -/

/-- A pair as it stands on a line. -/
def Pair.text (pair : Pair) : String :=
  " " ++ pair.key ++ "=" ++ pair.value.written

theorem Pair.Tame.oneLine {pair : Pair} (h : pair.Tame) : OneLine pair.text := by
  have hspace : OneLine " " := by decide
  have hequals : OneLine "=" := by decide
  exact ((hspace.append h.key.oneLine).append hequals).append h.value.oneLine

theorem ofPairs_eq (stamp : String) (pairs : List Pair) :
    ofPairs stamp pairs = stamp ++ String.join (pairs.map Pair.text) := by
  induction pairs generalizing stamp with
  | nil => exact (String.append_empty).symm
  | cons pair rest ih =>
    rw [List.map_cons, String.join_cons, ← String.append_assoc, Pair.text, ← String.append_assoc,
      ← String.append_assoc, ← String.append_assoc, ← ih]
    rfl

theorem oneLine_join {texts : List String} (h : ∀ s ∈ texts, OneLine s) :
    OneLine (String.join texts) := by
  induction texts with
  | nil => exact fun c hc => nomatch hc
  | cons s rest ih =>
    rw [String.join_cons]
    exact (h s List.mem_cons_self).append (ih fun t ht => h t (List.mem_cons_of_mem _ ht))

theorem oneLine_ofPairs {stamp : String} {pairs : List Pair} (hstamp : OneLine stamp)
    (hpairs : ∀ pair ∈ pairs, pair.Tame) : OneLine (ofPairs stamp pairs) := by
  rw [ofPairs_eq]
  refine hstamp.append (oneLine_join fun s hs => ?_)
  obtain ⟨pair, hpair, rfl⟩ := List.mem_map.mp hs
  exact (hpairs pair hpair).oneLine

/-- What a stamp has besides digits. -/
def stampMarks : List Char :=
  ['-', '+', 'T', ':', '.', 'Z']

theorem digitsAnd_stamp (now : WallClock) : DigitsAnd stampMarks (stamp now) := by
  have hdate : DigitsAnd stampMarks now.date.text := now.date.digitsAnd_text.mono (by decide)
  have hclock : DigitsAnd stampMarks now.time.clockText :=
    now.time.digitsAnd_clockText.mono (by decide)
  have hT : DigitsAnd stampMarks "T" := by decide
  have hpoint : DigitsAnd stampMarks "." := by decide
  have hZ : DigitsAnd stampMarks "Z" := by decide
  exact ((((hdate.append hT).append hclock).append hpoint).append (digitsAnd_padded 3 _)).append hZ

theorem plain_logTime (t : Timestamp) : Plain (logTime t) := by
  unfold logTime
  split
  · next w _ =>
    have hspace : Plain " " := by decide
    exact ((plain_of_digitsAnd w.date.digitsAnd_text (by decide)).append hspace).append
      (plain_of_digitsAnd w.time.digitsAnd_clockText (by decide))
  · exact plain_nat _

/-- The part of a log line that tells the subscription. -/
def correlationPart (r : LogRecord) : String :=
  "CorrelationID(" ++ toString r.correlationId.toNat ++ ")"

theorem plain_correlationPart (r : LogRecord) : Plain (correlationPart r) := by
  have hopen : Plain "CorrelationID(" := by decide
  have hclose : Plain ")" := by decide
  exact (hopen.append (plain_nat _)).append hclose

/-- The line of a log record is its five parts with bars between them. -/
theorem toList_ofLog (r : LogRecord) : (ofLog r).toList =
    (logTime r.timestamp).toList ++ '|' :: (r.component.label.toList ++ '|' ::
      (r.statusLabel.toList ++ '|' :: ((correlationPart r).toList ++ '|' ::
        (onOneLine r.message).toList))) := by
  have hopen : "|CorrelationID(".toList = '|' :: "CorrelationID(".toList := by decide
  have hclose : ")|".toList = ")".toList ++ ['|'] := by decide
  have hbar : "|".toList = ['|'] := by decide
  simp only [ofLog, correlationPart, String.toList_append, hopen, hclose, hbar, List.append_assoc,
    List.cons_append, List.nil_append]

theorem noControl_ofLog (r : LogRecord) : NoControl (ofLog r) := by
  have hbar : isControl '|' = false := by decide
  rw [NoControl, toList_ofLog]
  simp only [List.forall_mem_append, List.forall_mem_cons]
  exact ⟨(plain_logTime _).noControl, hbar, r.component.plain_label.noControl, hbar,
    (r.component.plain_statusLabel r.status).noControl, hbar, (plain_correlationPart r).noControl,
    hbar, noControl_onOneLine r.message⟩

theorem bare_name (type : RecordType) : Bare type.name := by
  cases type <;> decide

/-- The first pair on the line of a record. -/
def typePair (r : Record) : Pair :=
  ⟨"type", .plain r.type.name⟩

theorem tame_typePair (r : Record) : (typePair r).Tame := by
  have hkey : Bare "type" := by decide
  exact ⟨hkey, bare_name r.type⟩

/-- A record that is no log record has its type on the line, and then its attributes. -/
theorem ofRecord_eq (now : WallClock) {r : Record} (h : r.type ≠ .log) :
    ofRecord now r = ofPairs (stamp now) (typePair r :: r.attributes.flatMap pairsOf) := by
  cases r with
  | log => exact absurd rfl h
  | economic | calendar | reference | seriesHeadline | seriesEntry => rfl

/-- The line of a record stays on one line, whatever texts the record has. -/
theorem oneLine_ofRecord (now : WallClock) (r : Record) : OneLine (ofRecord now r) := by
  by_cases hlog : r.type = .log
  · cases r with
    | log record => exact (noControl_ofLog record).oneLine
    | economic | calendar | reference | seriesHeadline | seriesEntry => cases hlog
  rw [ofRecord_eq now hlog]
  refine oneLine_ofPairs ((digitsAnd_stamp now).oneLine (by decide)) fun pair hpair => ?_
  rcases List.mem_cons.mp hpair with rfl | hpair
  · exact tame_typePair r
  · exact tame_pairs r pair hpair

/-! ## Kinds of lines -/

/-- After the stamp the line of a record has the type. -/
theorem exists_ofRecord_eq (now : WallClock) {r : Record} (h : r.type ≠ .log) :
    ∃ rest, ofRecord now r = stamp now ++ " type=" ++ r.type.name ++ rest := by
  refine ⟨String.join ((r.attributes.flatMap pairsOf).map Pair.text), ?_⟩
  have hkey : (" " ++ "type" ++ "=" : String) = " type=" := by decide
  rw [ofRecord_eq now h, ofPairs_eq, List.map_cons, String.join_cons, ← String.append_assoc,
    Pair.text, typePair, hkey, Value.written, ← String.append_assoc]

/-- A stamp has no space, so the first space of a line is the one before its first key. -/
theorem dropWhile_ofPairs (now : WallClock) (pair : Pair) (rest : List Pair) :
    (ofPairs (stamp now) (pair :: rest)).toList.dropWhile (· ≠ ' ') =
      ' ' :: (pair.key.toList ++
        ("=" ++ pair.value.written ++ String.join (rest.map Pair.text)).toList) := by
  have hstamp : ∀ c ∈ (stamp now).toList, decide (c ≠ ' ') = true := by
    intro c hc
    have hspace : (c == ' ') = false := by
      refine (digitsAnd_stamp now).lacks (p := (· == ' ')) (fun c hdigit => ?_) (by decide) c hc
      rw [beq_eq_false_iff_ne]
      rintro rfl
      cases hdigit
    exact decide_eq_true (beq_eq_false_iff_ne.mp hspace)
  have hline : (ofPairs (stamp now) (pair :: rest)).toList = (stamp now).toList ++
      ' ' :: (pair.key.toList ++
        ("=" ++ pair.value.written ++ String.join (rest.map Pair.text)).toList) := by
    rw [ofPairs_eq, List.map_cons, String.join_cons, Pair.text]
    simp only [String.toList_append, List.append_assoc]
    rfl
  rw [hline, List.dropWhile_append_of_pos hstamp, List.dropWhile_cons_of_neg (by decide)]

/-- Lines with different letters at the start of their first keys are different. -/
theorem ofPairs_ne {now now' : WallClock} {pair pair' : Pair} {rest rest' : List Pair}
    {c c' : Char} {cs cs' : List Char} (hkey : pair.key.toList = c :: cs)
    (hkey' : pair'.key.toList = c' :: cs') (hne : c ≠ c') :
    ofPairs (stamp now) (pair :: rest) ≠ ofPairs (stamp now') (pair' :: rest') := by
  intro hsame
  have hafter := congrArg (fun line : String => line.toList.dropWhile (· ≠ ' ')) hsame
  rw [dropWhile_ofPairs, dropWhile_ofPairs, hkey, hkey'] at hafter
  injection hafter with _ hkeys
  injection hkeys with hletter
  exact hne hletter

/-- What can end the first part of a line: the `T` of a stamp, or a space or a bar. -/
def endsPart (c : Char) : Bool :=
  c = ' ' || c = '|' || c = 'T'

theorem find?_append {marks : List Char} {s : String} (h : DigitsAnd marks s)
    (hmarks : marks.any endsPart = false) (t : String) :
    (s ++ t).toList.find? endsPart = t.toList.find? endsPart := by
  have hnone : s.toList.find? endsPart = none := by
    refine List.find?_eq_none.mpr fun c hc => ?_
    rw [Bool.not_eq_true]
    refine h.lacks (fun c hdigit => ?_) hmarks c hc
    simp only [endsPart, Bool.or_eq_false_iff, decide_eq_false_iff_not]
    exact ⟨⟨ne_of_isDigit hdigit rfl, ne_of_isDigit hdigit rfl⟩, ne_of_isDigit hdigit rfl⟩
  rw [String.toList_append, List.find?_append, hnone, Option.none_or]

theorem find?_ofPairs (now : WallClock) (pairs : List Pair) :
    (ofPairs (stamp now) pairs).toList.find? endsPart = some 'T' := by
  rw [ofPairs_eq, stamp]
  simp only [String.append_assoc]
  rw [find?_append now.date.digitsAnd_text (by decide), String.toList_append]
  rfl

theorem find?_ofLog (r : LogRecord) : (ofLog r).toList.find? endsPart ≠ some 'T' := by
  rw [ofLog, logTime]
  simp only [String.append_assoc]
  split
  · next w _ =>
    rw [String.append_assoc, find?_append w.date.digitsAnd_text (by decide), String.append_assoc,
      String.toList_append]
    nofun
  · rw [find?_append (digitsAnd_nat _ : DigitsAnd [] _) rfl, String.toList_append]
    nofun

/-- The line of a record is never the line of a buffer that holds none. -/
theorem ofRecord_ne_ofError (now now' : WallClock) (r : Record) (e : Wire.Error) (size : Nat) :
    ofRecord now r ≠ ofError now' e size := by
  by_cases hlog : r.type = .log
  · cases r with
    | log record =>
      intro hsame
      have hfind := find?_ofLog record
      rw [show ofLog record = _ from hsame, ofError, find?_ofPairs] at hfind
      exact hfind rfl
    | economic | calendar | reference | seriesHeadline | seriesEntry => cases hlog
  · have htype : "type".toList = ['t', 'y', 'p', 'e'] := by decide
    have herror : "error".toList = ['e', 'r', 'r', 'o', 'r'] := by decide
    rw [ofRecord_eq now hlog, ofError]
    exact ofPairs_ne htype herror (by decide)

end Line

end ReleaseFeed
