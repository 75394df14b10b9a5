import DiveLink.DumpMetadata
import DiveLink.Event.Json
import DiveLink.Proofs.Records
import DiveLink.Settings

/-!
# Everything that is written as JSON is read back

1. Settings, what is kept beside a dump and pairs of clocks are records, so `Record.read_text` holds
   for them.
2. An event is an object of its topic and its data. The reader finds the topic first and reads the
   data as that topic has them: `Event.read_text`.
3. A fingerprint is a bare number: `Fingerprint.readJson_jsonText`.
4. `json_survives` says so for all of them and for both prints.
-/

namespace DiveLink

open Json

/-! ## §1 Records -/

theorem Settings.read_text (pretty : Bool) (settings : Settings) :
    Record.read (Record.text pretty settings) = .ok settings :=
  Record.read_text (by decide) (by decide) pretty settings

theorem DumpMetadata.read_text (pretty : Bool) (data : DumpMetadata) :
    Record.read (Record.text pretty data) = .ok data :=
  Record.read_text (by decide) (by decide) pretty data

theorem ClockCalibration.read_text (pretty : Bool) (clock : ClockCalibration) :
    Record.read (Record.text pretty clock) = .ok clock :=
  Record.read_text (by decide) (by decide) pretty clock

/-! ## §2 Events -/

namespace Event

theorem topic_event_row (event : Event) : event.topic.event event.row = event := by
  cases event <;> rfl

theorem ofName_name (topic : Topic) : Topic.ofName topic.name = .ok topic := by
  cases topic <;> rfl

/-- The reader stops at one of its own keys. -/
theorem nextOwnKey_member (first : Bool) {gap : List Char} (hgap : IsGap gap) (key : Key)
    (rest : List Char) :
    nextOwnKey first (Tree.separator first ++ (gap ++ (quoted key.name ++ rest))) =
      .ok (some key, rest) := by
  have hstep : keyStep (first, none) (Tree.separator first ++ (gap ++ (quoted key.name ++ rest))) =
      .ok (((false, some key), false), rest) := by
    -- both keys are its own, so none is passed over
    rw [keyStep, nextKey_member first hgap, ok_bind]
    cases key <;> rfl
  rw [nextOwnKey, loop_of_runs (.stop hstep)]
  rfl

/-- Behind the last member the reader finds no key. -/
theorem nextOwnKey_end (first : Bool) {gap : List Char} (hgap : IsGap gap) (rest : List Char) :
    nextOwnKey first (gap ++ '\x7d' :: rest) = .ok (none, '\x7d' :: rest) := by
  have hstep : keyStep (first, none) (gap ++ '\x7d' :: rest) =
      .ok (((first, none), false), '\x7d' :: rest) := by
    rw [keyStep, nextKey_end first hgap, ok_bind]
    rfl
  rw [nextOwnKey, loop_of_runs (.stop hstep)]
  rfl

theorem readTopic_quoted {gap : List Char} (hgap : IsGap gap) (topic : Topic) (rest : List Char) :
    readTopic (gap ++ (quoted topic.name ++ rest)) = .ok (topic, rest) :=
  nameAs_quoted hgap (ofName_name topic) rest

theorem Topic.nodup_names (topic : Topic) : (topic.schema.fields.map Field.name).Nodup := by
  cases topic <;> decide

theorem Topic.fields_ne_nil (topic : Topic) : topic.schema.fields ≠ [] := by
  cases topic <;> exact List.cons_ne_nil _ _

theorem readData_laid {gap : List Char} (hgap : IsGap gap) (event : Event) (pretty : Bool)
    (level : Nat) (rest : List Char) :
    readData event.topic
        (gap ++ (Tree.laid pretty level (.object (Row.members _ event.row)) ++ rest)) =
      .ok (event, rest) := by
  have hread := event.topic.schema.read_laid event.row event.topic.nodup_names
    event.topic.fields_ne_nil pretty level hgap rest
  rw [readData, hread, ok_bind]
  exact congrArg (fun event => Except.ok (event, rest)) event.topic_event_row

/-- Topic and data are read one after the other, up to the closing brace. -/
theorem readMembers_laid (pretty : Bool) (event : Event) (rest : List Char) :
    readMembers (Tree.laidMembers pretty 1 true
        [(Key.topic.name, .string event.topic.name),
          (Key.data.name, .object (Row.members _ event.row))] ++
        (Tree.lineGap pretty 0 ++ '\x7d' :: rest)) =
      .ok (event, '\x7d' :: rest) := by
  have hkeys := Tree.isGap_lineGap pretty 1
  have hvalues := Tree.isGap_valueGap pretty
  simp only [Tree.laidMembers, Tree.laid_string, List.append_assoc, List.cons_append,
    List.nil_append]
  -- the topic comes first, so the data are never read before it is known
  simp only [readMembers, readBoth, nextOwnKey_member _ hkeys, ok_bind, colon_cons,
    readTopic_quoted hvalues, readData_laid hvalues,
    nextOwnKey_end _ (Tree.isGap_lineGap pretty 0)]
  rfl

/-- **An event is read as it was printed.** -/
theorem read_text (pretty : Bool) (event : Event) : Event.read (event.text pretty) = .ok event := by
  have hlaid : Tree.laid pretty 0 event.toTree = '\x7b' :: (Tree.laidMembers pretty 1 true
      [(Key.topic.name, .string event.topic.name),
        (Key.data.name, .object (Row.members _ event.row))] ++
      (Tree.lineGap pretty 0 ++ ['\x7d'])) :=
    Tree.laid_object pretty 0 (List.cons_ne_nil _ _)
  have hbrace (text : List Char) : afterGap ('\x7b' :: text) = '\x7b' :: text := rfl
  rw [Event.read, whole, Event.text, Tree.text, String.toList_ofList]
  change (readFront (Tree.laid pretty 0 event.toTree) >>= _) = _
  rw [hlaid, readFront, hbrace]
  simp only [readMembers_laid, closed_endObject, ok_bind]
  rfl

end Event

/-! ## §3 Fingerprints -/

/-- **A fingerprint is read as it was printed.** -/
theorem Fingerprint.readJson_jsonText (pretty : Bool) (fingerprint : Fingerprint) :
    Fingerprint.readJson (fingerprint.jsonText pretty) = .ok fingerprint := by
  have hread := Kind.word.read_laid fingerprint.timestamp pretty 0 isGap_nil follows_nil
  rw [List.nil_append, List.append_nil] at hread
  rw [readJson, whole, jsonText, Tree.text, String.toList_ofList]
  change (readFront (Tree.laid pretty 0 (Kind.word.toTree fingerprint.timestamp)) >>= _) = _
  rw [readFront, hread]
  rfl

/-! ## §4 Everything -/

/-- **Whatever is written as JSON is read back**, on one line or indented: settings with any texts,
what is kept beside a dump, pairs of clocks and events with any words and any instant, and
fingerprints. -/
theorem json_survives (pretty : Bool) :
    (∀ settings : Settings, Record.read (Record.text pretty settings) = .ok settings) ∧
      (∀ data : DumpMetadata, Record.read (Record.text pretty data) = .ok data) ∧
      (∀ clock : ClockCalibration, Record.read (Record.text pretty clock) = .ok clock) ∧
      (∀ event : Event, Event.read (event.text pretty) = .ok event) ∧
      ∀ fingerprint : Fingerprint,
        Fingerprint.readJson (fingerprint.jsonText pretty) = .ok fingerprint :=
  ⟨Settings.read_text pretty, DumpMetadata.read_text pretty, ClockCalibration.read_text pretty,
    Event.read_text pretty, Fingerprint.readJson_jsonText pretty⟩

end DiveLink
