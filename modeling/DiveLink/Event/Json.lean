import DiveLink.Event
import DiveLink.Json.Schema

/-!
# Fingerprints, clocks and events in JSON

A fingerprint is the number of its timestamp. A pair of clocks is a record. An event is an object of
two members: `event` names its topic and `data` is the record that belongs to the topic. The members
may come in either order, and a list of both will do as well.

1. `Fingerprint.jsonText` prints a fingerprint, `Fingerprint.readJson` reads one.
2. `Event.Topic` are the topics of events with the schema of each.
3. `Event.text` prints an event, `Event.read` reads one.
-/

namespace DiveLink

open Json

/-! ## §1 Fingerprints and clocks -/

namespace Fingerprint

/-- The JSON value of a fingerprint. -/
def toTree (fingerprint : Fingerprint) : Tree := Kind.word.toTree fingerprint.timestamp

/-- The JSON of a fingerprint, on one line or indented. -/
def jsonText (pretty : Bool) (fingerprint : Fingerprint) : String := fingerprint.toTree.text pretty

/-- Reads a fingerprint at the front of a text. -/
def readFront (text : List Char) : Except Failure (Front Fingerprint) := do
  let (timestamp, rest) ← Kind.word.read text
  return (⟨timestamp⟩, rest)

/-- Reads a text that is a fingerprint. -/
def readJson (text : String) : Except Failure Fingerprint := whole readFront text

end Fingerprint

instance : Record ClockCalibration where
  schema := ⟨"ClockCalibration", [⟨"devtime", .word, none⟩, ⟨"systime", .instant, none⟩]⟩
  toRow clock := (clock.devtime, clock.systime, ())
  ofRow row := ⟨row.1, row.2.1⟩
  ofRow_toRow _ := rfl

namespace Event

/-! ## §2 Topics of events -/

/-- The topics of events. -/
inductive Topic where
  | progress
  | clock
  | devinfo
  deriving DecidableEq, Repr

namespace Topic

def name : Topic → String
  | progress => "Progress"
  | clock => "Clock"
  | devinfo => "DevInfo"

def all : List Topic := [progress, clock, devinfo]

/-- The record that belongs to a topic. -/
def schema : Topic → Schema
  | progress => ⟨"Progress", [⟨"current", .word, none⟩, ⟨"maximum", .word, none⟩]⟩
  | clock => ⟨"ClockEvent", [⟨"systime", .instant, none⟩, ⟨"devtime", .word, none⟩]⟩
  | devinfo =>
    ⟨"DeviceInfo",
      [⟨"model", .word, none⟩, ⟨"firmware", .word, none⟩, ⟨"serial", .word, none⟩]⟩

/-- The topic of a name. -/
def ofName (name : String) : Except Complaint Topic :=
  match all.find? (·.name == name) with
  | some topic => .ok topic
  | none => .error (.unknownVariant name (all.map Topic.name))

/-- The event of a topic that a row tells. -/
def event : (topic : Topic) → Row topic.schema.fields → Event
  | progress, (row : UInt32 × UInt32 × Unit) => .progress ⟨row.1, row.2.1⟩
  | clock, (row : Instant × UInt32 × Unit) => .clock ⟨row.2.1, row.1⟩
  | devinfo, (row : UInt32 × UInt32 × UInt32 × Unit) => .devinfo ⟨row.1, row.2.1, row.2.2.1⟩

end Topic

def topic : Event → Topic
  | progress _ => .progress
  | clock _ => .clock
  | devinfo _ => .devinfo

/-- The row that tells an event. -/
def row : (event : Event) → Row event.topic.schema.fields
  | progress p => ((p.current, p.maximum, ()) : UInt32 × UInt32 × Unit)
  | clock c => ((c.systime, c.devtime, ()) : Instant × UInt32 × Unit)
  | devinfo i => ((i.model, i.firmware, i.serial, ()) : UInt32 × UInt32 × UInt32 × Unit)

/-! ## §3 Printing -/

/-- The JSON value of an event. -/
def toTree (event : Event) : Tree :=
  .object [("event", .string event.topic.name), ("data", .object (Row.members _ event.row))]

/-- The text of an event, on one line or indented. -/
def text (pretty : Bool) (event : Event) : String := event.toTree.text pretty

/-! ## §4 Reading -/

/-- The two keys of an event. -/
inductive Key where
  | topic
  | data
  deriving DecidableEq, Repr

def Key.name : Key → String
  | topic => "event"
  | data => "data"

/-- One key of an object, if another comes; other keys are passed over with their values. -/
def keyStep (state : Bool × Option Key) (text : List Char) :
    Except Failure (Front ((Bool × Option Key) × Bool)) := do
  match ← nextKey state.1 text with
  | (none, rest) => return ((state, false), rest)
  | (some key, rest) =>
    if key = Key.topic.name then return (((false, some .topic), false), rest)
    else if key = Key.data.name then return (((false, some .data), false), rest)
    else do return (((false, none), true), ← skipValue (← colon rest))

/-- The next of the two keys, if one comes. -/
def nextOwnKey (first : Bool) (text : List Char) : Except Failure (Front (Option Key)) := do
  let ((_, key), rest) ← loop keyStep (first, none) text
  return (key, rest)

/-- Reads the topic of an event. -/
def readTopic (text : List Char) : Except Failure (Front Topic) :=
  nameAs Topic.ofName text

/-- Reads the data of an event. -/
def readData (topic : Topic) (text : List Char) : Except Failure (Front Event) := do
  let (row, rest) ← topic.schema.read text
  return (topic.event row, rest)

/-- Topic and data in the text of an object. Data that come first are kept until the topic is
known. -/
def readBoth (text : List Char) : Except Failure (Front Event) := do
  match ← nextOwnKey true text with
  | (none, rest) => throw (.loose (.missing Key.topic.name) rest)
  | (some .topic, rest) => do
    let (topic, rest) ← readTopic (← colon rest)
    match ← nextOwnKey false rest with
    | (none, rest) => throw (.loose (.missing Key.data.name) rest)
    | (some .topic, rest) => throw (.loose (.duplicate Key.topic.name) rest)
    | (some .data, rest) => readData topic (← colon rest)
  | (some .data, rest) => do
    let (value, rest) ← tree (depthLimit - 1) (← colon rest)
    match ← nextOwnKey false rest with
    | (none, rest) => throw (.loose (.missing Key.topic.name) rest)
    | (some .data, rest) => throw (.loose (.duplicate Key.data.name) rest)
    | (some .topic, rest) => do
      let (topic, rest) ← readTopic (← colon rest)
      match topic.schema.ofTree value with
      | .ok row => return (topic.event row, rest)
      | .error complaint => throw (.loose complaint rest)

/-- Topic and data in the text of an object, and no second time. -/
def readMembers (text : List Char) : Except Failure (Front Event) := do
  let (event, rest) ← readBoth text
  match ← nextOwnKey false rest with
  | (none, rest) => return (event, rest)
  | (some key, rest) => throw (.loose (.duplicate key.name) rest)

/-- What a complaint says is wanted. -/
def wanted : String := "adjacently tagged enum DeviceEvent"

/-- Topic and data in the text of a list. Here the topic has to be a string. -/
def readItems (text : List Char) : Except Failure (Front Event) := do
  match ← nextItem true text with
  | (false, rest) => throw (.loose (.wrongLength 0 wanted) rest)
  | (true, rest) => do
    let (topic, rest) ← stringAs "variant identifier" Topic.ofName rest
    match ← nextItem false rest with
    | (false, rest) => throw (.loose (.wrongLength 1 wanted) rest)
    | (true, rest) => readData topic rest

/-- Reads an event at the front of a text. -/
def readFront (text : List Char) : Except Failure (Front Event) :=
  match afterGap text with
  | [] => .error (.next .openValue [])
  | '\x7b' :: rest => closed endObject (readMembers rest)
  | '[' :: rest => closed endList (readItems rest)
  | text => .error (wrongTypeAt wanted text)

/-- Reads a text that is an event. -/
def read (text : String) : Except Failure Event := whole readFront text

end Event

end DiveLink
