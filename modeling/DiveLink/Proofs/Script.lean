import DiveLink.Proofs.Ending
import DiveLink.Proofs.Reassembly

/-!
# The script of a dump

Every dump goes by one script: which events it tells, which commands it sends, and in which order.
It plays the script to its end, or up to the first act that fails.

1. `Act` is what a dump does. `Plays` is a row of acts over a link, with the events told on the way.
2. `script` is the row of acts of a dump, `dump_plays` says that every dump plays it.
3. `eventsOf` and `packetsOf` are what a row of acts tells and writes. `eventsFor` and `packetsFor`
   are what a dump tells and writes that comes to its end.
4. `Answers.progress` never goes back, never passes the maximum and comes to it last.
5. `dump_script` is what this says about the events and packets of a dump, and about its progress.
-/

namespace DiveLink

namespace Session

/-! ## §1 Acts -/

/-- What a dump does. -/
inductive Act where
  | tell (event : Event)
  /-- A command goes out, and so many bytes come in for it: this answer. -/
  | ask (command : Bytes) (size : Nat) (answer : Bytes)
  /-- The announced size is compared with the one that is due. -/
  | compare (due announced : Nat)
  /-- Reports bring so many bytes. -/
  | collect (size : Nat)

/-- A link between two acts, and the events that were told so far. -/
structure Stage (σ : Type) where
  link : σ
  events : List Event

def Stage.told {σ : Type} (stage : Stage σ) (event : Event) : Stage σ :=
  ⟨stage.link, stage.events ++ [event]⟩

section

variable {σ : Type} [ReportLink σ]

/-- The link and the events of a session. -/
def stage (session : Session σ) : Stage σ := ⟨session.link, session.log.events⟩

/-- An act that succeeds. -/
inductive Does : Stage σ → Act → Stage σ → Prop where
  | tell (stage : Stage σ) (event : Event) : Does stage (.tell event) (stage.told event)
  | ask {stage : Stage σ} {rest : σ} {command answer : Bytes} {size : Nat} :
      Answered stage.link command size answer rest →
      Does stage (.ask command size answer) ⟨rest, stage.events⟩
  | compare (stage : Stage σ) {due announced : Nat} : announced = due →
      Does stage (.compare due announced) stage
  | collect {stage : Stage σ} {rest : σ} {size : Nat} {payloads : List Bytes} :
      Gathers stage.link size payloads rest → Does stage (.collect size) ⟨rest, stage.events⟩

/-- An act that fails. To tell an event never does. -/
inductive Misses : Stage σ → Act → Fault → Stage σ → Prop where
  | ask {stage : Stage σ} {rest : σ} {command : Bytes} {size : Nat} {fault : Fault}
      (answer : Bytes) : Unanswered stage.link command size fault rest →
      Misses stage (.ask command size answer) fault ⟨rest, stage.events⟩
  | compare (stage : Stage σ) {due announced : Nat} : announced ≠ due →
      Misses stage (.compare due announced) (.sizeMismatch due announced) stage
  | collect {stage : Stage σ} {rest : σ} {size : Nat} {payloads : List Bytes} {fault : Fault} :
      BreaksOff stage.link size payloads fault rest →
      Misses stage (.collect size) fault ⟨rest, stage.events⟩

/-- Acts in a row, of which so many succeed: all of them, or all before the first that fails. -/
inductive Plays : Stage σ → List Act → Nat → Except Fault Unit → Stage σ → Prop where
  | nil (stage : Stage σ) : Plays stage [] 0 (.ok ()) stage
  | stop {stage left : Stage σ} {act : Act} {fault : Fault} {acts : List Act} :
      Misses stage act fault left → Plays stage (act :: acts) 0 (.error fault) left
  | next {stage mid left : Stage σ} {act : Act} {acts : List Act} {count : Nat}
      {result : Except Fault Unit} : Does stage act mid → Plays mid acts count result left →
      Plays stage (act :: acts) (count + 1) result left

/-- All acts succeed, or one of them is the first that fails. -/
theorem Plays.ending {stage left : Stage σ} {acts : List Act} {count : Nat}
    {result : Except Fault Unit} (h : Plays stage acts count result left) :
    (result = .ok () ∧ count = acts.length) ∨
      (∃ fault, result = .error fault) ∧ count < acts.length := by
  -- on the acts that succeed
  induction h with
  | nil stage => exact .inl ⟨rfl, rfl⟩
  | stop hmisses => exact .inr ⟨⟨_, rfl⟩, Nat.succ_pos _⟩
  | next hdoes hplays ih =>
    rcases ih with ⟨hresult, hcount⟩ | ⟨hresult, hcount⟩
    · exact .inl ⟨hresult, congrArg Nat.succ hcount⟩
    · exact .inr ⟨hresult, Nat.succ_lt_succ hcount⟩

end

/-! ## §2 The script -/

/-- The answers in a dump. -/
structure Answers where
  model : Bytes := []
  serial : Bytes := []
  devtime : Bytes := []
  size : Bytes := []
  total : Bytes := []

namespace Answers

variable (answers : Answers)

/-- The size of the dives. -/
def length : UInt32 := Word.front answers.size

/-- What progress counts up to. -/
def maximum : UInt32 := Download.bytesInAll answers.length

/-- The clocks, where the host's shows `now`. -/
def clock (now : Instant) : ClockCalibration := ⟨Word.front answers.devtime, now⟩

def info : DeviceInfo := ⟨UInt32.ofNat (answers.model.headD 0).toNat, 0, Word.front answers.serial⟩

/-- What a dump tells of its progress. The last of it is the whole. -/
def progress : List Progress :=
  ⟨0, 0⟩ :: ⟨9, 0⟩ ::
    if answers.length = 0 then [⟨13, 13⟩]
    else [⟨13, answers.maximum⟩, ⟨17, answers.maximum⟩, ⟨answers.maximum, answers.maximum⟩]

end Answers

/-- The acts of a dump before those behind them: up to the one that names the computer. -/
def greeting (now : Instant) (answers : Answers) (acts : List Act) : List Act :=
  .tell (.progress ⟨0, 0⟩) ::
    .ask Opcode.model.bare 1 answers.model ::
    .ask Opcode.serial.bare 4 answers.serial ::
    .ask Opcode.deviceTime.bare 4 answers.devtime ::
    .tell (.progress ⟨9, 0⟩) ::
    .tell (.clock (answers.clock now)) ::
    .tell (.devinfo answers.info) :: acts

/-- The acts that bring the dives. -/
def delivery (cursor : Fingerprint) (answers : Answers) : List Act :=
  [.tell (.progress ⟨13, answers.maximum⟩),
    .ask (Opcode.data.after cursor) 4 answers.total,
    .tell (.progress ⟨17, answers.maximum⟩),
    .compare (answers.length.toNat + 4) (Word.front answers.total).toNat,
    .collect answers.length.toNat]

/-- The acts of a dump. Without dives the last one comes at once behind the size. -/
def script (now : Instant) (cursor : Fingerprint) (answers : Answers) : List Act :=
  greeting now answers
    (.ask (Opcode.dataLength.after cursor) 4 answers.size ::
      (if answers.length = 0 then [] else delivery cursor answers) ++
        [.tell (.progress ⟨answers.maximum, answers.maximum⟩)])

section

variable {σ : Type} [ReportLink σ]

/-- The computer is asked who it is and answers, and then the acts go on. -/
theorem plays_greeting {stage : Stage σ} {mid : σ} {now : Instant} {answers : Answers}
    {acts : List Act} {count : Nat} {result : Except Fault Unit} {left : Stage σ}
    (htalks : Talks stage.link probes [answers.model, answers.serial, answers.devtime] mid)
    (hplays : Plays ((((Stage.told ⟨mid, stage.events⟩ (.progress ⟨0, 0⟩)).told
      (.progress ⟨9, 0⟩)).told (.clock (answers.clock now))).told (.devinfo answers.info))
      acts count result left) :
    Plays stage (greeting now answers acts) (count + 7) result left := by
  obtain _ | ⟨hmodel, htalks⟩ := htalks
  obtain _ | ⟨hserial, htalks⟩ := htalks
  obtain _ | ⟨hdevtime, htalks⟩ := htalks
  cases htalks
  -- the clocks and the computer are told once all three answers are there
  refine .next (.tell stage _) (.next (.ask hmodel) (.next (.ask hserial)
    (.next (.ask hdevtime) ?_)))
  exact .next (.tell _ _) (.next (.tell _ _) (.next (.tell _ _) hplays))

/-- One of the three questions is not answered, and no act behind it matters. -/
theorem plays_greeting_of_fails {stage : Stage σ} {rest : σ} {fault : Fault} (now : Instant)
    (hfails : Fails stage.link probes fault rest) :
    ∃ answers : Answers, ∃ count, ∀ acts, Plays stage (greeting now answers acts) count
      (.error fault) (Stage.told ⟨rest, stage.events⟩ (.progress ⟨0, 0⟩)) := by
  -- answers that did not come are left empty
  cases hfails with
  | here hmodel =>
    refine ⟨{}, 1, ?_⟩
    intro acts
    exact .next (.tell stage _) (.stop (.ask _ hmodel))
  | @later _ _ _ _ model _ _ _ hmodel hfails =>
    cases hfails with
    | here hserial =>
      refine ⟨{ model }, 2, ?_⟩
      intro acts
      exact .next (.tell stage _) (.next (.ask hmodel) (.stop (.ask _ hserial)))
    | @later _ _ _ _ serial _ _ _ hserial hfails =>
      cases hfails with
      | here hdevtime =>
        refine ⟨{ model, serial }, 3, ?_⟩
        intro acts
        exact .next (.tell stage _)
          (.next (.ask hmodel) (.next (.ask hserial) (.stop (.ask _ hdevtime))))
      | later _ hfails => cases hfails

/-- The whole of a dump with dives: seventeen bytes before them, and the dives. -/
theorem saturatingAdd_eq_bytesInAll {length : UInt32} (hzero : length ≠ 0) :
    Word.saturatingAdd 17 length = Download.bytesInAll length := by
  have hpositive : 0 < length := UInt32.pos_iff_ne_zero.mpr hzero
  -- both are the true sum, cut off at the greatest word
  apply UInt32.toNat_inj.mp
  unfold Download.bytesInAll
  rw [if_pos hpositive, Word.toNat_saturatingAdd, Word.toNat_saturatingAdd,
    Word.toNat_saturatingAdd]
  have hsizes : (17 : UInt32).toNat = 17 ∧ Download.sizeBytes.toNat = 4 ∧
      (Download.sizeBytes + Download.probeBytes).toNat = 13 := ⟨rfl, rfl, rfl⟩
  omega

/-- The acts that bring the dives, with the one that tells that they are there. -/
theorem Bulk.plays {session left : Session σ} {answers : Answers} {result : Except Fault Unit}
    {buffer : Bytes} (hzero : answers.length ≠ 0)
    (h : Bulk session answers.length result left buffer) :
    ∃ total count, left.cursor = session.cursor ∧ Plays session.stage
      [.ask (Opcode.data.after session.cursor) 4 total,
        .tell (.progress ⟨17, answers.maximum⟩),
        .compare (answers.length.toNat + 4) (Word.front total).toNat,
        .collect answers.length.toNat,
        .tell (.progress ⟨answers.maximum, answers.maximum⟩)] count result left.stage := by
  cases h with
  | refused htotal => exact ⟨[], 0, rfl, .stop (.ask [] htotal)⟩
  | mismatched htotal hne =>
    exact ⟨_, 2, rfl, .next (.ask htotal) (.next (.tell _ _) (.stop (.compare _ hne)))⟩
  | brokenOff htotal hmatch hbreaks =>
    exact ⟨_, 3, rfl, .next (.ask htotal) (.next (.tell _ _) (.next (.compare _ hmatch)
      (.stop (.collect hbreaks))))⟩
  | complete htotal hmatch hgathers =>
    refine ⟨_, 5, rfl, .next (.ask htotal) (.next (.tell _ _) (.next (.compare _ hmatch)
      (.next (.collect hgathers) ?_)))⟩
    -- the last event is told with the sum of all that came in
    have hlast : Event.progress ⟨answers.maximum, answers.maximum⟩ =
        .progress ⟨Word.saturatingAdd 17 answers.length, answers.maximum⟩ := by
      rw [saturatingAdd_eq_bytesInAll hzero, Answers.maximum]
    rw [hlast]
    exact .next (.tell _ _) (.nil _)

/-- **Every dump plays the script.** -/
theorem dump_plays (around : Surroundings) (session : Session σ) (old : Bytes) :
    ∃ answers count, Plays session.stage
      (script around.now (session.dump around old).2.session.cursor answers) count
      (session.dump around old).1 (session.dump around old).2.session.stage := by
  refine dump_elim around session old fun result left buffer hcourse => ?_
  -- an answer that did not come in is any answer, as its act is the last that is played
  cases hcourse with
  | @unidentified rest fault hfails =>
    -- the acts behind the greeting are not played, whatever they are
    have hfails : Fails session.stage.link probes fault rest := hfails
    obtain ⟨answers, count, hplays⟩ := plays_greeting_of_fails around.now hfails
    exact ⟨answers, count, hplays _⟩
  | @unsized mid rest model serial devtime fault htalks hsize =>
    let answers : Answers := { model, serial, devtime }
    exact ⟨answers, 7, plays_greeting htalks (.stop (.ask _ hsize))⟩
  | @nothing mid rest model serial devtime size htalks hsize hzero =>
    let answers : Answers := { model, serial, devtime, size }
    have hlength : answers.length = 0 := hzero
    refine ⟨answers, 9, plays_greeting htalks (.next (.ask hsize) ?_)⟩
    -- without dives the size was all there is to ask for
    rw [if_pos hlength, Answers.maximum, hlength]
    exact .next (.tell _ _) (.nil _)
  | @bulk mid rest model serial devtime size _ _ _ htalks hsize hzero hbulk =>
    have hlength : Answers.length { model, serial, devtime, size } ≠ 0 := hzero
    obtain ⟨total, count, hcursor, hplays⟩ := Bulk.plays hlength hbulk
    let answers : Answers := { model, serial, devtime, size, total }
    have hlength : answers.length ≠ 0 := hzero
    refine ⟨answers, count + 2 + 7, ?_⟩
    rw [hcursor, script, if_neg hlength]
    exact plays_greeting htalks (.next (.ask hsize) (.next (.tell _ _) hplays))

end

/-! ## §3 What acts tell and write -/

/-- The event that an act tells. -/
def Act.event? : Act → Option Event
  | .tell event => some event
  | _ => none

/-- The packet that an act writes. -/
def Act.packet? : Act → Option Bytes
  | .ask command _ _ => some (UInt8.ofNat command.length :: command)
  | _ => none

/-- Whether a packet has room for the command of an act. -/
def Act.Fits : Act → Prop
  | .ask command _ _ => command.length ≤ commandLimit
  | _ => True

def eventsOf (acts : List Act) : List Event := acts.filterMap Act.event?

/-- The events of a dump that comes to its end. Without dives that is behind their size. -/
def eventsFor (now : Instant) (answers : Answers) : List Event :=
  .progress ⟨0, 0⟩ :: .progress ⟨9, 0⟩ :: .clock (answers.clock now) :: .devinfo answers.info ::
    if answers.length = 0 then [.progress ⟨13, 13⟩]
    else [.progress ⟨13, answers.maximum⟩, .progress ⟨17, answers.maximum⟩,
      .progress ⟨answers.maximum, answers.maximum⟩]

def packetsOf (acts : List Act) : List Bytes := acts.filterMap Act.packet?

/-- The packets of a dump that comes to the last of its requests. Both that ask for dives after a
fingerprint carry it. -/
def packetsFor (cursor : Fingerprint) : List Bytes :=
  [[0x01, 0x10], [0x01, 0x14], [0x01, 0x1A],
    0x09 :: 0xC6 :: (cursor.toBytes ++ [0x10, 0x27, 0x00, 0x00]),
    0x09 :: 0xC4 :: (cursor.toBytes ++ [0x10, 0x27, 0x00, 0x00])]

section

variable {σ : Type} [ReportLink σ]

theorem Does.events {stage left : Stage σ} {act : Act} (h : Does stage act left) :
    left.events = stage.events ++ eventsOf [act] := by
  cases h with
  | tell => rfl
  | ask | compare | collect => exact (List.append_nil _).symm

theorem Misses.events {stage left : Stage σ} {act : Act} {fault : Fault}
    (h : Misses stage act fault left) : left.events = stage.events := by
  cases h <;> rfl

/-- The events of the acts that succeed are told. -/
theorem Plays.events {stage left : Stage σ} {acts : List Act} {count : Nat}
    {result : Except Fault Unit} (h : Plays stage acts count result left) :
    left.events = stage.events ++ eventsOf (acts.take count) := by
  induction h with
  | nil stage => exact (List.append_nil _).symm
  | stop hmisses => exact hmisses.events.trans (List.append_nil _).symm
  | @next stage mid left act acts count result hdoes hplays ih =>
    have hsplit : eventsOf (act :: acts.take count) = eventsOf [act] ++ eventsOf (acts.take count) :=
      List.filterMap_append (l := [act])
    rw [ih, hdoes.events, List.take_succ_cons, hsplit, List.append_assoc]

/-- Reads write nothing. -/
theorem sent_of_reads {record rest : Recorded σ} {payloads : List Bytes}
    (h : Reads record payloads rest) : rest.sent = record.sent := by
  obtain ⟨_, rfl⟩ := reads_iff.mp h
  rw [behind_recorded]

theorem sent_of_breaksOff {record rest : Recorded σ} {size : Nat} {payloads : List Bytes}
    {fault : Fault} (h : BreaksOff record size payloads fault rest) : rest.sent = record.sent := by
  obtain ⟨_, rfl⟩ := breaksOff_iff.mp h
  rw [behind_recorded]

theorem sent_of_write {record rest : Recorded σ} {packet : Bytes} {result : Except Fault Nat}
    (h : ReportLink.write record packet = (result, rest)) :
    rest.sent = record.sent ++ [packet] := by
  have hrest := congrArg (Recorded.sent ∘ Prod.snd) h
  exact hrest.symm

/-- A command that is not too long is written once, whether it is answered or not. -/
theorem sent_of_unanswered {record rest : Recorded σ} {command : Bytes} {size : Nat} {fault : Fault}
    (hfits : command.length ≤ commandLimit) (h : Unanswered record command size fault rest) :
    rest.sent = record.sent ++ [UInt8.ofNat command.length :: command] := by
  cases h with
  | unsent hunsent =>
    cases hunsent with
    | tooLong hlong => omega
    | refused _ hwrite => exact sent_of_write hwrite
    | short _ hwrite _ => exact sent_of_write hwrite
  | brokenOff hsends hbreaks =>
    rw [sent_of_breaksOff hbreaks]
    exact sent_of_write hsends.2

theorem Does.sent {stage left : Stage (Recorded σ)} {act : Act} (h : Does stage act left) :
    left.link.sent = stage.link.sent ++ packetsOf [act] := by
  cases h with
  | tell => exact (List.append_nil _).symm
  | ask hanswered =>
    obtain ⟨mid, payloads, hsends, hgathers, _⟩ := hanswered.spec
    exact (sent_of_reads hgathers.reads).trans (sent_of_write hsends.2)
  | compare => exact (List.append_nil _).symm
  | collect hgathers => exact (sent_of_reads hgathers.reads).trans (List.append_nil _).symm

theorem Misses.sent {stage left : Stage (Recorded σ)} {act : Act} {fault : Fault}
    (hfits : act.Fits) (h : Misses stage act fault left) :
    left.link.sent = stage.link.sent ++ packetsOf [act] := by
  cases h with
  | ask answer hunanswered => exact sent_of_unanswered hfits hunanswered
  | compare => exact (List.append_nil _).symm
  | collect hbreaks => exact (sent_of_breaksOff hbreaks).trans (List.append_nil _).symm

/-- The packets of the acts that succeed are written, and that of the act that fails. -/
theorem Plays.sent {stage left : Stage (Recorded σ)} {acts : List Act} {count : Nat}
    {result : Except Fault Unit} (hfits : ∀ act ∈ acts, act.Fits)
    (h : Plays stage acts count result left) :
    left.link.sent = stage.link.sent ++ packetsOf (acts.take (count + 1)) := by
  -- on the acts; the one that fails has written its packet too
  induction h with
  | nil stage => exact (List.append_nil _).symm
  | @stop stage left act fault acts hmisses => exact hmisses.sent (hfits act List.mem_cons_self)
  | @next stage mid left act acts count result hdoes hplays ih =>
    have hothers : ∀ other ∈ acts, other.Fits := by
      intro other hother
      exact hfits other (List.mem_cons_of_mem act hother)
    have hrest := ih hothers
    have hsplit : packetsOf (act :: acts.take (count + 1)) =
        packetsOf [act] ++ packetsOf (acts.take (count + 1)) := List.filterMap_append (l := [act])
    rw [hrest, hdoes.sent, List.take_succ_cons, hsplit, List.append_assoc]

end

/-! ## §4 Progress -/

namespace Answers

variable {answers : Answers}

theorem maximum_of_zero (hzero : answers.length = 0) : answers.maximum = 13 := by
  rw [maximum, hzero]
  rfl

theorem lt_maximum (hzero : answers.length ≠ 0) : 17 < answers.maximum := by
  have hpositive : 0 < answers.length := UInt32.pos_iff_ne_zero.mpr hzero
  -- a sum that is cut off is the greatest word, which is more as well
  rw [maximum, ← saturatingAdd_eq_bytesInAll hzero, UInt32.lt_iff_toNat_lt,
    Word.toNat_saturatingAdd]
  rw [UInt32.lt_iff_toNat_lt] at hpositive
  have hwords : (17 : UInt32).toNat = 17 ∧ (0 : UInt32).toNat = 0 := ⟨rfl, rfl⟩
  omega

variable (answers)

/-- Progress never goes back. The sums are cut off at the greatest word, and so is the maximum. -/
theorem progress_pairwise :
    answers.progress.Pairwise fun earlier later => earlier.current ≤ later.current := by
  unfold progress
  split
  case isTrue => decide
  case isFalse hzero =>
    have hmaximum := lt_maximum hzero
    generalize answers.maximum = maximum at hmaximum
    have hbefore : (13 : UInt32) ≤ maximum ∧ (17 : UInt32) ≤ maximum ∧ (9 : UInt32) ≤ maximum := by
      simp only [UInt32.lt_iff_toNat_lt, UInt32.le_iff_toNat_le, UInt32.toNat_ofNat] at *
      omega
    simp [hbefore]

/-- Before the end no progress is the whole. -/
theorem lt_of_mem_dropLast {told : Progress} (h : told ∈ answers.progress.dropLast)
    (hpositive : 0 < told.maximum) : told.current < told.maximum := by
  unfold progress at h
  split at h
  case isTrue =>
    -- without dives the maximum is known at the end only
    obtain rfl | rfl : told = ⟨0, 0⟩ ∨ told = ⟨9, 0⟩ := by simpa using h
    · exact absurd hpositive (by decide)
    · exact absurd hpositive (by decide)
  case isFalse hzero =>
    have hmaximum := lt_maximum hzero
    obtain rfl | rfl | rfl | rfl : told = ⟨0, 0⟩ ∨ told = ⟨9, 0⟩ ∨
        told = ⟨13, answers.maximum⟩ ∨ told = ⟨17, answers.maximum⟩ := by simpa using h
    · exact absurd hpositive (by decide)
    · exact absurd hpositive (by decide)
    · exact UInt32.lt_trans (show (13 : UInt32) < 17 by decide) hmaximum
    · exact hmaximum

/-- The end is the whole. -/
theorem exists_progress_eq : ∃ last, answers.progress = answers.progress.dropLast ++ [last] ∧
    0 < last.maximum ∧ last.current = last.maximum := by
  unfold progress
  split
  case isTrue => exact ⟨⟨13, 13⟩, rfl, by decide, rfl⟩
  case isFalse hzero =>
    exact ⟨⟨answers.maximum, answers.maximum⟩, rfl,
      UInt32.lt_trans (by decide) (lt_maximum hzero), rfl⟩

theorem le_of_mem_progress {told : Progress} (h : told ∈ answers.progress)
    (hpositive : 0 < told.maximum) : told.current ≤ told.maximum := by
  obtain ⟨last, heq, _, hwhole⟩ := answers.exists_progress_eq
  rw [heq, List.mem_append, List.mem_singleton] at h
  rcases h with h | rfl
  · exact UInt32.le_of_lt (answers.lt_of_mem_dropLast h hpositive)
  · exact UInt32.le_of_eq hwhole

end Answers

/-! ## §5 Events and packets of a dump -/

section

variable (now : Instant) (cursor : Fingerprint) (answers : Answers)

theorem fits_script : ∀ act ∈ script now cursor answers, act.Fits := by
  have hbare : ∀ opcode : Opcode, opcode.bare.length ≤ commandLimit := by
    intro opcode
    show 1 ≤ commandLimit
    decide
  have hafter : 9 ≤ commandLimit := by decide
  unfold script greeting delivery
  split <;> simp [Act.Fits, hbare, hafter]

/-- The packets of the first acts. -/
theorem packetsOf_take_script (count : Nat) :
    packetsOf ((script now cursor answers).take count) <+: packetsFor cursor := by
  have hfront : packetsOf ((script now cursor answers).take count) <+:
      packetsOf (script now cursor answers) := (List.take_prefix _ _).filterMap _
  refine hfront.trans ?_
  unfold script
  -- without dives the request for them is left out
  split
  · exact List.dropLast_prefix (packetsFor cursor)
  · exact ⟨[], rfl⟩

/-- The events of all acts. -/
theorem eventsOf_script : eventsOf (script now cursor answers) = eventsFor now answers := by
  unfold script eventsFor
  split
  case isTrue hzero =>
    rw [Answers.maximum_of_zero hzero]
    rfl
  case isFalse => rfl

/-- The progress of all acts. -/
theorem progress_script :
    (EventLog.mk (eventsOf (script now cursor answers))).progress = answers.progress := by
  rw [eventsOf_script, eventsFor, Answers.progress]
  split <;> rfl

theorem progress_of_front {front events : List Event} (h : front <+: events) :
    (EventLog.mk front).progress <+: (EventLog.mk events).progress := h.filterMap _

/-- The last act is the one that tells the end. -/
theorem progress_of_lt {count : Nat} (hcount : count < (script now cursor answers).length) :
    (EventLog.mk (eventsOf ((script now cursor answers).take count))).progress <+:
      answers.progress.dropLast := by
  have hfront : eventsOf ((script now cursor answers).take count) <+:
      eventsOf (script now cursor answers).dropLast := (take_prefix_dropLast hcount).filterMap _
  have hlast : (EventLog.mk (eventsOf (script now cursor answers).dropLast)).progress =
      answers.progress.dropLast := by
    unfold script Answers.progress
    split <;> rfl
  rw [← hlast]
  exact progress_of_front hfront

end

variable {σ : Type} [ReportLink σ]

/-- Progress comes to the maximum in the last act, which only a dump that succeeds comes to. -/
theorem Plays.whole_iff {now : Instant} {cursor : Fingerprint} {answers : Answers}
    {stage left : Stage σ} {count : Nat} {result : Except Fault Unit}
    (h : Plays stage (script now cursor answers) count result left) :
    (∃ told ∈ (EventLog.mk (eventsOf ((script now cursor answers).take count))).progress,
      0 < told.maximum ∧ told.current = told.maximum) ↔ result = .ok () := by
  rcases h.ending with ⟨hresult, hcount⟩ | ⟨⟨fault, hresult⟩, hcount⟩
  · -- all acts were played, and the last of them tells the whole
    obtain ⟨last, heq, hpositive, hwhole⟩ := answers.exists_progress_eq
    refine iff_of_true ⟨last, ?_, hpositive, hwhole⟩ hresult
    rw [hcount, List.take_length, progress_script, heq]
    simp
  · constructor
    · rintro ⟨told, hmem, hpositive, hwhole⟩
      have hbefore := (progress_of_lt now cursor answers hcount).mem hmem
      have hlt := answers.lt_of_mem_dropLast hbefore hpositive
      rw [hwhole] at hlt
      exact absurd hlt (UInt32.lt_irrefl _)
    · intro hok
      cases hresult.symm.trans hok

/-- **The events and packets of a dump follow one script**, wherever it ends and whatever ends it.
Of the acts so many succeed: their events are told, and their packets and that of the next act are
written. Progress never goes back and never passes the maximum, and it comes to the maximum in
those dumps that succeed.

The link is any that does not send reports without payload for ever, not even behind the last report
that the dump reads. -/
theorem dump_script (around : Surroundings) (session : Session (Recorded σ)) (old : Bytes) :
    let result := (session.dump around old).1
    let left := (session.dump around old).2.session
    ∃ answers count,
      let acts := script around.now left.cursor answers
      let events := eventsOf (acts.take count)
      let sent := packetsOf (acts.take (count + 1))
      let progress := (EventLog.mk events).progress
      Plays session.stage acts count result left.stage ∧
      left.log.events = session.log.events ++ events ∧
      left.link.sent = session.link.sent ++ sent ∧
      events <+: eventsFor around.now answers ∧
      sent <+: packetsFor left.cursor ∧
      progress.Pairwise (fun earlier later => earlier.current ≤ later.current) ∧
      (∀ told ∈ progress, 0 < told.maximum → told.current ≤ told.maximum) ∧
      ((∃ told ∈ progress, 0 < told.maximum ∧ told.current = told.maximum) ↔ result = .ok ()) := by
  intro result left
  obtain ⟨answers, count, hplays⟩ := dump_plays around session old
  -- what holds of all events of the script holds of the first of them
  have hevents : eventsOf ((script around.now left.cursor answers).take count) <+:
      eventsOf (script around.now left.cursor answers) := (List.take_prefix _ _).filterMap _
  have hprogress := progress_of_front hevents
  rw [progress_script] at hprogress
  rw [eventsOf_script] at hevents
  refine ⟨answers, count, hplays, hplays.events, hplays.sent (fits_script _ _ _), hevents,
    packetsOf_take_script _ _ _ _, ?_, ?_, hplays.whole_iff⟩
  · exact answers.progress_pairwise.sublist hprogress.sublist
  · intro told htold
    exact answers.le_of_mem_progress (hprogress.mem htold)

end Session

end DiveLink
