import DiveLink.Proofs.Cursor
import DiveLink.Proofs.Increments

/-!
# Which computer a session knows

A session keeps which computer answered and how its clock stood, and it tells both to its log. The
two never disagree, whatever is asked of the session and wherever it fails.

1. `answersTo` are the answers to commands over a link, `Talks.answersTo` and `Fails.answersTo` say
   when there are some.
2. `Session.sighting` is what a dump gets to know of the computer: all of it or nothing.
3. `Agrees` is a session that keeps what it has seen last, with `dump_agrees` for one dump.
4. `Use` is what a caller does with a session, `sightings` are what its dumps have seen.
   `uses_agree` is any row of uses.
5. `session_knows_last_sighting` is what this says about identity, clock and log of a session.
-/

namespace DiveLink

/-! ## §1 Answers -/

section

variable {σ : Type} [ReportLink σ]

/-- The answers to commands that are sent one after the other, if all of them are answered. -/
def answersTo (link : σ) : List (Bytes × Nat) → Option (List Bytes)
  | [] => some []
  | (command, size) :: script =>
    let receipt := transfer link command size
    match receipt.fault with
    | some _ => none
    | none => (answersTo receipt.link script).map (receipt.received :: ·)

variable {link rest : σ} {command answer : Bytes} {size : Nat} {fault : Fault}
  {script : List (Bytes × Nat)} {answers : List Bytes}

theorem Answered.transfer (h : Answered link command size answer rest) :
    (transfer link command size).fault = none ∧
      (transfer link command size).received = answer ∧
      (transfer link command size).link = rest := by
  cases transfer_spec link command size with
  | answered hanswered hfault =>
    obtain ⟨hreceived, hlink⟩ := hanswered.unique h
    exact ⟨hfault, hreceived, hlink⟩
  | unanswered fault hunanswered hfault => exact (h.not_unanswered hunanswered).elim

theorem Unanswered.transfer (h : Unanswered link command size fault rest) :
    ∃ found, (transfer link command size).fault = some found := by
  cases transfer_spec link command size with
  | answered hanswered hfault => exact (hanswered.not_unanswered h).elim
  | unanswered found hunanswered hfault => exact ⟨found, hfault⟩

theorem Talks.answersTo (h : Talks link script answers rest) :
    DiveLink.answersTo link script = some answers := by
  -- on the exchanges, each of which leaves the link to the next one
  induction h with
  | nil link => rfl
  | cons hanswered htalks ih =>
    obtain ⟨hfault, hreceived, hlink⟩ := hanswered.transfer
    simp only [DiveLink.answersTo, hfault, hreceived, hlink, ih, Option.map_some]

theorem Fails.answersTo (h : Fails link script fault rest) :
    DiveLink.answersTo link script = none := by
  -- up to the exchange that fails
  induction h with
  | here hunanswered =>
    obtain ⟨found, hfault⟩ := hunanswered.transfer
    simp only [DiveLink.answersTo, hfault]
  | later hanswered hfails ih =>
    obtain ⟨hfault, hreceived, hlink⟩ := hanswered.transfer
    simp only [DiveLink.answersTo, hfault, hlink, ih, Option.map_none]

end

namespace EventLog

/-- The log names the computer of a new event, or else the one from before. -/
theorem lastDevinfo_push (log : EventLog) (event : Event) :
    (log.push event).lastDevinfo = match event with
      | .devinfo info => some info
      | _ => log.lastDevinfo := by
  cases event <;> simp [push, lastDevinfo]

theorem lastClock_push (log : EventLog) (event : Event) :
    (log.push event).lastClock = match event with
      | .clock clock => some clock
      | _ => log.lastClock := by
  cases event <;> simp [push, lastClock]

end EventLog

namespace Session

/-! ## §2 Sightings -/

/-- What a dump gets to know from its first three answers: which computer it is, and how its clock
and that of the host stand. -/
structure Sighting where
  info : DeviceInfo
  clock : ClockCalibration

/-- The sighting of these answers. -/
def Sighting.of (now : Instant) (model serial devtime : Bytes) : Sighting where
  info := ⟨UInt32.ofNat (model.headD 0).toNat, 0, Word.front serial⟩
  clock := ⟨Word.front devtime, now⟩

section

variable {σ : Type} [ReportLink σ]

/-- What a dump of the session gets to know. It is nothing unless all three answers are there. -/
def sighting (session : Session σ) (now : Instant) : Option Sighting :=
  match answersTo session.link probes with
  | some [model, serial, devtime] => some (.of now model serial devtime)
  | _ => none

variable {session : Session σ} {rest : σ}

theorem sighting_of_talks {model serial devtime : Bytes}
    (h : Talks session.link probes [model, serial, devtime] rest) (now : Instant) :
    session.sighting now = some (.of now model serial devtime) := by
  unfold sighting
  rw [h.answersTo]

theorem sighting_of_fails {fault : Fault} (h : Fails session.link probes fault rest)
    (now : Instant) : session.sighting now = none := by
  unfold sighting
  rw [h.answersTo]

end

/-! ## §3 Agreement -/

/-- A session that keeps what it has seen last, and whose log says the same. -/
structure Agrees {σ : Type} (session : Session σ) (seen : Option Sighting) : Prop where
  info : session.info = seen.map Sighting.info
  clock : session.clock = seen.map Sighting.clock
  lastDevinfo : session.log.lastDevinfo = seen.map Sighting.info
  lastClock : session.log.lastClock = seen.map Sighting.clock

namespace Agrees

variable {σ : Type} {session : Session σ} {seen : Option Sighting}

theorem start (link : σ) (cache : Option FingerprintCache) :
    (Session.start link cache).Agrees none :=
  ⟨rfl, rfl, rfl, rfl⟩

theorem reach (h : session.Agrees seen) (link : σ) : (session.reach link).Agrees seen :=
  ⟨h.info, h.clock, h.lastDevinfo, h.lastClock⟩

theorem seek (h : session.Agrees seen) (cursor : Fingerprint) : (session.seek cursor).Agrees seen :=
  ⟨h.info, h.clock, h.lastDevinfo, h.lastClock⟩

/-- Progress says nothing about the computer. -/
theorem told (h : session.Agrees seen) (progress : Progress) :
    (session.told (.progress progress)).Agrees seen := by
  refine ⟨h.info, h.clock, ?_, ?_⟩
  · exact (EventLog.lastDevinfo_push _ _).trans h.lastDevinfo
  · exact (EventLog.lastClock_push _ _).trans h.lastClock

/-- Once the three answers are there, all of it is new. -/
theorem identified (session : Session σ) (now : Instant) (model serial devtime : Bytes) :
    (session.identified now model serial devtime).Agrees (some (.of now model serial devtime)) := by
  refine ⟨rfl, rfl, ?_, ?_⟩
  · exact EventLog.lastDevinfo_push _ _
  · -- the clock is told before the computer
    exact (EventLog.lastClock_push _ _).trans (EventLog.lastClock_push _ _)

end Agrees

section

variable {σ : Type} [ReportLink σ] {session left : Session σ} {seen : Option Sighting}

/-- The bulk transfer tells progress only. -/
theorem Bulk.agrees {length : UInt32} {result : Except Fault Unit} {buffer : Bytes}
    (h : Bulk session length result left buffer) (hagrees : session.Agrees seen) :
    left.Agrees seen := by
  -- each ending is a row of uses of the link and of progress told
  cases h with
  | refused hunanswered => exact hagrees.reach _
  | mismatched htotal hne => exact (hagrees.reach _).told _
  | brokenOff htotal heq hbreaks => exact ((hagrees.reach _).told _).reach _
  | complete htotal heq hgathers => exact ((((hagrees.reach _).told _).reach _).told _)

/-- **After a dump a session keeps what this dump has seen**, or else what it has kept before. -/
theorem dump_agrees (hagrees : session.Agrees seen) (around : Surroundings) (old : Bytes) :
    (session.dump around old).2.session.Agrees ((session.sighting around.now).or seen) := by
  refine dump_elim around session old fun result left buffer hcourse => ?_
  -- behind the third answer, with the fingerprint that was looked up
  have hprobed : ∀ mid model serial devtime,
      (session.probed around mid model serial devtime).Agrees
        (some (.of around.now model serial devtime)) := by
    intro mid model serial devtime
    exact (Agrees.identified _ _ _ _ _).seek _
  -- nothing is kept of the answers before the third one
  cases hcourse with
  | unidentified hfails =>
    rw [sighting_of_fails hfails, Option.none_or]
    exact (hagrees.told _).reach _
  | unsized htalks hsize =>
    rw [sighting_of_talks htalks, Option.some_or]
    exact (hprobed _ _ _ _).reach _
  | nothing htalks hsize hzero =>
    rw [sighting_of_talks htalks, Option.some_or]
    exact ((hprobed _ _ _ _).reach _).told _
  | bulk htalks hsize hzero hbulk =>
    rw [sighting_of_talks htalks, Option.some_or]
    exact hbulk.agrees (((hprobed _ _ _ _).reach _).told _)

/-- A dump that sees nothing fails, and leaves the fingerprint. -/
theorem dump_of_no_sighting {around : Surroundings} (h : session.sighting around.now = none)
    (old : Bytes) :
    (∃ fault, (session.dump around old).1 = .error fault) ∧
      (session.dump around old).2.session.cursor = session.cursor := by
  refine dump_elim around session old fun result left buffer hcourse => ?_
  -- three answers would have been a sighting
  cases hcourse with
  | unidentified hfails => exact ⟨⟨_, rfl⟩, rfl⟩
  | unsized htalks hsize => cases (sighting_of_talks htalks around.now).symm.trans h
  | nothing htalks hsize hzero => cases (sighting_of_talks htalks around.now).symm.trans h
  | bulk htalks hsize hzero hbulk => cases (sighting_of_talks htalks around.now).symm.trans h

end

/-! ## §4 Uses -/

/-- What a caller does with a session: a call, or a visit to the dives. -/
inductive Use : Type 1 where
  | call (made : Call)
  | visit {τ : Type} (around : Surroundings) (visitor : τ → Dive → τ × Bool) (state : τ)

/-- The host's time in the dump that a use makes, if it makes one. -/
def Use.now? : Use → Option Instant
  | .call (.choose _) => none
  | .call (.dump around _) => some around.now
  | .visit around _ _ => some around.now

variable {σ : Type} [ReportLink σ]

/-- The session after a use. -/
def use (session : Session σ) : Use → Session σ
  | .call made => session.call made
  | .visit around visitor state => (DiveComputer.visit around session visitor state).computer

/-- The session after uses in a row. -/
def uses (session : Session σ) (uses : List Use) : Session σ :=
  uses.foldl use session

/-- What a use sees. -/
def seenIn (session : Session σ) (made : Use) : Option Sighting :=
  made.now?.bind session.sighting

/-- What the dumps of some uses have seen, each of them in the session that it found. -/
def sightings (session : Session σ) : List Use → List Sighting
  | [] => []
  | made :: others => (session.seenIn made).toList ++ sightings (session.use made) others

variable {session : Session σ} {seen : Option Sighting}

theorem use_agrees (hagrees : session.Agrees seen) (made : Use) :
    (session.use made).Agrees ((session.seenIn made).or seen) := by
  cases made with
  | call made =>
    cases made with
    | choose data =>
      -- whether the bytes are accepted or not, neither the computer nor the log is touched
      show (session.setFingerprint data).2.Agrees seen
      unfold setFingerprint
      split
      · exact hagrees
      · exact ⟨hagrees.info, hagrees.clock, hagrees.lastDevinfo, hagrees.lastClock⟩
    | dump around buffer => exact dump_agrees hagrees around buffer
  | visit around visitor state =>
    -- a visit is a dump as far as the session goes, whatever the visitor does
    show (DiveComputer.visit around session visitor state).computer.Agrees _
    rw [computer_visit]
    exact dump_agrees hagrees around []

/-- **Whatever is done with a session, it keeps what it has seen last.** -/
theorem uses_agrees (hagrees : session.Agrees seen) (uses : List Use) :
    (session.uses uses).Agrees ((session.sightings uses).getLast?.or seen) := by
  -- on the uses, from any session and what it has seen
  induction uses generalizing session seen with
  | nil => exact hagrees
  | cons made others ih =>
    have hothers := ih (use_agrees hagrees made)
    -- a use that sees nothing hands on what was seen before it
    rw [sightings, List.getLast?_append, Option.or_assoc]
    cases hseen : session.seenIn made with
    | none =>
      rw [hseen] at hothers
      exact hothers
    | some sighting =>
      rw [hseen] at hothers
      exact hothers

/-! ## §5 What a session knows -/

/-- A use that sees nothing leaves the fingerprint, unless it is a choice of one. -/
theorem cursor_use_of_no_sighting {made : Use} {now : Instant} (hnow : made.now? = some now)
    (h : session.sighting now = none) : (session.use made).cursor = session.cursor := by
  cases made with
  | call made =>
    cases made with
    | choose data => cases hnow
    | dump around buffer =>
      cases hnow
      exact (dump_of_no_sighting h buffer).2
  | visit around visitor state =>
    cases hnow
    show (DiveComputer.visit around session visitor state).computer.cursor = _
    rw [computer_visit]
    exact (dump_of_no_sighting h []).2

/-- **A session, its log and the last computer that it has seen agree.** In every state that a new
session comes to, identity and clock are those that the log has last, and both are of the last dump
whose first three questions were all answered. Such a dump replaces both, however it ends; a dump
that comes to an end before fails and leaves them, and the fingerprint, as they were. -/
theorem session_knows_last_sighting (link : σ) (cache : Option FingerprintCache)
    (uses : List Use) :
    let session := (Session.start link cache).uses uses
    let last := ((Session.start link cache).sightings uses).getLast?
    session.info = session.log.lastDevinfo ∧ session.clock = session.log.lastClock ∧
      session.info.isSome = session.clock.isSome ∧
      session.info = last.map Sighting.info ∧ session.clock = last.map Sighting.clock ∧
      (∀ made now, made.now? = some now →
        let left := session.use made
        (session.sighting now = none → left.info = session.info ∧ left.clock = session.clock ∧
          left.cursor = session.cursor) ∧
        ∀ seen, session.sighting now = some seen →
          left.info = some seen.info ∧ left.clock = some seen.clock) ∧
      ∀ around old, session.sighting around.now = none →
        ∃ fault, (session.dump around old).1 = .error fault := by
  intro session last
  -- all of it follows from the agreement in this state and in the one behind a further use
  have hagrees : session.Agrees last := by
    have huses := uses_agrees (Agrees.start link cache) uses
    rwa [Option.or_none] at huses
  refine ⟨?_, ?_, ?_, hagrees.info, hagrees.clock, ?_, ?_⟩
  · rw [hagrees.info, hagrees.lastDevinfo]
  · rw [hagrees.clock, hagrees.lastClock]
  · rw [hagrees.info, hagrees.clock, Option.isSome_map, Option.isSome_map]
  · intro made now hnow left
    have hleft := use_agrees hagrees made
    unfold seenIn at hleft
    rw [hnow, Option.bind_some] at hleft
    constructor
    · -- what was seen last is what was seen last before
      intro hnone
      rw [hnone, Option.none_or] at hleft
      refine ⟨?_, ?_, cursor_use_of_no_sighting hnow hnone⟩
      · rw [hagrees.info]
        exact hleft.info
      · rw [hagrees.clock]
        exact hleft.clock
    · -- what this use sees is the last from now on
      intro seen hsome
      rw [hsome, Option.some_or] at hleft
      exact ⟨hleft.info, hleft.clock⟩
  · intro around old hnone
    exact (dump_of_no_sighting hnone old).1

end Session

end DiveLink
