import DiveLink.Proofs.Faulty
import DiveLink.Proofs.History

/-!
# Trying again

A download that has failed is tried again in the same session, while the faults of the computer come
and go. Nothing empties the queue of the computer in between, so a download is attributed right if
the one before it left nothing in the queue.

1. `Emulated.IdleUnless` says behind which faults something can be left in the queue,
   `Attentive.outgoing_dump` says so of dumps.
2. `computer_download`, `result_of_dump_error` and `files_of_download` are a download by its dump.
3. `Attempt` is a download after a change of the faults, `Host.after` are attempts in a row.
   `after_same` is what they keep of the computer, `after_idle` says when the queue stays empty.
4. `attempts_attributed` is what this says about a download behind any attempts.
5. `attempt_misattributed` is one behind an attempt that left something in the queue.
-/

namespace DiveLink

open Dive (memoryOf)

/-! ## §1 What a dump leaves to be sent -/

/-- The faults behind which something can be left to be sent: a report fell short, or the bulk
transfer was announced wrong. -/
inductive LeavesReports : Fault → Prop where
  | short : LeavesReports shortReport
  | mismatched (expected actual : Nat) : LeavesReports (.sizeMismatch expected actual)

namespace Emulated

/-- Nothing is left to be sent, or a fault says that something may be. -/
def IdleUnless (computer : Emulated) (result : Except Fault Unit) : Prop :=
  computer.outgoing = [] ∨ ∃ fault, result = .error fault ∧ LeavesReports fault

theorem idleUnless_of_short {computer : Emulated} {fault : Fault}
    (h : computer.outgoing = [] ∨ fault = shortReport) : computer.IdleUnless (.error fault) := by
  rcases h with hidle | rfl
  · exact .inl hidle
  · exact .inr ⟨_, rfl, .short⟩

namespace Attentive

variable {computer rest : Emulated} (h : computer.Attentive)

include h

/-- Helper: a question with nothing queued behind its answer that is not answered. -/
theorem unanswered_alone {command answer : Bytes} {size : Nat} {fault : Fault}
    (hqueued : computer.answer command = computer.queue answer)
    (hunanswered : Unanswered computer command size fault rest) :
    rest.IdleUnless (.error fault) := by
  have hnothing : computer.answer command = (computer.queue answer).queue [] := by
    rw [hqueued, queue_nil]
  exact idleUnless_of_short (h.unanswered hnothing hunanswered)

/-- What is left behind the first questions, if one of them is not answered. -/
theorem fails_probes {fault : Fault} (hfails : Fails computer Session.probes fault rest) :
    rest.IdleUnless (.error fault) := by
  -- the questions before the one that fails leave the computer attentive
  cases hfails with
  | here hmodel => exact h.unanswered_alone (answer_model computer) hmodel
  | later hmodel hfails =>
    obtain ⟨_, reads₁, rfl⟩ := h.answered_alone (answer_model computer) hmodel
    have h := h.heard [Opcode.model.bare] reads₁
    cases hfails with
    | here hserial => exact h.unanswered_alone (answer_serial _) hserial
    | later hserial hfails =>
      obtain ⟨_, reads₂, rfl⟩ := h.answered_alone (answer_serial _) hserial
      have h := h.heard [Opcode.serial.bare] reads₂
      cases hfails with
      | here hdevtime => exact h.unanswered_alone (answer_deviceTime _) hdevtime
      | later hdevtime hfails => cases hfails

/-- Dives of the right size come in with all that is queued. -/
theorem gathers_all {cursor : Fingerprint} {total : Bytes} {start : Emulated} {length : Nat}
    {payloads : List Bytes} (hlength : length = (computer.memoryAfter cursor.timestamp).length)
    (htotal : Answered computer (Opcode.data.after cursor) 4 total start)
    (hgathers : Gathers start length payloads rest) : rest.outgoing = [] := by
  obtain ⟨_, reads, rfl⟩ := h.answered (answer_data computer cursor) htotal
  generalize computer.memoryAfter cursor.timestamp = memory at hlength hgathers
  have hmemory := congrArg List.length (flatten_pieces (computer.chunk - 1) memory)
  rw [hlength, ← hmemory] at hgathers
  -- behind the announcement the memory is all that is queued
  have hqueue : ((computer.heard [Opcode.data.after cursor] reads).queue memory).outgoing =
      pieces (computer.chunk - 1) memory ++ [] := by
    rw [h.outgoing_heard, List.append_nil]
  obtain ⟨_, later, rfl⟩ := hgathers.sending (fun _ => h.mem_queued) hqueue
  rfl

/-- What is left behind a bulk transfer that breaks off. -/
theorem breaksOff_data {cursor : Fingerprint} {total : Bytes} {start : Emulated} {length : Nat}
    {payloads : List Bytes} {fault : Fault}
    (htotal : Answered computer (Opcode.data.after cursor) 4 total start)
    (hbreaks : BreaksOff start length payloads fault rest) : rest.IdleUnless (.error fault) := by
  obtain ⟨_, reads, rfl⟩ := h.answered (answer_data computer cursor) htotal
  apply idleUnless_of_short
  apply hbreaks.idle_or_short
  intro piece hpiece
  rw [h.outgoing_heard] at hpiece
  exact (h.mem_queued hpiece).2

end Attentive

/-- What a bulk transfer leaves to be sent, after the right size was answered. -/
theorem outgoing_bulk {session left : Session Emulated} {length : UInt32}
    {result : Except Fault Unit} {buffer : Bytes} (hbulk : session.Bulk length result left buffer)
    (h : session.link.Attentive)
    (hlength : length.toNat = (session.link.memoryAfter session.cursor.timestamp).length) :
    left.link.IdleUnless result := by
  cases hbulk with
  | refused hunanswered =>
    exact idleUnless_of_short (h.unanswered (answer_data _ _) hunanswered)
  | mismatched htotal hne => exact .inr ⟨_, rfl, .mismatched _ _⟩
  | brokenOff htotal hmatch hbreaks => exact h.breaksOff_data htotal hbreaks
  | complete htotal hmatch hgathers => exact .inl (h.gathers_all hlength htotal hgathers)

/-- **What a dump leaves to be sent.** A computer that answers the right size has nothing left to
send behind a dump, unless a fault of the dump says that something may be. -/
theorem Attentive.outgoing_dump {session : Session Emulated} (h : session.link.Attentive)
    (hright : session.link.lengthOverride = none)
    (hfits : (memoryOf session.link.dives).length < 2 ^ 32 - 4) (around : Surroundings)
    (old : Bytes) :
    (session.dump around old).2.session.link.IdleUnless (session.dump around old).1 := by
  refine Session.dump_elim around session old fun result left buffer hcourse => ?_
  -- as long as questions are answered the computer stays attentive
  cases hcourse with
  | unidentified hfails => exact h.fails_probes hfails
  | unsized htalks hsize =>
    obtain ⟨_, reads, rfl⟩ := h.talks_probes htalks
    exact (h.heard _ reads).unanswered_alone (answer_dataLength _ _) hsize
  | nothing htalks hsize hzero =>
    obtain ⟨_, reads₁, rfl⟩ := h.talks_probes htalks
    obtain ⟨_, reads₂, rfl⟩ := (h.heard _ reads₁).sized hsize
    exact .inl h.idle
  | bulk htalks hsize hzero hbulk =>
    obtain ⟨_, reads₁, rfl⟩ := h.talks_probes htalks
    obtain ⟨hanswered, reads₂, rfl⟩ := (h.heard _ reads₁).sized hsize
    refine outgoing_bulk hbulk ((h.heard _ reads₁).heard _ reads₂) ?_
    rw [hanswered]
    exact toNat_sizeAnswered hright hfits _

end Emulated

/-! ## §2 Downloads by their dumps -/

section

variable {σ : Type} [ReportLink σ] (now : Instant) (session : Session σ) (files : Files)

theorem computer_download (cache : Option FingerprintCache) :
    (download now none cache session files).computer =
      (session.dump ⟨now, files⟩ []).2.session := by
  rw [← computer_visit ⟨now, files⟩ session keepAll []]
  unfold download
  simp only [chooseFingerprint]
  split
  · rfl
  · split <;> rfl

variable {now session files}

/-- A download whose dump fails. -/
theorem result_of_dump_error {fault : Fault}
    (h : (session.dump ⟨now, files⟩ []).1 = .error fault) (cache : Option FingerprintCache) :
    (download now none cache session files).result = .error (.device fault) := by
  have hfault : (session.dumped ⟨now, files⟩ []).fault = some fault := by
    simp only [Session.dumped, h]
    rfl
  have hvisit : (DiveComputer.visit ⟨now, files⟩ session keepAll []).fault = some fault := by
    show ((session.dumped ⟨now, files⟩ []).visit keepAll []).fault = _
    simp only [Dumped.visit, hfault]
  simp only [download, chooseFingerprint, hvisit]

/-- All that is written is the fingerprint of a dive, for a computer that is known. -/
theorem files_of_rememberNewest (cache : FingerprintCache) (info : Option DeviceInfo)
    (dives : List Dive) (files : Files) :
    (rememberNewest (some cache) info dives files).2 = files ∨
      ∃ known fingerprint, info = some known ∧
        (rememberNewest (some cache) info dives files).2 =
          ((cache.save known.serial fingerprint : StateM Files _).run files).2 := by
  cases info with
  | none => exact .inl rfl
  | some known =>
    cases dives with
    | nil => exact .inl rfl
    | cons newest rest =>
      refine .inr ⟨known, Fingerprint.ofDive newest, rfl, ?_⟩
      cases hrun : (cache.save known.serial (Fingerprint.ofDive newest) : StateM Files _).run files
        with
      | mk result later =>
        -- a write that fails is a warning, and its files are kept as well
        cases result with
        | ok _ => simp only [rememberNewest, hrun]
        | error fault => simp only [rememberNewest, hrun]

theorem files_of_download (now : Instant) (session : Session σ) (files : Files)
    (cache : FingerprintCache) :
    (download now none (some cache) session files).files = files ∨
      ∃ info fingerprint,
        (download now none (some cache) session files).computer.info = some info ∧
          (download now none (some cache) session files).files =
            ((cache.save info.serial fingerprint : StateM Files _).run files).2 := by
  unfold download
  simp only [chooseFingerprint]
  split
  · exact .inl rfl
  · split
    · exact .inl rfl
    · exact files_of_rememberNewest cache _ _ files

end

/-! ## §3 Attempts -/

/-- A download that is tried after the knobs of the computer were turned. Its reports are of a size
that reports can have. -/
structure Attempt where
  knobs : Knobs
  now : Instant
  chunk_pos : 0 < knobs.chunk
  chunk_lt : knobs.chunk < reportSize

/-- A session, and the files of the host. -/
structure Host where
  session : Session Emulated
  files : Files

namespace Host

/-- A new session with remembered fingerprints. -/
def start (computer : Emulated) (cache : FingerprintCache) (files : Files) : Host :=
  ⟨Session.start computer (some cache), files⟩

/-- The session once the knobs are turned. -/
def turned (host : Host) (attempt : Attempt) : Session Emulated :=
  host.session.reach (host.session.link.turn attempt.knobs)

variable (cache : FingerprintCache)

/-- A download in the session, after no fingerprint in particular. -/
def attempt (host : Host) (attempt : Attempt) : Done (Session Emulated) (List DiveSummary) :=
  download attempt.now none (some cache) (host.turned attempt) host.files

/-- The host after an attempt. -/
def tried (host : Host) (attempt : Attempt) : Host :=
  ⟨(host.attempt cache attempt).computer, (host.attempt cache attempt).files⟩

/-- The host after attempts in a row. -/
def after (host : Host) (attempts : List Attempt) : Host :=
  attempts.foldl (tried cache) host

/-- An attempt behind which nothing can be left to be sent: the computer answers the right size,
and the attempt succeeds or has another fault. -/
structure Clears (host : Host) (attempt : Attempt) : Prop where
  lengthOverride : attempt.knobs.lengthOverride = none
  fault : ∀ fault, (host.attempt cache attempt).result = .error (.device fault) →
    ¬ LeavesReports fault

/-- Attempts in a row of which none can leave something to be sent. -/
def AllClear (host : Host) : List Attempt → Prop
  | [] => True
  | attempt :: others => host.Clears cache attempt ∧ (host.tried cache attempt).AllClear others

/-- What attempts keep of a computer. -/
structure Same (start computer : Emulated) : Prop where
  model : computer.model = start.model
  serial : computer.serial = start.serial
  dives : computer.dives = start.dives

theorem Same.trans {start computer later : Emulated} (h : Same start computer)
    (hlater : Same computer later) : Same start later :=
  ⟨hlater.model.trans h.model, hlater.serial.trans h.serial, hlater.dives.trans h.dives⟩

/-- None of this is a matter of what a computer has to send. -/
theorem Same.of_atRest_eq {computer later : Emulated} (h : later.atRest = computer.atRest) :
    Same computer later := by
  have hkept : ∀ {α : Type} (field : Emulated → α), field later.atRest = field computer.atRest :=
    fun field => congrArg field h
  exact ⟨hkept Emulated.model, hkept Emulated.serial, hkept Emulated.dives⟩

variable {cache} {host : Host} {computer : Emulated}

theorem tried_same (h : Same computer host.session.link) (attempt : Attempt) :
    Same computer (host.tried cache attempt).session.link := by
  -- reads and writes are all that a download does to the computer
  have hkept : (host.tried cache attempt).session.link.atRest =
      (host.turned attempt).link.atRest :=
    download_keeps (Emulated.atRest_lasting (host.turned attempt).link) attempt.now none
      (some cache) (host.turned attempt) host.files rfl
  have hturned : Same computer (host.turned attempt).link := ⟨h.model, h.serial, h.dives⟩
  exact hturned.trans (.of_atRest_eq hkept)

theorem after_same (h : Same computer host.session.link) (attempts : List Attempt) :
    Same computer (host.after cache attempts).session.link := by
  -- on the attempts; each finds the computer as the one before has left it
  induction attempts generalizing host with
  | nil => exact h
  | cons attempt others ih => exact ih (tried_same h attempt)

theorem attentive_turned (hidle : host.session.link.outgoing = []) (attempt : Attempt) :
    (host.turned attempt).link.Attentive :=
  ⟨attempt.chunk_pos, attempt.chunk_lt, hidle⟩

/-- An attempt that can leave nothing to be sent leaves nothing. -/
theorem tried_idle (hidle : host.session.link.outgoing = [])
    (hfits : (memoryOf host.session.link.dives).length < 2 ^ 32 - 4) {attempt : Attempt}
    (hclears : host.Clears cache attempt) :
    (host.tried cache attempt).session.link.outgoing = [] := by
  have hleft := (attentive_turned hidle attempt).outgoing_dump hclears.lengthOverride hfits
    ⟨attempt.now, host.files⟩ []
  have hsession : (host.tried cache attempt).session =
      ((host.turned attempt).dump ⟨attempt.now, host.files⟩ []).2.session :=
    computer_download attempt.now (host.turned attempt) host.files (some cache)
  rw [hsession]
  -- the download has the fault of its dump, and that is not one that leaves something
  rcases hleft with hidle | ⟨fault, hfault, hleaves⟩
  · exact hidle
  · exact absurd hleaves (hclears.fault fault (result_of_dump_error hfault (some cache)))

theorem after_idle (hidle : host.session.link.outgoing = [])
    (hfits : (memoryOf host.session.link.dives).length < 2 ^ 32 - 4) {attempts : List Attempt}
    (hclear : host.AllClear cache attempts) :
    (host.after cache attempts).session.link.outgoing = [] := by
  induction attempts generalizing host with
  | nil => exact hidle
  | cons attempt others ih =>
    obtain ⟨hfirst, hothers⟩ := hclear
    have hsame : Same host.session.link (host.tried cache attempt).session.link :=
      tried_same ⟨rfl, rfl, rfl⟩ attempt
    -- the log is the same as before, and so is the size of its memory
    apply ih (tried_idle hidle hfits hfirst) ?_ hothers
    rw [hsame.dives]
    exact hfits

/-- An attempt whose dump comes in. -/
theorem attempt_of_dump (cache : FingerprintCache) (attempt : Attempt) {dives : List Dive}
    {info : DeviceInfo} {clock : ClockCalibration}
    (hresult : ((host.turned attempt).dump ⟨attempt.now, host.files⟩ []).1 = .ok ())
    (hall : Dive.all ((host.turned attempt).dump ⟨attempt.now, host.files⟩ []).2.buffer =
      (dives, none))
    (hinfo : ((host.turned attempt).dump ⟨attempt.now, host.files⟩ []).2.session.info = some info)
    (hclock : ((host.turned attempt).dump ⟨attempt.now, host.files⟩ []).2.session.clock =
      some clock) (hordinary : clock.systime.Ordinary) :
    (∃ rows, (host.attempt cache attempt).result = .ok rows) ∧
      (host.attempt cache attempt).computer.info = some info ∧
      (host.attempt cache attempt).files =
        (rememberNewest (some cache) (some info) dives host.files).2 := by
  obtain ⟨rows, hlisted⟩ := exists_timed hordinary (rowsOf dives)
  have hchoose : chooseFingerprint none (host.turned attempt) = (.ok (), host.turned attempt) := rfl
  obtain ⟨hdone, hcomputer, hfiles⟩ :=
    download_of_dump hchoose hresult hall hinfo hclock hlisted (some cache)
  exact ⟨⟨rows, hdone⟩, (congrArg Session.info hcomputer).trans hinfo, hfiles rfl⟩

/-! ## §4 Attributions -/

/-- What an attempt leaves that starts with nothing left to be sent. -/
theorem attempt_attributed (cache : FingerprintCache) (hidle : host.session.link.outgoing = [])
    (hserial : host.session.link.serial = computer.serial)
    (hmodel : host.session.link.model = computer.model) (attempt : Attempt) :
    ((∃ rows, (host.attempt cache attempt).result = .ok rows) →
        (host.attempt cache attempt).computer.info =
          some ⟨UInt32.ofNat computer.model.toNat, 0, computer.serial⟩) ∧
      ((host.attempt cache attempt).files = host.files ∨
        ∃ fingerprint, (host.attempt cache attempt).files =
          ((cache.save computer.serial fingerprint : StateM Files _).run host.files).2) := by
  cases hdump : ((host.turned attempt).dump ⟨attempt.now, host.files⟩ []).1 with
  | error fault =>
    -- a download whose dump fails has the same fault and writes nothing
    have hresult : (host.attempt cache attempt).result = .error (.device fault) :=
      result_of_dump_error hdump (some cache)
    refine ⟨?_, .inl (files_of_download_error hresult)⟩
    rintro ⟨rows, hok⟩
    rw [hresult] at hok
    cases hok
  | ok =>
    obtain ⟨hinfo, _⟩ := Session.answers_of_faulty (attentive_turned hidle attempt) hdump
    have hcomputer : (host.attempt cache attempt).computer.info =
        some ⟨UInt32.ofNat host.session.link.model.toNat, 0, host.session.link.serial⟩ := by
      rw [Host.attempt, computer_download]
      exact hinfo
    rw [hserial, hmodel] at hcomputer
    refine ⟨fun _ => hcomputer, ?_⟩
    rcases files_of_download attempt.now (host.turned attempt) host.files cache with
      hfiles | ⟨info, fingerprint, hknown, hfiles⟩
    · exact .inl hfiles
    · -- the computer that is known is this one
      obtain rfl := Option.some.inj (hknown.symm.trans hcomputer)
      exact .inr ⟨fingerprint, hfiles⟩

/-- What is saved for a computer is not looked up for another one. -/
theorem load_of_saved {files later : Files} {memory : UInt32 → Option Fingerprint}
    {serial other : UInt32} (hremembers : cache.Remembers files memory) (hne : other ≠ serial)
    (h : later = files ∨ ∃ fingerprint,
      later = ((cache.save serial fingerprint : StateM Files _).run files).2) :
    ((cache.load other : StateM Files _).run later).1 = .ok (memory other) := by
  rcases h with rfl | ⟨fingerprint, rfl⟩
  · rw [hremembers.run_load]
  · obtain ⟨saved, hrun, hsaved⟩ := hremembers.run_save serial fingerprint
    rw [hrun, hsaved.run_load, Function.update_of_ne hne]

/-- **A download behind any attempts is attributed right if the queue is empty.** Whatever attempts
were made in the session and whatever was wrong in each of them: a download that starts with nothing
left to be sent knows the computer's own identity if it succeeds, and whether it succeeds or fails
it writes nothing but a fingerprint for this computer, so that the folder keeps what it remembers of
others. There is nothing left to be sent if there was nothing at the start and no attempt fell short
of a report, found another size announced or was answered a size that was set. -/
theorem attempts_attributed (computer : Emulated) (cache : FingerprintCache) (files : Files)
    (attempts : List Attempt) (next : Attempt) :
    let before := (Host.start computer cache files).after cache attempts
    let done := before.attempt cache next
    (before.session.link.outgoing = [] →
      ((∃ rows, done.result = .ok rows) →
        done.computer.info = some ⟨UInt32.ofNat computer.model.toNat, 0, computer.serial⟩) ∧
      (done.files = before.files ∨ ∃ fingerprint, done.files =
        ((cache.save computer.serial fingerprint : StateM Files _).run before.files).2) ∧
      ∀ memory, cache.Remembers before.files memory → ∀ other, other ≠ computer.serial →
        ((cache.load other : StateM Files _).run done.files).1 = .ok (memory other)) ∧
    (computer.outgoing = [] → (memoryOf computer.dives).length < 2 ^ 32 - 4 →
      (Host.start computer cache files).AllClear cache attempts →
      before.session.link.outgoing = []) := by
  intro before done
  have hstart : Same computer (Host.start computer cache files).session.link := ⟨rfl, rfl, rfl⟩
  have hsame : Same computer before.session.link := after_same hstart attempts
  refine ⟨?_, ?_⟩
  · intro hidle
    obtain ⟨hinfo, hfiles⟩ :=
      attempt_attributed cache hidle hsame.serial hsame.model next
    refine ⟨hinfo, hfiles, ?_⟩
    intro memory hremembers other hne
    exact load_of_saved hremembers hne hfiles
  · intro hidle hfits hclear
    exact after_idle hidle hfits hclear

/-- A computer with a dive. -/
def single : Host := .start { dives := [(1, [])] } cacheFolder (.startingAt [])

/-- Nothing is wrong. -/
def sound : Attempt where
  knobs := ⟨none, none, 63, false, none, none⟩
  now := noon
  chunk_pos := by decide
  chunk_lt := by decide

/-- The question for the serial number is refused. -/
def refused : Attempt where
  knobs := { sound.knobs with failWriteOn := some Opcode.serial.byte }
  now := noon
  chunk_pos := by decide
  chunk_lt := by decide

/-- The computer behind one answer, with nothing left to send. -/
def rested : Emulated := { dives := [(1, [])], commands := [[0x10]] }

theorem healthy_rested (commands : List Bytes) (reads : Nat) :
    (rested.heard commands reads).Healthy := by
  have hrested : rested.Healthy := ⟨by decide, by decide, rfl, rfl, rfl, rfl⟩
  exact hrested.of_atRest_eq (Emulated.atRest_heard rested commands reads)

theorem memoryAfter_rested (commands : List Bytes) (reads : Nat) :
    (rested.heard commands reads).memoryAfter Fingerprint.none.timestamp = Dive.record 1 [] := by
  show rested.memoryAfter 0 = _
  cbv

/-- Helper: an attempt whose dump brings that dive. -/
theorem sound_of_record {info : DeviceInfo} {devtime : UInt32}
    (hresult : ((host.turned sound).dump ⟨noon, host.files⟩ []).1 = .ok ())
    (hbuffer : ((host.turned sound).dump ⟨noon, host.files⟩ []).2.buffer = Dive.record 1 [])
    (hinfo : ((host.turned sound).dump ⟨noon, host.files⟩ []).2.session.info = some info)
    (hclock : ((host.turned sound).dump ⟨noon, host.files⟩ []).2.session.clock =
      some ⟨devtime, noon⟩) (hremembers : cache.Remembers host.files fun _ => none) :
    (∃ rows, (host.attempt cache sound).result = .ok rows) ∧
      (host.attempt cache sound).computer.info = some info ∧
      ((cache.load info.serial : StateM Files _).run (host.attempt cache sound).files).1 =
        .ok (some ⟨1⟩) := by
  have hall : Dive.all ((host.turned sound).dump ⟨noon, host.files⟩ []).2.buffer =
      ([⟨0, Dive.record 1 [], [1, 0, 0, 0]⟩], none) := by
    rw [hbuffer]
    cbv
  have hordinary : noon.Ordinary := ⟨by decide, by decide⟩
  obtain ⟨hrows, hknown, hwritten⟩ :=
    attempt_of_dump cache sound hresult hall hinfo hclock hordinary
  -- what is written is the fingerprint of the dive
  obtain ⟨later, hrun, hlater⟩ := hremembers.run_save info.serial ⟨1⟩
  have hfingerprint : Fingerprint.ofDive ⟨0, Dive.record 1 [], [1, 0, 0, 0]⟩ = ⟨1⟩ := by decide
  have hwritten : (host.attempt cache sound).files = later := by
    rw [hwritten]
    simp only [rememberNewest, hfingerprint, hrun]
  rw [hwritten, hlater.run_load, Function.update_self]
  exact ⟨hrows, hknown, rfl⟩

theorem sound_of_rested {commands : List Bytes} {reads : Nat}
    (hlink : (host.turned sound).link = rested.heard commands reads)
    (hcache : host.session.cache = some cache) (hpinned : host.session.pinned = false)
    (hremembers : cache.Remembers host.files fun _ => none) :
    ∃ rows, (host.attempt cache sound).result = .ok rows := by
  have hmemory := memoryAfter_rested commands reads
  obtain ⟨hresult, hbuffer, _, hinfo, hclock⟩ :=
    (healthy_rested commands reads).dump ⟨noon, host.files⟩ (host.turned sound) [] .none hlink
      (cursorFor_of_remembers hcache hpinned hremembers _) rfl (by rw [hmemory]; decide)
  exact (sound_of_record hresult (hbuffer.trans hmemory) hinfo hclock hremembers).1

/-- A download behind an attempt that was refused. -/
theorem attempts_attributed_refused :
    (single.attempt cacheFolder refused).result = .error (.device (.link "device unplugged")) ∧
      (single.after cacheFolder [refused]).session.link.outgoing = [] ∧
      (∃ rows, ((single.after cacheFolder [refused]).attempt cacheFolder sound).result =
        .ok rows) ∧
      ((single.after cacheFolder [refused]).attempt cacheFolder sound).computer.info =
        some ⟨50, 0, 12345678⟩ ∧
      ((cacheFolder.load 1 : StateM Files _).run
        ((single.after cacheFolder [refused]).attempt cacheFolder sound).files).1 = .ok none := by
  have hfailed : (single.attempt cacheFolder refused).result =
      .error (.device (.link "device unplugged")) := by cbv
  have hlink : ((single.after cacheFolder [refused]).turned sound).link = rested.heard [] 1 := by
    cbv
  have hcache : (single.after cacheFolder [refused]).session.cache = some cacheFolder := by cbv
  have hpinned : (single.after cacheFolder [refused]).session.pinned = false := by cbv
  have hfiles : (single.after cacheFolder [refused]).files = single.files := by cbv
  have hremembers : cacheFolder.Remembers (single.after cacheFolder [refused]).files
      fun _ => none := by
    rw [hfiles]
    exact .inl ⟨fresh_cacheFolder, rfl⟩
  -- a refusal leaves nothing to be sent
  have hclear : single.AllClear cacheFolder [refused] := by
    refine ⟨⟨rfl, ?_⟩, trivial⟩
    intro fault hfault hleaves
    rw [hfailed] at hfault
    cases hfault
    cases hleaves
  obtain ⟨hattributed, hidle⟩ :=
    attempts_attributed { dives := [(1, [])] } cacheFolder (.startingAt []) [refused] sound
  have hidle := hidle rfl (by decide) hclear
  obtain ⟨hinfo, _, hothers⟩ := hattributed hidle
  have hrows := sound_of_rested hlink hcache hpinned hremembers
  exact ⟨hfailed, hidle, hrows, hinfo hrows, hothers _ hremembers 1 (by decide)⟩

/-! ## §5 A queue that is not empty -/

/-- The first report falls short. -/
def cutOff : Attempt where
  knobs := { sound.knobs with shortReadAfter := some 0 }
  now := noon
  chunk_pos := by decide
  chunk_lt := by decide

/-- The computer behind that attempt: the answer that fell short is still to be sent. -/
def stale : Emulated := { rested with outgoing := [[0x32]] }

/-- Helper: a transfer without a fault is an answer. -/
theorem answered_of_transfer {σ : Type} [ReportLink σ] {link rest : σ} {command answer : Bytes}
    {size : Nat} {truncations : List Truncation}
    (h : transfer link command size = ⟨rest, answer, none, truncations⟩) :
    Answered link command size answer rest := by
  have hspec := transfer_spec link command size
  rw [h] at hspec
  cases hspec with
  | answered hanswered hfault => exact hanswered
  | unanswered fault hunanswered hfault => cases hfault

/-- The stale answer is taken for the model, and the model for the front of the serial number. From
then on answers are right. -/
theorem talks_stale : ∃ reads,
    Talks stale Session.probes
      [[0x32], Word.toBytes 0xBC614E32, Word.toBytes rested.devtime]
      (rested.heard [[0x10], [0x14], [0x1A]] reads) := by
  -- the second question takes one report more than its answer has, so nothing is left behind it
  have hmodel : transfer stale Opcode.model.bare 1 =
      ⟨{ stale with commands := [[0x10], [0x10]], reportsRead := 1 }, [0x32], none, []⟩ := by cbv
  have hserial : transfer { stale with commands := [[0x10], [0x10]], reportsRead := 1 }
      Opcode.serial.bare 4 =
      ⟨rested.heard [[0x10], [0x14]] 3, Word.toBytes 0xBC614E32, none, [⟨4, 3⟩]⟩ := by cbv
  obtain ⟨reads, hdevtime⟩ := (healthy_rested [[0x10], [0x14]] 3).answered_alone rfl
    (List.cons_ne_nil _ _) (by decide) (Emulated.answer_deviceTime _)
  rw [Emulated.heard_heard] at hdevtime
  exact ⟨reads, .cons (answered_of_transfer hmodel)
    (.cons (answered_of_transfer hserial) (.cons hdevtime (.nil _)))⟩

/-- What comes of the stale answer: the folder is asked for another computer, does not know it and
remembers it from then on. -/
theorem attempt_stale (hlink : (host.turned sound).link = stale)
    (hcache : host.session.cache = some cache) (hpinned : host.session.pinned = false)
    (hremembers : cache.Remembers host.files fun _ => none) :
    (∃ rows, (host.attempt cache sound).result = .ok rows) ∧
      (host.attempt cache sound).computer.info = some ⟨50, 0, 0xBC614E32⟩ ∧
      ((cache.load 0xBC614E32 : StateM Files _).run (host.attempt cache sound).files).1 =
        .ok (some ⟨1⟩) := by
  have hcursor : (host.turned sound).cursorFor host.files (Word.front (Word.toBytes 0xBC614E32)) =
      .none := cursorFor_of_remembers hcache hpinned hremembers _
  obtain ⟨reads, htalks⟩ := talks_stale
  have hmemory := memoryAfter_rested [[0x10], [0x14], [0x1A]] reads
  rw [← hlink] at htalks
  obtain ⟨hresult, hbuffer, _, hinfo, hclock⟩ :=
    (healthy_rested [[0x10], [0x14], [0x1A]] reads).dump_of_talks rfl ⟨noon, host.files⟩
      htalks hcursor (by rw [hmemory]; decide) []
  rw [Word.front_toBytes_self] at hinfo
  exact sound_of_record hresult (hbuffer.trans hmemory) hinfo hclock hremembers

/-- **A download behind an attempt that left something in the queue.** It succeeds, but the session
takes the computer for another one, and the fingerprint is remembered for that one. -/
theorem attempt_misattributed :
    (single.after cacheFolder [cutOff]).session.link.outgoing = [[0x32]] ∧
      single.session.link.serial = 12345678 ∧
      (∃ rows, ((single.after cacheFolder [cutOff]).attempt cacheFolder sound).result = .ok rows) ∧
      ((single.after cacheFolder [cutOff]).attempt cacheFolder sound).computer.info =
        some ⟨50, 0, 0xBC614E32⟩ ∧
      ((cacheFolder.load 0xBC614E32 : StateM Files _).run single.files).1 = .ok none ∧
      ((cacheFolder.load 0xBC614E32 : StateM Files _).run
        ((single.after cacheFolder [cutOff]).attempt cacheFolder sound).files).1 =
          .ok (some ⟨1⟩) := by
  have hqueue : (single.after cacheFolder [cutOff]).session.link.outgoing = [[0x32]] := by cbv
  have hlink : ((single.after cacheFolder [cutOff]).turned sound).link = stale := by cbv
  have hcache : (single.after cacheFolder [cutOff]).session.cache = some cacheFolder := by cbv
  have hpinned : (single.after cacheFolder [cutOff]).session.pinned = false := by cbv
  have hfiles : (single.after cacheFolder [cutOff]).files = single.files := by cbv
  have hremembers : cacheFolder.Remembers single.files fun _ => none :=
    .inl ⟨fresh_cacheFolder, rfl⟩
  obtain ⟨hrows, hknown, hloaded⟩ :=
    attempt_stale hlink hcache hpinned (by rw [hfiles]; exact hremembers)
  refine ⟨hqueue, rfl, hrows, hknown, ?_, hloaded⟩
  rw [hremembers.run_load]

end Host

end DiveLink
