import DiveLink.Proofs.Emulation
import DiveLink.Proofs.Newer
import DiveLink.Proofs.Times
import Mathlib

/-!
# Talking to a faulty computer

An emulated computer can be made to announce wrong sizes, to fall short of a report and to refuse a
command, all at once. If it has nothing left to send before a question, it still does not give a
wrong answer to it: it gives the right one or none.

1. `Emulated.Sent` and `Emulated.Took` list what a read and a write can do.
2. `Emulated.steady` is a computer whose reports never fall short. `Reads.steady` says that up to
   its first fault every computer sends what the steady one sends.
3. `Gathers.sending` and `Reads.flatten_prefix` say what came in of a queue,
   `BreaksOff.idle_or_short` what is left of it.
4. `Attentive` is a computer with nothing left to send, and any faults. `Attentive.answered` is a
   question to it, `Attentive.unanswered` one that fails, `Attentive.talks_probes`,
   `Attentive.sized` and `Attentive.delivered` are those of a dump.
5. `dump_of_faulty` is what this says about a dump that succeeds, and about sizes that do not fit.
-/

namespace DiveLink

open Dive (memoryOf)

namespace Emulated

/-! ## §1 Reads and writes -/

/-- What a read can give, and the computer behind it. -/
inductive Sent (computer : Emulated) : Except Fault Reading × Emulated → Prop where
  /-- There is nothing to send. -/
  | nothing : computer.outgoing = [] →
      Sent computer (.error (.link "device has nothing to send"), computer)
  /-- The report falls short. -/
  | short {piece : Bytes} {waiting : List Bytes} : computer.outgoing = piece :: waiting →
      Sent computer (.ok ⟨reportSize / 2, .ofFront []⟩, computer)
  /-- A report without payload comes first. -/
  | empty {piece : Bytes} {waiting : List Bytes} : computer.outgoing = piece :: waiting →
      computer.emptyReports ∧ computer.reportsRead % 2 = 0 →
      Sent computer (.ok (.whole (.carrying [])),
        computer.sending (piece :: waiting) (computer.reportsRead + 1))
  /-- The next piece is sent. -/
  | piece {piece : Bytes} {waiting : List Bytes} : computer.outgoing = piece :: waiting →
      ¬ (computer.emptyReports ∧ computer.reportsRead % 2 = 0) →
      Sent computer (.ok (.whole (.carrying piece)),
        computer.sending waiting (computer.reportsRead + 1))

theorem read_sent (computer : Emulated) : Sent computer (ReportLink.read computer) := by
  show Sent computer computer.read
  unfold read
  cases hqueue : computer.outgoing with
  | nil => exact .nothing hqueue
  | cons piece waiting =>
    dsimp only
    split
    · exact .short hqueue
    · split
      case isTrue hturn => exact hqueue ▸ .empty hqueue hturn
      case isFalse hturn => exact .piece hqueue hturn

/-- What a write of a command can give, and the computer behind it. -/
inductive Took (computer : Emulated) (command : Bytes) : Except Fault Nat × Emulated → Prop where
  | refused : Took computer command (.error (.link "device unplugged"), computer)
  | taken : Took computer command (.ok (command.length + 1), computer.took command)

theorem write_took (computer : Emulated) {command : Bytes} (hfits : command.length ≤ commandLimit) :
    Took computer command
      (ReportLink.write computer (UInt8.ofNat command.length :: command)) := by
  show Took computer command (computer.write _)
  unfold write
  simp only [command_of_packet hfits]
  split
  · exact .refused
  · exact .taken

/-! ## §2 Up to the first fault -/

/-- The computer, but no report of it falls short. -/
def steady (computer : Emulated) : Emulated := { computer with shortReadAfter := none }

theorem eq_of_steady {computer other : Emulated} (hsteady : computer.steady = other.steady)
    (hshort : computer.shortReadAfter = other.shortReadAfter) : computer = other := by
  cases computer
  cases other
  simp only [steady, mk.injEq] at hsteady ⊢
  simp_all

/-- A read that gives a payload is not the one that falls short. -/
theorem read_steady {computer mid : Emulated} {reading : Reading} {payload : Bytes}
    (hread : ReportLink.read computer = (.ok reading, mid))
    (hpayload : reading.payload = .ok payload) :
    ReportLink.read computer.steady = (.ok reading, mid.steady) := by
  have hsent := read_sent computer
  rw [hread] at hsent
  cases hsent with
  | short hqueue => cases hpayload
  | empty hqueue hturn => exact read_empty hqueue rfl hturn
  | piece hqueue hturn => exact read_piece hqueue rfl hturn

end Emulated

/-- Up to its first fault a computer sends what the steady one sends. -/
theorem Reads.steady {computer rest : Emulated} {payloads : List Bytes}
    (h : Reads computer payloads rest) : Reads computer.steady payloads rest.steady := by
  induction h with
  | nil computer => exact .nil computer.steady
  | cons hread hpayload hrest ih => exact .cons (Emulated.read_steady hread hpayload) hpayload ih

/-! ## §3 What comes in of a queue -/

section

variable {computer rest : Emulated}

/-- A computer with nothing left to send sends nothing. -/
theorem Reads.eq_nil_of_idle {payloads : List Bytes} (h : Reads computer payloads rest)
    (hidle : computer.outgoing = []) : payloads = [] := by
  cases h with
  | nil computer => rfl
  | cons hread hpayload hrest =>
    have hsent := computer.read_sent
    rw [hread] at hsent
    cases hsent <;> simp_all

/-- An answer that is as long as a row of reports at the front of the queue is what this row
carries, and what is behind the row is still to be sent. -/
theorem Gathers.sending {front back payloads : List Bytes}
    (h : Gathers computer front.flatten.length payloads rest)
    (hfront : ∀ piece ∈ front, piece ≠ [] ∧ piece.length < reportSize)
    (hqueue : computer.outgoing = front ++ back) :
    payloads.flatten = front.flatten ∧ ∃ reads, rest = computer.sending back reads := by
  -- the steady computer sends the row, and there is one run of reports that brings it
  obtain ⟨found, reads, hflatten, hgathers⟩ :=
    Emulated.gathers_queue front back hfront computer.steady hqueue rfl
  have hsame : Gathers computer.steady front.flatten.length payloads rest.steady :=
    ⟨h.reads.steady, h.size_le, h.least⟩
  obtain ⟨rfl, hsteady⟩ := hsame.unique hgathers
  -- and no read changes when a report falls short
  have hkept : rest.atRest = computer.atRest :=
    (Emulated.atRest_lasting computer).reads h.reads rfl
  have hshort : rest.atRest.shortReadAfter = computer.atRest.shortReadAfter :=
    congrArg Emulated.shortReadAfter hkept
  exact ⟨hflatten, reads, Emulated.eq_of_steady hsteady hshort⟩

/-- What comes in is the front of what was queued. -/
theorem Reads.flatten_prefix {payloads : List Bytes} (h : Reads computer payloads rest)
    (hpieces : ∀ piece ∈ computer.outgoing, piece ≠ [] ∧ piece.length < reportSize) :
    payloads.flatten <+: computer.outgoing.flatten := by
  obtain ⟨found, reads, hflatten, hgathers⟩ := Emulated.gathers_queue computer.outgoing [] hpieces
    computer.steady (List.append_nil _).symm rfl
  rw [← hflatten]
  rcases hgathers.reads.comparable h.steady with ⟨more, rfl, hmore⟩ | ⟨more, rfl, hmore⟩
  · -- behind the whole queue nothing can be read
    obtain rfl := hmore.eq_nil_of_idle rfl
    simp
  · rw [List.flatten_append]
    exact List.prefix_append _ _

/-- Reads queue nothing. -/
theorem Reads.mem_outgoing {payloads : List Bytes} (h : Reads computer payloads rest)
    {piece : Bytes} (hpiece : piece ∈ rest.outgoing) : piece ∈ computer.outgoing := by
  -- on the reads, of which each takes the first piece off or leaves the queue as it is
  induction h with
  | nil computer => exact hpiece
  | @cons computer mid rest reading payload payloads hread hpayload hrest ih =>
    have hmid := ih hpiece
    have hsent := computer.read_sent
    rw [hread] at hsent
    cases hsent with
    | short hqueue => exact hmid
    | empty hqueue hturn => exact hqueue ▸ hmid
    | piece hqueue hturn => exact hqueue ▸ List.mem_cons_of_mem _ hmid

/-- The fault of a report that falls short. -/
def shortReport : Fault := .incompleteTransfer reportSize (reportSize / 2)

/-- A read that gives no payload finds nothing to send, or a report that falls short. -/
theorem Breaks.idle_or_short {fault : Fault} (h : Breaks computer fault rest)
    (hpieces : ∀ piece ∈ computer.outgoing, piece.length < reportSize) :
    rest.outgoing = [] ∨ fault = shortReport := by
  have hsent := computer.read_sent
  cases h with
  | link hread =>
    rw [hread] at hsent
    cases hsent with
    | nothing hidle => exact .inl hidle
  | report hread hfault =>
    rw [hread] at hsent
    -- a report that is whole has its payload
    cases hsent with
    | short hqueue => exact .inr (Except.error.inj hfault).symm
    | empty hqueue hturn =>
      rw [Emulated.payload_carrying (by decide)] at hfault
      cases hfault
    | piece hqueue hturn =>
      rw [hqueue] at hpieces
      rw [Emulated.payload_carrying (hpieces _ List.mem_cons_self)] at hfault
      cases hfault

theorem BreaksOff.idle_or_short {size : Nat} {payloads : List Bytes} {fault : Fault}
    (h : BreaksOff computer size payloads fault rest)
    (hpieces : ∀ piece ∈ computer.outgoing, piece.length < reportSize) :
    rest.outgoing = [] ∨ fault = shortReport := by
  obtain ⟨last, hreads, hbreaks⟩ := h.reads
  apply hbreaks.idle_or_short
  intro piece hpiece
  exact hpieces piece (hreads.mem_outgoing hpiece)

/-- A command that goes out is taken. -/
theorem Sends.eq_took {command : Bytes} (h : Sends computer command rest) :
    rest = computer.took command := by
  obtain ⟨hfits, hwrite⟩ := h
  have htook := computer.write_took hfits
  rw [hwrite] at htook
  cases htook
  rfl

/-- A command that does not go out is refused, and the computer stays as it was. -/
theorem Unsent.eq_self {command : Bytes} {fault : Fault}
    (h : Unsent computer command fault rest) : rest = computer := by
  cases h with
  | tooLong hlong => rfl
  | refused hfits hwrite =>
    have htook := computer.write_took hfits
    rw [hwrite] at htook
    cases htook
    rfl
  | short hfits hwrite hshort =>
    have htook := computer.write_took hfits
    rw [hwrite] at htook
    cases htook
    exact absurd rfl hshort

end

namespace Emulated

/-! ## §4 Questions -/

theorem length_memoryAfter_le (computer : Emulated) (timestamp : UInt32) :
    (computer.memoryAfter timestamp).length ≤ (memoryOf computer.dives).length :=
  length_memoryOf_newer_le timestamp computer.dives

/-- The answer is right, unless another one was set. -/
theorem toNat_sizeAnswered {computer : Emulated} (hright : computer.lengthOverride = none)
    (hfits : (memoryOf computer.dives).length < 2 ^ 32 - 4) (cursor : Fingerprint) :
    (computer.sizeAnswered cursor).toNat = (computer.memoryAfter cursor.timestamp).length := by
  have hle := computer.length_memoryAfter_le cursor.timestamp
  unfold sizeAnswered
  rw [hright, Option.getD_none, UInt32.toNat_ofNat', Nat.mod_eq_of_lt (by omega)]

/-- The announcement fits the dives, unless another one was set. -/
theorem sizeAnnounced_cases (computer : Emulated) (cursor : Fingerprint)
    (hfits : (memoryOf computer.dives).length < 2 ^ 32 - 4) :
    computer.totalOverride = some (computer.sizeAnnounced cursor) ∨
      (computer.sizeAnnounced cursor).toNat =
        (computer.memoryAfter cursor.timestamp).length + 4 := by
  have hle := computer.length_memoryAfter_le cursor.timestamp
  unfold sizeAnnounced
  cases computer.totalOverride with
  | some total => exact .inl rfl
  | none =>
    right
    exact toNat_add_four (by omega)

theorem outgoing_queue (computer : Emulated) (answer : Bytes) :
    (computer.queue answer).outgoing =
      computer.outgoing ++ pieces (computer.chunk - 1) answer := rfl

/-- A computer with nothing left to send, whose reports are of a size that reports can have. It may
have any faults. -/
structure Attentive (computer : Emulated) : Prop where
  chunk_pos : 0 < computer.chunk
  chunk_lt : computer.chunk < reportSize
  idle : computer.outgoing = []

namespace Attentive

variable {computer rest : Emulated} (h : computer.Attentive)

include h

theorem heard (commands : List Bytes) (reads : Nat) : (computer.heard commands reads).Attentive :=
  ⟨h.chunk_pos, h.chunk_lt, h.idle⟩

theorem mem_queued {answer piece : Bytes} (hpiece : piece ∈ pieces (computer.chunk - 1) answer) :
    piece ≠ [] ∧ piece.length < reportSize :=
  mem_pieces_of_chunk h.chunk_pos h.chunk_lt hpiece

/-- What is queued behind a command: the answer to it, and what comes after the answer. -/
theorem outgoing_took {command answer more : Bytes}
    (hqueued : computer.answer command = (computer.queue answer).queue more) :
    (computer.took command).outgoing =
      pieces (computer.chunk - 1) answer ++ pieces (computer.chunk - 1) more := by
  simp [took, hqueued, queue, h.idle]

/-- What is queued behind commands that were heard. -/
theorem outgoing_heard (commands : List Bytes) (reads : Nat) (answer : Bytes) :
    ((computer.heard commands reads).queue answer).outgoing =
      pieces (computer.chunk - 1) answer := by
  rw [outgoing_queue, Emulated.heard, h.idle, List.nil_append]

/-- **A question that is answered is answered right**, and all of the answer is read. -/
theorem answered {command answer more found : Bytes}
    (hqueued : computer.answer command = (computer.queue answer).queue more)
    (hanswered : Answered computer command answer.length found rest) :
    found = answer ∧ ∃ reads, rest = (computer.heard [command] reads).queue more := by
  obtain ⟨mid, payloads, hsends, hgathers, rfl⟩ := hanswered.spec
  obtain rfl := hsends.eq_took
  -- the answer is as long as the pieces in which it was queued
  have hlength := congrArg List.length (flatten_pieces (computer.chunk - 1) answer)
  rw [← hlength] at hgathers
  obtain ⟨hflatten, reads, rfl⟩ :=
    hgathers.sending (fun _ => h.mem_queued) (h.outgoing_took hqueued)
  refine ⟨?_, reads, ?_⟩
  · rw [hflatten, flatten_pieces, List.take_length]
  · simp [took, hqueued, queue, h.idle, sending, Emulated.heard]

/-- Helper: a question with nothing queued behind its answer. -/
theorem answered_alone {command answer found : Bytes}
    (hqueued : computer.answer command = computer.queue answer)
    (hanswered : Answered computer command answer.length found rest) :
    found = answer ∧ ∃ reads, rest = computer.heard [command] reads := by
  have hnothing : computer.answer command = (computer.queue answer).queue [] := by
    rw [hqueued, queue_nil]
  obtain ⟨hfound, reads, hrest⟩ := h.answered hnothing hanswered
  rw [queue_nil] at hrest
  exact ⟨hfound, reads, hrest⟩

/-- A question that is not answered leaves nothing to be sent, unless a report falls short. -/
theorem unanswered {command answer more : Bytes} {size : Nat} {fault : Fault}
    (hqueued : computer.answer command = (computer.queue answer).queue more)
    (hunanswered : Unanswered computer command size fault rest) :
    rest.outgoing = [] ∨ fault = shortReport := by
  cases hunanswered with
  | unsent hunsent =>
    obtain rfl := hunsent.eq_self
    exact .inl h.idle
  | brokenOff hsends hbreaks =>
    obtain rfl := hsends.eq_took
    apply hbreaks.idle_or_short
    -- there are only the pieces of the answer and of what comes after it
    intro piece hpiece
    rw [h.outgoing_took hqueued] at hpiece
    rcases List.mem_append.mp hpiece with hpiece | hpiece
    · exact (h.mem_queued hpiece).2
    · exact (h.mem_queued hpiece).2

/-- The computer tells who it is, if it tells anything. -/
theorem talks_probes {answers : List Bytes} (htalks : Talks computer Session.probes answers rest) :
    answers = [[computer.model], Word.toBytes computer.serial, Word.toBytes computer.devtime] ∧
      ∃ reads, rest = computer.heard
        [Opcode.model.bare, Opcode.serial.bare, Opcode.deviceTime.bare] reads := by
  -- each answer leaves the computer attentive to the next question
  obtain _ | ⟨hmodel, htalks⟩ := htalks
  obtain ⟨rfl, reads₁, rfl⟩ := h.answered_alone (answer_model computer) hmodel
  obtain _ | ⟨hserial, htalks⟩ := htalks
  obtain ⟨rfl, reads₂, rfl⟩ := (h.heard _ reads₁).answered_alone (answer_serial _) hserial
  obtain _ | ⟨hdevtime, htalks⟩ := htalks
  obtain ⟨rfl, reads₃, rfl⟩ :=
    ((h.heard _ reads₁).heard _ reads₂).answered_alone (answer_deviceTime _) hdevtime
  cases htalks
  refine ⟨rfl, reads₃, ?_⟩
  rw [heard_heard, heard_heard]
  rfl

/-- The size that is answered is the one that the computer was made to answer. -/
theorem sized {cursor : Fingerprint} {size : Bytes}
    (hsize : Answered computer (Opcode.dataLength.after cursor) 4 size rest) :
    Word.front size = computer.sizeAnswered cursor ∧
      ∃ reads, rest = computer.heard [Opcode.dataLength.after cursor] reads := by
  obtain ⟨rfl, hrest⟩ := h.answered_alone (answer_dataLength computer cursor) hsize
  exact ⟨Word.front_toBytes_self _, hrest⟩

/-- Dives that are delivered are the front of the memory, and the size that was announced fits
them. -/
theorem delivered {cursor : Fingerprint} {length : Nat} {buffer : Bytes}
    (hdelivered : Session.Delivered computer cursor length buffer rest) :
    buffer <+: computer.memoryAfter cursor.timestamp ∧
      (computer.sizeAnnounced cursor).toNat = length + 4 := by
  obtain ⟨total, start, payloads, htotal, hmatch, hgathers, rfl⟩ := hdelivered
  obtain ⟨rfl, reads, rfl⟩ := h.answered (answer_data computer cursor) htotal
  -- behind the announcement the memory is all that is queued
  have hfront := hgathers.reads.flatten_prefix (by
    intro piece hpiece
    rw [h.outgoing_heard] at hpiece
    exact h.mem_queued hpiece)
  rw [h.outgoing_heard, flatten_pieces] at hfront
  refine ⟨(List.take_prefix _ _).trans hfront, ?_⟩
  rw [← hmatch]
  exact congrArg UInt32.toNat (Word.front_toBytes_self _).symm

/-- What is supplied is the front of the memory, of the size that was answered. A size that does not
fit the memory is only supplied with an announcement that does not fit it either. -/
theorem supplied {cursor : Fingerprint} {length : UInt32} {buffer : Bytes}
    (hsupplied : Session.Supplied computer cursor length buffer rest) :
    buffer <+: computer.memoryAfter cursor.timestamp ∧ buffer.length = length.toNat ∧
      (length ≠ 0 → (computer.sizeAnnounced cursor).toNat = length.toNat + 4) := by
  rcases hsupplied with ⟨rfl, rfl, rfl⟩ | ⟨hne, hdelivered⟩
  · exact ⟨List.nil_prefix, rfl, fun hne => absurd rfl hne⟩
  · obtain ⟨hfront, hannounced⟩ := h.delivered hdelivered
    exact ⟨hfront, hdelivered.length_eq, fun _ => hannounced⟩

end Attentive

end Emulated

namespace Session

/-! ## §5 Dumps -/

/-- What a dump that succeeds was answered, exchange by exchange. -/
theorem answers_of_faulty {session : Session Emulated} (hattentive : session.link.Attentive)
    {around : Surroundings} {old : Bytes} (h : (session.dump around old).1 = .ok ()) :
    let computer := session.link
    let cursor := session.cursorFor around.files computer.serial
    let left := (session.dump around old).2
    left.session.info = some ⟨UInt32.ofNat computer.model.toNat, 0, computer.serial⟩ ∧
      left.session.clock = some ⟨computer.devtime, around.now⟩ ∧
      left.session.cursor = cursor ∧ left.buffer <+: computer.memoryAfter cursor.timestamp ∧
      left.buffer.length = (computer.sizeAnswered cursor).toNat ∧
      (computer.sizeAnswered cursor ≠ 0 →
        (computer.sizeAnnounced cursor).toNat = (computer.sizeAnswered cursor).toNat + 4) := by
  intro computer cursor left
  obtain ⟨mid, start, model, serial, devtime, size, htalks, hsize, hsupplied, hcursor, hinfo,
    hclock⟩ := supplied_of_dump h
  obtain ⟨hanswers, reads₁, rfl⟩ := hattentive.talks_probes htalks
  obtain ⟨rfl, rfl, rfl⟩ : model = [computer.model] ∧ serial = Word.toBytes computer.serial ∧
    devtime = Word.toBytes computer.devtime := by simpa using hanswers
  rw [Word.front_toBytes_self] at hsize hsupplied hcursor hinfo hclock
  -- the questions leave it attentive, with the same faults
  have hprobed := hattentive.heard
    [Opcode.model.bare, Opcode.serial.bare, Opcode.deviceTime.bare] reads₁
  obtain ⟨hanswered, reads₂, rfl⟩ := hprobed.sized hsize
  rw [hanswered] at hsupplied
  obtain ⟨hfront, hlength, hannounced⟩ := (hprobed.heard _ reads₂).supplied hsupplied
  exact ⟨hinfo, hclock, hcursor, hfront, hlength, hannounced⟩

/-- **A faulty computer is not taken for another one.** Whatever is wrong with a computer that has
nothing left to send, and whatever the size of its reports, a dump of it that succeeds leaves the
computer's own identity and clock and the front of its memory, of the size that it answered. Without
a wrong answer this is all of the memory. A size that does not fit the memory is found out unless
the announcement of the bulk transfer agrees with it, and a size beyond the memory always. -/
theorem dump_of_faulty {session : Session Emulated} (hattentive : session.link.Attentive)
    (hfits : (memoryOf session.link.dives).length < 2 ^ 32 - 4) (around : Surroundings)
    (old : Bytes) :
    let computer := session.link
    let cursor := session.cursorFor around.files computer.serial
    let memory := computer.memoryAfter cursor.timestamp
    let left := (session.dump around old).2
    ((session.dump around old).1 = .ok () →
      left.session.info = some ⟨UInt32.ofNat computer.model.toNat, 0, computer.serial⟩ ∧
        left.session.clock = some ⟨computer.devtime, around.now⟩ ∧
        left.session.cursor = cursor ∧ left.buffer <+: memory ∧
        left.buffer.length = (computer.sizeAnswered cursor).toNat ∧
        (computer.lengthOverride = none → left.buffer = memory)) ∧
    ∀ n, computer.lengthOverride = some n →
      (0 < n ∧ n.toNat ≠ memory.length ∧
          ∀ total, computer.totalOverride = some total → total.toNat ≠ n.toNat + 4) ∨
        memory.length < n.toNat →
      ∃ fault, (session.dump around old).1 = .error fault := by
  intro computer cursor memory left
  refine ⟨?_, ?_⟩
  · intro h
    obtain ⟨hinfo, hclock, hcursor, hfront, hlength, _⟩ := answers_of_faulty hattentive h
    refine ⟨hinfo, hclock, hcursor, hfront, hlength, ?_⟩
    intro hright
    -- a front of the same size is the whole
    have hwhole : left.buffer.length = memory.length :=
      hlength.trans (Emulated.toNat_sizeAnswered hright hfits cursor)
    exact hfront.eq_of_length hwhole
  · intro n hn hwrong
    cases hresult : (session.dump around old).1 with
    | error fault => exact ⟨fault, rfl⟩
    | ok =>
      exfalso
      obtain ⟨_, _, _, hfront, hlength, hannounced⟩ := answers_of_faulty hattentive hresult
      have hanswered : computer.sizeAnswered cursor = n := by
        rw [Emulated.sizeAnswered, hn, Option.getD_some]
      rw [hanswered] at hlength hannounced
      rcases hwrong with ⟨hpos, hne, hset⟩ | hbeyond
      · -- the announcement fits the memory, or it is the one that was set
        have hannounced := hannounced (UInt32.pos_iff_ne_zero.mp hpos)
        rcases computer.sizeAnnounced_cases cursor hfits with htotal | hright
        · exact hset _ htotal hannounced
        · have : n.toNat + 4 = memory.length + 4 := hannounced.symm.trans hright
          omega
      · have hle : left.buffer.length ≤ memory.length := hfront.length_le
        have hlength : left.buffer.length = n.toNat := hlength
        omega

/-- A computer that tells the size of its first record only, and announces it as such. It sends
reports of five bytes, and empty ones between them. -/
def cutShort : Emulated :=
  { dives := [(1, [9]), (2, [])]
    totalOverride := some 17
    lengthOverride := some 13
    chunk := 5
    emptyReports := true }

/-- A computer that promises more than it has. -/
def overstated : Emulated :=
  { cutShort with totalOverride := some 104, lengthOverride := some 100 }

/-- The first is dumped up to the size that it tells, the second one cannot be dumped. -/
theorem dump_cutShort :
    cutShort.Attentive ∧ overstated.Attentive ∧
      (memoryOf cutShort.dives).length < 2 ^ 32 - 4 ∧
      ((Session.start cutShort none).dump ⟨noon, .startingAt []⟩ []).1 = .ok () ∧
      ((Session.start cutShort none).dump ⟨noon, .startingAt []⟩ []).2.buffer <+:
        Dive.record 1 [9] ++ Dive.record 2 [] ∧
      ((Session.start cutShort none).dump ⟨noon, .startingAt []⟩ []).2.buffer.length = 13 ∧
      ((Session.start cutShort none).dump ⟨noon, .startingAt []⟩ []).2.session.info =
        some ⟨0x32, 0, 12345678⟩ ∧
      ∃ fault,
        ((Session.start overstated none).dump ⟨noon, .startingAt []⟩ []).1 = .error fault := by
  have hattentive : (Session.start cutShort none).link.Attentive :=
    ⟨by decide, by decide, rfl⟩
  have hoverstated : (Session.start overstated none).link.Attentive :=
    ⟨by decide, by decide, rfl⟩
  have hfits : (memoryOf cutShort.dives).length < 2 ^ 32 - 4 := by decide
  have hresult : ((Session.start cutShort none).dump ⟨noon, .startingAt []⟩ []).1 = .ok () := by
    cbv
  obtain ⟨hinfo, _, _, hfront, hlength, _⟩ :=
    (dump_of_faulty hattentive hfits ⟨noon, .startingAt []⟩ []).1 hresult
  have hwrong := (dump_of_faulty hoverstated hfits ⟨noon, .startingAt []⟩ []).2 100 rfl
    (.inr (by decide))
  exact ⟨hattentive, hoverstated, hfits, hresult, hfront, hlength, hinfo, hwrong⟩

end Session

end DiveLink
