import DiveLink.Link.Emulated
import DiveLink.Proofs.Ending

/-!
# Talking to an emulated computer

An emulated computer without faults that has nothing left to send answers every question, whatever
the size of its reports and whether reports without payload come between them.

1. `Emulated.atRest` is what no conversation changes.
2. `Emulated.gathers_queue` is the way of a row of reports from the computer's queue to the host.
3. `Healthy.answered` is one question, `Healthy.talks` and `Healthy.delivered` are those of a dump.
4. `Healthy.dump` puts them together.
-/

namespace DiveLink

namespace Emulated

/-! ## §1 What a conversation does not change -/

/-- The computer, without what it has to send and what it was told. -/
def atRest (computer : Emulated) : Emulated :=
  { computer with outgoing := [], reportsRead := 0, commands := [] }

@[simp] theorem atRest_queue (computer : Emulated) (answer : Bytes) :
    (computer.queue answer).atRest = computer.atRest := rfl

@[simp] theorem atRest_answer (computer : Emulated) (command : Bytes) :
    (computer.answer command).atRest = computer.atRest := by
  unfold answer
  simp only [apply_ite atRest, atRest_queue, ite_self]

theorem atRest_write (computer : Emulated) (packet : Bytes) :
    (computer.write packet).2.atRest = computer.atRest := by
  simp only [write]
  split
  · rfl
  · exact atRest_answer computer _

theorem atRest_read (computer : Emulated) : computer.read.2.atRest = computer.atRest := by
  unfold read
  split
  · rfl
  · split
    · rfl
    · split <;> rfl

theorem atRest_lasting (computer : Emulated) :
    Lasting fun link : Emulated => link.atRest = computer.atRest where
  -- reads and writes leave the computer what it is
  read link h := (atRest_read link).trans h
  write link packet h := (atRest_write link packet).trans h

/-! ## §2 From the queue to the host -/

theorem flatten_pieces (size : Nat) (data : Bytes) : (pieces size data).flatten = data := by
  fun_induction pieces size data with
  | case1 => rfl
  | case2 data hdata ih => rw [List.flatten_cons, ih, List.take_append_drop]

theorem mem_pieces {size : Nat} {data piece : Bytes} (h : piece ∈ pieces size data) :
    piece ≠ [] ∧ piece.length ≤ size + 1 := by
  fun_induction pieces size data with
  | case1 => exact absurd h List.not_mem_nil
  | case2 data hdata ih =>
    rcases List.mem_cons.mp h with rfl | hrest
    · exact ⟨by simp [hdata], List.length_take_le _ _⟩
    · exact ih hrest

/-- Pieces of a size that reports can have. -/
theorem mem_pieces_of_chunk {chunk : Nat} (hpos : 0 < chunk) (hlt : chunk < reportSize)
    {data piece : Bytes} (h : piece ∈ pieces (chunk - 1) data) :
    piece ≠ [] ∧ piece.length < reportSize := by
  obtain ⟨hne, hle⟩ := mem_pieces h
  exact ⟨hne, by omega⟩

/-- A report carries its payload to the host. -/
theorem payload_carrying {payload : Bytes} (h : payload.length < reportSize) :
    (Reading.whole (.carrying payload)).payload = .ok payload := by
  have hbytes : (Report.carrying payload).bytes = UInt8.ofNat payload.length :: payload ++
      List.replicate (reportSize - (payload.length + 1)) 0 := by
    have hfits : (UInt8.ofNat payload.length :: payload).length ≤ reportSize := h
    simp only [Report.carrying, Report.ofFront, List.take_of_length_le hfits, List.length_cons]
  have hclaimed : (Report.carrying payload).claimedSize = payload.length := by
    have : payload.length < 256 := Nat.lt_trans h (by decide)
    simp [Report.claimedSize, hbytes, Nat.mod_eq_of_lt this]
  unfold Reading.payload Reading.whole
  simp only [hclaimed, hbytes]
  rw [if_neg (by simp), if_neg (Nat.not_le.mpr h)]
  simp

/-- The computer with another queue, after so many reports. -/
def sending (computer : Emulated) (queue : List Bytes) (reads : Nat) : Emulated :=
  { computer with outgoing := queue, reportsRead := reads }

theorem read_piece {computer : Emulated} {piece : Bytes} {waiting : List Bytes}
    (hqueue : computer.outgoing = piece :: waiting) (hsound : computer.shortReadAfter = none)
    (hturn : ¬ (computer.emptyReports ∧ computer.reportsRead % 2 = 0)) :
    ReportLink.read computer =
      (.ok (.whole (.carrying piece)), computer.sending waiting (computer.reportsRead + 1)) := by
  show computer.read = _
  simp [read, hqueue, hsound, hturn, sending]

theorem read_empty {computer : Emulated} {piece : Bytes} {waiting : List Bytes}
    (hqueue : computer.outgoing = piece :: waiting) (hsound : computer.shortReadAfter = none)
    (hturn : computer.emptyReports ∧ computer.reportsRead % 2 = 0) :
    ReportLink.read computer =
      (.ok (.whole (.carrying [])),
        computer.sending (piece :: waiting) (computer.reportsRead + 1)) := by
  show computer.read = _
  simp [read, hqueue, hsound, hturn, sending]

/-- A row of reports at the front of the queue comes in, and nothing behind it. -/
theorem gathers_queue (front back : List Bytes)
    (hfront : ∀ piece ∈ front, piece ≠ [] ∧ piece.length < reportSize) (computer : Emulated)
    (hqueue : computer.outgoing = front ++ back) (hsound : computer.shortReadAfter = none) :
    ∃ payloads reads, payloads.flatten = front.flatten ∧
      Gathers computer front.flatten.length payloads (computer.sending back reads) := by
  -- on the row of reports; the computer changes with each of them
  induction front generalizing computer with
  | nil =>
    obtain rfl : computer.outgoing = back := hqueue
    exact ⟨[], computer.reportsRead, rfl, .zero computer⟩
  | cons piece front ih =>
    obtain ⟨⟨hpiece, hlength⟩, hrest⟩ := List.forall_mem_cons.mp hfront
    have hpositive : 0 < (piece :: front).flatten.length := by
      have := List.length_pos_iff.mpr hpiece
      rw [List.flatten_cons, List.length_append]
      omega
    -- where the piece is next, it comes in and the others follow
    have hnext : ∀ computer : Emulated, computer.outgoing = piece :: front ++ back →
        computer.shortReadAfter = none →
        ¬ (computer.emptyReports ∧ computer.reportsRead % 2 = 0) →
        ∃ payloads reads, payloads.flatten = (piece :: front).flatten ∧
          Gathers computer (piece :: front).flatten.length payloads
            (computer.sending back reads) := by
      intro computer hqueue hsound hturn
      obtain ⟨payloads, reads, hflatten, hgathers⟩ :=
        ih hrest (computer.sending (front ++ back) (computer.reportsRead + 1)) rfl hsound
      refine ⟨piece :: payloads, reads, by rw [List.flatten_cons, hflatten, List.flatten_cons], ?_⟩
      refine .cons (read_piece hqueue hsound hturn) (payload_carrying hlength) hpositive ?_
      rw [List.flatten_cons, List.length_append, Nat.add_sub_cancel_left]
      exact hgathers
    by_cases hturn : computer.emptyReports ∧ computer.reportsRead % 2 = 0
    · -- a report without payload comes first, and after it none
      obtain ⟨payloads, reads, hflatten, hgathers⟩ :=
        hnext (computer.sending (piece :: front ++ back) (computer.reportsRead + 1)) rfl hsound
          (by simp only [sending]; omega)
      exact ⟨[] :: payloads, reads, by rw [List.flatten_cons, hflatten, List.nil_append],
        .cons (read_empty hqueue hsound hturn) (payload_carrying (by decide)) hpositive hgathers⟩
    · exact hnext computer hqueue hsound hturn

/-! ## §3 Questions -/

/-- A computer without faults, whose reports are of a size that reports can have. -/
structure Healthy (computer : Emulated) : Prop where
  chunk_pos : 0 < computer.chunk
  chunk_lt : computer.chunk < reportSize
  totalOverride : computer.totalOverride = none
  lengthOverride : computer.lengthOverride = none
  shortReadAfter : computer.shortReadAfter = none
  failWriteOn : computer.failWriteOn = none

/-- Whether a computer is healthy does not depend on what it has to send. -/
theorem Healthy.of_atRest_eq {computer other : Emulated} (h : computer.Healthy)
    (heq : other.atRest = computer.atRest) : other.Healthy := by
  have hkept : ∀ {α : Type} (field : Emulated → α), field other.atRest = field computer.atRest :=
    fun field => congrArg field heq
  -- faults and the size of reports are fields that rest does not touch
  exact
    { chunk_pos := (hkept Emulated.chunk).symm ▸ h.chunk_pos
      chunk_lt := (hkept Emulated.chunk).symm ▸ h.chunk_lt
      totalOverride := (hkept Emulated.totalOverride).trans h.totalOverride
      lengthOverride := (hkept Emulated.lengthOverride).trans h.lengthOverride
      shortReadAfter := (hkept Emulated.shortReadAfter).trans h.shortReadAfter
      failWriteOn := (hkept Emulated.failWriteOn).trans h.failWriteOn }

/-- The computer after it has heard some commands and was read so often. -/
def heard (computer : Emulated) (commands : List Bytes) (reads : Nat) : Emulated :=
  { computer with commands := computer.commands ++ commands, reportsRead := reads }

@[simp] theorem atRest_heard (computer : Emulated) (commands : List Bytes) (reads : Nat) :
    (computer.heard commands reads).atRest = computer.atRest := rfl

@[simp] theorem heard_heard (computer : Emulated) (commands more : List Bytes)
    (reads reads' : Nat) :
    (computer.heard commands reads).heard more reads' =
      computer.heard (commands ++ more) reads' := by
  simp only [heard, List.append_assoc]

@[simp] theorem queue_nil (computer : Emulated) : computer.queue [] = computer := by
  simp [queue, pieces]

/-- What a packet holds is the command that it was made for. -/
theorem command_of_packet {command : Bytes} (hfits : command.length ≤ commandLimit) :
    ((UInt8.ofNat command.length :: command).drop 1).take
      ((UInt8.ofNat command.length :: command).headD 0).toNat = command := by
  have hlength : (UInt8.ofNat command.length).toNat = command.length := by
    have : command.length < 256 := Nat.lt_of_le_of_lt hfits (by decide)
    simp [Nat.mod_eq_of_lt this]
  simp [hlength]

/-- The computer after it has taken a command. -/
def took (computer : Emulated) (command : Bytes) : Emulated :=
  { computer.answer command with commands := (computer.answer command).commands ++ [command] }

theorem answer_model (computer : Emulated) :
    computer.answer Opcode.model.bare = computer.queue [computer.model] := rfl

theorem answer_serial (computer : Emulated) :
    computer.answer Opcode.serial.bare = computer.queue (Word.toBytes computer.serial) := rfl

theorem answer_deviceTime (computer : Emulated) :
    computer.answer Opcode.deviceTime.bare = computer.queue (Word.toBytes computer.devtime) := rfl

theorem after_fits (opcode : Opcode) (cursor : Fingerprint) :
    (opcode.after cursor).length ≤ commandLimit := by
  rw [Opcode.length_after]
  decide

theorem cursorOf_after (opcode : Opcode) (cursor : Fingerprint) :
    cursorOf (opcode.after cursor) = cursor.timestamp :=
  Word.front_toBytes_self cursor.timestamp

/-- The size of the dives after a fingerprint, as the computer answers it. -/
def sizeAnswered (computer : Emulated) (cursor : Fingerprint) : UInt32 :=
  computer.lengthOverride.getD (UInt32.ofNat (computer.memoryAfter cursor.timestamp).length)

/-- The size of the bulk transfer of these dives, as the computer announces it. -/
def sizeAnnounced (computer : Emulated) (cursor : Fingerprint) : UInt32 :=
  computer.totalOverride.getD (UInt32.ofNat (computer.memoryAfter cursor.timestamp).length + 4)

theorem answer_dataLength (computer : Emulated) (cursor : Fingerprint) :
    computer.answer (Opcode.dataLength.after cursor) =
      computer.queue (Word.toBytes (computer.sizeAnswered cursor)) := by
  unfold sizeAnswered
  rw [← cursorOf_after Opcode.dataLength cursor]
  rfl

theorem answer_data (computer : Emulated) (cursor : Fingerprint) :
    computer.answer (Opcode.data.after cursor) =
      (computer.queue (Word.toBytes (computer.sizeAnnounced cursor))).queue
        (computer.memoryAfter cursor.timestamp) := by
  unfold sizeAnnounced
  rw [← cursorOf_after Opcode.data cursor]
  rfl

/-- The size of a bulk transfer with its own four bytes is still a word, where dives leave room for
them. -/
theorem toNat_add_four {size : Nat} (h : size + 4 < 2 ^ 32) :
    (UInt32.ofNat size + 4).toNat = size + 4 := by
  have hsize : (UInt32.ofNat size).toNat = size :=
    UInt32.toNat_ofNat_of_lt' (Nat.lt_of_add_right_lt h)
  rw [UInt32.toNat_add, hsize]
  exact Nat.mod_eq_of_lt h

/-- The questions that a computer hears in every dump. -/
def questionsFor (cursor : Fingerprint) : List Bytes :=
  [Opcode.model.bare, Opcode.serial.bare, Opcode.deviceTime.bare, Opcode.dataLength.after cursor]

/-- The request for the dives, which a computer hears if it has any. -/
def requestFor (cursor : Fingerprint) (memory : Bytes) : List Bytes :=
  if memory = [] then [] else [Opcode.data.after cursor]

namespace Healthy

variable {computer : Emulated} (h : computer.Healthy)

include h

theorem mem_queued {answer piece : Bytes} (hpiece : piece ∈ pieces (computer.chunk - 1) answer) :
    piece ≠ [] ∧ piece.length < reportSize :=
  mem_pieces_of_chunk h.chunk_pos h.chunk_lt hpiece

theorem sizeAnswered (cursor : Fingerprint) : computer.sizeAnswered cursor =
    UInt32.ofNat (computer.memoryAfter cursor.timestamp).length := by
  rw [Emulated.sizeAnswered, h.lengthOverride, Option.getD_none]

theorem sizeAnnounced (cursor : Fingerprint) : computer.sizeAnnounced cursor =
    UInt32.ofNat (computer.memoryAfter cursor.timestamp).length + 4 := by
  rw [Emulated.sizeAnnounced, h.totalOverride, Option.getD_none]

theorem sends {command : Bytes} (hne : command ≠ []) (hfits : command.length ≤ commandLimit) :
    Sends computer command (computer.took command) := by
  refine ⟨hfits, ?_⟩
  show computer.write _ = _
  simp only [write, command_of_packet hfits]
  simp [h.failWriteOn, hne, took]

/-- One question to a computer that has nothing left to send. What it queues behind the answer is
what it has to send next. -/
theorem answered {command answer more : Bytes} (hidle : computer.outgoing = [])
    (hne : command ≠ []) (hfits : command.length ≤ commandLimit)
    (hanswer : computer.answer command = (computer.queue answer).queue more) :
    ∃ reads, Answered computer command answer.length answer
      ((computer.heard [command] reads).queue more) := by
  -- the pieces of the answer come in, and those behind it stay in the queue
  obtain ⟨payloads, reads, hflatten, hgathers⟩ :=
    gathers_queue (pieces (computer.chunk - 1) answer) (pieces (computer.chunk - 1) more)
      (fun _ => h.mem_queued) (computer.took command)
      (by simp [took, hanswer, queue, hidle]) (by simp [took, hanswer, queue, h.shortReadAfter])
  rw [flatten_pieces] at hflatten hgathers
  have hrest : (computer.took command).sending (pieces (computer.chunk - 1) more) reads =
      (computer.heard [command] reads).queue more := by
    simp [took, hanswer, queue, hidle, sending, heard]
  rw [hrest] at hgathers
  refine ⟨reads, ⟨_, payloads, h.sends hne hfits, hgathers, ?_⟩⟩
  rw [hflatten, List.take_length]

/-- Helper: a question with nothing queued behind its answer. -/
theorem answered_alone {command answer : Bytes} (hidle : computer.outgoing = [])
    (hne : command ≠ []) (hfits : command.length ≤ commandLimit)
    (hanswer : computer.answer command = computer.queue answer) :
    ∃ reads, Answered computer command answer.length answer (computer.heard [command] reads) := by
  have hqueued : computer.answer command = (computer.queue answer).queue [] := by
    rw [hanswer, queue_nil]
  obtain ⟨reads, hanswered⟩ := h.answered hidle hne hfits hqueued
  rw [queue_nil] at hanswered
  exact ⟨reads, hanswered⟩

/-- The computer tells who it is. -/
theorem talks_probes (hidle : computer.outgoing = []) :
    ∃ reads, Talks computer Session.probes
      [[computer.model], Word.toBytes computer.serial, Word.toBytes computer.devtime]
      (computer.heard [Opcode.model.bare, Opcode.serial.bare, Opcode.deviceTime.bare] reads) := by
  obtain ⟨reads₁, hmodel⟩ := h.answered_alone hidle (List.cons_ne_nil _ _) (by decide)
    (answer_model computer)
  obtain ⟨reads₂, hserial⟩ := (h.of_atRest_eq (atRest_heard computer _ reads₁)).answered_alone
    hidle (List.cons_ne_nil _ _) (by decide) (answer_serial _)
  rw [heard_heard] at hserial
  obtain ⟨reads₃, hdevtime⟩ := (h.of_atRest_eq (atRest_heard computer _ reads₂)).answered_alone
    hidle (List.cons_ne_nil _ _) (by decide) (answer_deviceTime _)
  rw [heard_heard] at hdevtime
  exact ⟨reads₃, .cons hmodel (.cons hserial (.cons hdevtime (.nil _)))⟩

/-- The dives come in where there are some and their size is a word. -/
theorem delivered (cursor : Fingerprint) (hidle : computer.outgoing = [])
    (hsize : (computer.memoryAfter cursor.timestamp).length + 4 < 2 ^ 32) :
    ∃ reads, Session.Delivered computer cursor (computer.memoryAfter cursor.timestamp).length
      (computer.memoryAfter cursor.timestamp)
      (computer.heard [Opcode.data.after cursor] reads) := by
  have hqueued := answer_data computer cursor
  rw [h.sizeAnnounced] at hqueued
  generalize computer.memoryAfter cursor.timestamp = memory at hsize hqueued ⊢
  obtain ⟨reads₁, htotal⟩ := h.answered hidle (List.cons_ne_nil _ _)
    (after_fits _ cursor) hqueued
  -- behind the announcement the memory is all that is queued
  obtain ⟨payloads, reads₂, hflatten, hgathers⟩ :=
    gathers_queue (pieces (computer.chunk - 1) memory) [] (fun _ => h.mem_queued)
      ((computer.heard [Opcode.data.after cursor] reads₁).queue memory)
      (by simp [queue, heard, hidle]) (by simp [queue, heard, h.shortReadAfter])
  rw [flatten_pieces] at hflatten hgathers
  have hrest : ((computer.heard [Opcode.data.after cursor] reads₁).queue memory).sending []
      reads₂ = computer.heard [Opcode.data.after cursor] reads₂ := by
    simp [queue, heard, sending, hidle]
  rw [hrest] at hgathers
  refine ⟨reads₂, _, _, payloads, htotal, ?_, hgathers, ?_⟩
  · rw [Word.front_toBytes_self]
    exact toNat_add_four hsize
  · rw [hflatten, List.take_length]

/-! ## §4 Dumps -/

/-- What the computer has of dives is supplied, and it is asked for them if it has any. -/
theorem supplied (cursor : Fingerprint) (hidle : computer.outgoing = [])
    (hsize : (computer.memoryAfter cursor.timestamp).length + 4 < 2 ^ 32) :
    ∃ reads, Session.Supplied computer cursor
      (UInt32.ofNat (computer.memoryAfter cursor.timestamp).length)
      (computer.memoryAfter cursor.timestamp)
      (computer.heard (requestFor cursor (computer.memoryAfter cursor.timestamp)) reads) := by
  obtain ⟨reads, hdelivered⟩ := h.delivered cursor hidle hsize
  generalize computer.memoryAfter cursor.timestamp = memory at hsize hdelivered ⊢
  have hword : (UInt32.ofNat memory.length).toNat = memory.length := by
    rw [UInt32.toNat_ofNat', Nat.mod_eq_of_lt (by omega)]
  -- a computer without dives is not asked for them
  cases memory with
  | nil => exact ⟨computer.reportsRead, Or.inl ⟨rfl, rfl, by simp [requestFor, heard]⟩⟩
  | cons byte memory =>
    refine ⟨reads, Or.inr ⟨fun hzero => ?_, ?_⟩⟩
    · rw [hzero] at hword
      simp at hword
    · rw [hword]
      exact hdelivered

/-- What the first questions are answered does not matter for the rest of a dump, if they leave a
computer without faults that has nothing left to send. -/
theorem dump_of_talks (hidle : computer.outgoing = []) {session : Session Emulated}
    (around : Surroundings) {cursor : Fingerprint} {model serial devtime : Bytes}
    (htalks : Talks session.link Session.probes [model, serial, devtime] computer)
    (hcursor : session.cursorFor around.files (Word.front serial) = cursor)
    (hsize : (computer.memoryAfter cursor.timestamp).length + 4 < 2 ^ 32) (old : Bytes) :
    (session.dump around old).1 = .ok () ∧
      (session.dump around old).2.buffer = computer.memoryAfter cursor.timestamp ∧
      (∃ reads, (session.dump around old).2.session.link =
        computer.heard ([Opcode.dataLength.after cursor] ++
          requestFor cursor (computer.memoryAfter cursor.timestamp)) reads) ∧
      (session.dump around old).2.session.info =
        some ⟨UInt32.ofNat (model.headD 0).toNat, 0, Word.front serial⟩ ∧
      (session.dump around old).2.session.clock = some ⟨Word.front devtime, around.now⟩ := by
  have hqueued := answer_dataLength computer cursor
  rw [h.sizeAnswered] at hqueued
  obtain ⟨reads₁, hsized⟩ := h.answered_alone hidle (List.cons_ne_nil _ _)
    (after_fits _ cursor) hqueued
  -- the question for the size leaves a computer that is as healthy as before
  have hasked := h.of_atRest_eq (atRest_heard computer [Opcode.dataLength.after cursor] reads₁)
  obtain ⟨reads₂, hsupplied⟩ := hasked.supplied cursor hidle hsize
  rw [heard_heard] at hsupplied
  obtain ⟨hresult, hbuffer, hlink, hinfo, hclock⟩ := Session.dump_of_supplied old htalks
    (by rw [hcursor]; exact hsized)
    (by rw [hcursor, Word.front_toBytes_self]; exact hsupplied)
  exact ⟨hresult, hbuffer, ⟨reads₂, hlink⟩, hinfo, hclock⟩

/-- **A computer without faults is dumped exactly.** -/
theorem dump (around : Surroundings) (session : Session Emulated) (old : Bytes)
    (cursor : Fingerprint) (hlink : session.link = computer)
    (hcursor : session.cursorFor around.files computer.serial = cursor)
    (hidle : computer.outgoing = [])
    (hsize : (computer.memoryAfter cursor.timestamp).length + 4 < 2 ^ 32) :
    (session.dump around old).1 = .ok () ∧
      (session.dump around old).2.buffer = computer.memoryAfter cursor.timestamp ∧
      (∃ reads, (session.dump around old).2.session.link =
        computer.heard (questionsFor cursor ++
          requestFor cursor (computer.memoryAfter cursor.timestamp)) reads) ∧
      (session.dump around old).2.session.info =
        some ⟨UInt32.ofNat computer.model.toNat, 0, computer.serial⟩ ∧
      (session.dump around old).2.session.clock = some ⟨computer.devtime, around.now⟩ := by
  subst hlink
  obtain ⟨reads₁, htalks⟩ := h.talks_probes hidle
  -- the questions leave a computer that is as healthy as before and has nothing left to send
  have hprobed := h.of_atRest_eq (atRest_heard session.link
    [Opcode.model.bare, Opcode.serial.bare, Opcode.deviceTime.bare] reads₁)
  obtain ⟨hresult, hbuffer, ⟨reads₂, hlink⟩, hinfo, hclock⟩ :=
    hprobed.dump_of_talks hidle around htalks (by rw [Word.front_toBytes_self]; exact hcursor)
      hsize old
  rw [Word.front_toBytes_self] at hinfo hclock
  rw [heard_heard] at hlink
  exact ⟨hresult, hbuffer, ⟨reads₂, hlink⟩, hinfo, hclock⟩

end Healthy

end Emulated

end DiveLink
