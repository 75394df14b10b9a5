import DiveLink.Proofs.Cursor
import DiveLink.Proofs.History

/-!
# Dumps again and again

A computer without faults is dumped exactly, any number of times in one session. Between dumps the
caller may choose fingerprints, the log may grow, and the reports may change their size.

1. `Unhindered.dump` is one dump, in terms of the fingerprint that it leaves.
2. `Move` is what can happen in a session, `Session.moves` are moves in a row.
3. `Continues` is what moves keep of a computer: `move_continues` is one, `moves_continues` any row
   of them, and `moves_chose` is what they leave of the caller's choice.
4. `moves_dump` is the dump behind any moves.
-/

namespace DiveLink

open Dive (memoryOf)

/-! ## §1 One dump -/

namespace Emulated

/-- The first bytes of the commands that are heard in a dump. -/
def opcodesFor (memory : Bytes) : Bytes :=
  [0x10, 0x14, 0x1A, 0xC6] ++ if memory = [] then [] else [0xC4]

theorem opcodes_heard (computer : Emulated) (cursor : Fingerprint) (memory : Bytes) (reads : Nat) :
    (computer.heard (questionsFor cursor ++ requestFor cursor memory) reads).opcodes =
      computer.opcodes ++ opcodesFor memory := by
  have hcommands : (questionsFor cursor ++ requestFor cursor memory).filterMap List.head? =
      opcodesFor memory := by
    unfold requestFor opcodesFor
    split <;> rfl
  rw [← hcommands]
  exact List.filterMap_append

end Emulated

namespace Unhindered

variable {computer : Emulated} {session : Session Emulated}

theorem heard (h : Unhindered computer) (commands : List Bytes) (reads : Nat) :
    Unhindered (computer.heard commands reads) :=
  ⟨h.healthy.of_atRest_eq (Emulated.atRest_heard computer commands reads), h.idle⟩

/-- The serial number under which a fingerprint is looked up is that of the computer. -/
theorem cursor_dump (h : Unhindered session.link) (around : Surroundings) (old : Bytes) :
    (session.dump around old).2.session.cursor =
      session.cursorFor around.files session.link.serial := by
  obtain ⟨reads, htalks⟩ := h.healthy.talks_probes h.idle
  -- all three questions are answered, so the dump comes to look the fingerprint up
  obtain ⟨_, _, ⟨_, _, hfails, _⟩ | ⟨model, serial, devtime, _, htalks', hcursor⟩⟩ :=
    Session.dump_cursor around session old
  · exact (htalks.not_fails hfails).elim
  · obtain ⟨hanswers, _⟩ := htalks'.unique htalks
    obtain ⟨_, rfl, _⟩ : model = _ ∧ serial = Word.toBytes session.link.serial ∧ devtime = _ := by
      simpa using hanswers
    rw [hcursor, Word.front_toBytes_self]

/-- What a dump leaves, by the fingerprint that it leaves. -/
theorem dump (h : Unhindered session.link)
    (hsize : (memoryOf session.link.dives).length < 2 ^ 32 - 4) (around : Surroundings)
    (old : Bytes) :
    let left := (session.dump around old).2.session
    let memory := session.link.memoryAfter left.cursor.timestamp
    (session.dump around old).1 = .ok () ∧ (session.dump around old).2.buffer = memory ∧
      (∃ reads, left.link = session.link.heard
        (Emulated.questionsFor left.cursor ++ Emulated.requestFor left.cursor memory) reads) ∧
      left.info = some ⟨UInt32.ofNat session.link.model.toNat, 0, session.link.serial⟩ ∧
      left.clock = some ⟨session.link.devtime, around.now⟩ := by
  intro left memory
  -- what is newer is no more than the whole log
  have hle : memory.length ≤ (memoryOf session.link.dives).length :=
    length_memoryOf_newer_le left.cursor.timestamp session.link.dives
  have hfits : memory.length + 4 < 2 ^ 32 := by omega
  exact h.healthy.dump around session old left.cursor rfl (h.cursor_dump around old).symm h.idle
    hfits

end Unhindered

/-! ## §2 Moves -/

/-- What can happen in a session. -/
inductive Move where
  | call (call : Session.Call)
  /-- The log grows. -/
  | add (dives : List (UInt32 × Bytes))
  /-- From now on reports carry at most so many bytes, and reports without payload come between
  them or not. -/
  | reports (chunk : Nat) (emptyReports : Bool) (pos : 0 < chunk) (lt : chunk < reportSize)

/-- The call that a move is. -/
def Move.call? : Move → Option Session.Call
  | .call made => some made
  | .add _ | .reports .. => none

/-- The dives that a move adds. -/
def Move.dives : Move → List (UInt32 × Bytes)
  | .add more => more
  | .call _ | .reports .. => []

/-- The dives that moves add. -/
def added (moves : List Move) : List (UInt32 × Bytes) := moves.flatMap Move.dives

theorem added_concat (moves : List Move) (move : Move) :
    added (moves ++ [move]) = added moves ++ move.dives := by
  simp [added]

namespace Session

/-- The session after a move. -/
def move (session : Session Emulated) : Move → Session Emulated
  | .call made => session.call made
  | .add more => session.reach (session.link.append more)
  | .reports chunk emptyReports _ _ => session.reach { session.link with chunk, emptyReports }

/-- The session after moves in a row. -/
def moves (session : Session Emulated) (moves : List Move) : Session Emulated :=
  moves.foldl move session

theorem moves_concat (session : Session Emulated) (moves : List Move) (move : Move) :
    session.moves (moves ++ [move]) = (session.moves moves).move move := by
  rw [Session.moves, List.foldl_append]
  rfl

/-! ## §3 What moves keep -/

/-- A computer that nothing hinders and that is another one, with more dives in its log. -/
structure Continues (start : Emulated) (dives : List (UInt32 × Bytes)) (computer : Emulated) :
    Prop where
  unhindered : Unhindered computer
  model : computer.model = start.model
  serial : computer.serial = start.serial
  devtime : computer.devtime = start.devtime
  log : computer.dives = start.dives ++ dives

theorem Continues.refl {computer : Emulated} (h : Unhindered computer) :
    Continues computer [] computer :=
  ⟨h, rfl, rfl, rfl, (List.append_nil _).symm⟩

variable {start : Emulated} {session : Session Emulated} {dives : List (UInt32 × Bytes)}

/-- Every move leaves a computer that nothing hinders: a dump reads all that it was sent. -/
theorem move_continues (h : Continues start dives session.link)
    (hsize : (memoryOf session.link.dives).length < 2 ^ 32 - 4) (move : Move) :
    Continues start (dives ++ move.dives) (session.move move).link := by
  obtain ⟨⟨hhealthy, hidle⟩, hmodel, hserial, hdevtime, hlog⟩ := h
  cases move with
  | call made =>
    rw [Move.dives, List.append_nil]
    cases made with
    | choose data =>
      -- a choice is between the caller and the session
      have hlink : (session.setFingerprint data).2.link = session.link := by
        unfold setFingerprint
        split <;> rfl
      show Continues start dives (session.setFingerprint data).2.link
      rw [hlink]
      exact ⟨⟨hhealthy, hidle⟩, hmodel, hserial, hdevtime, hlog⟩
    | dump around buffer =>
      obtain ⟨_, _, ⟨reads, hlink⟩, _⟩ := Unhindered.dump ⟨hhealthy, hidle⟩ hsize around buffer
      show Continues start dives (session.dump around buffer).2.session.link
      rw [hlink]
      exact ⟨Unhindered.heard ⟨hhealthy, hidle⟩ _ reads, hmodel, hserial, hdevtime, hlog⟩
  | add more =>
    refine ⟨⟨{ hhealthy with }, hidle⟩, hmodel, hserial, hdevtime, ?_⟩
    show session.link.dives ++ more = start.dives ++ (dives ++ more)
    rw [hlog, List.append_assoc]
  | reports chunk emptyReports hpos hlt =>
    rw [Move.dives, List.append_nil]
    exact ⟨⟨{ hhealthy with chunk_pos := hpos, chunk_lt := hlt }, hidle⟩, hmodel, hserial,
      hdevtime, hlog⟩

/-- The log only grows, so if it fits in the end it has fitted in every dump. -/
theorem moves_continues (h : Unhindered session.link) (moves : List Move)
    (hsize : (memoryOf (session.link.dives ++ added moves)).length < 2 ^ 32 - 4) :
    Continues session.link (added moves) (session.moves moves).link := by
  -- on the moves, from the first one; the hypothesis speaks of the log behind the last of them
  induction moves using List.reverseRecOn with
  | nil => exact .refl h
  | append_singleton moves move ih =>
    rw [added_concat, ← List.append_assoc, Dive.memoryOf_append, List.length_append] at hsize
    have hbefore := ih (by omega)
    rw [moves_concat, added_concat]
    refine move_continues hbefore ?_ move
    rw [hbefore.log]
    omega

/-- Only calls make a choice. -/
theorem moves_chose (session : Session Emulated) (moves : List Move) :
    Chose (lastChoice (moves.filterMap Move.call?)) session (session.moves moves) := by
  induction moves using List.reverseRecOn with
  | nil => exact .refl session
  | append_singleton moves move ih =>
    rw [moves_concat, List.filterMap_append]
    cases move with
    | call made =>
      have hcalls : [Move.call made].filterMap Move.call? = [made] := rfl
      rw [hcalls, lastChoice_concat]
      exact ih.trans (call_chose _ made)
    | add more =>
      have hcalls : [Move.add more].filterMap Move.call? = [] := rfl
      rw [hcalls, List.append_nil]
      exact ⟨ih.cache, ih.pinned, ih.cursor⟩
    | reports chunk emptyReports hpos hlt =>
      have hcalls : [Move.reports chunk emptyReports hpos hlt].filterMap Move.call? = [] := rfl
      rw [hcalls, List.append_nil]
      exact ⟨ih.cache, ih.pinned, ih.cursor⟩

/-! ## §4 Dumps behind moves -/

/-- **A computer without faults is dumped exactly, any number of times.** Whatever was chosen,
dumped and added before, and however the reports were cut: a dump succeeds and leaves the records
of the dives after its fingerprint, it asks for them if there are any, and it reads all that it is
sent. So it depends on the log and on the fingerprint, which is the one that the caller has chosen
last, and on nothing else that was before. -/
theorem moves_dump {computer : Emulated} (hcomputer : Unhindered computer)
    (cache : Option FingerprintCache) (moves : List Move)
    (hsize : (memoryOf (computer.dives ++ added moves)).length < 2 ^ 32 - 4)
    (around : Surroundings) (old : Bytes) :
    let session := (Session.start computer cache).moves moves
    let left := (session.dump around old).2.session
    let memory := memoryOf (newer left.cursor.timestamp (computer.dives ++ added moves))
    (session.dump around old).1 = .ok () ∧
      session.link.memoryAfter left.cursor.timestamp = memory ∧
      (session.dump around old).2.buffer = memory ∧
      left.info = some ⟨UInt32.ofNat computer.model.toNat, 0, computer.serial⟩ ∧
      left.clock = some ⟨computer.devtime, around.now⟩ ∧
      left.link.opcodes = session.link.opcodes ++ [0x10, 0x14, 0x1A, 0xC6] ++
        (if memory = [] then [] else [0xC4]) ∧
      left.link.outgoing = [] ∧
      (∀ fingerprint, lastChoice (moves.filterMap Move.call?) = some fingerprint →
        left.cursor = fingerprint) ∧
      (lastChoice (moves.filterMap Move.call?) = none → cache = none → left.cursor = .none) := by
  intro session left memory
  have hstart : Unhindered (Session.start computer cache).link := hcomputer
  have hcontinues : Continues computer (added moves) session.link :=
    moves_continues hstart moves hsize
  have hmemory : session.link.memoryAfter left.cursor.timestamp = memory := by
    rw [memoryAfter_eq, hcontinues.log]
  rw [← hcontinues.log] at hsize
  obtain ⟨hresult, hbuffer, ⟨reads, hlink⟩, hinfo, hclock⟩ :=
    hcontinues.unhindered.dump hsize around old
  rw [hmemory] at hbuffer hlink
  rw [hcontinues.model, hcontinues.serial] at hinfo
  rw [hcontinues.devtime] at hclock
  -- the dump itself is a call without a choice
  have hchose : Chose (lastChoice (moves.filterMap Move.call?)) (Session.start computer cache)
      left := (moves_chose _ moves).trans (call_chose session (.dump around old))
  refine ⟨hresult, hmemory, hbuffer, hinfo, hclock, ?_, ?_, ?_, ?_⟩
  · rw [hlink, Emulated.opcodes_heard, Emulated.opcodesFor, List.append_assoc]
  · rw [hlink]
    exact hcontinues.unhindered.idle
  · intro fingerprint hchoice
    have hcursor := hchose.cursor (.inr (by simp [hchoice]))
    rwa [hchoice] at hcursor
  · intro hchoice hcache
    have hcursor := hchose.cursor (.inl (.inr hcache))
    rwa [hchoice] at hcursor

/-- A computer with a dive, in reports of five bytes with empty ones between them. -/
def choppy : Emulated :=
  { dives := [(1, [0xAA])], chunk := 5, emptyReports := true }

/-- A dump of all dives, then a choice, another size of reports, and a second dive. -/
def choppyMoves : List Move :=
  [.call (.dump ⟨noon, .startingAt []⟩ [0xFF]), .call (.choose [1, 0, 0, 0]),
    .reports 1 false (by decide) (by decide), .add [(2, [0xBB])]]

/-- The second dump leaves the record of the second dive. -/
theorem moves_dump_choppy :
    Unhindered choppy ∧ (memoryOf (choppy.dives ++ added choppyMoves)).length < 2 ^ 32 - 4 ∧
      (((Session.start choppy none).moves choppyMoves).dump ⟨noon, .startingAt []⟩ []).1 = .ok () ∧
      (((Session.start choppy none).moves choppyMoves).dump ⟨noon, .startingAt []⟩ []).2.buffer =
        Dive.record 2 [0xBB] := by
  have hcomputer : Unhindered choppy := ⟨⟨by decide, by decide, rfl, rfl, rfl, rfl⟩, rfl⟩
  have hsize : (memoryOf (choppy.dives ++ added choppyMoves)).length < 2 ^ 32 - 4 := by decide
  obtain ⟨hresult, _, hbuffer, _, _, _, _, hchosen, _⟩ :=
    moves_dump hcomputer none choppyMoves hsize ⟨noon, .startingAt []⟩ []
  have hcursor := hchosen ⟨1⟩ rfl
  refine ⟨hcomputer, hsize, hresult, hbuffer.trans ?_⟩
  rw [hcursor]
  rfl

end Session

end DiveLink
