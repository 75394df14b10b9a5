import DiveLink.Session
import DiveLink.Proofs.Stream

/-!
# How a dump goes

A dump is five exchanges, and each of them can fail. This file follows it through all of them, over
every link.

1. `exec` runs steps of a dump, with laws for each kind of step.
2. `exec_request`, `exec_identify` and `exec_lookUp` say what the parts of a dump do.
3. `Course` lists the ways in which a dump can go, and `dump_course` says that it goes in one of
   them. `dump_elim` is the form in which proofs about dumps use this.
-/

namespace DiveLink

namespace Session

variable {σ : Type} {α β : Type}

/-! ## §1 Steps, run -/

/-- The result of a step, and the dump behind it. -/
def exec (step : Step σ α) (dumping : Dumping σ) : Except Fault α × Dumping σ :=
  step.run.run dumping

/-- After a step that succeeds comes the next one. -/
theorem exec_bind_ok {step : Step σ α} {next : α → Step σ β} {before after : Dumping σ} {a : α}
    (h : exec step before = (.ok a, after)) :
    exec (step >>= next) before = exec (next a) after := by
  unfold exec at h ⊢
  rw [ExceptT.run_bind, StateT.run_bind, h]
  rfl

/-- After a step that fails comes nothing. -/
theorem exec_bind_error {step : Step σ α} {next : α → Step σ β} {before after : Dumping σ}
    {fault : Fault} (h : exec step before = (.error fault, after)) :
    exec (step >>= next) before = (.error fault, after) := by
  unfold exec at h ⊢
  rw [ExceptT.run_bind, StateT.run_bind, h]
  rfl

@[simp] theorem exec_pure (a : α) (dumping : Dumping σ) :
    exec (pure a) dumping = (.ok a, dumping) := rfl

@[simp] theorem exec_throw (fault : Fault) (dumping : Dumping σ) :
    exec (throw fault : Step σ α) dumping = (.error fault, dumping) := rfl

@[simp] theorem exec_get_bind (next : Dumping σ → Step σ α) (dumping : Dumping σ) :
    exec (get >>= next) dumping = exec (next dumping) dumping := rfl

@[simp] theorem exec_modify_bind (change : Dumping σ → Dumping σ) (next : Unit → Step σ α)
    (dumping : Dumping σ) :
    exec (modify change >>= next) dumping = exec (next ()) (change dumping) := rfl

@[simp] theorem exec_update (change : Session σ → Session σ) (dumping : Dumping σ) :
    exec (update change) dumping =
      (.ok (), { dumping with session := change dumping.session }) := rfl

@[simp] theorem exec_update_bind (change : Session σ → Session σ) (next : Unit → Step σ α)
    (dumping : Dumping σ) :
    exec (update change >>= next) dumping =
      exec (next ()) { dumping with session := change dumping.session } := rfl

@[simp] theorem exec_warn (warnings : List Warning) (dumping : Dumping σ) :
    exec (warn warnings) dumping =
      (.ok (), { dumping with warnings := dumping.warnings ++ warnings }) := rfl

@[simp] theorem exec_warn_bind (warnings : List Warning) (next : Unit → Step σ α)
    (dumping : Dumping σ) :
    exec (warn warnings >>= next) dumping =
      exec (next ()) { dumping with warnings := dumping.warnings ++ warnings } := rfl

/-- A session that has told one event more. -/
def told (session : Session σ) (event : Event) : Session σ :=
  { session with log := session.log.push event }

@[simp] theorem exec_tellProgress_bind (current maximum : UInt32) (next : Unit → Step σ α)
    (dumping : Dumping σ) :
    exec (tellProgress current maximum >>= next) dumping =
      exec (next ())
        { dumping with session := dumping.session.told (.progress ⟨current, maximum⟩) } := rfl

/-! ## §2 The fingerprint of a dump -/

/-- The fingerprint after which dives are asked for, once the computer is known. -/
def cursorFor (session : Session σ) (files : Files) (serial : UInt32) : Fingerprint :=
  match session.cache with
  | none => session.cursor
  | some cache =>
    if session.pinned then session.cursor
    else
      match ((cache.load serial : StateM Files _).run files).1 with
      | .ok found => found.getD .none
      | .error _ => session.cursor

/-- A session with another fingerprint. -/
def seek (session : Session σ) (cursor : Fingerprint) : Session σ :=
  { session with cursor := cursor }

@[simp] theorem seek_cursor (session : Session σ) : session.seek session.cursor = session := rfl

/-- The fingerprint is looked up, and nothing can fail. -/
theorem exec_lookUp (files : Files) (serial : UInt32) (session : Session σ) (buffer : Bytes)
    (warnings : List Warning) :
    ∃ warned, exec (lookUp files serial) ⟨session, buffer, warnings⟩ =
      (.ok (), ⟨session.seek (session.cursorFor files serial), buffer, warned⟩) := by
  unfold lookUp cursorFor
  rw [exec_get_bind]
  cases hcache : session.cache with
  | none => exact ⟨warnings, by simp [hcache]⟩
  | some cache =>
    cases hpinned : session.pinned with
    | true => exact ⟨warnings, by simp [hcache, hpinned]⟩
    | false =>
      -- a file that cannot be read is a warning only, and the fingerprint stays as it was
      cases hload : ((cache.load serial : StateM Files _).run files).1 with
      | ok found => exact ⟨warnings, by simp [hcache, hpinned, hload, seek]⟩
      | error fault =>
        exact ⟨warnings ++ [.cacheIgnored fault], by simp [hcache, hpinned, hload]⟩

/-! ## §3 Exchanges -/

/-- A session whose link was used. -/
def reach (session : Session σ) (link : σ) : Session σ :=
  { session with link := link }

theorem exec_accept_ok {receipt : Receipt σ} (hfault : receipt.fault = none)
    (dumping : Dumping σ) :
    exec (accept receipt) dumping =
      (.ok (), ⟨dumping.session.reach receipt.link, dumping.buffer,
        dumping.warnings ++ receipt.truncations.map .truncated⟩) := by
  unfold accept
  rw [exec_update_bind, exec_warn_bind, hfault]
  rfl

/-- A receipt with a fault is not accepted, but the link was used. -/
theorem exec_accept_error {receipt : Receipt σ} {fault : Fault}
    (hfault : receipt.fault = some fault) (dumping : Dumping σ) :
    exec (accept receipt) dumping =
      (.error fault, ⟨dumping.session.reach receipt.link, dumping.buffer,
        dumping.warnings ++ receipt.truncations.map .truncated⟩) := by
  unfold accept
  rw [exec_update_bind, exec_warn_bind, hfault]
  rfl

variable [ReportLink σ]

/-- What comes of a request: the answer, or the fault that kept it back. Only the link is used. -/
theorem exec_request (command : Bytes) (size : Nat) (session : Session σ) (buffer : Bytes)
    (warnings : List Warning) :
    ∃ rest warned,
      (∃ answer, Answered session.link command size answer rest ∧
        exec (request command size) ⟨session, buffer, warnings⟩ =
          (.ok answer, ⟨session.reach rest, buffer, warned⟩)) ∨
      ∃ fault, Unanswered session.link command size fault rest ∧
        exec (request command size) ⟨session, buffer, warnings⟩ =
          (.error fault, ⟨session.reach rest, buffer, warned⟩) := by
  unfold request
  rw [exec_get_bind]
  cases transfer_spec session.link command size with
  | answered hanswered hfault =>
    exact ⟨_, _, Or.inl ⟨_, hanswered, exec_bind_ok (exec_accept_ok hfault _)⟩⟩
  | unanswered fault hunanswered hfault =>
    exact ⟨_, _, Or.inr ⟨fault, hunanswered, exec_bind_error (exec_accept_error hfault _)⟩⟩

/-- Helper: the same where the answer is a word. -/
theorem exec_requestWord (command : Bytes) (session : Session σ) (buffer : Bytes)
    (warnings : List Warning) :
    ∃ rest warned,
      (∃ answer, Answered session.link command 4 answer rest ∧
        exec (requestWord command) ⟨session, buffer, warnings⟩ =
          (.ok (Word.front answer), ⟨session.reach rest, buffer, warned⟩)) ∨
      ∃ fault, Unanswered session.link command 4 fault rest ∧
        exec (requestWord command) ⟨session, buffer, warnings⟩ =
          (.error fault, ⟨session.reach rest, buffer, warned⟩) := by
  obtain ⟨rest, warned, ⟨answer, hanswered, hexec⟩ | ⟨fault, hunanswered, hexec⟩⟩ :=
    exec_request command 4 session buffer warnings
  · refine ⟨rest, warned, Or.inl ⟨answer, hanswered, ?_⟩⟩
    unfold requestWord
    rw [exec_bind_ok hexec]
    rfl
  · refine ⟨rest, warned, Or.inr ⟨fault, hunanswered, ?_⟩⟩
    unfold requestWord
    rw [exec_bind_error hexec]

/-- The three questions with which every dump begins, and the sizes of their answers. -/
def probes : List (Bytes × Nat) :=
  [(Opcode.model.bare, 1), (Opcode.serial.bare, 4), (Opcode.deviceTime.bare, 4)]

/-- A session that knows which computer it talks to. -/
def identified (session : Session σ) (now : Instant) (model serial devtime : Bytes) : Session σ :=
  let clock : ClockCalibration := ⟨Word.front devtime, now⟩
  let info : DeviceInfo := ⟨UInt32.ofNat (model.headD 0).toNat, 0, Word.front serial⟩
  let timed := ({ session with clock := some clock }.told
    (.progress ⟨Download.probeBytes, 0⟩)).told (.clock clock)
  { timed with info := some info }.told (.devinfo info)

/-- The first part of a dump: all three questions are answered, or nothing is kept. -/
theorem exec_identify (now : Instant) (session : Session σ) (buffer : Bytes)
    (warnings : List Warning) :
    ∃ rest warned,
      (∃ model serial devtime, Talks session.link probes [model, serial, devtime] rest ∧
        exec (identify now) ⟨session, buffer, warnings⟩ =
          (.ok ⟨UInt32.ofNat (model.headD 0).toNat, 0, Word.front serial⟩,
            ⟨(session.reach rest).identified now model serial devtime, buffer, warned⟩)) ∨
      ∃ fault, Fails session.link probes fault rest ∧
        exec (identify now) ⟨session, buffer, warnings⟩ =
          (.error fault, ⟨session.reach rest, buffer, warned⟩) := by
  unfold identify
  -- question by question: a fault ends the part, and an answer leaves the link to the next one
  obtain ⟨link₁, warned₁, ⟨model, hmodel, hexec₁⟩ | ⟨fault, hmodel, hexec₁⟩⟩ :=
    exec_request Opcode.model.bare 1 session buffer warnings
  case inr => exact ⟨link₁, warned₁, Or.inr ⟨fault, .here hmodel, exec_bind_error hexec₁⟩⟩
  rw [exec_bind_ok hexec₁]
  obtain ⟨link₂, warned₂, ⟨serial, hserial, hexec₂⟩ | ⟨fault, hserial, hexec₂⟩⟩ :=
    exec_requestWord Opcode.serial.bare (session.reach link₁) buffer warned₁
  case inr =>
    exact ⟨link₂, warned₂, Or.inr ⟨fault, .later hmodel (.here hserial), exec_bind_error hexec₂⟩⟩
  rw [exec_bind_ok hexec₂]
  obtain ⟨link₃, warned₃, ⟨devtime, hdevtime, hexec₃⟩ | ⟨fault, hdevtime, hexec₃⟩⟩ :=
    exec_requestWord Opcode.deviceTime.bare ((session.reach link₁).reach link₂) buffer warned₂
  case inr =>
    exact ⟨link₃, warned₃,
      Or.inr ⟨fault, .later hmodel (.later hserial (.here hdevtime)), exec_bind_error hexec₃⟩⟩
  rw [exec_bind_ok hexec₃]
  -- what is left of this part does not touch the link
  exact ⟨link₃, warned₃, Or.inl ⟨model, serial, devtime,
    .cons hmodel (.cons hserial (.cons hdevtime (.nil link₃))), rfl⟩⟩

/-! ## §4 The course of a dump -/

/-- A dump before its first exchange. -/
def opened (session : Session σ) : Session σ :=
  session.told (.progress ⟨0, 0⟩)

/-- A dump that is about to ask for the size of the dives. -/
def probed (session : Session σ) (around : Surroundings) (link : σ)
    (model serial devtime : Bytes) : Session σ :=
  let known := (session.opened.reach link).identified around.now model serial devtime
  known.seek (known.cursorFor around.files (Word.front serial))

/-- A dump that knows the size of the dives. -/
def sized (session : Session σ) (link : σ) (length : UInt32) : Session σ :=
  (session.reach link).told
    (.progress ⟨Download.probeBytes + Download.sizeBytes, Download.bytesInAll length⟩)

/-- A dump to which the bulk transfer was announced. -/
def announced (session : Session σ) (link : σ) (length : UInt32) : Session σ :=
  (session.reach link).told (.progress
    ⟨Download.probeBytes + Download.sizeBytes + Download.sizeBytes, Download.bytesInAll length⟩)

/-- A dump that has the dives. -/
def finished (session : Session σ) (link : σ) (length : UInt32) : Session σ :=
  (session.reach link).told (.progress
    ⟨Word.saturatingAdd (Download.probeBytes + Download.sizeBytes + Download.sizeBytes) length,
      Download.bytesInAll length⟩)

/-- The ways in which the bulk transfer can go, after a size that is not zero: the result, the
session and the buffer behind it. -/
inductive Bulk (session : Session σ) (length : UInt32) :
    Except Fault Unit → Session σ → Bytes → Prop where
  /-- The transfer is not announced. -/
  | refused {rest : σ} {fault : Fault} :
      Unanswered session.link (Opcode.data.after session.cursor) 4 fault rest →
      Bulk session length (.error fault) (session.reach rest) (List.replicate length.toNat 0)
  /-- Another transfer is announced. -/
  | mismatched {mid : σ} {total : Bytes} :
      Answered session.link (Opcode.data.after session.cursor) 4 total mid →
      (Word.front total).toNat ≠ length.toNat + 4 →
      Bulk session length (.error (.sizeMismatch (length.toNat + 4) (Word.front total).toNat))
        (session.announced mid length) (List.replicate length.toNat 0)
  /-- The transfer breaks off. -/
  | brokenOff {mid rest : σ} {total : Bytes} {payloads : List Bytes} {fault : Fault} :
      Answered session.link (Opcode.data.after session.cursor) 4 total mid →
      (Word.front total).toNat = length.toNat + 4 →
      BreaksOff mid length.toNat payloads fault rest →
      Bulk session length (.error fault) ((session.announced mid length).reach rest)
        (payloads.flatten ++ List.replicate (length.toNat - payloads.flatten.length) 0)
  /-- The dives come in. -/
  | complete {mid rest : σ} {total : Bytes} {payloads : List Bytes} :
      Answered session.link (Opcode.data.after session.cursor) 4 total mid →
      (Word.front total).toNat = length.toNat + 4 →
      Gathers mid length.toNat payloads rest →
      Bulk session length (.ok ()) ((session.announced mid length).finished rest length)
        (payloads.flatten.take length.toNat)

/-- How the bulk transfer goes. -/
theorem exec_fetch (length : UInt32) (session : Session σ) (buffer : Bytes)
    (warnings : List Warning) :
    ∃ result left left_buffer warned, Bulk session length result left left_buffer ∧
      exec (fetch length) ⟨session, buffer, warnings⟩ = (result, ⟨left, left_buffer, warned⟩) := by
  unfold fetch
  -- the buffer is made before the announcement is asked for
  simp only [exec_modify_bind, exec_get_bind]
  obtain ⟨link, warned, ⟨total, htotal, hexec⟩ | ⟨fault, htotal, hexec⟩⟩ :=
    exec_requestWord (Opcode.data.after session.cursor) session
      (List.replicate length.toNat 0) warnings
  case inr => exact ⟨_, _, _, _, .refused htotal, exec_bind_error hexec⟩
  rw [exec_bind_ok hexec, exec_tellProgress_bind]
  -- the sizes are compared as numbers, so nothing wraps around
  by_cases hmatch : (Word.front total).toNat = length.toNat + 4
  case neg =>
    refine ⟨_, _, _, warned, .mismatched htotal hmatch, ?_⟩
    rw [if_pos hmatch, exec_bind_error (exec_throw _ _)]
    rfl
  rw [if_neg (not_not_intro hmatch), exec_get_bind, exec_modify_bind]
  cases receive_spec link length.toNat with
  | complete payloads hgathers hreceived hfault =>
    -- the answer fills the buffer, so none of the zeros is left
    have hbuffer : (receive link length.toNat).over (List.replicate length.toNat 0) =
        payloads.flatten.take length.toNat := by
      rw [Receipt.over_of_length_eq, hreceived]
      rw [hreceived, hgathers.length_take, List.length_replicate]
    refine ⟨_, _, _, warned ++ (receive link length.toNat).truncations.map .truncated,
      .complete htotal hmatch hgathers, ?_⟩
    rw [← hbuffer]
    exact exec_bind_ok (exec_accept_ok hfault _)
  | brokenOff payloads fault hbreaks hreceived hfault =>
    have hbuffer : (receive link length.toNat).over (List.replicate length.toNat 0) =
        payloads.flatten ++
          List.replicate (length.toNat - payloads.flatten.length) 0 := by
      rw [Receipt.over_replicate, hreceived]
    refine ⟨_, _, _, warned ++ (receive link length.toNat).truncations.map .truncated,
      .brokenOff htotal hmatch hbreaks, ?_⟩
    rw [← hbuffer]
    exact exec_bind_error (exec_accept_error hfault _)

/-- The ways in which a dump can go: its result, and the session and the buffer behind it. -/
inductive Course (session : Session σ) (around : Surroundings) :
    Except Fault Unit → Session σ → Bytes → Prop where
  /-- The computer is not known. -/
  | unidentified {rest : σ} {fault : Fault} :
      Fails session.link probes fault rest →
      Course session around (.error fault) (session.opened.reach rest) []
  /-- The size of the dives is not known. -/
  | unsized {mid rest : σ} {model serial devtime : Bytes} {fault : Fault} :
      Talks session.link probes [model, serial, devtime] mid →
      Unanswered mid (Opcode.dataLength.after
        (session.probed around mid model serial devtime).cursor) 4 fault rest →
      Course session around (.error fault)
        ((session.probed around mid model serial devtime).reach rest) []
  /-- There are no dives. -/
  | nothing {mid rest : σ} {model serial devtime size : Bytes} :
      Talks session.link probes [model, serial, devtime] mid →
      Answered mid (Opcode.dataLength.after
        (session.probed around mid model serial devtime).cursor) 4 size rest →
      Word.front size = 0 →
      Course session around (.ok ())
        ((session.probed around mid model serial devtime).sized rest 0) []
  /-- The dives are asked for. -/
  | bulk {mid rest : σ} {model serial devtime size : Bytes} {result : Except Fault Unit}
      {left : Session σ} {buffer : Bytes} :
      Talks session.link probes [model, serial, devtime] mid →
      Answered mid (Opcode.dataLength.after
        (session.probed around mid model serial devtime).cursor) 4 size rest →
      Word.front size ≠ 0 →
      Bulk ((session.probed around mid model serial devtime).sized rest (Word.front size))
        (Word.front size) result left buffer →
      Course session around result left buffer

/-- **Every dump goes in one of these ways.** -/
theorem dump_course (around : Surroundings) (session : Session σ) (old : Bytes) :
    Course session around (session.dump around old).1 (session.dump around old).2.session
      (session.dump around old).2.buffer := by
  suffices h : ∃ result left buffer warned, Course session around result left buffer ∧
      session.dump around old = (result, ⟨left, buffer, warned⟩) by
    obtain ⟨result, left, buffer, warned, hcourse, hdump⟩ := h
    rw [hdump]
    exact hcourse
  -- a dump is its steps, run on an empty buffer with no warnings
  show ∃ result left buffer warned, Course session around result left buffer ∧
    exec (dumpSteps around) ⟨session, old, []⟩ = (result, ⟨left, buffer, warned⟩)
  unfold dumpSteps
  rw [exec_modify_bind, exec_tellProgress_bind]
  obtain ⟨mid, warned₁, ⟨model, serial, devtime, htalks, hexec₁⟩ | ⟨fault, hfails, hexec₁⟩⟩ :=
    exec_identify around.now session.opened [] []
  case inr => exact ⟨_, _, _, _, .unidentified hfails, exec_bind_error hexec₁⟩
  obtain ⟨warned₂, hexec₂⟩ := exec_lookUp around.files (Word.front serial)
    ((session.opened.reach mid).identified around.now model serial devtime) [] warned₁
  -- from here on the fingerprint stays as it is
  obtain ⟨rest, warned₃, ⟨size, hsize, hexec₃⟩ | ⟨fault, hsize, hexec₃⟩⟩ :=
    exec_requestWord (Opcode.dataLength.after
      (session.probed around mid model serial devtime).cursor)
      (session.probed around mid model serial devtime) [] warned₂
  case inr =>
    exact ⟨_, _, _, _, .unsized htalks hsize,
      ((exec_bind_ok hexec₁).trans (exec_bind_ok hexec₂)).trans (exec_bind_error hexec₃)⟩
  by_cases hzero : Word.front size = 0
  · -- nothing to ask for, and the link is not used again
    refine ⟨_, _, _, warned₃, .nothing htalks hsize hzero, ?_⟩
    refine ((exec_bind_ok hexec₁).trans (exec_bind_ok hexec₂)).trans
      ((exec_bind_ok hexec₃).trans ?_)
    rw [exec_tellProgress_bind, if_pos hzero, hzero]
    rfl
  · obtain ⟨result, left, buffer, warned₄, hbulk, hexec₄⟩ :=
      exec_fetch (Word.front size)
        ((session.probed around mid model serial devtime).sized rest (Word.front size)) [] warned₃
    refine ⟨result, left, buffer, warned₄, .bulk htalks hsize hzero hbulk, ?_⟩
    refine ((exec_bind_ok hexec₁).trans (exec_bind_ok hexec₂)).trans
      ((exec_bind_ok hexec₃).trans ?_)
    rw [exec_tellProgress_bind, if_neg hzero]
    exact hexec₄

/-- What holds of the end of every course holds of what a dump leaves. From here on only the way
that the dump went counts, not its steps. -/
@[elab_as_elim]
theorem dump_elim {motive : Except Fault Unit → Session σ → Bytes → Prop} (around : Surroundings)
    (session : Session σ) (old : Bytes)
    (h : ∀ result left buffer, Course session around result left buffer →
      motive result left buffer) :
    motive (session.dump around old).1 (session.dump around old).2.session
      (session.dump around old).2.buffer :=
  h _ _ _ (dump_course around session old)

end Session

end DiveLink
