import DiveLink.Proofs.Remembering
import DiveLink.Proofs.Script

/-!
# The fingerprint of a session

A dump asks for the dives after a fingerprint. The caller may have chosen it, a folder may remember
it, or it is left from the last dump.

1. `Fingerprint.choice` is the fingerprint that bytes choose, if they are accepted.
2. `FingerprintCache.recalled` is what the files say, `cursorFor_of_unpinned` that it is looked up.
3. `dump_cursor` is what a dump makes of the fingerprint, `dump_of_settled` says when it does not
   depend on the files.
4. `Call` is what a caller does. `Chose` is what a choice leaves, with `call_chose` for one call and
   `calls_chose` for any row of them.
5. `calls_decide_cursor` is what this says about the dumps of a session.
-/

namespace DiveLink

/-! ## §1 Choices -/

namespace Fingerprint

/-- The fingerprint that four bytes are. -/
def four? : Bytes → Option Fingerprint
  | [b₀, b₁, b₂, b₃] => some ⟨Word.ofBytes b₀ b₁ b₂ b₃⟩
  | _ => Option.none

/-- The fingerprint that bytes choose, if they are accepted. -/
def choice : Bytes → Option Fingerprint
  | [] => some .none
  | data => four? data

theorem four?_eq (data : Bytes) :
    four? data = if data.length = 4 then some ⟨Word.front data⟩ else Option.none := by
  match data with
  | [] | [_] | [_, _] | [_, _, _] | [_, _, _, _] => rfl
  -- `Word.front` would read the first four of them
  | _ :: _ :: _ :: _ :: _ :: rest =>
    rw [if_neg (by simp)]
    rfl

theorem ofBytes_of_choice {data : Bytes} {fingerprint : Fingerprint}
    (h : choice data = some fingerprint) : ofBytes data = .ok fingerprint := by
  cases data with
  | nil =>
    cases h
    rfl
  | cons byte data =>
    have hfour : four? (byte :: data) = some fingerprint := h
    rw [four?_eq] at hfour
    split at hfour
    case isFalse => cases hfour
    case isTrue hlength =>
      cases hfour
      rw [ofBytes, if_neg (by simp), if_pos hlength]

theorem ofBytes_of_no_choice {data : Bytes} (h : choice data = Option.none) :
    ofBytes data = .error (.invalidArgument (.fingerprintSize data.length)) := by
  cases data with
  | nil => cases h
  | cons byte data =>
    have hfour : four? (byte :: data) = Option.none := h
    rw [four?_eq] at hfour
    split at hfour
    case isTrue => cases hfour
    case isFalse hlength => rw [ofBytes, if_neg (by simp), if_neg hlength]

theorem choice_isSome_iff (data : Bytes) :
    (choice data).isSome ↔ data.length = 0 ∨ data.length = 4 := by
  cases data with
  | nil => simp [choice]
  | cons byte data =>
    show (four? (byte :: data)).isSome ↔ _
    rw [four?_eq]
    simp

end Fingerprint

/-! ## §2 What the files say -/

/-- What comes of reading an entry. -/
def Entry.bytes : Entry → Except FileFault Bytes
  | file data => .ok data
  | folder => .error .folder

theorem Files.contents_of_under? {files : Files} {path : String} {entry : Entry}
    (h : files.under? path = some entry) : files.contents path = entry.bytes := by
  unfold Files.under? at h
  unfold Files.contents
  cases hfind : files.find path with
  | error fault =>
    rw [hfind] at h
    cases h
  | ok spot =>
    rw [hfind] at h
    have hmeant : spot.meant.toOption = some entry := h
    simp only [bind, Except.bind]
    -- a path that means an entry leads to it
    cases hspot : spot.meant with
    | error fault =>
      rw [hspot] at hmeant
      cases hmeant
    | ok found =>
      rw [hspot] at hmeant
      cases hmeant
      cases entry <;> rfl

namespace FingerprintCache

variable {cache : FingerprintCache} {files : Files} {serial : UInt32}

/-- The fingerprint of a computer by what the files hold under its serial number: what is stored,
no dive if nothing is stored, and the one from before if what is stored is no fingerprint. -/
def recalled (cache : FingerprintCache) (files : Files) (serial : UInt32) (before : Fingerprint) :
    Fingerprint :=
  match files.under? (cache.path serial) with
  | none => .none
  | some (.file data) => (Fingerprint.four? data).getD before
  | some .folder => before

theorem run_load_of_entry {entry : Entry}
    (h : files.under? (cache.path serial) = some entry) :
    ((cache.load serial : StateM Files _).run files).1 =
      match entry.bytes with
      | .error fault => .error (.cannotRead fault)
      | .ok data =>
        if data.length = 4 then .ok (some ⟨Word.front data⟩)
        else .error (.wrongSize (cache.path serial) data.length) := by
  have hcontents : (FileAccess.contents (cache.path serial) : StateM Files _).run files =
      (entry.bytes, files) := congrArg (·, files) (Files.contents_of_under? h)
  -- something is there, and it is read
  unfold load
  rw [Files.run_bind, run_isPresent, h]
  simp only [Option.isSome_some, ↓reduceIte]
  rw [Files.run_bind, hcontents]
  cases entry with
  | folder => rfl
  | file data =>
    simp only [Entry.bytes]
    split <;> rfl

end FingerprintCache

namespace Session

/-- Without a choice of the caller the files are asked. -/
theorem cursorFor_of_unpinned {σ : Type} {session : Session σ} {cache : FingerprintCache}
    (hcache : session.cache = some cache) (hpinned : session.pinned = false) (files : Files)
    (serial : UInt32) :
    session.cursorFor files serial = cache.recalled files serial session.cursor := by
  simp only [cursorFor, hcache, hpinned, FingerprintCache.recalled, Bool.false_eq_true, if_false]
  cases hunder : files.under? (cache.path serial) with
  | none =>
    rw [FingerprintCache.run_load_of_under? hunder]
    rfl
  | some entry =>
    rw [FingerprintCache.run_load_of_entry hunder]
    -- what is there is a fingerprint if it has the size of one, and else it is passed over
    cases entry with
    | folder => rfl
    | file data =>
      simp only [Entry.bytes, Fingerprint.four?_eq]
      by_cases hlength : data.length = 4
      · simp [hlength]
      · simp [hlength]

/-! ## §3 Dumps -/

/-- No remembered fingerprint is looked up: the caller has chosen one, or there is no folder. -/
def Settled {σ : Type} (session : Session σ) : Prop :=
  session.pinned = true ∨ session.cache = none

section

variable {σ : Type} {session left : Session σ}

theorem Settled.exec_lookUp {dumping : Dumping σ} (h : dumping.session.Settled) (files : Files)
    (serial : UInt32) : exec (lookUp files serial) dumping = (.ok (), dumping) := by
  unfold lookUp
  rw [exec_get_bind]
  rcases h with hpinned | hcache
  · cases hcache : dumping.session.cache <;> simp [hcache, hpinned]
  · simp [hcache]

theorem Settled.cursorFor (h : session.Settled) (files : Files) (serial : UInt32) :
    session.cursorFor files serial = session.cursor := by
  unfold Session.cursorFor
  rcases h with hpinned | hcache
  · cases session.cache <;> simp [hpinned]
  · simp [hcache]

variable [ReportLink σ]

theorem Bulk.kept {length : UInt32} {result : Except Fault Unit} {buffer : Bytes}
    (h : Bulk session length result left buffer) :
    left.cache = session.cache ∧ left.pinned = session.pinned ∧ left.cursor = session.cursor := by
  cases h <;> exact ⟨rfl, rfl, rfl⟩

/-- **A dump changes the fingerprint once the computer is known**, and nothing else about the
choice of it. -/
theorem dump_cursor (around : Surroundings) (session : Session σ) (old : Bytes) :
    let left := (session.dump around old).2.session
    left.cache = session.cache ∧ left.pinned = session.pinned ∧
      ((∃ fault rest, Fails session.link probes fault rest ∧ left.cursor = session.cursor) ∨
        ∃ model serial devtime mid, Talks session.link probes [model, serial, devtime] mid ∧
          left.cursor = session.cursorFor around.files (Word.front serial)) := by
  refine dump_elim around session old fun result left buffer hcourse => ?_
  -- what comes after the three answers leaves the fingerprint that was looked up
  cases hcourse with
  | unidentified hfails => exact ⟨rfl, rfl, .inl ⟨_, _, hfails, rfl⟩⟩
  | unsized htalks _ => exact ⟨rfl, rfl, .inr ⟨_, _, _, _, htalks, rfl⟩⟩
  | nothing htalks _ _ => exact ⟨rfl, rfl, .inr ⟨_, _, _, _, htalks, rfl⟩⟩
  | bulk htalks _ _ hbulk =>
    obtain ⟨hcache, hpinned, hcursor⟩ := hbulk.kept
    exact ⟨hcache, hpinned, .inr ⟨_, _, _, _, htalks, hcursor⟩⟩

/-- A dump that looks up nothing goes the same way whatever the files are. -/
theorem dump_of_settled (h : session.Settled) (now : Instant) (files other : Files) (old : Bytes) :
    session.dump ⟨now, files⟩ old = session.dump ⟨now, other⟩ old := by
  show exec (dumpSteps ⟨now, files⟩) _ = exec (dumpSteps ⟨now, other⟩) _
  unfold dumpSteps
  rw [exec_modify_bind, exec_modify_bind, exec_tellProgress_bind, exec_tellProgress_bind]
  -- the files occur where the fingerprint is looked up, and nowhere else
  show exec (identify now >>= fun info => lookUp files info.serial >>= _) ⟨session.opened, [], []⟩ =
    exec (identify now >>= fun info => lookUp other info.serial >>= _) ⟨session.opened, [], []⟩
  obtain ⟨mid, warned, ⟨model, serial, devtime, _, hexec⟩ | ⟨fault, _, hexec⟩⟩ :=
    exec_identify now session.opened [] []
  · have hsettled : ((session.opened.reach mid).identified now model serial devtime).Settled := h
    rw [exec_bind_ok hexec, exec_bind_ok hexec,
      exec_bind_ok (Settled.exec_lookUp hsettled files (Word.front serial)),
      exec_bind_ok (Settled.exec_lookUp hsettled other (Word.front serial))]
  · rw [exec_bind_error hexec, exec_bind_error hexec]

end

/-! ## §4 Calls -/

/-- What a caller does with a session. -/
inductive Call where
  | choose (data : Bytes)
  /-- A dump, among files that may be others than before. -/
  | dump (around : Surroundings) (buffer : Bytes)

/-- The fingerprint that a call chooses. -/
def Call.choice : Call → Option Fingerprint
  | .choose data => Fingerprint.choice data
  | .dump _ _ => none

/-- The fingerprint that the last of these calls to choose one has chosen. -/
def lastChoice (calls : List Call) : Option Fingerprint :=
  (calls.filterMap Call.choice).getLast?

theorem lastChoice_concat (calls : List Call) (call : Call) :
    lastChoice (calls ++ [call]) = call.choice.or (lastChoice calls) := by
  unfold lastChoice
  rw [List.filterMap_append]
  cases hchoice : call.choice <;> simp [hchoice]

section

variable {σ : Type}

theorem setFingerprint_of_choice {data : Bytes} {fingerprint : Fingerprint}
    (h : Fingerprint.choice data = some fingerprint) (session : Session σ) :
    session.setFingerprint data =
      (.ok (), { session with cursor := fingerprint, pinned := true }) := by
  simp only [setFingerprint, Fingerprint.ofBytes_of_choice h]

theorem setFingerprint_of_no_choice {data : Bytes} (h : Fingerprint.choice data = none)
    (session : Session σ) :
    session.setFingerprint data =
      (.error (.invalidArgument (.fingerprintSize data.length)), session) := by
  simp only [setFingerprint, Fingerprint.ofBytes_of_no_choice h]

variable [ReportLink σ]

/-- The session after a call. -/
def call (session : Session σ) : Call → Session σ
  | .choose data => (session.setFingerprint data).2
  | .dump around buffer => (session.dump around buffer).2.session

/-- The session after calls in a row. -/
def calls (session : Session σ) (calls : List Call) : Session σ :=
  calls.foldl call session

theorem calls_concat (session : Session σ) (calls : List Call) (call : Call) :
    session.calls (calls ++ [call]) = (session.calls calls).call call := by
  rw [Session.calls, List.foldl_append]
  rfl

/-- Between two states of a session the caller has chosen this fingerprint last, or none: no file
takes its place. -/
structure Chose (choice : Option Fingerprint) (session left : Session σ) : Prop where
  cache : left.cache = session.cache
  pinned : left.pinned = (session.pinned || choice.isSome)
  cursor : session.Settled ∨ choice.isSome → left.cursor = choice.getD session.cursor

omit [ReportLink σ] in
theorem Chose.settled {choice : Option Fingerprint} {session left : Session σ}
    (h : Chose choice session left) (hsettled : session.Settled ∨ choice.isSome) : left.Settled := by
  unfold Settled
  rw [h.pinned, h.cache]
  rcases hsettled with (hpinned | hcache) | hchoice
  · exact .inl (by simp [hpinned])
  · exact .inr hcache
  · exact .inl (by simp [hchoice])

omit [ReportLink σ] in
theorem Chose.refl (session : Session σ) : Chose none session session :=
  ⟨rfl, by simp, fun _ => rfl⟩

omit [ReportLink σ] in
/-- The later choice counts, if there is one. -/
theorem Chose.trans {first second : Option Fingerprint} {session mid left : Session σ}
    (h : Chose first session mid) (h' : Chose second mid left) :
    Chose (second.or first) session left := by
  refine ⟨h'.cache.trans h.cache, ?_, ?_⟩
  · rw [h'.pinned, h.pinned]
    cases first <;> cases second <;> simp
  · intro hsettled
    cases second with
    | some fingerprint => exact h'.cursor (.inr rfl)
    | none =>
      -- what was chosen before, or the fingerprint from before, is not replaced
      exact (h'.cursor (.inl (h.settled hsettled))).trans (h.cursor hsettled)

theorem call_chose (session : Session σ) (call : Call) :
    Chose call.choice session (session.call call) := by
  cases call with
  | choose data =>
    cases hchoice : Fingerprint.choice data with
    | some fingerprint =>
      have hcall : session.call (.choose data) = _ :=
        congrArg Prod.snd (setFingerprint_of_choice hchoice session)
      rw [hcall, Call.choice, hchoice]
      exact ⟨rfl, by simp, fun _ => rfl⟩
    | none =>
      have hcall : session.call (.choose data) = session :=
        congrArg Prod.snd (setFingerprint_of_no_choice hchoice session)
      rw [hcall, Call.choice, hchoice]
      exact .refl session
  | dump around buffer =>
    obtain ⟨hcache, hpinned, hcursor⟩ := dump_cursor around session buffer
    refine ⟨hcache, hpinned.trans (by simp [Call.choice]), ?_⟩
    intro hsettled
    -- a dump that fails early leaves the fingerprint, and so does one that looks up nothing
    rcases hcursor with ⟨_, _, _, hcursor⟩ | ⟨_, _, _, _, _, hcursor⟩
    · exact hcursor
    · have hsettled : session.Settled := by simpa [Call.choice] using hsettled
      exact hcursor.trans (hsettled.cursorFor _ _)

/-- **A session keeps the last choice of its caller**, whatever calls come behind it. -/
theorem calls_chose (session : Session σ) (calls : List Call) :
    Chose (lastChoice calls) session (session.calls calls) := by
  induction calls using List.reverseRecOn with
  | nil => exact .refl session
  | append_singleton calls call ih =>
    rw [lastChoice_concat, calls_concat]
    exact ih.trans (call_chose _ call)

/-- **The caller decides after which fingerprint a dump asks, or else the files do.** Once bytes
were accepted, the session stays with the last that were, and no dump looks at the files. Before
that a session without a folder asks for all dives, and one with a folder looks the fingerprint up
in every dump that comes to know the computer. Bytes that are refused change nothing. Whatever the
fingerprint is, both requests of a dump carry it. -/
theorem calls_decide_cursor (link : Recorded σ) (cache : Option FingerprintCache)
    (calls : List Call) :
    let session := (start link cache).calls calls
    (∀ fingerprint, lastChoice calls = some fingerprint →
      session.cursor = fingerprint ∧
        ∀ now files other old, session.dump ⟨now, files⟩ old = session.dump ⟨now, other⟩ old) ∧
    (lastChoice calls = none → cache = none → session.cursor = .none) ∧
    (∀ folder, lastChoice calls = none → cache = some folder → ∀ around old,
      let left := (session.dump around old).2.session
      (∃ fault rest, Fails session.link probes fault rest ∧ left.cursor = session.cursor) ∨
        ∃ model serial devtime mid, Talks session.link probes [model, serial, devtime] mid ∧
          left.cursor = folder.recalled around.files (Word.front serial) session.cursor) ∧
    (∀ data, session.setFingerprint data =
      match Fingerprint.choice data with
      | some fingerprint => (.ok (), { session with cursor := fingerprint, pinned := true })
      | none => (.error (.invalidArgument (.fingerprintSize data.length)), session)) ∧
    (∀ data, (Fingerprint.choice data).isSome ↔ data.length = 0 ∨ data.length = 4) ∧
    (∀ around old,
      let left := (session.dump around old).2.session
      ∃ sent, left.link.sent = session.link.sent ++ sent ∧ sent <+: packetsFor left.cursor) := by
  intro session
  have hchose : Chose (lastChoice calls) (start link cache) session := calls_chose _ calls
  refine ⟨?_, ?_, ?_, ?_, Fingerprint.choice_isSome_iff, ?_⟩
  · -- the session is settled once there is a choice
    intro fingerprint hchoice
    have hchosen : (lastChoice calls).isSome := by simp [hchoice]
    have hcursor := hchose.cursor (.inr hchosen)
    rw [hchoice] at hcursor
    exact ⟨hcursor, dump_of_settled (hchose.settled (.inr hchosen))⟩
  · intro hchoice hcache
    have hcursor := hchose.cursor (.inl (.inr hcache))
    rwa [hchoice] at hcursor
  · -- the session is not pinned, and it still has its folder
    intro folder hchoice hcache around old
    have hpinned := hchose.pinned
    rw [hchoice] at hpinned
    have hlookup : ∀ serial, session.cursorFor around.files serial =
        folder.recalled around.files serial session.cursor :=
      cursorFor_of_unpinned (hchose.cache.trans hcache) hpinned around.files
    obtain ⟨_, _, hcursor⟩ := dump_cursor around session old
    simpa only [hlookup] using hcursor
  · intro data
    cases hchoice : Fingerprint.choice data with
    | some fingerprint => exact setFingerprint_of_choice hchoice session
    | none => exact setFingerprint_of_no_choice hchoice session
  · intro around old
    obtain ⟨answers, count, hplays⟩ := dump_plays around session old
    exact ⟨_, hplays.sent (fits_script _ _ _), packetsOf_take_script _ _ _ _⟩

end

end Session

end DiveLink
