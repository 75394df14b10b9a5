import DiveLink.Proofs.Increments

/-!
# Downloads over time

Several computers are downloaded again and again, in any order, and one folder remembers for each
how far it was downloaded. Between downloads their logs grow, faults come and go, and fingerprints
are forgotten.

1. `Step` is what can happen in a `World` of computers and files, `Run` is a history of it.
2. `remembered` reads off a history how far a computer was downloaded.
3. `Step.tracks` and `Run.tracks`: this is what the folder remembers.
4. `downloads_go_on`: every download from a computer without faults and with nothing left to send
   goes on where the last one ended.
5. `download_recovered`: what a failed download left in the queue is taken for the answers of the
   next one.
-/

namespace DiveLink

/-! ## §1 What can happen -/

/-- What can be set wrong at an emulated computer, and how it sends. -/
structure Knobs where
  totalOverride : Option UInt32
  lengthOverride : Option UInt32
  chunk : Nat
  emptyReports : Bool
  shortReadAfter : Option Nat
  failWriteOn : Option UInt8
  deriving DecidableEq, Repr

namespace Emulated

/-- The computer with other knobs. -/
def turn (computer : Emulated) (knobs : Knobs) : Emulated :=
  { computer with
    totalOverride := knobs.totalOverride
    lengthOverride := knobs.lengthOverride
    chunk := knobs.chunk
    emptyReports := knobs.emptyReports
    shortReadAfter := knobs.shortReadAfter
    failWriteOn := knobs.failWriteOn }

/-- The computer when it is switched on anew: it has nothing left to send. -/
def restart (computer : Emulated) : Emulated :=
  { computer with outgoing := [], commands := [], reportsRead := 0 }

/-- The computer with more dives in its log. -/
def append (computer : Emulated) (dives : List (UInt32 × Bytes)) : Emulated :=
  { computer with dives := computer.dives ++ dives }

end Emulated

/-- Computers, and the files of the host. -/
structure World (ι : Type) where
  computers : ι → Emulated
  files : Files

/-- What is told of a history: how downloads ended, and which fingerprints were forgotten. -/
inductive Happening (ι : Type) where
  | downloaded (which : ι) (result : Except CommandFault (List DiveSummary))
  | forgotten (serial : UInt32)

variable {ι : Type} [DecidableEq ι]

namespace World

/-- The world with another state of a computer. -/
def set (world : World ι) (which : ι) (computer : Emulated) : World ι :=
  { world with computers := Function.update world.computers which computer }

@[simp] theorem computers_set_self (world : World ι) (which : ι) (computer : Emulated) :
    (world.set which computer).computers which = computer :=
  Function.update_self ..

theorem computers_set_of_ne (world : World ι) {which other : ι} (hne : other ≠ which)
    (computer : Emulated) :
    (world.set which computer).computers other = world.computers other :=
  Function.update_of_ne hne ..

/-- A download in a new session. -/
def download (world : World ι) (cache : FingerprintCache) (which : ι) (now : Instant)
    (newerThan : Option Fingerprint) : Done (Session Emulated) (List DiveSummary) :=
  DiveLink.download now newerThan (some cache)
    (Session.start (world.computers which) (some cache)) world.files

/-- The world after a download. -/
def downloaded (world : World ι) (cache : FingerprintCache) (which : ι) (now : Instant)
    (newerThan : Option Fingerprint) : World ι :=
  let done := world.download cache which now newerThan
  { world.set which done.computer.link with files := done.files }

/-- The world after a fingerprint was forgotten. -/
def forget (world : World ι) (cache : FingerprintCache) (serial : UInt32) : World ι :=
  { world with files := ((cache.remove serial : StateM Files _).run world.files).2 }

end World

/-- Nothing is in the way of a download: the computer has no faults and nothing left to send. -/
structure Unhindered (computer : Emulated) : Prop where
  healthy : computer.Healthy
  idle : computer.outgoing = []

/-- More dives are in the way of nothing. -/
theorem Unhindered.append {computer : Emulated} (h : Unhindered computer)
    (dives : List (UInt32 × Bytes)) : Unhindered (computer.append dives) :=
  ⟨⟨h.healthy.chunk_pos, h.healthy.chunk_lt, h.healthy.totalOverride, h.healthy.lengthOverride,
    h.healthy.shortReadAfter, h.healthy.failWriteOn⟩, h.idle⟩

/-- What can happen, and what is told of it. A download in which something is in the way has to
fail. -/
inductive Step (cache : FingerprintCache) (world : World ι) : List (Happening ι) → World ι → Prop
    where
  /-- A log grows. -/
  | append (which : ι) (dives : List (UInt32 × Bytes)) :
      SoundLog ((world.computers which).dives ++ dives) →
      Step cache world [] (world.set which ((world.computers which).append dives))
  /-- Faults come or go. -/
  | turn (which : ι) (knobs : Knobs) :
      Step cache world [] (world.set which ((world.computers which).turn knobs))
  /-- A computer is switched off and on. -/
  | restart (which : ι) : Step cache world [] (world.set which (world.computers which).restart)
  /-- A computer is downloaded. -/
  | download (which : ι) (now : Instant) (newerThan : Option Fingerprint) :
      (Unhindered (world.computers which) ∨
        ∃ fault, (world.download cache which now newerThan).result = .error fault) →
      Step cache world [.downloaded which (world.download cache which now newerThan).result]
        (world.downloaded cache which now newerThan)
  /-- A fingerprint is forgotten. -/
  | forget (serial : UInt32) :
      Step cache world [.forgotten serial] (world.forget cache serial)

/-- A history, from the start of a world. -/
inductive Run (cache : FingerprintCache) (start : World ι) :
    List (Happening ι) → World ι → Prop where
  | start : Run cache start [] start
  | step {history more : List (Happening ι)} {world later : World ι} :
      Run cache start history world → Step cache world more later →
      Run cache start (history ++ more) later

/-! ## §2 How far computers were downloaded -/

/-- What a happening changes: a listing with dives in it is remembered by the first of them, which
is the newest. -/
def note (serialOf : ι → UInt32) (known : ι → Option Fingerprint) :
    Happening ι → ι → Option Fingerprint
  | .downloaded which (.ok (row :: _)) => Function.update known which (some row.fingerprint)
  | .downloaded _ _ => known
  | .forgotten serial => fun which => if serialOf which = serial then none else known which

/-- How far each computer was downloaded: to the newest dive of its last listing with dives in it,
unless this was forgotten since. -/
def remembered (serialOf : ι → UInt32) (history : List (Happening ι)) : ι → Option Fingerprint :=
  history.foldl (note serialOf) fun _ => none

theorem remembered_append (serialOf : ι → UInt32) (history more : List (Happening ι)) :
    remembered serialOf (history ++ more) =
      more.foldl (note serialOf) (remembered serialOf history) := by
  rw [remembered, List.foldl_append]
  rfl

/-! ## §3 What the folder remembers -/

/-- What a history leaves in a world: computers keep their serial numbers, logs are sound, and the
folder remembers how far each computer was downloaded. -/
structure Tracks (cache : FingerprintCache) (serialOf : ι → UInt32)
    (known : ι → Option Fingerprint) (world : World ι) : Prop where
  serial : ∀ which, (world.computers which).serial = serialOf which
  log : ∀ which, SoundLog (world.computers which).dives
  memory : ∃ memory, cache.Remembers world.files memory ∧
    ∀ which, memory (serialOf which) = known which

variable {cache : FingerprintCache} {serialOf : ι → UInt32} {known : ι → Option Fingerprint}
  {world : World ι}

/-- Another state of a computer that keeps its serial number and has a sound log. -/
theorem Tracks.set (h : Tracks cache serialOf known world) (which : ι) {computer : Emulated}
    (hserial : computer.serial = (world.computers which).serial) (hlog : SoundLog computer.dives) :
    Tracks cache serialOf known (world.set which computer) where
  -- only one computer has changed
  serial other := by
    by_cases heq : other = which
    · subst heq
      rw [World.computers_set_self, hserial, h.serial]
    · rw [World.computers_set_of_ne _ heq, h.serial]
  log other := by
    by_cases heq : other = which
    · subst heq
      rwa [World.computers_set_self]
    · rw [World.computers_set_of_ne _ heq]
      exact h.log other
  memory := h.memory

omit [DecidableEq ι] in
/-- Other files that remember what is known now. -/
theorem Tracks.with_files (h : Tracks cache serialOf known world) {files : Files}
    {later : ι → Option Fingerprint} {memory : UInt32 → Option Fingerprint}
    (hremembers : cache.Remembers files memory)
    (hmemory : ∀ which, memory (serialOf which) = later which) :
    Tracks cache serialOf later { world with files := files } where
  serial := h.serial
  log := h.log
  memory := ⟨memory, hremembers, hmemory⟩

/-- What is noted for the serial number of a computer is noted for it and for no other. -/
theorem noted_eq_note (hserials : Function.Injective serialOf)
    {memory : UInt32 → Option Fingerprint}
    (hmemory : ∀ which, memory (serialOf which) = known which) (which other : ι)
    (rows : List DiveSummary) :
    noted memory (serialOf which) (rows.head?.map DiveSummary.fingerprint) (serialOf other) =
      note serialOf known (.downloaded which (.ok rows)) other := by
  cases rows with
  | nil => exact hmemory other
  | cons row rows =>
    show Function.update memory (serialOf which) (some row.fingerprint) (serialOf other) =
      Function.update known which (some row.fingerprint) other
    by_cases heq : other = which
    · subst heq
      rw [Function.update_self, Function.update_self]
    · -- no other computer has its serial number
      rw [Function.update_of_ne heq, Function.update_of_ne fun h => heq (hserials h)]
      exact hmemory other

omit [DecidableEq ι] in
/-- A download that nothing hinders, of a world whose history is known. -/
theorem Tracks.download (h : Tracks cache serialOf known world) {which : ι}
    (hunhindered : Unhindered (world.computers which)) (now : Instant)
    (newerThan : Option Fingerprint) :
    (world.download cache which now newerThan).result =
        outcome (listing ⟨(world.computers which).devtime, now⟩
          (newer (newerThan.getD ((known which).getD .none)).timestamp
            (world.computers which).dives)) ∧
      Unhindered (world.download cache which now newerThan).computer.link ∧
      ∃ memory, (∀ other, memory (serialOf other) = known other) ∧
        ∀ rows, (world.download cache which now newerThan).result = .ok rows →
          cache.Remembers (world.download cache which now newerThan).files
            (noted memory (serialOf which) (rows.head?.map DiveSummary.fingerprint)) := by
  obtain ⟨memory, hremembers, hmemory⟩ := h.memory
  obtain ⟨reads, commands, hresult, hlink, hfiles⟩ :=
    hunhindered.healthy.download hunhindered.idle (h.log which) hremembers now newerThan
  rw [h.serial, hmemory] at hresult
  rw [h.serial] at hfiles
  refine ⟨hresult, ?_, memory, hmemory, hfiles⟩
  -- the computer has heard commands and sent reports, and all of them were read
  rw [World.download, hlink]
  exact ⟨hunhindered.healthy.of_atRest_eq (Emulated.atRest_heard _ _ _), hunhindered.idle⟩

omit [DecidableEq ι] in
/-- Whether a download succeeds or fails, reads and writes are all that it does to the computer. -/
theorem World.atRest_download (world : World ι) (cache : FingerprintCache) (which : ι)
    (now : Instant) (newerThan : Option Fingerprint) :
    (world.download cache which now newerThan).computer.link.atRest =
      (world.computers which).atRest :=
  download_keeps (Emulated.atRest_lasting (world.computers which)) now newerThan (some cache)
    (Session.start (world.computers which) (some cache)) world.files rfl

omit [DecidableEq ι] in
/-- Helper: so its log is the same. -/
theorem World.dives_download (world : World ι) (cache : FingerprintCache) (which : ι)
    (now : Instant) (newerThan : Option Fingerprint) :
    (world.download cache which now newerThan).computer.link.dives =
      (world.computers which).dives := by
  have hdives := congrArg Emulated.dives (world.atRest_download cache which now newerThan)
  exact hdives

/-- A download leaves the computer what it is. -/
theorem Tracks.link_download (h : Tracks cache serialOf known world) (which : ι) (now : Instant)
    (newerThan : Option Fingerprint) :
    Tracks cache serialOf known
      (world.set which (world.download cache which now newerThan).computer.link) := by
  have hserial := congrArg Emulated.serial (world.atRest_download cache which now newerThan)
  refine h.set which hserial ?_
  rw [world.dives_download]
  exact h.log which

/-- **Whatever happens, the folder remembers how far each computer was downloaded.** -/
theorem Step.tracks (hserials : Function.Injective serialOf) {more : List (Happening ι)}
    {later : World ι} (hstep : Step cache world more later)
    (h : Tracks cache serialOf known world) :
    Tracks cache serialOf (more.foldl (note serialOf) known) later := by
  -- one case a kind of step; only downloads and `forget` come near the folder
  cases hstep with
  | append which dives hlog => exact h.set which rfl hlog
  | turn which knobs => exact h.set which rfl (h.log which)
  | restart which => exact h.set which rfl (h.log which)
  | download which now newerThan hallowed =>
    have hcomputers := h.link_download which now newerThan
    cases hresult : (world.download cache which now newerThan).result with
    | error fault =>
      -- a download that fails leaves the files alone
      obtain ⟨memory, hremembers, hmemory⟩ := h.memory
      refine hcomputers.with_files ?_ hmemory
      rw [World.download, files_of_download_error hresult]
      exact hremembers
    | ok rows =>
      -- a download that succeeds was unhindered, and remembers the first of its rows
      rcases hallowed with hunhindered | ⟨fault, hfault⟩
      · obtain ⟨_, _, memory, hmemory, hremembers⟩ := h.download hunhindered now newerThan
        exact hcomputers.with_files (hremembers rows hresult) fun other =>
          noted_eq_note hserials hmemory which other rows
      · rw [hfault] at hresult
        cases hresult
  | forget serial =>
    obtain ⟨memory, hremembers, hmemory⟩ := h.memory
    obtain ⟨files, hrun, hlater⟩ := hremembers.run_remove serial
    have hforget : world.forget cache serial = { world with files := files } := by
      rw [World.forget, hrun]
    rw [hforget]
    refine h.with_files hlater fun other => ?_
    show Function.update memory serial none (serialOf other) =
      if serialOf other = serial then none else known other
    by_cases heq : serialOf other = serial
    · rw [if_pos heq, heq, Function.update_self]
    · rw [if_neg heq, Function.update_of_ne heq, hmemory]

theorem Run.tracks {start : World ι} (hserials : Function.Injective serialOf)
    {history : List (Happening ι)} (hrun : Run cache start history world)
    (h : Tracks cache serialOf (fun _ => none) start) :
    Tracks cache serialOf (remembered serialOf history) world := by
  -- on the history, from its start
  induction hrun with
  | start => exact h
  | step _ hstep ih =>
    rw [remembered_append]
    exact hstep.tracks hserials ih

/-! ## §4 Downloads that go on -/

/-- **Every download goes on where the last one ended.** Whatever happened since a folder was
fresh: a download that nothing hinders lists, newest first, the dives after the fingerprint it was
given, or else those after the newest dive of the last listing, and nothing is in the way of the
next one either; and the folder remembers of each computer the newest dive of its last listing.
There is a listing unless the host's clock is next to an end of the calendar. -/
theorem downloads_go_on {start world : World ι} {history : List (Happening ι)}
    (hserials : Function.Injective fun which => (start.computers which).serial)
    (hlogs : ∀ which, SoundLog (start.computers which).dives) (hfresh : cache.Fresh start.files)
    (hrun : Run cache start history world) :
    let known := remembered (fun which => (start.computers which).serial) history
    (∀ which now newerThan, Unhindered (world.computers which) →
      let clock : ClockCalibration := ⟨(world.computers which).devtime, now⟩
      let newest := newer (newerThan.getD ((known which).getD .none)).timestamp
        (world.computers which).dives
      (world.download cache which now newerThan).result = outcome (listing clock newest) ∧
        (now.Ordinary → ∃ rows, listing clock newest = some rows ∧
          rows.map DiveSummary.fingerprint = newest.reverse.map fun dive => ⟨dive.1⟩) ∧
        Unhindered ((world.downloaded cache which now newerThan).computers which)) ∧
    ∀ which, ((cache.load (start.computers which).serial : StateM Files _).run world.files).1 =
      .ok (known which) := by
  intro known
  -- a fresh folder remembers nothing, and nothing was downloaded yet
  have hstart : Tracks cache (fun which => (start.computers which).serial) (fun _ => none) start :=
    ⟨fun _ => rfl, hlogs, fun _ => none, Or.inl ⟨hfresh, rfl⟩, fun _ => rfl⟩
  have htracks := hrun.tracks hserials hstart
  refine ⟨?_, fun which => ?_⟩
  · intro which now newerThan hunhindered clock newest
    obtain ⟨hresult, hafter, _⟩ := htracks.download hunhindered now newerThan
    have hcomputer : (world.downloaded cache which now newerThan).computers which =
        (world.download cache which now newerThan).computer.link :=
      World.computers_set_self world which _
    rw [hcomputer]
    refine ⟨hresult, fun hordinary => ?_, hafter⟩
    have hclock : clock.systime.Ordinary := hordinary
    obtain ⟨rows, hlisting⟩ : ∃ rows, listing clock newest = some rows := exists_timed hclock _
    have hfingerprints := fingerprints_listing hlisting
    rw [List.map_reverse, fingerprints_layout, ← List.map_reverse] at hfingerprints
    exact ⟨rows, hlisting, hfingerprints⟩
  · obtain ⟨memory, hremembers, hmemory⟩ := htracks.memory
    rw [hremembers.run_load, hmemory]

/-- Two computers with a dive each. -/
def twoComputers : World Bool where
  computers which := { serial := if which then 1 else 2, dives := [(1, [])] }
  files := Files.startingAt []

/-- The first of them was downloaded. -/
def oneDownloaded : World Bool := twoComputers.downloaded cacheFolder true noon none

/-- Since then a dive was added to its log. -/
def logGrown : World Bool :=
  oneDownloaded.set true ((oneDownloaded.computers true).append [(2, [])])

/-- The second download of a computer lists the dive that was added since the first one, and the
other computer is still downloaded from its first dive on. -/
theorem downloads_go_on_two :
    (Function.Injective fun which => (twoComputers.computers which).serial) ∧
      (∀ which, SoundLog (twoComputers.computers which).dives) ∧
      cacheFolder.Fresh twoComputers.files ∧
      (∃ history, Run cacheFolder twoComputers history logGrown) ∧
      (∀ which, Unhindered (logGrown.computers which)) ∧ noon.Ordinary ∧
      (logGrown.computers true).dives = [(1, []), (2, [])] ∧
      (∃ rows, (logGrown.download cacheFolder true noon none).result = .ok rows ∧
        rows.map DiveSummary.fingerprint = [⟨2⟩]) ∧
      ∃ rows, (logGrown.download cacheFolder false noon none).result = .ok rows ∧
        rows.map DiveSummary.fingerprint = [⟨1⟩] := by
  have hserials : Function.Injective fun which => (twoComputers.computers which).serial := by
    unfold Function.Injective
    decide
  have hlogs : ∀ which, SoundLog (twoComputers.computers which).dives := by decide
  have hunhindered : ∀ which, Unhindered (twoComputers.computers which) := fun _ =>
    ⟨⟨by decide +revert, by decide +revert, rfl, rfl, rfl, rfl⟩, rfl⟩
  have hordinary : noon.Ordinary := ⟨by decide, by decide⟩
  -- the first download of the first computer, before anything has happened
  obtain ⟨hfirst, _⟩ := downloads_go_on hserials hlogs fresh_cacheFolder .start
  obtain ⟨hresult, hlisted, hafter⟩ := hfirst true noon none (hunhindered true)
  obtain ⟨rows, hlisting, hfingerprints⟩ := hlisted hordinary
  obtain ⟨row, rfl, hrow⟩ : ∃ row, rows = [row] ∧ row.fingerprint = ⟨1⟩ :=
    List.map_eq_singleton_iff.mp hfingerprints
  rw [hlisting] at hresult
  have hdives : (oneDownloaded.computers true).dives = [(1, [])] :=
    twoComputers.dives_download cacheFolder true noon none
  -- then its log grows
  have hrun : Run cacheFolder twoComputers [.downloaded true (.ok [row])] logGrown := by
    have hdownloaded : Run cacheFolder twoComputers
        [.downloaded true (twoComputers.download cacheFolder true noon none).result]
        oneDownloaded :=
      Run.start.step (Step.download true noon none (Or.inl (hunhindered true)))
    rw [hresult] at hdownloaded
    refine hdownloaded.step (Step.append true [(2, [])] ?_)
    rw [hdives]
    decide
  have hgrown : (logGrown.computers true).dives = [(1, []), (2, [])] :=
    congrArg (· ++ [(2, [])]) hdives
  have hsecond : ∀ which, Unhindered (logGrown.computers which)
    | true => hafter.append [(2, [])]
    | false => hunhindered false
  -- both computers are downloaded in the world that this leaves
  obtain ⟨hdownloads, _⟩ := downloads_go_on hserials hlogs fresh_cacheFolder hrun
  refine ⟨hserials, hlogs, fresh_cacheFolder, ⟨_, hrun⟩, hsecond, hordinary, hgrown, ?_, ?_⟩
  · obtain ⟨hresult, hlisted, _⟩ := hdownloads true noon none (hsecond true)
    obtain ⟨rows, hlisting, hfingerprints⟩ := hlisted hordinary
    rw [hlisting] at hresult
    refine ⟨rows, hresult, hfingerprints.trans ?_⟩
    -- what is remembered is the dive of the first listing
    have hknown : remembered (fun which => (twoComputers.computers which).serial)
        [.downloaded true (.ok [row])] true = some row.fingerprint := rfl
    rw [hknown, hrow, hgrown]
    rfl
  · obtain ⟨hresult, hlisted, _⟩ := hdownloads false noon none (hsecond false)
    obtain ⟨rows, hlisting, hfingerprints⟩ := hlisted hordinary
    rw [hlisting] at hresult
    -- nothing is remembered of this one, and its log is what it was
    exact ⟨rows, hresult, hfingerprints⟩

/-! ## §5 A queue that is not empty -/

/-- A computer with a dive. -/
def oneComputer : World Unit where
  computers _ := { dives := [(1, [0, 0, 0, 0])], chunk := 4 }
  files := Files.startingAt []

/-- No fault, or a wrong announcement of a bulk transfer. -/
def announcing (total : Option UInt32) : Knobs := ⟨total, none, 4, false, none, none⟩

/-- The computer announces a wrong size. -/
def misled : World Unit :=
  oneComputer.set () ((oneComputer.computers ()).turn (announcing (some 1)))

/-- It was downloaded once. -/
def interrupted : World Unit := misled.downloaded cacheFolder () noon (some .none)

/-- It announces the right size again. -/
def recovered : World Unit :=
  interrupted.set () ((interrupted.computers ()).turn (announcing none))

/-- A download that fails leaves the bulk transfer in the queue. -/
theorem download_misled :
    (misled.download cacheFolder () noon (some .none)).result =
      .error (.device (.sizeMismatch 20 1)) := by
  cbv

theorem run_recovered : Run cacheFolder oneComputer
    [.downloaded () (.error (.device (.sizeMismatch 20 1)))] recovered := by
  have hturned : Run cacheFolder oneComputer [] misled := Run.start.step (Step.turn () _)
  have hdownloaded : Run cacheFolder oneComputer
      [.downloaded () (misled.download cacheFolder () noon (some .none)).result] interrupted :=
    hturned.step (Step.download () noon (some .none) (Or.inr ⟨_, download_misled⟩))
  rw [download_misled] at hdownloaded
  exact hdownloaded.step (Step.turn () _)

/-- After a download that failed, a computer without faults is asked for its dives and none of them
is listed: the answers are those that were left in the queue. -/
theorem download_recovered :
    (Function.Injective fun which => (oneComputer.computers which).serial) ∧
      (∀ which, SoundLog (oneComputer.computers which).dives) ∧
      cacheFolder.Fresh oneComputer.files ∧
      (∃ history, Run cacheFolder oneComputer history recovered) ∧
      (recovered.computers ()).Healthy ∧ noon.Ordinary ∧
      newer 0 (recovered.computers ()).dives = [(1, [0, 0, 0, 0])] ∧
      (recovered.download cacheFolder () noon (some .none)).result = .ok [] := by
  have hlog : SoundLog [(1, [0, 0, 0, 0])] := by decide
  have hrecovered : recovered.computers () = { oneComputer.computers () with
      outgoing := [[0xA5, 0xA5, 0x5A, 0x5A], [16, 0, 0, 0], [1, 0, 0, 0], [0, 0, 0, 0]]
      reportsRead := 5
      commands := Emulated.questionsFor .none ++ Emulated.requestFor .none [0] } := by cbv
  refine ⟨fun _ _ _ => rfl, fun _ => hlog, fresh_cacheFolder, ⟨_, run_recovered⟩, ?_,
    ⟨by decide, by decide⟩, ?_, by cbv⟩
  · rw [hrecovered]
    exact ⟨by decide, by decide, rfl, rfl, rfl, rfl⟩
  · rw [hrecovered]
    rfl

end DiveLink
