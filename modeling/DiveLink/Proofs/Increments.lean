import DiveLink.Proofs.Emulation
import DiveLink.Proofs.Newer
import DiveLink.Proofs.Remembering
import DiveLink.Proofs.Times
import DiveLink.Tool.Download

/-!
# Downloads that go on where the last one ended

1. `download_of_visit` is a download whose dives come in, `files_of_download_error` one that fails.
   `download_of_dump` is the first over a link.
2. `mapM_timed_eq_some_iff`: rows have times if the calendar has them. `listing` are the rows of
   dives. It has the fingerprints of the dives, and there is one wherever the host's clock is far
   from the ends of the calendar.
3. `Emulated.Healthy.download` is the download of the dives after a fingerprint from a computer
   without faults: the listing, and what is remembered after it.
-/

namespace DiveLink

open Dive (memoryOf layout)

/-! ## §1 Downloads -/

variable {δ : Type} [DiveComputer δ]

section

variable {now : Instant} {newerThan : Option Fingerprint}
  {cache : Option FingerprintCache} {computer chosen : δ} {files : Files}

/-- What comes of dives that came in: their listing, unless the calendar ends before one of them. -/
def outcome : Option (List DiveSummary) → Except CommandFault (List DiveSummary)
  | some rows => .ok rows
  | none => .error .beyondCalendar

theorem outcome_eq_ok_iff {listed : Option (List DiveSummary)} {rows : List DiveSummary} :
    outcome listed = .ok rows ↔ listed = some rows := by
  cases listed with
  | none => simp [outcome]
  | some found => simp [outcome]

/-- A download whose dives come in. -/
theorem download_of_visit {visited : Visited δ (List Dive)} {listed : Option (List DiveSummary)}
    (hchoose : chooseFingerprint newerThan computer = (.ok (), chosen))
    (hvisit : DiveComputer.visit ⟨now, files⟩ chosen keepAll [] = visited)
    (hfault : visited.fault = none)
    (hlisted : (rowsOf visited.state.reverse).mapM
      (DiveSummary.timed (DiveComputer.clock visited.computer)) = listed) :
    (download now newerThan cache computer files).result = outcome listed ∧
      (download now newerThan cache computer files).computer = visited.computer ∧
      (listed.isSome → (download now newerThan cache computer files).files =
        (rememberNewest cache (DiveComputer.identity visited.computer) visited.state.reverse
          files).2) := by
  subst hvisit
  cases listed with
  | none =>
    refine ⟨?_, ?_, fun h => (nomatch h)⟩ <;>
    simp only [download, hchoose, hfault, hlisted, outcome]
  | some rows =>
    refine ⟨?_, ?_, fun _ => ?_⟩ <;>
    simp only [download, hchoose, hfault, hlisted, outcome]

/-- A download that fails remembers nothing. -/
theorem files_of_download_error {fault : CommandFault}
    (h : (download now newerThan cache computer files).result = .error fault) :
    (download now newerThan cache computer files).files = files := by
  unfold download at h ⊢
  -- files are written in the last branch only, and it has no fault
  cases hchoose : chooseFingerprint newerThan computer with
  | mk result chosen =>
    cases result with
    | error fault => rfl
    | ok _ =>
      simp only [hchoose] at h ⊢
      split at h
      · rfl
      · split at h
        · rfl
        · cases h

end

section

variable {σ : Type} [ReportLink σ]

theorem link_chooseFingerprint (newerThan : Option Fingerprint) (session : Session σ) :
    (chooseFingerprint newerThan session).2.link = session.link := by
  cases newerThan with
  | none => rfl
  | some fingerprint =>
    show (Session.setFingerprint session fingerprint.toBytes).2.link = session.link
    unfold Session.setFingerprint
    split <;> rfl

theorem computer_visit {τ : Type} (around : Surroundings) (session : Session σ)
    (visitor : τ → Dive → τ × Bool) (state : τ) :
    (DiveComputer.visit around session visitor state).computer =
      (session.dump around []).2.session := by
  show ((session.dumped around []).visit visitor state).computer = _
  unfold Dumped.visit
  split <;> rfl

/-- What no read and no write ends is kept by a download, whether it succeeds or fails. -/
theorem download_keeps {keeps : σ → Prop} (hlasting : Lasting keeps) (now : Instant)
    (newerThan : Option Fingerprint) (cache : Option FingerprintCache) (session : Session σ)
    (files : Files) (hkeeps : keeps session.link) :
    keeps (download now newerThan cache session files).computer.link := by
  -- the choice of a fingerprint does not use the link, and the visit uses it for the dump
  rw [← link_chooseFingerprint newerThan] at hkeeps
  unfold download
  cases hchoose : chooseFingerprint newerThan session with
  | mk result chosen =>
    rw [hchoose] at hkeeps
    cases result with
    | error fault => exact hkeeps
    | ok _ =>
      have hdump := Session.dump_keeps hlasting ⟨now, files⟩ chosen [] hkeeps
      rw [← computer_visit ⟨now, files⟩ chosen keepAll []] at hdump
      dsimp only
      split
      · exact hdump
      · split <;> exact hdump

end

/-! ## §2 Times of rows -/

/-- Whether the calendar has the time of a fingerprint, where a pair of clocks is known. -/
def InCalendar (clock : Option ClockCalibration) (fingerprint : Fingerprint) : Prop :=
  ∀ pair ∈ clock, (pair.diveTime fingerprint).isSome

theorem inCalendar_none (fingerprint : Fingerprint) : InCalendar none fingerprint := by
  intro pair hpair
  cases hpair

namespace DiveSummary

/-- A row with its time, where a pair of clocks is known. -/
def dated (clock : Option ClockCalibration) (row : DiveSummary) : DiveSummary :=
  match clock with
  | none => row
  | some pair => { row with datetime := pair.diveTime row.fingerprint }

/-- A row without its time. -/
def untimed (row : DiveSummary) : DiveSummary :=
  { row with datetime := none }

variable {clock : Option ClockCalibration} {row : DiveSummary}

theorem timed_eq_some_iff {found : DiveSummary} :
    row.timed clock = some found ↔ InCalendar clock row.fingerprint ∧ found = row.dated clock := by
  cases clock with
  | none =>
    constructor
    · intro h
      exact ⟨inCalendar_none row.fingerprint, (Option.some.inj h).symm⟩
    · rintro ⟨_, rfl⟩
      rfl
  | some pair =>
    constructor
    · intro h
      obtain ⟨time, htime, rfl⟩ := Option.map_eq_some_iff.mp h
      constructor
      · -- there is one pair of clocks, and it is the one that gave the time
        intro other hother
        obtain rfl := Option.mem_some.mp hother
        rw [htime]
        rfl
      · rw [dated, htime]
    · rintro ⟨hcalendar, rfl⟩
      obtain ⟨time, htime⟩ := Option.isSome_iff_exists.mp (hcalendar pair rfl)
      simp only [timed, withClock, dated, htime, Option.map_some]

/-- Rows have times if the calendar has the times of all of them. -/
theorem mapM_timed_eq_some_iff {rows found : List DiveSummary} :
    rows.mapM (timed clock) = some found ↔
      (∀ row ∈ rows, InCalendar clock row.fingerprint) ∧ found = rows.map (dated clock) := by
  induction rows generalizing found with
  | nil => simp [eq_comm]
  | cons row rest ih =>
    rw [List.mapM_cons, List.forall_mem_cons, List.map_cons]
    simp only [Option.bind_eq_bind, Option.bind_eq_some_iff, Option.pure_def, Option.some.injEq,
      timed_eq_some_iff, ih]
    constructor
    · rintro ⟨_, ⟨hrow, rfl⟩, _, ⟨hrest, rfl⟩, rfl⟩
      exact ⟨⟨hrow, hrest⟩, rfl⟩
    · rintro ⟨⟨hrow, hrest⟩, rfl⟩
      exact ⟨_, ⟨hrow, rfl⟩, _, ⟨hrest, rfl⟩, rfl⟩

theorem untimed_dated (clock : Option ClockCalibration) (row : DiveSummary) :
    (row.dated clock).untimed = row.untimed := by
  cases clock <;> rfl

end DiveSummary

/-- Rows with times are otherwise what they are without them. -/
theorem untimed_of_timed {clock : Option ClockCalibration} {rows timed : List DiveSummary}
    (h : rows.mapM (DiveSummary.timed clock) = some timed) :
    timed.map DiveSummary.untimed = rows.map DiveSummary.untimed := by
  obtain ⟨_, rfl⟩ := DiveSummary.mapM_timed_eq_some_iff.mp h
  rw [List.map_map]
  apply List.map_congr_left
  intro row _
  exact DiveSummary.untimed_dated clock row

/-- Where every dive has a time, every row has one. -/
theorem exists_timed {clock : ClockCalibration} (hclock : clock.systime.Ordinary)
    (rows : List DiveSummary) :
    ∃ timed, rows.mapM (DiveSummary.timed (some clock)) = some timed := by
  refine ⟨_, DiveSummary.mapM_timed_eq_some_iff.mpr ⟨?_, rfl⟩⟩
  intro row _ pair hpair
  obtain rfl := Option.mem_some.mp hpair
  exact Option.isSome_iff_exists.mpr (ClockCalibration.exists_diveTime hclock row.fingerprint)

/-- The listing of dives with the records that hold them: newest first, numbered from one, with
their times. -/
def listing (clock : ClockCalibration) (dives : List (UInt32 × Bytes)) :
    Option (List DiveSummary) :=
  (rowsOf (layout 0 dives).reverse).mapM (DiveSummary.timed (some clock))

/-- What rows take over from their dives does not depend on their numbers. -/
theorem map_rowsOf {α : Type} {field : DiveSummary → α} {taken : Dive → α}
    (h : ∀ number dive, field (DiveSummary.ofDive number dive) = taken dive) (dives : List Dive) :
    (rowsOf dives).map field = dives.map taken := by
  have hfirst := congrArg (List.map taken) (List.zipIdx_map_fst 0 dives)
  rw [List.map_map] at hfirst
  rw [rowsOf, List.map_map, ← hfirst]
  apply List.map_congr_left
  intro found _
  exact h _ _

theorem fingerprints_rowsOf (dives : List Dive) :
    (rowsOf dives).map DiveSummary.fingerprint = dives.map Fingerprint.ofDive :=
  map_rowsOf (fun _ _ => rfl) dives

theorem fingerprints_layout (offset : Nat) (dives : List (UInt32 × Bytes)) :
    (layout offset dives).map Fingerprint.ofDive = dives.map fun dive => ⟨dive.1⟩ := by
  induction dives generalizing offset with
  | nil => rfl
  | cons dive rest ih =>
    simp [layout, ih, Fingerprint.ofDive, Dive.timestamp]

/-- The rows of a listing have the fingerprints of the dives, newest first. -/
theorem fingerprints_listing {clock : ClockCalibration} {dives : List (UInt32 × Bytes)}
    {rows : List DiveSummary} (h : listing clock dives = some rows) :
    rows.map DiveSummary.fingerprint = (layout 0 dives).reverse.map Fingerprint.ofDive := by
  -- a row has the same fingerprint with its time and without it
  have hfingerprints := congrArg (List.map DiveSummary.fingerprint) (untimed_of_timed h)
  have hsame : DiveSummary.fingerprint ∘ DiveSummary.untimed = DiveSummary.fingerprint := rfl
  rwa [List.map_map, List.map_map, hsame, fingerprints_rowsOf] at hfingerprints

/-! ## §3 Downloads from a computer without faults -/

omit [DiveComputer δ] in
/-- A scan of a dump that can be read back hands all its dives to the visitor. -/
theorem visit_of_all {dumped : Dumped δ} {dives : List Dive} (hfault : dumped.fault = none)
    (hall : Dive.all dumped.buffer = (dives, none)) :
    dumped.visit keepAll [] = ⟨dumped.computer, dives.reverse, none, dumped.warnings⟩ := by
  have hextract : Dive.extract dumped.buffer keepAll [] = (dives.reverse, none) :=
    Scan.extract_keep (Scan.all_eq_iff.mp hall)
  simp only [Dumped.visit, hfault, hextract]
  rfl

/-- A download over a link, by its dump. -/
theorem download_of_dump {σ : Type} [ReportLink σ] {session chosen : Session σ} {now : Instant}
    {newerThan : Option Fingerprint} {files : Files} {info : DeviceInfo} {clock : ClockCalibration}
    {dives : List Dive} {listed : Option (List DiveSummary)}
    (hchoose : chooseFingerprint newerThan session = (.ok (), chosen))
    (hresult : (chosen.dump ⟨now, files⟩ []).1 = .ok ())
    (hall : Dive.all (chosen.dump ⟨now, files⟩ []).2.buffer = (dives, none))
    (hinfo : (chosen.dump ⟨now, files⟩ []).2.session.info = some info)
    (hclock : (chosen.dump ⟨now, files⟩ []).2.session.clock = some clock)
    (hlisted : (rowsOf dives).mapM (DiveSummary.timed (some clock)) = listed)
    (cache : Option FingerprintCache) :
    (download now newerThan cache session files).result = outcome listed ∧
      (download now newerThan cache session files).computer =
        (chosen.dump ⟨now, files⟩ []).2.session ∧
      (listed.isSome → (download now newerThan cache session files).files =
        (rememberNewest cache (some info) dives files).2) := by
  have hfault : (chosen.dumped ⟨now, files⟩ []).fault = none := by
    simp only [Session.dumped, hresult]
    rfl
  -- what the dump left is scanned to its dives
  have hvisit : DiveComputer.visit ⟨now, files⟩ chosen keepAll [] = _ := visit_of_all hfault hall
  have hclock : DiveComputer.clock (chosen.dumped ⟨now, files⟩ []).computer = some clock := hclock
  have hidentity : DiveComputer.identity (chosen.dumped ⟨now, files⟩ []).computer = some info :=
    hinfo
  obtain ⟨hdone, hcomputer, hfiles⟩ :=
    @download_of_visit _ _ now newerThan cache _ _ _ _ _ hchoose hvisit rfl rfl
  simp only [List.reverse_reverse, hclock, hidentity, hlisted] at hdone hfiles
  exact ⟨hdone, hcomputer, hfiles⟩

variable {computer : Emulated} {cache : FingerprintCache} {files : Files}

/-- In a session without a choice the folder is asked for the fingerprint. -/
theorem cursorFor_of_remembers {σ : Type} {session : Session σ}
    {memory : UInt32 → Option Fingerprint} (hcache : session.cache = some cache)
    (hpinned : session.pinned = false) (h : cache.Remembers files memory) (serial : UInt32) :
    session.cursorFor files serial = (memory serial).getD .none := by
  simp only [Session.cursorFor, hcache, hpinned, h.run_load serial]
  rfl

/-- A fingerprint that is given is chosen. -/
theorem chooseFingerprint_some {σ : Type} [ReportLink σ] (fingerprint : Fingerprint)
    (session : Session σ) :
    chooseFingerprint (some fingerprint) session =
      (.ok (), { session with cursor := fingerprint, pinned := true }) := by
  have hfront : Word.front fingerprint.toBytes = fingerprint.timestamp :=
    Word.front_toBytes_self fingerprint.timestamp
  -- four bytes are a fingerprint, and these are the bytes of this one
  have hbytes : Fingerprint.ofBytes fingerprint.toBytes = .ok fingerprint := by
    simp only [Fingerprint.ofBytes, Fingerprint.toBytes, Word.length_toBytes]
    exact congrArg (fun timestamp => Except.ok (Fingerprint.mk timestamp)) hfront
  show Session.setFingerprint session fingerprint.toBytes = _
  simp only [Session.setFingerprint, hbytes]

/-- The choice of a fingerprint for a new session: from then on dives after it are asked for, or
else those after the remembered one. -/
theorem exists_chosen (computer : Emulated) (cache : FingerprintCache)
    (newerThan : Option Fingerprint) :
    ∃ chosen, chooseFingerprint newerThan (Session.start computer (some cache)) =
        (.ok (), chosen) ∧ chosen.link = computer ∧
      ∀ files memory, cache.Remembers files memory → ∀ serial,
        chosen.cursorFor files serial = newerThan.getD ((memory serial).getD .none) := by
  cases newerThan with
  | none =>
    exact ⟨Session.start computer (some cache), rfl, rfl,
      fun files memory h serial => cursorFor_of_remembers rfl rfl h serial⟩
  | some fingerprint =>
    exact ⟨_, chooseFingerprint_some fingerprint _, rfl, fun _ _ _ _ => rfl⟩

/-- What is remembered once a newest dive is known. -/
def noted (memory : UInt32 → Option Fingerprint) (serial : UInt32) :
    Option Fingerprint → UInt32 → Option Fingerprint
  | none => memory
  | some newest => Function.update memory serial (some newest)

theorem remembers_rememberNewest {memory : UInt32 → Option Fingerprint}
    (h : cache.Remembers files memory) (info : DeviceInfo) (dives : List Dive) :
    cache.Remembers (rememberNewest (some cache) (some info) dives files).2
      (noted memory info.serial (dives.head?.map Fingerprint.ofDive)) := by
  cases dives with
  | nil => exact h
  | cons newest rest =>
    obtain ⟨later, hrun, hlater⟩ := h.run_save info.serial (Fingerprint.ofDive newest)
    simp only [rememberNewest, hrun]
    exact hlater

/-- **A download from a computer without faults** lists the dives after the fingerprint that was
chosen, or else after the remembered one, and remembers the newest of them. -/
theorem Emulated.Healthy.download (h : computer.Healthy) (hidle : computer.outgoing = [])
    (hlog : SoundLog computer.dives) {memory : UInt32 → Option Fingerprint}
    (hremembers : cache.Remembers files memory) (now : Instant)
    (newerThan : Option Fingerprint) :
    ∃ reads commands,
      (DiveLink.download now newerThan (some cache) (Session.start computer (some cache))
        files).result = outcome (listing ⟨computer.devtime, now⟩
          (newer (newerThan.getD ((memory computer.serial).getD .none)).timestamp
            computer.dives)) ∧
      (DiveLink.download now newerThan (some cache) (Session.start computer (some cache))
        files).computer.link = computer.heard commands reads ∧
      ∀ rows, (DiveLink.download now newerThan (some cache) (Session.start computer (some cache))
        files).result = .ok rows →
        cache.Remembers (DiveLink.download now newerThan (some cache)
          (Session.start computer (some cache)) files).files
          (noted memory computer.serial (rows.head?.map DiveSummary.fingerprint)) := by
  obtain ⟨chosen, hchoose, hlink, hcursor⟩ := exists_chosen computer cache newerThan
  have hcursor := hcursor files memory hremembers computer.serial
  generalize newerThan.getD ((memory computer.serial).getD .none) = cursor at hcursor ⊢
  obtain ⟨hresult, hbuffer, ⟨reads, hrest⟩, hinfo, hclock⟩ :=
    h.dump ⟨now, files⟩ chosen [] cursor hlink hcursor hidle
      (hlog.ordered.newer cursor.timestamp).fits
  -- what the dump left holds the dives that were asked for
  have hall : Dive.all (chosen.dump ⟨now, files⟩ []).2.buffer =
      ((layout 0 (newer cursor.timestamp computer.dives)).reverse, none) := by
    rw [hbuffer, memoryAfter_eq]
    exact (hlog.ordered.newer cursor.timestamp).all
  obtain ⟨hdone, hcomputer, hfiles⟩ :=
    download_of_dump hchoose hresult hall hinfo hclock rfl (some cache)
  refine ⟨reads, _, hdone, (congrArg Session.link hcomputer).trans hrest, fun rows hok => ?_⟩
  -- what is remembered is the first row, under the serial number that the computer has told
  have hlisting : listing ⟨computer.devtime, now⟩ (newer cursor.timestamp computer.dives) =
      some rows := outcome_eq_ok_iff.mp (hdone.symm.trans hok)
  rw [hfiles (Option.isSome_of_eq_some hlisting), ← List.head?_map,
    fingerprints_listing hlisting, List.head?_map]
  exact remembers_rememberNewest hremembers _ _

end DiveLink
