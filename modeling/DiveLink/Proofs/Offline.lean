import DiveLink.Proofs.History
import DiveLink.Tool.Extract

/-!
# Listing without the computer

A file with the whole memory of a computer can be listed from a fingerprint on: the listing ends at
the first dive that is not newer. A download asks the computer itself for the newer dives. Both give
the same dives, which lie further behind in the file.

1. `Listed` is a listing of a file after some dives, `hand_front` and `hand_stops` follow it to
   where it stops.
2. `extractRows_of_walk` and `OrderedLog.extractRows` are the rows of a file.
3. `DiveSummary.offline` is the row that a file has for a row of a download.
4. `extract_agrees_download`: the listing of the file is that of the download.
-/

namespace DiveLink

open Dive (memoryOf layout)

/-! ## §1 A listing that ends -/

namespace Extraction

/-- Whether a dive is to be listed. -/
def wants (since : Fingerprint) (dive : Dive) : Bool :=
  since.isNone || (Fingerprint.ofDive dive).isNewerThan since

theorem accept_of_wants {listing : Incremental} {dive : Dive}
    (h : wants listing.lastKnown dive = true) :
    ∃ next, listing.accept dive = (next, true) ∧ next.lastKnown = listing.lastKnown := by
  refine ⟨{ listing with newest := listing.newest.or (some (Fingerprint.ofDive dive)) }, ?_, rfl⟩
  unfold wants at h
  unfold Incremental.accept
  cases hnone : listing.lastKnown.isNone <;> simp_all

theorem accept_of_not_wants {listing : Incremental} {dive : Dive}
    (h : wants listing.lastKnown dive = false) : listing.accept dive = (listing, false) := by
  unfold wants at h
  unfold Incremental.accept
  cases hnone : listing.lastKnown.isNone <;> simp_all

/-- A listing that resumes after a fingerprint and has these dives so far. -/
structure Listed (clock : Option ClockCalibration) (since : Fingerprint) (dives : List Dive)
    (state : Extraction) : Prop where
  lastKnown : state.listing.lastKnown = since
  rows : state.rows.reverse = (rowsOf dives).map (DiveSummary.dated clock)
  beyond : state.beyond = false

/-- What is left of a scan where a listing stops, and the broken record that it stops with. -/
inductive Stops (since : Fingerprint) : List (Except Overrun Dive) → Option Overrun → Prop where
  | ended : Stops since [] none
  | enough {dive : Dive} {below : List (Except Overrun Dive)} :
      wants since dive = false → Stops since (.ok dive :: below) none
  | broken (overrun : Overrun) (below : List (Except Overrun Dive)) :
      Stops since (.error overrun :: below) (some overrun)

/-- Dives that are not to be listed stop a listing, if there are any. -/
theorem Stops.of_not_wants {since : Fingerprint} {back : List Dive}
    (hback : ∀ dive ∈ back, wants since dive = false) : Stops since (back.map .ok) none := by
  cases back with
  | nil => exact .ended
  | cons dive rest => exact .enough (hback dive List.mem_cons_self)

theorem rowsOf_concat (dives : List Dive) (dive : Dive) :
    rowsOf (dives ++ [dive]) = rowsOf dives ++ [DiveSummary.ofDive (dives.length + 1) dive] := by
  simp [rowsOf, List.zipIdx_append]

namespace Listed

variable {clock : Option ClockCalibration} {since : Fingerprint} {dives : List Dive}
  {state : Extraction} {dive : Dive} {rest : List (Except Overrun Dive)}

theorem start (clock : Option ClockCalibration) (since : Fingerprint) :
    Listed clock since [] (.after since) :=
  ⟨rfl, rfl, rfl⟩

theorem length_rows (h : Listed clock since dives state) : state.rows.length = dives.length := by
  have hlength := congrArg List.length h.rows
  simpa [rowsOf] using hlength

/-- A dive that is to be listed is the next row, if the calendar has its time. -/
theorem step_of_wants (h : Listed clock since dives state) (hwants : wants since dive = true)
    (htime : InCalendar clock (Fingerprint.ofDive dive)) :
    ∃ next, step clock state dive = (next, true) ∧
      Listed clock since (dives ++ [dive]) next := by
  rw [← h.lastKnown] at hwants
  obtain ⟨listing, haccept, hknown⟩ := accept_of_wants hwants
  -- the number of the row is one more than there are rows
  have htimed : (DiveSummary.ofDive (state.rows.length + 1) dive).timed clock = some _ :=
    DiveSummary.timed_eq_some_iff.mpr ⟨htime, rfl⟩
  refine ⟨⟨listing, (DiveSummary.ofDive (state.rows.length + 1) dive).dated clock :: state.rows,
    state.beyond⟩, ?_, hknown.trans h.lastKnown, ?_, h.beyond⟩
  · simp only [step, haccept, htimed]
  · rw [List.reverse_cons, h.rows, h.length_rows, rowsOf_concat, List.map_append,
      List.map_singleton]

/-- **A listing goes on behind dives that are to be listed.** -/
theorem hand_front (h : Listed clock since dives state) {front : List Dive}
    (hfront : ∀ dive ∈ front, wants since dive = true)
    (htimes : ∀ dive ∈ front, InCalendar clock (Fingerprint.ofDive dive))
    (rest : List (Except Overrun Dive)) :
    ∃ next, Scan.hand (step clock) (front.map .ok ++ rest) state =
        Scan.hand (step clock) rest next ∧
      Listed clock since (dives ++ front) next := by
  -- on the dives that are to be listed; each is one row more
  induction front generalizing state dives with
  | nil =>
    rw [List.append_nil]
    exact ⟨state, rfl, h⟩
  | cons dive front ih =>
    obtain ⟨hdive, hfront⟩ := List.forall_mem_cons.mp hfront
    obtain ⟨htime, htimes⟩ := List.forall_mem_cons.mp htimes
    obtain ⟨next, hstep, hnext⟩ := h.step_of_wants hdive htime
    obtain ⟨last, hhand, hlast⟩ := ih hnext hfront htimes
    refine ⟨last, ?_, ?_⟩
    · rw [List.map_cons, List.cons_append, Scan.hand, hstep, if_pos rfl]
      exact hhand
    · rwa [List.append_assoc, List.singleton_append] at hlast

/-- Where a listing stops it has what it had. -/
theorem hand_stops (h : Listed clock since dives state) {overrun : Option Overrun}
    (hstops : Stops since rest overrun) :
    Scan.hand (step clock) rest state = (state, overrun) := by
  -- the scan is over, or a dive is refused, or a record is broken
  cases hstops with
  | ended => rfl
  | enough hwants =>
    rw [← h.lastKnown] at hwants
    simp only [Scan.hand, step, accept_of_not_wants hwants, Bool.false_eq_true, if_false]
  | broken overrun below => rfl

end Listed

end Extraction

/-! ## §2 The rows of a file -/

/-- What comes of a listing: a record that is broken is a fault, however many rows there are. -/
def unlessBroken (rows : List DiveSummary) : Option Overrun → Except CommandFault (List DiveSummary)
  | none => .ok rows
  | some overrun => .error (.device overrun.fault)

section

variable {rows : List DiveSummary} {overrun : Option Overrun}

theorem unlessBroken_eq_ok_iff {found : List DiveSummary} :
    unlessBroken rows overrun = .ok found ↔ overrun = none ∧ found = rows := by
  cases overrun <;> simp [unlessBroken, eq_comm]

theorem unlessBroken_eq_error_iff {fault : CommandFault} :
    unlessBroken rows overrun = .error fault ↔
      ∃ broken, overrun = some broken ∧ fault = .device broken.fault := by
  cases overrun <;> simp [unlessBroken, eq_comm]

end

/-- **The rows of a file are those of the dives in front of where the listing stops.** -/
theorem extractRows_of_walk {clock : Option ClockCalibration} {since : Fingerprint}
    {memory : Bytes} {front : List Dive} {rest : List (Except Overrun Dive)}
    {overrun : Option Overrun} (hwalk : Scan.walk memory = front.map .ok ++ rest)
    (hfront : ∀ dive ∈ front, Extraction.wants since dive = true)
    (htimes : ∀ dive ∈ front, InCalendar clock (Fingerprint.ofDive dive))
    (hstops : Extraction.Stops since rest overrun) :
    extractRows clock since memory =
      unlessBroken ((rowsOf front).map (DiveSummary.dated clock)) overrun := by
  -- the scan hands over the front first, and then what the listing stops at
  obtain ⟨last, hhand, hlast⟩ :=
    (Extraction.Listed.start clock since).hand_front hfront htimes rest
  rw [hlast.hand_stops hstops] at hhand
  rw [List.nil_append] at hlast
  unfold extractRows
  rw [Scan.extract_eq_hand, hwalk, hhand]
  cases overrun <;> simp [unlessBroken, hlast.beyond, hlast.rows]

/-- Without a pair of clocks the rows of a file have no times. -/
theorem dated_none (rows : List DiveSummary) : rows.map (DiveSummary.dated none) = rows :=
  List.map_id rows

/-- The listing of a file, with a record beside it or without one. -/
theorem run_extractFile_beside {files : Files} {path : String} {beside : Option String}
    {dump : Bytes} {data : Option DumpMetadata} (hfile : files.contents path = .ok dump)
    (hbeside : (loadOptional beside : StateM Files _).run files = (.ok data, files))
    (since : Option Fingerprint) :
    (extractFile path beside since : StateM Files _).run files =
      ((extractRows (data.map DumpMetadata.clock) (since.getD .none) dump,
        checkRecord path dump data), files) := by
  have hread : (FileAccess.contents path : StateM Files _).run files = (.ok dump, files) :=
    congrArg (·, files) hfile
  unfold extractFile
  rw [Files.run_bind, hread]
  dsimp only
  rw [Files.run_bind, hbeside]
  rfl

/-- The listing of a file, without a record beside it. -/
theorem run_extractFile {files : Files} {path : String} {dump : Bytes}
    (hfile : files.contents path = .ok dump) (since : Fingerprint) :
    (extractFile path none (some since) : StateM Files _).run files =
      ((extractRows none since dump, []), files) := by
  have hbeside : (loadOptional none : StateM Files _).run files = (.ok none, files) := rfl
  exact run_extractFile_beside hfile hbeside (some since)

/-- A record beside a file, from the bytes that are there. -/
theorem run_loadOptional {files : Files} {path text : String} {bytes : Bytes} {data : DumpMetadata}
    (hfile : files.contents path = .ok bytes) (htext : Utf8.text? bytes = some text)
    (hdata : DumpMetadata.ofText text = .ok data) :
    (loadOptional (some path) : StateM Files _).run files = (.ok (some data), files) := by
  have hread : (FileAccess.contents path : StateM Files _).run files = (.ok bytes, files) :=
    congrArg (·, files) hfile
  unfold loadOptional DumpMetadata.load FileAccess.readText
  simp only [Files.run_bind, hread, htext]
  show ((DumpMetadata.ofText text).map some, files) = _
  rw [hdata]
  rfl

/-- A record in a dump has the fingerprint of its dive. -/
theorem exists_of_mem_layout {offset : Nat} {dives : List (UInt32 × Bytes)} {found : Dive}
    (h : found ∈ layout offset dives) :
    ∃ dive ∈ dives, Fingerprint.ofDive found = ⟨dive.1⟩ := by
  have hmem := List.mem_map_of_mem (f := Fingerprint.ofDive) h
  rw [fingerprints_layout] at hmem
  obtain ⟨dive, hdive, heq⟩ := List.mem_map.mp hmem
  exact ⟨dive, hdive, heq.symm⟩

/-- The rows of a file with all dives of a log are those of the newer ones, as they lie behind the
others. -/
theorem OrderedLog.extractRows {dives : List (UInt32 × Bytes)} (h : OrderedLog dives)
    (since : Fingerprint) :
    DiveLink.extractRows none since (memoryOf dives) =
      .ok (rowsOf (layout (memoryOf (older since.timestamp dives)).length
        (DiveLink.newer since.timestamp dives)).reverse) := by
  -- the older dives lie in the front of the file, so the scan finds the newer ones first
  have hwalk := h.walk
  have hlayout : layout 0 dives = layout 0 (older since.timestamp dives) ++
      layout (memoryOf (older since.timestamp dives)).length
        (DiveLink.newer since.timestamp dives) := by
    rw [← Nat.zero_add (memoryOf _).length, ← Dive.layout_append,
      older_append_newer h.ordered since.timestamp]
  rw [hlayout, List.reverse_append, List.map_append] at hwalk
  have hfront : ∀ found ∈ (layout (memoryOf (older since.timestamp dives)).length
      (DiveLink.newer since.timestamp dives)).reverse, Extraction.wants since found = true := by
    intro found hfound
    obtain ⟨dive, hdive, hfingerprint⟩ := exists_of_mem_layout (List.mem_reverse.mp hfound)
    have hnewer := (List.mem_filter.mp hdive).2
    simp only [Extraction.wants, hfingerprint, Fingerprint.isNewerThan, hnewer, Bool.or_true]
  have hback : ∀ found ∈ (layout 0 (older since.timestamp dives)).reverse,
      Extraction.wants since found = false := by
    -- where there are other dives, a dive is known
    intro found hfound
    obtain ⟨dive, hdive, hfingerprint⟩ := exists_of_mem_layout (List.mem_reverse.mp hfound)
    obtain ⟨hmem, holder⟩ := List.mem_filter.mp hdive
    have holder : ¬ since.timestamp < dive.1 := of_decide_eq_true holder
    have hknown : since.timestamp ≠ 0 := by
      intro hzero
      rw [hzero] at holder
      exact holder (h.positive dive hmem)
    simp [Extraction.wants, hfingerprint, Fingerprint.isNone, Fingerprint.isNewerThan, hknown,
      holder]
  rw [extractRows_of_walk hwalk hfront (fun found _ => inCalendar_none _) (.of_not_wants hback),
    dated_none]
  rfl

/-! ## §3 Rows of a file and of a download -/

/-- The row that a file has for a row of a download: without time, and so many bytes further
behind. -/
def DiveSummary.offline (skipped : Nat) (row : DiveSummary) : DiveSummary :=
  { row with offset := skipped + row.offset, datetime := none }

theorem rowsOf_moved (skipped : Nat) (dives : List Dive) :
    rowsOf (dives.map (Dive.moved skipped)) = (rowsOf dives).map (DiveSummary.offline skipped) := by
  rw [rowsOf, List.zipIdx_map, List.map_map, rowsOf, List.map_map]
  rfl

/-- The times of rows do not matter for the rows of a file. -/
theorem offline_of_timed {clock : ClockCalibration} {rows timed : List DiveSummary}
    (h : rows.mapM (DiveSummary.timed (some clock)) = some timed) (skipped : Nat) :
    timed.map (DiveSummary.offline skipped) = rows.map (DiveSummary.offline skipped) := by
  have huntimed := congrArg (List.map (DiveSummary.offline skipped)) (untimed_of_timed h)
  have hsame : DiveSummary.offline skipped ∘ DiveSummary.untimed = DiveSummary.offline skipped :=
    rfl
  rwa [List.map_map, List.map_map, hsame] at huntimed

/-! ## §4 Agreement -/

variable {computer : Emulated}

/-- A download after a fingerprint that nothing hinders. -/
theorem Unhindered.download (h : Unhindered computer) (hlog : OrderedLog computer.dives)
    (now : Instant) (since : Fingerprint) (files : Files) :
    (DiveLink.download now (some since) none (Session.start computer none) files).result =
      outcome (listing ⟨computer.devtime, now⟩ (newer since.timestamp computer.dives)) := by
  -- what the computer sends is the memory of the newer dives, and these are an ordered log too
  have hnewer := hlog.newer since.timestamp
  have hchoose := chooseFingerprint_some since (Session.start computer none)
  obtain ⟨hresult, hbuffer, _, hinfo, hclock⟩ := h.healthy.dump ⟨now, files⟩
    { Session.start computer none with cursor := since, pinned := true } [] since rfl rfl h.idle
    hnewer.fits
  have hall := hnewer.all
  rw [← memoryAfter_eq, ← hbuffer] at hall
  exact (download_of_dump hchoose hresult hall hinfo hclock rfl none).1

/-- **The listing of a file with the whole memory is that of a download.** Whatever the fingerprint,
both list the same dives with the same numbers and sizes, and in the file each of them lies as much
further behind as the whole memory is longer than that of the newer dives. Both succeed, the
download unless the host's clock is next to an end of the calendar. -/
theorem extract_agrees_download (hunhindered : Unhindered computer)
    (hlog : OrderedLog computer.dives) (since : Fingerprint) {files : Files} {path : String}
    (hfile : files.contents path = .ok (computer.memoryAfter 0)) (now : Instant) (others : Files) :
    let whole := (computer.memoryAfter 0).length
    let part := (computer.memoryAfter since.timestamp).length
    let online := (download now (some since) none (Session.start computer none) others).result
    part ≤ whole ∧
      ((∃ rows, online = .ok rows) ∨ ¬ now.Ordinary ∧ online = .error .beyondCalendar) ∧
      ∃ offline, (extractFile path none (some since) : StateM Files _).run files =
          ((.ok offline, []), files) ∧
        offline.map DiveSummary.fingerprint =
          (newer since.timestamp computer.dives).reverse.map (fun dive => ⟨dive.1⟩) ∧
        ∀ rows, online = .ok rows → offline = rows.map (DiveSummary.offline (whole - part)) := by
  intro whole part online
  have honline := hunhindered.download hlog now since others
  have hmemory : computer.memoryAfter 0 = memoryOf computer.dives := by
    rw [memoryAfter_eq, hlog.newer_zero]
  -- the memory begins with the dives that are not newer
  have hwhole : whole = (memoryOf (older since.timestamp computer.dives)).length + part := by
    have hsplit := older_append_newer hlog.ordered since.timestamp
    show (computer.memoryAfter 0).length = _ + (memoryOf (newer _ computer.dives)).length
    rw [hmemory, ← List.length_append, ← Dive.memoryOf_append, hsplit]
  have hskipped : whole - part = (memoryOf (older since.timestamp computer.dives)).length := by
    omega
  -- the rows of both listings are those of the newer dives, laid out at two places
  have hrows : rowsOf (layout (whole - part) (newer since.timestamp computer.dives)).reverse =
      (rowsOf (layout 0 (newer since.timestamp computer.dives)).reverse).map
        (DiveSummary.offline (whole - part)) := by
    rw [← Nat.add_zero (whole - part), layout_add, ← List.map_reverse, rowsOf_moved, Nat.add_zero]
  rw [hmemory] at hfile
  have hrun := run_extractFile hfile since
  rw [hlog.extractRows since, ← hskipped] at hrun
  refine ⟨by omega, ?_, _, hrun, ?_, ?_⟩
  · -- only times can keep a download from its listing
    cases hlisting : listing ⟨computer.devtime, now⟩ (newer since.timestamp computer.dives) with
    | some rows => exact .inl ⟨rows, honline.trans (outcome_eq_ok_iff.mpr hlisting)⟩
    | none =>
      right
      refine ⟨?_, honline.trans (congrArg outcome hlisting)⟩
      intro hordinary
      obtain ⟨rows, hsome⟩ : ∃ rows, listing ⟨computer.devtime, now⟩
        (newer since.timestamp computer.dives) = some rows := exists_timed hordinary _
      cases hlisting.symm.trans hsome
  · rw [fingerprints_rowsOf, List.map_reverse, fingerprints_layout, ← List.map_reverse]
  · intro rows hok
    have hlisting : listing ⟨computer.devtime, now⟩ (newer since.timestamp computer.dives) =
        some rows := outcome_eq_ok_iff.mp (honline.symm.trans hok)
    rw [hrows, offline_of_timed hlisting]

/-- A computer with two dives of the same timestamp. -/
def twins : Emulated := { dives := [(1, [7]), (2, []), (2, [8]), (5, [])], chunk := 5 }

/-- Files with its memory in one of them. -/
def dumpedTwins : Files := ⟨[(["dump.bin"], .file (twins.memoryAfter 0))], []⟩

/-- After that timestamp there is one dive, and both listings have it. -/
theorem extract_agrees_download_twins :
    Unhindered twins ∧ OrderedLog twins.dives ∧
      dumpedTwins.contents "dump.bin" = .ok (twins.memoryAfter 0) ∧
      ∃ offline rows,
        (extractFile "dump.bin" none (some ⟨2⟩) : StateM Files _).run dumpedTwins =
          ((.ok offline, []), dumpedTwins) ∧
        (download noon (some ⟨2⟩) none (Session.start twins none) dumpedTwins).result = .ok rows ∧
        offline.map DiveSummary.fingerprint = [⟨5⟩] ∧
        offline = rows.map (DiveSummary.offline 38) := by
  have hunhindered : Unhindered twins := ⟨⟨by decide, by decide, rfl, rfl, rfl, rfl⟩, rfl⟩
  have hlog : OrderedLog twins.dives := by decide
  have hfile : dumpedTwins.contents "dump.bin" = .ok (twins.memoryAfter 0) := by decide +kernel
  have hordinary : noon.Ordinary := ⟨by decide, by decide⟩
  obtain ⟨_, hrows | ⟨hbeyond, _⟩, offline, hoffline, hlisted, hsame⟩ :=
    extract_agrees_download hunhindered hlog ⟨2⟩ hfile noon dumpedTwins
  · obtain ⟨rows, hrows⟩ := hrows
    exact ⟨hunhindered, hlog, hfile, offline, rows, hoffline, hrows, hlisted, hsame rows hrows⟩
  · exact absurd hordinary hbeyond

end DiveLink
