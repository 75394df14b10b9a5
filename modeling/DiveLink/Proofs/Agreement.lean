import DiveLink.Proofs.Extents
import DiveLink.Proofs.Offline

/-!
# One dump, one listing

A dump is listed from a file, or from a computer that hands its dives over. The file is listed in
one pass: a filter stands in front, and a dive gets its time as soon as it is found. A download
keeps all the dives first and gives them their times in a second pass. Whatever the dump holds, both
come to the same rows, or to the same fault where a record is broken.

1. `Replays` is a computer whose dives are those of a dump, and whose clock is known.
2. `extractRows_whole` are the rows of a whole file, `download_of_replays` those of a download.
3. `numbers_rowsOfDump` and `offsets_rowsOfDump`: how rows are numbered, and how they lie.
4. `extractFile_eq_download`: both listings are the same.
-/

namespace DiveLink

variable {δ : Type} [DiveComputer δ]

/-! ## §1 Computers that replay a dump -/

/-- A computer that hands the dives of a dump to every visitor, and then has this pair of clocks. -/
structure Replays (computer : δ) (dump : Bytes) (clock : Option ClockCalibration) : Prop where
  state_eq : ∀ {τ : Type} (around : Surroundings) (visitor : τ → Dive → τ × Bool) (state : τ),
    (DiveComputer.visit around computer visitor state).state = (Dive.extract dump visitor state).1
  fault_eq : ∀ {τ : Type} (around : Surroundings) (visitor : τ → Dive → τ × Bool) (state : τ),
    (DiveComputer.visit around computer visitor state).fault =
      (Dive.extract dump visitor state).2.map Overrun.fault
  clock_eq : ∀ {τ : Type} (around : Surroundings) (visitor : τ → Dive → τ × Bool) (state : τ),
    DiveComputer.clock (DiveComputer.visit around computer visitor state).computer = clock

/-- A computer of which everything is given beforehand replays its memory. -/
theorem Prepared.replays {computer : Prepared} (h : computer.failure = none) :
    Replays computer computer.memory computer.clock := by
  -- whoever visits, the dump is the memory, and what is left is to hand over its dives
  have hdumped : computer.dumped [] = ⟨computer, computer.memory, none, []⟩ := by
    unfold Prepared.dumped
    rw [h]
  have hvisit : ∀ {τ : Type} (around : Surroundings) (visitor : τ → Dive → τ × Bool) (state : τ),
      DiveComputer.visit around computer visitor state =
        ⟨computer, (Dive.extract computer.memory visitor state).1,
          (Dive.extract computer.memory visitor state).2.map Overrun.fault, []⟩ := by
    intro τ around visitor state
    show (computer.dumped []).visit visitor state = _
    rw [hdumped]
    rfl
  constructor
  · intro τ around visitor state
    rw [hvisit]
  · intro τ around visitor state
    rw [hvisit]
  · intro τ around visitor state
    rw [hvisit]
    rfl

/-! ## §2 The two listings -/

variable {dump : Bytes}

/-- The rows of the dives of a dump, with their times where a pair of clocks is known. -/
def rowsOfDump (clock : Option ClockCalibration) (dump : Bytes) : List DiveSummary :=
  (rowsOf (Dive.all dump).1).map (DiveSummary.dated clock)

/-- A broken record stops a listing, and without one the listing comes to its end. -/
theorem Extraction.Stops.of_overrun (since : Fingerprint) (overrun : Option Overrun) :
    Extraction.Stops since (overrun.toList.map .error) overrun := by
  cases overrun with
  | none => exact .ended
  | some overrun => exact .broken overrun []

/-- **A file that is not listed from a fingerprint on has a row for each dive.** -/
theorem extractRows_whole {clock : Option ClockCalibration}
    (htimes : ∀ dive ∈ (Dive.all dump).1, InCalendar clock (Fingerprint.ofDive dive)) :
    extractRows clock .none dump = unlessBroken (rowsOfDump clock dump) (Dive.all dump).2 := by
  have hall : ∀ dive ∈ (Dive.all dump).1, Extraction.wants .none dive = true := by
    intro dive _
    rfl
  exact extractRows_of_walk (Scan.walk_eq_all dump) hall htimes (.of_overrun _ _)

/-- The second pass of a download gives every row its time. -/
theorem mapM_timed_rowsOf {clock : Option ClockCalibration} {dives : List Dive}
    (htimes : ∀ dive ∈ dives, InCalendar clock (Fingerprint.ofDive dive)) :
    (rowsOf dives).mapM (DiveSummary.timed clock) =
      some ((rowsOf dives).map (DiveSummary.dated clock)) := by
  apply DiveSummary.mapM_timed_eq_some_iff.mpr
  refine ⟨?_, rfl⟩
  -- the time of a row hangs on its fingerprint, which is that of a dive
  intro row hrow
  have hmem := List.mem_map_of_mem (f := DiveSummary.fingerprint) hrow
  rw [fingerprints_rowsOf] at hmem
  obtain ⟨dive, hdive, hfingerprint⟩ := List.mem_map.mp hmem
  rw [← hfingerprint]
  exact htimes dive hdive

/-- **A download from a computer that replays the dump has the same rows.** -/
theorem download_of_replays {clock : Option ClockCalibration} {computer : δ}
    (h : Replays computer dump clock)
    (htimes : ∀ dive ∈ (Dive.all dump).1, InCalendar clock (Fingerprint.ofDive dive))
    (now : Instant) (files : Files) :
    (download now none none computer files).result =
      unlessBroken (rowsOfDump clock dump) (Dive.all dump).2 := by
  -- the first pass keeps all dives, the newest at the bottom
  have hextract : Dive.extract dump keepAll [] = ((Dive.all dump).1.reverse, (Dive.all dump).2) :=
    Scan.extract_keep (Scan.walk_eq_all dump)
  have hvisited : (DiveComputer.visit ⟨now, files⟩ computer keepAll []).state.reverse =
      (Dive.all dump).1 := by
    rw [h.state_eq, hextract, List.reverse_reverse]
  have hfault := h.fault_eq ⟨now, files⟩ keepAll []
  rw [hextract] at hfault
  cases hoverrun : (Dive.all dump).2 with
  | some overrun =>
    -- the dives in front of the broken record are dropped
    rw [hoverrun] at hfault
    simp only [download, chooseFingerprint, hfault, Option.map_some, unlessBroken]
  | none =>
    rw [hoverrun] at hfault
    have htimed : (rowsOf (DiveComputer.visit ⟨now, files⟩ computer keepAll []).state.reverse).mapM
        (DiveSummary.timed (DiveComputer.clock
          (DiveComputer.visit ⟨now, files⟩ computer keepAll []).computer)) =
        some (rowsOfDump clock dump) := by
      rw [hvisited, h.clock_eq]
      exact mapM_timed_rowsOf htimes
    obtain ⟨hresult, _⟩ := @download_of_visit _ _ now none none computer computer files _ _
      rfl rfl hfault htimed
    exact hresult

/-! ## §3 Numbers and places -/

section

variable (clock : Option ClockCalibration)

/-- A time changes nothing else in a row. -/
theorem number_dated (row : DiveSummary) : (row.dated clock).number = row.number := by
  cases clock <;> rfl

theorem offset_dated (row : DiveSummary) : (row.dated clock).offset = row.offset := by
  cases clock <;> rfl

theorem numbers_rowsOf (dives : List Dive) :
    (rowsOf dives).map DiveSummary.number = List.range' 1 dives.length := by
  -- the index of a dive is one less than its number
  have hindices := List.zipIdx_map_snd 1 dives
  rw [List.zipIdx_succ, List.map_map] at hindices
  rw [rowsOf, List.map_map, ← hindices]
  rfl

theorem offsets_rowsOf (dives : List Dive) :
    (rowsOf dives).map DiveSummary.offset = dives.map Dive.offset :=
  map_rowsOf (fun _ _ => rfl) dives

theorem numbers_rowsOfDump (dump : Bytes) :
    (rowsOfDump clock dump).map DiveSummary.number =
      List.range' 1 (rowsOfDump clock dump).length := by
  have hlength : (rowsOfDump clock dump).length = (Dive.all dump).1.length := by
    simp [rowsOfDump, rowsOf]
  have hsame : DiveSummary.number ∘ DiveSummary.dated clock = DiveSummary.number :=
    funext (number_dated clock)
  rw [hlength, rowsOfDump, List.map_map, hsame, numbers_rowsOf]

/-- Later rows lie further to the front of the dump. -/
theorem offsets_rowsOfDump (dump : Bytes) :
    ((rowsOfDump clock dump).map DiveSummary.offset).Pairwise (· > ·) := by
  have hsame : DiveSummary.offset ∘ DiveSummary.dated clock = DiveSummary.offset :=
    funext (offset_dated clock)
  have hapart := (Scan.walk_descends dump).pairwise_apart
  -- the broken record at the end of the walk, if there is one, has no row
  rw [Scan.walk_eq_all, Scan.resultsOf, List.pairwise_append, List.pairwise_map] at hapart
  rw [rowsOfDump, List.map_map, hsame, offsets_rowsOf, List.pairwise_map]
  apply hapart.1.imp
  intro newer older hbelow
  obtain ⟨_, hplace⟩ := hbelow newer older rfl rfl
  omega

end

/-! ## §4 Agreement -/

/-- **A file is listed as a download lists the same dump.** The file may have a record with a pair
of clocks beside it, whatever size and digest the record tells, and the computer has the same pair.
Whatever the dump holds, the two listings are equal if the calendar has the times of its dives.
There is a fault exactly if a record is broken, however many dives are reported before it. Else
there is a row for each dive: the numbers count from one, and each row lies in front of the one
before it. -/
theorem extractFile_eq_download {files : Files} {path : String} {beside : Option String}
    {data : Option DumpMetadata} {computer : δ} (hfile : files.contents path = .ok dump)
    (hbeside : (loadOptional beside : StateM Files _).run files = (.ok data, files))
    (hreplays : Replays computer dump (data.map DumpMetadata.clock))
    (htimes : ∀ dive ∈ (Dive.all dump).1,
      InCalendar (data.map DumpMetadata.clock) (Fingerprint.ofDive dive))
    (now : Instant) (others : Files) :
    let offline := ((extractFile path beside none : StateM Files _).run files).1.1
    let online := (download now none none computer others).result
    offline = online ∧
      (∀ fault, online = .error fault ↔
        ∃ overrun, (Dive.all dump).2 = some overrun ∧ fault = .device overrun.fault) ∧
      ∀ rows, online = .ok rows →
        rows = rowsOfDump (data.map DumpMetadata.clock) dump ∧
          rows.map DiveSummary.number = List.range' 1 rows.length ∧
          (rows.map DiveSummary.offset).Pairwise (· > ·) := by
  intro offline online
  have honline : online =
      unlessBroken (rowsOfDump (data.map DumpMetadata.clock) dump) (Dive.all dump).2 :=
    download_of_replays hreplays htimes now others
  -- so all of it is about the rows of the dump and about its broken record
  refine ⟨?_, ?_, ?_⟩
  · show ((extractFile path beside none : StateM Files _).run files).1.1 = online
    rw [run_extractFile_beside hfile hbeside, honline]
    exact extractRows_whole htimes
  · intro fault
    rw [honline]
    exact unlessBroken_eq_error_iff
  · intro rows hrows
    rw [honline] at hrows
    obtain ⟨_, rfl⟩ := unlessBroken_eq_ok_iff.mp hrows
    exact ⟨rfl, numbers_rowsOfDump _ dump, offsets_rowsOfDump _ dump⟩

/-- A computer with two dives, whose clock showed five at noon. -/
def duo : Prepared :=
  ⟨Dive.memoryOf [(3, [7]), (5, [])], none, some ⟨5, noon⟩, none, none, []⟩

/-- A record with that pair of clocks, of some other dump. -/
def besideDuo : DumpMetadata := ⟨.scubaproG2, 1, 2, 5, noon, 0, ""⟩

def textBesideDuo : String :=
  "\x7b\"family\":\"scubapro_g2\",\"model\":1,\"serial\":2,\"devtime\":5," ++
    "\"systime\":\"1998-09-03T12:00:00Z\",\"length\":0,\"sha256\":\"\"\x7d"

/-- The dump of this computer in a file, and the record in another. -/
def filedDuo : Files :=
  ⟨[(["duo.bin"], .file duo.memory),
    (["duo.json"], .file (Utf8.bytes textBesideDuo))], []⟩

/-- Both listings have its two dives, the newer one first, although the record is of another
dump. -/
theorem extractFile_eq_download_duo :
    filedDuo.contents "duo.bin" = .ok duo.memory ∧
      (loadOptional (some "duo.json") : StateM Files _).run filedDuo =
        (.ok (some besideDuo), filedDuo) ∧
      Replays duo duo.memory (some besideDuo.clock) ∧
      (∀ dive ∈ (Dive.all duo.memory).1,
        InCalendar (some besideDuo.clock) (Fingerprint.ofDive dive)) ∧
      ((extractFile "duo.bin" (some "duo.json") none : StateM Files _).run filedDuo).1.1 =
        (download noon none none duo filedDuo).result ∧
      ∃ rows, (download noon none none duo filedDuo).result = .ok rows ∧
        rows.map DiveSummary.number = [1, 2] ∧ rows.map DiveSummary.offset = [13, 0] := by
  have hfile : filedDuo.contents "duo.bin" = .ok duo.memory := by
    decide +kernel
  have hbytes : filedDuo.contents "duo.json" = .ok (Utf8.bytes textBesideDuo) := by
    decide +kernel
  have htext : Utf8.text? (Utf8.bytes textBesideDuo) = some textBesideDuo := by
    decide +kernel
  have hdata : DumpMetadata.ofText textBesideDuo = .ok besideDuo := by
    decide +kernel
  have hbeside := run_loadOptional hbytes htext hdata
  have hreplays : Replays duo duo.memory (some besideDuo.clock) := Prepared.replays rfl
  have hordinary : noon.Ordinary := ⟨by decide, by decide⟩
  have htimes : ∀ dive ∈ (Dive.all duo.memory).1,
      InCalendar (some besideDuo.clock) (Fingerprint.ofDive dive) := by
    intro dive _ pair hpair
    obtain rfl := Option.mem_some.mp hpair
    exact Option.isSome_iff_exists.mpr (ClockCalibration.exists_diveTime hordinary _)
  have hall : Dive.all duo.memory =
      ([⟨13, Dive.record 5 [], [5, 0, 0, 0]⟩, ⟨0, Dive.record 3 [7], [3, 0, 0, 0]⟩], none) :=
    Scan.all_eq_iff.mpr (by decide)
  obtain ⟨hsame, hbroken, hrows⟩ :=
    extractFile_eq_download hfile hbeside hreplays htimes noon filedDuo
  refine ⟨hfile, hbeside, hreplays, htimes, hsame, ?_⟩
  -- no record of the dump is broken
  cases hresult : (download noon none none duo filedDuo).result with
  | error fault =>
    obtain ⟨overrun, hoverrun, _⟩ := (hbroken fault).mp hresult
    rw [hall] at hoverrun
    cases hoverrun
  | ok rows =>
    obtain ⟨hlisted, _, _⟩ := hrows rows hresult
    rw [rowsOfDump, hall] at hlisted
    exact ⟨rows, rfl, by rw [hlisted]; rfl, by rw [hlisted]; rfl⟩

end DiveLink
