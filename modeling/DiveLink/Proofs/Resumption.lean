import DiveLink.Proofs.Agreement
import DiveLink.Proofs.Completion
import DiveLink.Proofs.Hexadecimal

/-!
# Listings that are resumed

A listing of a file prints a fingerprint in every row. Given back as the newest dive known, it makes
the next listing of the file end right in front of that row. It need not be one of the file's own,
and the timestamps in the file need not be in order: the listing ends at the first dive that is not
newer. What lies behind that dive is not looked at, so it may even be broken.

1. `extractRows_of_beyond` is a listing that comes to a time beyond the calendar.
2. `frontOf` are the dives in front of where a listing ends, `extractRows_of_front` are its rows.
   `extractRows_none_eq_ok_iff` is the listing of the whole file.
3. `newerRows` are the rows that are newer than a fingerprint. `newerRows_of_pairwise`: where the
   timestamps fall from row to row, those are the rows in front of the one it was printed in.
4. `extractFile_resumes` puts this together for a file with or without a record beside it.
-/

namespace DiveLink

/-! ## §1 Times beyond the calendar -/

section

variable {clock : Option ClockCalibration} {since : Fingerprint} {dive : Dive}

/-- A dive without a time in the calendar ends the listing. -/
theorem Extraction.Listed.step_of_beyond {dives : List Dive} {state : Extraction}
    (h : Extraction.Listed clock since dives state) (hwants : Extraction.wants since dive = true)
    (hbeyond : ¬ InCalendar clock (Fingerprint.ofDive dive)) :
    ∃ next, Extraction.step clock state dive = (next, false) ∧ next.beyond = true := by
  rw [← h.lastKnown] at hwants
  obtain ⟨listing, haccept, -⟩ := Extraction.accept_of_wants hwants
  have htimed : (DiveSummary.ofDive (state.rows.length + 1) dive).timed clock = none := by
    rw [Option.eq_none_iff_forall_ne_some]
    intro row hrow
    exact hbeyond (DiveSummary.timed_eq_some_iff.mp hrow).1
  refine ⟨⟨listing, state.rows, true⟩, ?_, rfl⟩
  simp only [Extraction.step, haccept, htimed]

theorem extractRows_of_beyond {memory : Bytes} {front : List Dive}
    {rest : List (Except Overrun Dive)} (hwalk : Scan.walk memory = front.map .ok ++ .ok dive :: rest)
    (hfront : ∀ dive ∈ front, Extraction.wants since dive = true)
    (htimes : ∀ dive ∈ front, InCalendar clock (Fingerprint.ofDive dive))
    (hwants : Extraction.wants since dive = true)
    (hbeyond : ¬ InCalendar clock (Fingerprint.ofDive dive)) :
    extractRows clock since memory = .error .beyondCalendar := by
  -- behind the front the scan hands over the dive that has no time
  obtain ⟨last, hhand, hlast⟩ :=
    (Extraction.Listed.start clock since).hand_front hfront htimes (.ok dive :: rest)
  rw [List.nil_append] at hlast
  obtain ⟨next, hstep, hnext⟩ := hlast.step_of_beyond hwants hbeyond
  rw [Scan.hand, hstep, if_neg Bool.false_ne_true] at hhand
  unfold extractRows
  rw [Scan.extract_eq_hand, hwalk, hhand]
  simp only [hnext, if_true]

end

/-! ## §2 Where a listing ends -/

section

variable {clock : Option ClockCalibration} {since : Fingerprint} {dump : Bytes}

/-- The dives of a dump in front of the first that is not to be listed. -/
def frontOf (since : Fingerprint) (dump : Bytes) : List Dive :=
  (Dive.all dump).1.takeWhile (Extraction.wants since)

/-- What a scan has left behind these dives. -/
def restOf (since : Fingerprint) (dump : Bytes) : List (Except Overrun Dive) :=
  Scan.resultsOf ((Dive.all dump).1.dropWhile (Extraction.wants since)) (Dive.all dump).2

theorem wants_of_mem_frontOf {dive : Dive} (h : dive ∈ frontOf since dump) :
    Extraction.wants since dive = true :=
  List.mem_takeWhile_imp h

theorem walk_eq_front (since : Fingerprint) (dump : Bytes) :
    Scan.walk dump = (frontOf since dump).map .ok ++ restOf since dump := by
  rw [Scan.walk_eq_all, Scan.resultsOf, frontOf, restOf, Scan.resultsOf, ← List.append_assoc,
    ← List.map_append, List.takeWhile_append_dropWhile]

/-- If some dive is not to be listed, a listing ends at the first of them. -/
theorem stops_of_unwanted (h : ∃ dive ∈ (Dive.all dump).1, Extraction.wants since dive = false) :
    Extraction.Stops since (restOf since dump) none := by
  obtain ⟨dive, hmem, hunwanted⟩ := h
  unfold restOf
  -- what is left of the dives starts with one that is not to be listed
  cases hback : (Dive.all dump).1.dropWhile (Extraction.wants since) with
  | nil =>
    have := List.dropWhile_eq_nil_iff.mp hback dive hmem
    rw [hunwanted] at this
    cases this
  | cons first back =>
    have hback_ne : (Dive.all dump).1.dropWhile (Extraction.wants since) ≠ [] := by
      rw [hback]
      exact List.cons_ne_nil first back
    have hfirst := List.head_dropWhile_not (Extraction.wants since) hback_ne
    simp only [hback, List.head_cons] at hfirst
    exact .enough hfirst

/-- Else it ends as the scan does, and has all dives. -/
theorem stops_of_wanted (h : ∀ dive ∈ (Dive.all dump).1, Extraction.wants since dive = true) :
    frontOf since dump = (Dive.all dump).1 ∧
      Extraction.Stops since (restOf since dump) (Dive.all dump).2 := by
  refine ⟨List.takeWhile_eq_self_iff.mpr h, ?_⟩
  rw [restOf, List.dropWhile_eq_nil_iff.mpr h]
  exact .of_overrun since _

/-- **A listing has the rows of the dives in front of where it ends.** -/
theorem extractRows_of_front
    (htimes : ∀ dive ∈ frontOf since dump, InCalendar clock (Fingerprint.ofDive dive))
    {overrun : Option Overrun} (hstops : Extraction.Stops since (restOf since dump) overrun) :
    extractRows clock since dump =
      unlessBroken ((rowsOf (frontOf since dump)).map (DiveSummary.dated clock)) overrun :=
  extractRows_of_walk (walk_eq_front since dump) (fun _ => wants_of_mem_frontOf) htimes hstops

/-- If the calendar lacks the time of one of them, there is no listing. -/
theorem extractRows_of_not_inCalendar
    (h : ∃ dive ∈ frontOf since dump, ¬ InCalendar clock (Fingerprint.ofDive dive)) :
    extractRows clock since dump = .error .beyondCalendar := by
  classical
  have hfound : ((frontOf since dump).find?
      fun dive => decide (¬ InCalendar clock (Fingerprint.ofDive dive))).isSome := by
    rw [List.find?_isSome]
    simpa using h
  obtain ⟨dive, hfind⟩ := Option.isSome_iff_exists.mp hfound
  -- the listing comes to the first of these dives
  obtain ⟨hbeyond, front, back, hsplit, hfront⟩ := List.find?_eq_some_iff_append.mp hfind
  have hwalk := walk_eq_front since dump
  have hwants : ∀ dive ∈ frontOf since dump, Extraction.wants since dive = true :=
    fun _ => wants_of_mem_frontOf
  rw [hsplit, List.map_append, List.map_cons, List.append_assoc] at hwalk
  rw [hsplit] at hwants
  refine extractRows_of_beyond hwalk ?_ ?_ (hwants dive (by simp)) (by simpa using hbeyond)
  · intro other hmem
    exact hwants other (List.mem_append_left _ hmem)
  · intro other hmem
    simpa using hfront other hmem

/-- **The whole file is listed exactly if no record is broken and the calendar has all times.** -/
theorem extractRows_none_eq_ok_iff {rows : List DiveSummary} :
    extractRows clock .none dump = .ok rows ↔
      (Dive.all dump).2 = none ∧
        (∀ dive ∈ (Dive.all dump).1, InCalendar clock (Fingerprint.ofDive dive)) ∧
        rows = rowsOfDump clock dump := by
  by_cases htimes : ∀ dive ∈ (Dive.all dump).1, InCalendar clock (Fingerprint.ofDive dive)
  · rw [extractRows_whole htimes, unlessBroken_eq_ok_iff]
    constructor
    · rintro ⟨hsound, hrows⟩
      exact ⟨hsound, htimes, hrows⟩
    · rintro ⟨hsound, -, hrows⟩
      exact ⟨hsound, hrows⟩
  · -- without a fingerprint all dives are in front, also the one without a time
    have hall : frontOf .none dump = (Dive.all dump).1 := (stops_of_wanted fun _ _ => rfl).1
    have hbeyond : extractRows clock .none dump = .error .beyondCalendar := by
      apply extractRows_of_not_inCalendar
      rw [hall]
      simpa using htimes
    rw [hbeyond]
    constructor
    · intro h
      cases h
    · rintro ⟨-, hcalendar, -⟩
      exact absurd hcalendar htimes

end

/-! ## §3 Newer rows -/

/-- The longest start of a listing in which all rows are newer than a fingerprint; the whole listing,
if the fingerprint stands for no dive. -/
def newerRows (since : Fingerprint) (rows : List DiveSummary) : List DiveSummary :=
  if since.timestamp = 0 then rows
  else rows.takeWhile fun row => since.timestamp < row.fingerprint.timestamp

section

variable {since : Fingerprint}

theorem takeWhile_zipIdx (wanted : Dive → Bool) (dives : List Dive) (first : Nat) :
    (dives.zipIdx first).takeWhile (fun numbered => wanted numbered.1) =
      (dives.takeWhile wanted).zipIdx first := by
  -- on the dives, from any number
  induction dives generalizing first with
  | nil => rfl
  | cons dive rest ih =>
    rw [List.zipIdx_cons, List.takeWhile_cons, List.takeWhile_cons]
    dsimp only
    split
    · rw [ih, List.zipIdx_cons]
    · rfl

/-- The rows of the dives in front are the newer ones of all rows. -/
theorem newerRows_rowsOfDump (clock : Option ClockCalibration) (since : Fingerprint) (dump : Bytes) :
    newerRows since (rowsOfDump clock dump) =
      (rowsOf (frontOf since dump)).map (DiveSummary.dated clock) := by
  by_cases hnone : since.timestamp = 0
  · -- the fingerprint of no dive keeps nothing back
    have hall : ∀ dive ∈ (Dive.all dump).1, Extraction.wants since dive = true := by
      intro dive _
      simp [Extraction.wants, Fingerprint.isNone, hnone]
    rw [newerRows, if_pos hnone, (stops_of_wanted hall).1, rowsOfDump]
  · -- a row has the fingerprint of its dive, with or without a time
    have hwanted : (fun row : DiveSummary => decide (since.timestamp < row.fingerprint.timestamp)) ∘
        DiveSummary.dated clock ∘ (fun numbered : Dive × Nat =>
          DiveSummary.ofDive (numbered.2 + 1) numbered.1) =
        fun numbered => Extraction.wants since numbered.1 := by
      funext numbered
      simp only [Function.comp_apply, DiveSummary.fingerprint_dated, Extraction.wants,
        Fingerprint.isNone, Fingerprint.isNewerThan, beq_eq_false_iff_ne.mpr hnone, Bool.false_or]
      rfl
    rw [newerRows, if_neg hnone, rowsOfDump, rowsOf, List.map_map, List.takeWhile_map, hwanted,
      takeWhile_zipIdx, frontOf, rowsOf, List.map_map]

/-- **Where timestamps fall from row to row, the rows newer than one of them are those in front of
it.** -/
theorem newerRows_of_pairwise {rows : List DiveSummary}
    (hfall : (rows.map fun row => row.fingerprint.timestamp).Pairwise (· > ·)) {place : Nat}
    {row : DiveSummary} (hrow : rows[place]? = some row) (hsome : row.fingerprint.timestamp ≠ 0) :
    newerRows row.fingerprint rows = rows.take place := by
  obtain ⟨hplace, hrow⟩ := List.getElem?_eq_some_iff.mp hrow
  -- the rows in front of this one are newer
  have hsplit : rows = rows.take place ++ row :: rows.drop (place + 1) := by
    rw [← hrow, ← List.drop_eq_getElem_cons hplace, List.take_append_drop]
  rw [List.pairwise_map, hsplit, List.pairwise_append] at hfall
  have hfront : ∀ newer ∈ rows.take place,
      decide (row.fingerprint.timestamp < newer.fingerprint.timestamp) = true := by
    intro newer hmem
    exact decide_eq_true (hfall.2.2 newer hmem row List.mem_cons_self)
  -- the row itself is not newer than its own fingerprint
  have htaken : rows.takeWhile (fun newer =>
      decide (row.fingerprint.timestamp < newer.fingerprint.timestamp)) = rows.take place := by
    conv_lhs => rw [hsplit]
    rw [List.takeWhile_append_of_pos hfront, List.takeWhile_cons_of_neg (by simp),
      List.append_nil]
  rw [newerRows, if_neg hsome, htaken]

end

/-! ## §4 Listings of a file -/

/-- **A listing of a file is resumed exactly at a fingerprint.** The file may have a record with a
pair of clocks beside it. It is listed as a whole if no record in it is broken and the calendar has
the times of all dives. Then the listing from any fingerprint on is the longest start of the whole
listing in which all rows are newer. If timestamps fall from row to row and none is zero, then the
fingerprint that a row prints is read as one from which on there are just the rows in front of it.
Whatever else the file holds, the rows in front of the first dive that is not newer are listed, and
if there is no such dive a broken record is a fault. Only a time that the calendar lacks, in one of
these rows, keeps the listing from that. -/
theorem extractFile_resumes {files : Files} {path : String} {beside : Option String} {dump : Bytes}
    {data : Option DumpMetadata} (hfile : files.contents path = .ok dump)
    (hbeside : (loadOptional beside : StateM Files _).run files = (.ok data, files)) :
    let listing := fun since => ((extractFile path beside since : StateM Files _).run files).1.1
    let clock := data.map DumpMetadata.clock
    let dives := (Dive.all dump).1
    (∀ full, listing none = .ok full ↔ (Dive.all dump).2 = none ∧
      (∀ dive ∈ dives, InCalendar clock (Fingerprint.ofDive dive)) ∧
      full = rowsOfDump clock dump) ∧
      (∀ full since, listing none = .ok full →
        listing (some since) = .ok (newerRows since full)) ∧
      (∀ full, listing none = .ok full →
        (full.map fun row => row.fingerprint.timestamp).Pairwise (· > ·) →
        (∀ row ∈ full, row.fingerprint.timestamp ≠ 0) →
        ∀ place row, full[place]? = some row →
          ∃ since, Fingerprint.ofText row.fingerprint.text = .ok since ∧
            listing (some since) = .ok (full.take place)) ∧
      (∀ since, (∀ dive ∈ frontOf since dump, InCalendar clock (Fingerprint.ofDive dive)) →
        ((∃ dive ∈ dives, Extraction.wants since dive = false) → listing (some since) =
          .ok ((rowsOf (frontOf since dump)).map (DiveSummary.dated clock))) ∧
        ((∀ dive ∈ dives, Extraction.wants since dive = true) →
          ∀ overrun, (Dive.all dump).2 = some overrun →
            listing (some since) = .error (.device overrun.fault))) ∧
      ∀ since, (∃ dive ∈ frontOf since dump, ¬ InCalendar clock (Fingerprint.ofDive dive)) →
        listing (some since) = .error .beyondCalendar := by
  intro listing clock dives
  -- a listing of the file is one of its dump, with the clocks of the record beside it
  have hlisting : ∀ since, listing since = extractRows clock (since.getD .none) dump := by
    intro since
    exact congrArg (·.1.1) (run_extractFile_beside hfile hbeside since)
  have hwhole : ∀ full, listing none = .ok full ↔ (Dive.all dump).2 = none ∧
      (∀ dive ∈ dives, InCalendar clock (Fingerprint.ofDive dive)) ∧
      full = rowsOfDump clock dump := by
    intro full
    rw [hlisting]
    exact extractRows_none_eq_ok_iff
  have hfront : ∀ since,
      (∀ dive ∈ frontOf since dump, InCalendar clock (Fingerprint.ofDive dive)) →
      ((∃ dive ∈ dives, Extraction.wants since dive = false) → listing (some since) =
          .ok ((rowsOf (frontOf since dump)).map (DiveSummary.dated clock))) ∧
        ((∀ dive ∈ dives, Extraction.wants since dive = true) → listing (some since) =
          unlessBroken ((rowsOf (frontOf since dump)).map (DiveSummary.dated clock))
            (Dive.all dump).2) := by
    intro since htimes
    rw [hlisting]
    exact ⟨fun h => extractRows_of_front htimes (stops_of_unwanted h),
      fun h => extractRows_of_front htimes (stops_of_wanted h).2⟩
  have hnewer : ∀ full since, listing none = .ok full →
      listing (some since) = .ok (newerRows since full) := by
    intro full since hfull
    -- where the whole file could be listed, nothing in front keeps the listing from its rows
    obtain ⟨hsound, htimes, rfl⟩ := (hwhole full).mp hfull
    obtain ⟨hunwanted, hwanted⟩ := hfront since fun dive hmem =>
      htimes dive ((List.takeWhile_sublist _).subset hmem)
    rw [newerRows_rowsOfDump]
    by_cases hall : ∀ dive ∈ dives, Extraction.wants since dive = true
    · rw [hwanted hall, hsound]
      rfl
    · exact hunwanted (by simpa using hall)
  refine ⟨hwhole, hnewer, ?_, ?_, ?_⟩
  · -- a printed fingerprint is read as itself
    intro full hfull hfall hsome place row hrow
    refine ⟨row.fingerprint, row.fingerprint.ofText_text, ?_⟩
    rw [hnewer full row.fingerprint hfull,
      newerRows_of_pairwise hfall hrow (hsome row (List.mem_of_getElem? hrow))]
  · intro since htimes
    obtain ⟨hunwanted, hwanted⟩ := hfront since htimes
    refine ⟨hunwanted, ?_⟩
    intro hall overrun hoverrun
    rw [hwanted hall, hoverrun]
    rfl
  · intro since hbeyond
    rw [hlisting]
    exact extractRows_of_not_inCalendar hbeyond

/-- A dump whose oldest record is broken, with timestamps in no order. -/
def tangled : Bytes :=
  Dive.marker ++ [255, 0, 0, 0, 0, 0, 0, 0] ++ Dive.memoryOf [(9, []), (3, [1]), (7, [])]

def filedTangled : Files := ⟨[(["tangled.bin"], .file tangled)], []⟩

/-- From the timestamp 5 on only the newest dive is listed, although the one behind the next is newer
as well. From the timestamp 2 on the listing comes to the broken record. -/
theorem extractFile_resumes_tangled :
    filedTangled.contents "tangled.bin" = .ok tangled ∧
      (loadOptional none : StateM Files _).run filedTangled = (.ok none, filedTangled) ∧
      ((extractFile "tangled.bin" none (some ⟨5⟩) : StateM Files _).run filedTangled).1.1 =
        .ok [⟨1, 37, 12, ⟨7⟩, none⟩] ∧
      ((extractFile "tangled.bin" none (some ⟨2⟩) : StateM Files _).run filedTangled).1.1 =
        .error (.device (.dataFormat 0 255 12)) := by
  have hfile : filedTangled.contents "tangled.bin" = .ok tangled := by decide +kernel
  have hbeside : (loadOptional none : StateM Files _).run filedTangled = (.ok none, filedTangled) :=
    rfl
  have hall : Dive.all tangled =
      ([⟨37, Dive.record 7 [], [7, 0, 0, 0]⟩, ⟨24, Dive.record 3 [1], [3, 0, 0, 0]⟩,
        ⟨12, Dive.record 9 [], [9, 0, 0, 0]⟩], some ⟨0, 255, 12⟩) :=
    Scan.all_eq_iff.mpr (by decide)
  obtain ⟨_, _, _, hfront, _⟩ := extractFile_resumes hfile hbeside
  have hfive : frontOf ⟨5⟩ tangled = [⟨37, Dive.record 7 [], [7, 0, 0, 0]⟩] := by
    rw [frontOf, hall]
    decide
  refine ⟨hfile, hbeside, ?_, ?_⟩
  · have hrows := (hfront ⟨5⟩ fun _ _ => inCalendar_none _).1 (by rw [hall]; decide)
    rw [hfive] at hrows
    exact hrows
  · exact (hfront ⟨2⟩ fun _ _ => inCalendar_none _).2 (by rw [hall]; decide) ⟨0, 255, 12⟩
      (by rw [hall])

end DiveLink
