import DiveLink.Proofs.Entries
import DiveLink.Proofs.Increments
import DiveLink.Proofs.Writing

/-!
# A download is remembered once it is complete

A download first lists what comes from the computer and then remembers the newest of the dives. The
first part does not know of the folder of fingerprints, and the second part does not change the
listing.

1. `fetch` is the first part and `Fetched.done` what is made of it: `download_eq_done`.
2. `FingerprintCache.wroteAt_of_save`, `loaded_of_save` and `loaded_other_eq` are what saving
   leaves, `onlyFolders_of_save_error` is what is left where it fails.
3. `rememberNewest_eq_nothing`, `rememberNewest_of_save` and `rememberNewest_of_save_error` are the
   cases of the second part.
4. `Watched` is a computer with a record of what is asked of it, `asks` is what a download asks.
5. `download_remembers_when_complete` joins them.
-/

namespace DiveLink

variable {δ : Type} [DiveComputer δ]

/-! ## §1 Listing before remembering -/

/-- What comes of asking a computer for dives, before anything is remembered. -/
structure Fetched (δ : Type) where
  computer : δ
  warnings : List Warning
  /-- The dives that came, newest first, and their rows. -/
  listed : Except CommandFault (List Dive × List DiveSummary)

/-- The dives of a visit that kept every dive, and their rows, unless the visit failed or the
calendar ends before one of them. -/
def Visited.listed (visited : Visited δ (List Dive)) :
    Except CommandFault (List Dive × List DiveSummary) :=
  match visited.fault with
  | some fault => .error (.device fault)
  | none =>
    let dives := visited.state.reverse
    match (rowsOf dives).mapM (DiveSummary.timed (DiveComputer.clock visited.computer)) with
    | none => .error .beyondCalendar
    | some rows => .ok (dives, rows)

/-- Asks a computer for the dives that are newer than a fingerprint. -/
def fetch (now : Instant) (newerThan : Option Fingerprint) (computer : δ) (files : Files) :
    Fetched δ :=
  match chooseFingerprint newerThan computer with
  | (.error fault, computer) => ⟨computer, [], .error (.device fault)⟩
  | (.ok (), computer) =>
    let visited := DiveComputer.visit ⟨now, files⟩ computer keepAll []
    ⟨visited.computer, visited.warnings, visited.listed⟩

/-- Remembers the newest of the dives that came. -/
def Fetched.done (fetched : Fetched δ) (cache : Option FingerprintCache) (files : Files) :
    Done δ (List DiveSummary) :=
  match fetched.listed with
  | .error fault => ⟨fetched.computer, files, .error fault, fetched.warnings⟩
  | .ok (dives, rows) =>
    let (warnings, later) :=
      rememberNewest cache (DiveComputer.identity fetched.computer) dives files
    ⟨fetched.computer, later, .ok rows, fetched.warnings ++ warnings⟩

/-- A download lists first and remembers afterwards. -/
theorem download_eq_done (now : Instant) (newerThan : Option Fingerprint)
    (cache : Option FingerprintCache) (computer : δ) (files : Files) :
    download now newerThan cache computer files =
      (fetch now newerThan computer files).done cache files := by
  unfold download fetch
  rcases chooseFingerprint newerThan computer with ⟨_ | _, chosen⟩
  · rfl
  · -- both sides look at the fault of the visit, and then at the times of the rows
    dsimp only [Fetched.done, Visited.listed]
    cases (DiveComputer.visit ⟨now, files⟩ chosen keepAll []).fault with
    | some fault => rfl
    | none =>
      dsimp only
      cases (rowsOf (DiveComputer.visit ⟨now, files⟩ chosen keepAll []).state.reverse).mapM
        (DiveSummary.timed (DiveComputer.clock
          (DiveComputer.visit ⟨now, files⟩ chosen keepAll []).computer)) <;> rfl

theorem DiveSummary.fingerprint_dated (clock : Option ClockCalibration) (row : DiveSummary) :
    (row.dated clock).fingerprint = row.fingerprint := by
  cases clock <;> rfl

/-- The rows of a listing have the fingerprints of its dives. -/
theorem fingerprints_of_fetch {now : Instant} {newerThan : Option Fingerprint} {computer : δ}
    {files : Files} {dives : List Dive} {rows : List DiveSummary}
    (h : (fetch now newerThan computer files).listed = .ok (dives, rows)) :
    rows.map DiveSummary.fingerprint = dives.map Fingerprint.ofDive := by
  unfold fetch at h
  -- of the endings only the last has rows: the choice was accepted, the visit came to its end, and
  -- the calendar has all times
  split at h
  · cases h
  · dsimp only [Visited.listed] at h
    split at h
    · cases h
    · split at h
      · cases h
      · rename_i found hrows
        obtain ⟨rfl, rfl⟩ := Prod.mk.inj (Except.ok.inj h)
        obtain ⟨-, rfl⟩ := DiveSummary.mapM_timed_eq_some_iff.mp hrows
        -- a row that gets its time keeps its fingerprint
        rw [List.map_map, ← fingerprints_rowsOf]
        exact List.map_congr_left fun row _ => DiveSummary.fingerprint_dated _ row

/-! ## §2 What saving leaves -/

/-- The path of a folder still leads through folders to it. -/
theorem Files.KeepsFolders.folderAt_start {files later : Files} (h : Files.KeepsFolders files later)
    {path : String} {names base : List String}
    (hbase : files.folderAt (files.start path) names = some base) :
    later.folderAt (later.start path) names = some base := by
  have hlater := Files.folderAt_keeps h hbase
  rwa [Files.start, ← h.home] at hlater

namespace FingerprintCache

variable {store : FingerprintCache} {files later : Files} {serial : UInt32}
  {fingerprint : Fingerprint}

/-- The two steps of saving. -/
theorem run_save_eq (store : FingerprintCache) (files : Files) (serial : UInt32)
    (fingerprint : Fingerprint) :
    (store.save serial fingerprint : StateM Files _).run files =
      match (FileAccess.makeFolders store.folder : StateM Files _).run files with
      | (.error fault, made) => (.error (.cannotMakeFolder fault), made)
      | (.ok (), made) =>
        match made.setContents (store.path serial) fingerprint.toBytes with
        | .error fault => (.error (.cannotWrite fault), made)
        | .ok later => (.ok (), later) := by
  unfold save
  rw [Files.run_bind]
  rcases (FileAccess.makeFolders store.folder : StateM Files _).run files with ⟨_ | _, made⟩
  · rfl
  · -- the folder is there, and what is left is to write the file
    dsimp only
    rw [Files.run_bind, run_setContents]
    cases made.setContents (store.path serial) fingerprint.toBytes <;> rfl

/-- A save that succeeds makes the folder and puts the bytes under the path of the entry. -/
theorem steps_of_save (h : (store.save serial fingerprint : StateM Files _).run files =
      (.ok (), later)) :
    ∃ made, (FileAccess.makeFolders store.folder : StateM Files _).run files = (.ok (), made) ∧
      made.setContents (store.path serial) fingerprint.toBytes = .ok later := by
  rw [run_save_eq] at h
  split at h
  · cases h
  · rename_i made hmade
    split at h
    · cases h
    · rename_i found hset
      obtain rfl : found = later := congrArg Prod.snd h
      exact ⟨made, hmade, hset⟩

/-- A save that fails may have made folders, and nothing else. -/
theorem onlyFolders_of_save_error {fault : CacheFault}
    (h : (store.save serial fingerprint : StateM Files _).run files = (.error fault, later)) :
    Files.OnlyFolders files later := by
  have honly := Files.onlyFolders_run_makeFolders files store.folder
  rw [run_save_eq] at h
  split at h
  · -- not all folders could be made, but some may have been
    rename_i made hmade
    rw [hmade] at honly
    obtain rfl : made = later := congrArg Prod.snd h
    exact honly
  · rename_i made hmade
    rw [hmade] at honly
    split at h
    · -- the bytes could not be written, and so none were
      obtain rfl : made = later := congrArg Prod.snd h
      exact honly
    · cases h

/-- The entry is written, and no other file is touched. -/
theorem wroteAt_of_save (h : (store.save serial fingerprint : StateM Files _).run files =
      (.ok (), later)) :
    ∃ names, Files.WroteAt files later (store.path serial) names fingerprint.toBytes := by
  obtain ⟨made, hmade, hset⟩ := steps_of_save h
  have honly := Files.onlyFolders_run_makeFolders files store.folder
  rw [hmade] at honly
  exact Files.wroteAt_of_setContents honly hset

/-- Looking up an entry: nothing is there, or its bytes are read. -/
theorem loaded_eq (store : FingerprintCache) (files : Files) (serial : UInt32) :
    store.loaded files serial =
      if (files.under? (store.path serial)).isSome then
        match files.contents (store.path serial) with
        | .error fault => .error (.cannotRead fault)
        | .ok data => store.reading serial (some data)
      else .ok none := by
  have hread : (FileAccess.contents (store.path serial) : StateM Files _).run files =
      (files.contents (store.path serial), files) := rfl
  unfold loaded load
  -- neither the look at the path nor the reading changes the files
  rw [Files.run_bind, run_isPresent]
  cases (files.under? (store.path serial)).isSome with
  | false => rfl
  | true =>
    simp only [if_true]
    rw [Files.run_bind, hread]
    cases files.contents (store.path serial) with
    | error fault => rfl
    | ok data =>
      dsimp only [reading]
      split <;> rfl

/-- What was saved is looked up from then on. -/
theorem loaded_of_save (h : (store.save serial fingerprint : StateM Files _).run files =
      (.ok (), later)) : store.loaded later serial = .ok (some fingerprint) := by
  obtain ⟨names, hwrote⟩ := wroteAt_of_save h
  rw [loaded_eq, Files.under?_of_find hwrote.found, hwrote.contents]
  exact reading_toBytes store serial (some fingerprint)

/-- A path that leads nowhere has no entry. -/
theorem loaded_of_find_error {fault : FileFault}
    (h : files.find (store.path serial) = .error fault) : store.loaded files serial = .ok none := by
  simp [loaded_eq, Files.under?, h, Except.bind, Except.toOption]

/-- Looking up depends on what the path of the entry leads to alone. -/
theorem loaded_congr
    (h : ∀ spot, later.find (store.path serial) = .ok spot ↔
      files.find (store.path serial) = .ok spot) :
    store.loaded later serial = store.loaded files serial := by
  cases hfind : files.find (store.path serial) with
  | ok spot =>
    have hlater := (h spot).mpr hfind
    simp only [loaded_eq, Files.under?, Files.contents, hfind, hlater]
  | error fault =>
    -- the two faults need not be the same, but neither path has an entry
    cases hlater : later.find (store.path serial) with
    | error other => rw [loaded_of_find_error hfind, loaded_of_find_error hlater]
    | ok spot =>
      rw [(h spot).mp hlater] at hfind
      cases hfind

/-- Beside the folder that is made, saving changes nothing that is looked up for others. -/
theorem loaded_other_of_save (h : (store.save serial fingerprint : StateM Files _).run files =
      (.ok (), later)) {other : UInt32} (hother : other ≠ serial) :
    store.loaded later other =
      store.loaded ((FileAccess.makeFolders store.folder : StateM Files _).run files).2 other := by
  obtain ⟨made, hmade, hset⟩ := steps_of_save h
  rw [hmade]
  have hkeeps := Files.keepsFolders_of_setContents hset
  obtain ⟨spot, hlocate, _, _, _, rfl⟩ := Files.setContents_eq_ok_iff.mp hset
  obtain ⟨_, base, hbase, rfl⟩ := (locate_path_iff serial spot).mp hlocate
  -- both paths lead to names in the one folder, and the names are different ones
  have hne : base ++ [store.fileName other] ≠ base ++ [store.fileName serial] := by
    intro heq
    exact hother (store.fileName_injective (by simpa using heq))
  have hlater := hkeeps.folderAt_start hbase
  -- so the other path leads to the same folder as before, and to an entry that was not written
  refine loaded_congr fun there => ?_
  rw [Files.find_eq_ok_iff, Files.find_eq_ok_iff, locate_path_iff, locate_path_iff, hlater, hbase]
  simp only [Option.some.injEq, exists_eq_left', Files.entry_put_of_ne made _ hne]

/-- An entry that is there is looked up as before once folders are made. -/
theorem loaded_of_onlyFolders (h : Files.OnlyFolders files later)
    (hthere : store.loaded files serial ≠ .ok none) :
    store.loaded later serial = store.loaded files serial := by
  cases hfind : files.find (store.path serial) with
  | error fault => exact absurd (loaded_of_find_error hfind) hthere
  | ok spot =>
    obtain ⟨hlocate, hfits⟩ := (Files.find_eq_ok_iff _ _ _).mp hfind
    obtain ⟨hsayable, base, hbase, rfl⟩ := (locate_path_iff serial spot).mp hlocate
    -- the folder of the entry is a folder still, and the entry in it is the one that was there
    have hentry : later.entry? (base ++ [store.fileName serial]) =
        files.entry? (base ++ [store.fileName serial]) := by
      rcases h.entry (base ++ [store.fileName serial]) with hsame | ⟨hnone, _⟩
      · exact hsame
      · -- nothing was there, and so nothing was looked up
        refine absurd ?_ hthere
        simp [loaded_eq, Files.under?, hfind, hnone, Files.Spot.meant, Except.bind,
          Except.toOption]
    have hkeeps := h.keepsFolders.folderAt_start hbase
    have hlater : later.find (store.path serial) =
        .ok ⟨base ++ [store.fileName serial], files.entry? (base ++ [store.fileName serial]),
          false⟩ :=
      (Files.find_eq_ok_iff _ _ _).mpr
        ⟨(locate_path_iff serial _).mpr ⟨hsayable, base, hkeeps, by rw [hentry]⟩, hfits⟩
    exact loaded_congr fun there => by rw [hfind, hlater]

/-- What is looked up for others is what was looked up before, if there was an entry, or the
folder is there, or it holds nothing once it is made. -/
theorem loaded_other_eq (h : (store.save serial fingerprint : StateM Files _).run files =
      (.ok (), later)) {other : UInt32} (hother : other ≠ serial)
    (hknown : store.loaded files other ≠ .ok none ∨ files.IsReady store.folder ∨
      store.Fresh files) :
    store.loaded later other = store.loaded files other := by
  rw [loaded_other_of_save h hother]
  -- what is left of the save is the making of the folder
  rcases hknown with hthere | hready | hfresh
  · exact loaded_of_onlyFolders (Files.onlyFolders_run_makeFolders files store.folder) hthere
  · rw [Files.run_makeFolders_of_ready hready]
  · exact (hfresh.empty other).trans (hfresh.unknown other).symm

end FingerprintCache

/-! ## §3 Remembering the newest -/

section

variable {info : DeviceInfo} {store : FingerprintCache} {newest : Dive} {files later : Files}

/-- Without dives, without a computer that has told who it is or without a place to remember,
nothing is remembered. -/
theorem rememberNewest_eq_nothing {cache : Option FingerprintCache} {info : Option DeviceInfo}
    {dives : List Dive} (h : dives = [] ∨ info = none ∨ cache = none) :
    rememberNewest cache info dives files = ([], files) := by
  unfold rememberNewest
  split
  · rcases h with h | h | h <;> cases h
  · rfl

theorem rememberNewest_of_save (h : (store.save info.serial (Fingerprint.ofDive newest) :
      StateM Files _).run files = (.ok (), later)) (rest : List Dive) :
    rememberNewest (some store) (some info) (newest :: rest) files = ([], later) := by
  simp only [rememberNewest, h]

theorem rememberNewest_of_save_error {fault : CacheFault}
    (h : (store.save info.serial (Fingerprint.ofDive newest) : StateM Files _).run files =
      (.error fault, later)) (rest : List Dive) :
    rememberNewest (some store) (some info) (newest :: rest) files =
      ([.notRemembered fault], later) := by
  simp only [rememberNewest, h]

end

/-! ## §4 What is asked of a computer -/

/-- What a command can ask of a computer that moves it or costs time. -/
inductive Ask where
  | setFingerprint (data : Bytes)
  | dump
  | visit
  deriving DecidableEq, Repr

/-- A computer with a record of what is asked of it. -/
structure Watched (δ : Type) where
  computer : δ
  asked : List Ask

instance : DiveComputer (Watched δ) where
  family watched := DiveComputer.family watched.computer
  setFingerprint watched data :=
    let (result, computer) := DiveComputer.setFingerprint watched.computer data
    (result, ⟨computer, watched.asked ++ [.setFingerprint data]⟩)
  dump around watched buffer :=
    let dumped := DiveComputer.dump around watched.computer buffer
    ⟨⟨dumped.computer, watched.asked ++ [.dump]⟩, dumped.buffer, dumped.fault, dumped.warnings⟩
  visit around watched visitor state :=
    let visited := DiveComputer.visit around watched.computer visitor state
    ⟨⟨visited.computer, watched.asked ++ [.visit]⟩, visited.state, visited.fault,
      visited.warnings⟩
  identity watched := DiveComputer.identity watched.computer
  clock watched := DiveComputer.clock watched.computer

/-- What the choice of a fingerprint asks of a computer. -/
def choiceAsks (newerThan : Option Fingerprint) : List Ask :=
  newerThan.toList.map fun fingerprint => .setFingerprint fingerprint.toBytes

/-- What a download asks of a computer: the fingerprint is chosen, and unless that is refused the
dives are visited. -/
def asks (newerThan : Option Fingerprint) (computer : δ) : List Ask :=
  choiceAsks newerThan ++
    match (chooseFingerprint newerThan computer).1 with
    | .error _ => []
    | .ok () => [.visit]

theorem chooseFingerprint_watched {newerThan : Option Fingerprint} {computer chosen : δ}
    {result : Except Fault Unit} (h : chooseFingerprint newerThan computer = (result, chosen))
    (asked : List Ask) : chooseFingerprint newerThan (⟨computer, asked⟩ : Watched δ) =
      (result, ⟨chosen, asked ++ choiceAsks newerThan⟩) := by
  cases newerThan with
  | none =>
    obtain ⟨rfl, rfl⟩ := Prod.mk.inj h
    simp [chooseFingerprint, choiceAsks]
  | some fingerprint =>
    exact congrArg (fun answer =>
      (answer.1, (⟨answer.2, asked ++ choiceAsks (some fingerprint)⟩ : Watched δ))) h

/-- Asking a watched computer for dives is asking the computer, and `asks` is what is recorded. -/
theorem fetch_watched (now : Instant) (newerThan : Option Fingerprint) (computer : δ)
    (asked : List Ask) (files : Files) :
    let fetched := fetch now newerThan computer files
    fetch now newerThan (⟨computer, asked⟩ : Watched δ) files =
      ⟨⟨fetched.computer, asked ++ asks newerThan computer⟩, fetched.warnings, fetched.listed⟩ := by
  cases hchoose : chooseFingerprint newerThan computer with
  | mk result chosen =>
    unfold fetch asks
    rw [chooseFingerprint_watched hchoose, hchoose]
    cases result with
    | error fault => simp
    | ok _ =>
      -- the visit is recorded behind the choice
      dsimp only
      rw [← List.append_assoc]
      rfl

/-- So a download is the same of a watched computer. -/
theorem download_watched (now : Instant) (newerThan : Option Fingerprint)
    (cache : Option FingerprintCache) (computer : δ) (asked : List Ask) (files : Files) :
    let done := download now newerThan cache computer files
    download now newerThan cache (⟨computer, asked⟩ : Watched δ) files =
      ⟨⟨done.computer, asked ++ asks newerThan computer⟩, done.files, done.result,
        done.warnings⟩ := by
  simp only [download_eq_done, fetch_watched]
  cases hlisted : (fetch now newerThan computer files).listed with
  | error fault => simp only [Fetched.done, hlisted]
  | ok found =>
    simp only [Fetched.done, hlisted]
    rfl

/-! ## §5 Both parts -/

section

variable {now : Instant} {newerThan : Option Fingerprint} {cache : Option FingerprintCache}
  {computer : δ} {files : Files}

/-- A download that brings rows has fetched their dives. -/
theorem listed_of_download {rows : List DiveSummary}
    (h : (download now newerThan cache computer files).result = .ok rows) :
    ∃ dives, (fetch now newerThan computer files).listed = .ok (dives, rows) := by
  rw [download_eq_done] at h
  unfold Fetched.done at h
  -- a listing that failed is a download that failed
  split at h
  · cases h
  · rename_i dives found hlisted
    obtain rfl : found = rows := Except.ok.inj h
    exact ⟨dives, hlisted⟩

/-- What a download is that has fetched dives. -/
theorem download_of_listed {dives : List Dive} {rows : List DiveSummary} {warnings : List Warning}
    {later : Files} (h : (fetch now newerThan computer files).listed = .ok (dives, rows))
    (hlater : rememberNewest cache
      (DiveComputer.identity (fetch now newerThan computer files).computer) dives files =
        (warnings, later)) :
    download now newerThan cache computer files =
      ⟨(fetch now newerThan computer files).computer, later, .ok rows,
        (fetch now newerThan computer files).warnings ++ warnings⟩ := by
  rw [download_eq_done]
  unfold Fetched.done
  simp only [h, hlater]

theorem computer_of_download (now : Instant) (newerThan : Option Fingerprint)
    (cache : Option FingerprintCache) (computer : δ) (files : Files) :
    (download now newerThan cache computer files).computer =
      (fetch now newerThan computer files).computer := by
  rw [download_eq_done]
  unfold Fetched.done
  split <;> rfl

/-- What comes of a download does not depend on what is remembered, nor on whether that works. -/
theorem result_download (now : Instant) (newerThan : Option Fingerprint)
    (cache other : Option FingerprintCache) (computer : δ) (files : Files) :
    (download now newerThan other computer files).result =
      (download now newerThan cache computer files).result := by
  rw [download_eq_done, download_eq_done]
  unfold Fetched.done
  split <;> rfl

/-- Without rows, without a computer that has told who it is or without a place to remember, a
download leaves the files. -/
theorem files_of_nothing_to_remember {rows : List DiveSummary}
    (hrows : (download now newerThan cache computer files).result = .ok rows)
    (hnothing : rows = [] ∨
      DiveComputer.identity (download now newerThan cache computer files).computer = none ∨
      cache = none) :
    (download now newerThan cache computer files).files = files := by
  obtain ⟨dives, hlisted⟩ := listed_of_download hrows
  -- rows and dives are as many
  have hdives : rows = [] → dives = [] := fun hnil => by
    simpa [hnil] using (fingerprints_of_fetch hlisted).symm
  rw [computer_of_download] at hnothing
  rw [download_of_listed hlisted (rememberNewest_eq_nothing (hnothing.imp_left hdives))]

variable {newest : DiveSummary} {rest : List DiveSummary} {info : DeviceInfo}
  {store : FingerprintCache} {later : Files}

/-- The first row has the fingerprint of the first dive. -/
theorem newest_of_download
    (h : (download now newerThan cache computer files).result = .ok (newest :: rest)) :
    ∃ dive dives, (fetch now newerThan computer files).listed =
        .ok (dive :: dives, newest :: rest) ∧
      newest.fingerprint = Fingerprint.ofDive dive := by
  obtain ⟨dives, hlisted⟩ := listed_of_download h
  have hfingerprints := fingerprints_of_fetch hlisted
  cases dives with
  | nil => cases hfingerprints
  | cons dive dives => exact ⟨dive, dives, hlisted, (List.cons.inj hfingerprints).1⟩

/-- What a download with rows leaves is what remembering the first of the dives leaves. -/
theorem download_of_rememberNewest {warnings : List Warning}
    (hrows : (download now newerThan cache computer files).result = .ok (newest :: rest))
    (hlater : ∀ dive dives, newest.fingerprint = Fingerprint.ofDive dive →
      rememberNewest cache
        (DiveComputer.identity (download now newerThan cache computer files).computer)
        (dive :: dives) files = (warnings, later)) :
    (download now newerThan cache computer files).files = later ∧
      (download now newerThan cache computer files).warnings =
        (download now newerThan none computer files).warnings ++ warnings := by
  obtain ⟨dive, dives, hlisted, hfingerprint⟩ := newest_of_download hrows
  rw [computer_of_download] at hlater
  -- the download without a place to remember has the warnings of the listing alone
  have hnothing := download_of_listed hlisted (rememberNewest_eq_nothing (.inr (.inr rfl)))
  rw [download_of_listed hlisted (hlater dive dives hfingerprint), hnothing, List.append_nil]
  exact ⟨rfl, rfl⟩

/-- **The newest dive is remembered** where that works. -/
theorem download_of_save
    (hrows : (download now newerThan (some store) computer files).result = .ok (newest :: rest))
    (hinfo : DiveComputer.identity (download now newerThan (some store) computer files).computer =
      some info)
    (hsave : (store.save info.serial newest.fingerprint : StateM Files _).run files =
      (.ok (), later)) :
    (download now newerThan (some store) computer files).files = later ∧
      (download now newerThan (some store) computer files).warnings =
        (download now newerThan none computer files).warnings := by
  rw [← List.append_nil (download now newerThan none computer files).warnings]
  refine download_of_rememberNewest hrows fun dive dives hfingerprint => ?_
  rw [hfingerprint] at hsave
  rw [hinfo, rememberNewest_of_save hsave]

/-- **Where it does not work, there is a warning.** -/
theorem download_of_save_error {fault : CacheFault}
    (hrows : (download now newerThan (some store) computer files).result = .ok (newest :: rest))
    (hinfo : DiveComputer.identity (download now newerThan (some store) computer files).computer =
      some info)
    (hsave : (store.save info.serial newest.fingerprint : StateM Files _).run files =
      (.error fault, later)) :
    (download now newerThan (some store) computer files).files = later ∧
      (download now newerThan (some store) computer files).warnings =
        (download now newerThan none computer files).warnings ++ [.notRemembered fault] := by
  refine download_of_rememberNewest hrows fun dive dives hfingerprint => ?_
  rw [hfingerprint] at hsave
  rw [hinfo, rememberNewest_of_save_error hsave]

/-- **A computer that refuses a fingerprint is asked for nothing more.** -/
theorem download_of_refused {fingerprint : Fingerprint} {fault : Fault} {refused : δ}
    (h : DiveComputer.setFingerprint computer fingerprint.toBytes = (.error fault, refused))
    (now : Instant) (cache : Option FingerprintCache) (files : Files) :
    download now (some fingerprint) cache computer files =
        ⟨refused, files, .error (.device fault), []⟩ ∧
      asks (some fingerprint) computer = [.setFingerprint fingerprint.toBytes] := by
  have hchoose : chooseFingerprint (some fingerprint) computer = (.error fault, refused) := h
  unfold download asks
  rw [hchoose]
  exact ⟨rfl, rfl⟩

end

/-- **A download is remembered only once it is complete**, for every computer, fingerprint and place
to remember.

* A download that fails leaves all files as they are.
* So does one without dives, of a computer that has not told who it is, or without a place to
  remember.
* Otherwise, if saving succeeds, the entry of the computer is the fingerprint of the first row from
  then on. No other file is made, changed or removed, and what is looked up for other serial numbers
  is what was looked up before, where there was an entry, where the folder is there, and where it
  holds nothing once it is made. If saving fails, there is one more warning, and the files are what
  they were but for folders.
* Rows and faults are the same with any place to remember and without one.
* A computer that refuses the fingerprint is asked for nothing more, and its fault is what comes of
  the download. -/
theorem download_remembers_when_complete (now : Instant) (newerThan : Option Fingerprint)
    (cache : Option FingerprintCache) (computer : δ) (files : Files) :
    let done := download now newerThan cache computer files
    (∀ fault, done.result = .error fault → done.files = files) ∧
      (∀ rows, done.result = .ok rows →
        (rows = [] ∨ DiveComputer.identity done.computer = none ∨ cache = none) →
        done.files = files) ∧
      (∀ newest rest info store, done.result = .ok (newest :: rest) →
        DiveComputer.identity done.computer = some info → cache = some store →
        (∀ later, (store.save info.serial newest.fingerprint : StateM Files _).run files =
            (.ok (), later) →
          done.files = later ∧
            done.warnings = (download now newerThan none computer files).warnings ∧
            store.loaded later info.serial = .ok (some newest.fingerprint) ∧
            (∃ names, Files.WroteAt files later (store.path info.serial) names
              newest.fingerprint.toBytes) ∧
            ∀ serial, serial ≠ info.serial →
              (store.loaded files serial ≠ .ok none ∨ files.IsReady store.folder ∨
                store.Fresh files) →
              store.loaded later serial = store.loaded files serial) ∧
          ∀ fault later, (store.save info.serial newest.fingerprint : StateM Files _).run files =
              (.error fault, later) →
            done.warnings = (download now newerThan none computer files).warnings ++
                [.notRemembered fault] ∧
              Files.OnlyFolders files done.files) ∧
      (∀ other, (download now newerThan other computer files).result = done.result) ∧
      ∀ fingerprint fault refused, newerThan = some fingerprint →
        DiveComputer.setFingerprint computer fingerprint.toBytes = (.error fault, refused) →
        done.result = .error (.device fault) ∧
          (download now newerThan cache (⟨computer, []⟩ : Watched δ) files).computer.asked =
            [.setFingerprint fingerprint.toBytes] := by
  intro done
  refine ⟨fun fault => files_of_download_error, fun rows => files_of_nothing_to_remember, ?_,
    fun other => result_download now newerThan cache other computer files, ?_⟩
  · -- there is a dive to remember, for a computer that is known, and a place for it
    rintro newest rest info store hrows hinfo rfl
    constructor
    · intro later hsave
      obtain ⟨hfiles, hwarnings⟩ := download_of_save hrows hinfo hsave
      refine ⟨hfiles, hwarnings, FingerprintCache.loaded_of_save hsave,
        FingerprintCache.wroteAt_of_save hsave, fun serial hother hknown => ?_⟩
      exact FingerprintCache.loaded_other_eq hsave hother hknown
    · -- the rows are listed all the same
      intro fault later hsave
      obtain ⟨hfiles, hwarnings⟩ := download_of_save_error hrows hinfo hsave
      refine ⟨hwarnings, ?_⟩
      rw [show done.files = later from hfiles]
      exact FingerprintCache.onlyFolders_of_save_error hsave
  · -- the record of a watched computer ends with the choice
    rintro fingerprint fault refused rfl hrefused
    obtain ⟨hdone, hasks⟩ := download_of_refused hrefused now cache files
    rw [download_watched, hasks]
    exact ⟨congrArg Done.result hdone, rfl⟩

/-- A computer with two dives that says who it is. -/
def twoDives : Prepared :=
  ⟨Dive.memoryOf [(3, [7]), (5, [])], some ⟨17, 1, 2⟩, none, none, none, []⟩

/-- The newer of its dives is remembered for it, and for no other computer; one that refuses the
fingerprint is not asked for dives. -/
theorem download_remembers_when_complete_twoDives :
    let done := download noon none (some cacheFolder) twoDives (Files.startingAt [])
    done.result = .ok [⟨1, 13, 12, ⟨5⟩, none⟩, ⟨2, 0, 13, ⟨3⟩, none⟩] ∧
      cacheFolder.loaded done.files 2 = .ok (some ⟨5⟩) ∧
      cacheFolder.loaded done.files 1 = .ok none ∧
      (download noon none none twoDives (Files.startingAt [])).result = done.result ∧
      (download noon (some ⟨3⟩) (some cacheFolder)
        (⟨{ twoDives with refusal := some .noDevice }, []⟩ : Watched Prepared)
        (Files.startingAt [])).computer.asked = [.setFingerprint [3, 0, 0, 0]] := by
  have hrows : (download noon none (some cacheFolder) twoDives (Files.startingAt [])).result =
      .ok [⟨1, 13, 12, ⟨5⟩, none⟩, ⟨2, 0, 13, ⟨3⟩, none⟩] := by
    decide +kernel
  have hinfo : DiveComputer.identity
      (download noon none (some cacheFolder) twoDives (Files.startingAt [])).computer =
        some ⟨17, 1, 2⟩ := by
    decide +kernel
  -- in a fresh folder saving succeeds
  obtain ⟨later, hsave, -⟩ :=
    FingerprintCache.Stores.run_save (.inl ⟨fresh_cacheFolder, rfl⟩) 2 ⟨5⟩
  obtain ⟨-, -, hsaved, hsame, -⟩ := download_remembers_when_complete noon none (some cacheFolder)
    twoDives (Files.startingAt [])
  obtain ⟨hfiles, -, hloaded, -, hothers⟩ := (hsaved _ _ _ _ hrows hinfo rfl).1 later hsave
  -- the same computer, but it refuses every fingerprint
  obtain ⟨-, -, -, -, hrefused⟩ := download_remembers_when_complete noon (some ⟨3⟩)
    (some cacheFolder) { twoDives with refusal := some .noDevice } (Files.startingAt [])
  refine ⟨hrows, ?_, ?_, hsame none, (hrefused _ _ _ rfl rfl).2⟩
  · rw [hfiles]
    exact hloaded
  · rw [hfiles, hothers 1 (by decide) (.inr (.inr fresh_cacheFolder))]
    exact fresh_cacheFolder.unknown 1

end DiveLink
