import DiveLink.Proofs.Remembering

/-!
# Writing files

A file is written in two steps: the folder in which it lies is made, with all folders above it, and
then the bytes are put under the path. Where both steps succeed the path leads to these bytes, and
nothing has happened to any other file.

1. `Path.EndsIn` splits off the last name of a path, `Path.EndsIn.parent_eq` is the path before it.
2. `Files.OnlyFolders` is what making folders does: it changes nothing that was there.
3. `Files.setContents_eq_ok_iff` says when bytes can be put under a path, and what is there then.
4. `Files.WroteAt` is what both steps leave, `Files.CanWrite` says that they succeed.
5. `Files.run_readText`: a text that was written is the text that is read.
-/

namespace DiveLink

namespace Path

/-! ## §1 Last names -/

/-- Whether a path is a name behind nothing or behind a slash. -/
structure EndsIn (path front name : String) : Prop where
  split : path = front ++ name
  no_slash : '/' ∉ name.toList
  ne_empty : name ≠ ""
  front_open : front = "" ∨ endsInSlash front = true

namespace EndsIn

variable {path front name : String} (h : EndsIn path front name)

include h

theorem name_ne_nil : name.toList ≠ [] := fun hnil => h.ne_empty (by simpa using hnil)

/-- What is put behind a path lengthens its last name. -/
theorem append {suffix : String} (hsuffix : '/' ∉ suffix.toList) :
    EndsIn (path ++ suffix) front (name ++ suffix) where
  split := by rw [h.split, String.append_assoc]
  no_slash := by
    rw [String.toList_append, List.mem_append]
    exact not_or.mpr ⟨h.no_slash, hsuffix⟩
  ne_empty := by
    intro hempty
    have hlists := congrArg String.toList hempty
    rw [String.toList_append, String.toList_empty, List.append_eq_nil_iff] at hlists
    exact h.name_ne_nil hlists.1
  front_open := h.front_open

end EndsIn

end Path

namespace Files

variable {files made later : Files}

/-! ## §2 Making folders -/

/-- One step on the way of a path: it goes on with the other names, or its last name is looked
up. -/
theorem follow_cons_cases {wantsFolder : Bool} {folder names : List String} {first : String}
    {spot : Spot} (h : files.follow wantsFolder folder (first :: names) = .ok spot) :
    (∃ next, files.follow wantsFolder next names = .ok spot) ∨
      names = [] ∧ first ≠ "." ∧ first ≠ ".." ∧
        spot = ⟨folder ++ [first], files.entry? (folder ++ [first]), wantsFolder⟩ := by
  rw [follow] at h
  dsimp only at h
  split_ifs at h with hdot hdots hlast hlong
  · exact .inl ⟨folder, h⟩
  · exact .inl ⟨folder.dropLast, h⟩
  · exact .inr ⟨hlast, hdot, hdots, (Except.ok.inj h).symm⟩
  · split at h
    · cases h
    · cases h
    · exact .inl ⟨folder ++ [first], h⟩

/-- A path leads to a folder that it has come through, or to what is under its last name. -/
theorem follow_entry {wantsFolder : Bool} {folder names : List String} {spot : Spot}
    (h : files.follow wantsFolder folder names = .ok spot) :
    spot.entry = some .folder ∧ spot.wantsFolder = true ∨
      spot.names ≠ [] ∧ spot.entry = files.entry? spot.names := by
  -- on the names, from any folder
  induction names generalizing folder with
  | nil =>
    obtain rfl := Except.ok.inj h
    exact .inl ⟨rfl, rfl⟩
  | cons first names ih =>
    rcases follow_cons_cases h with ⟨next, hnext⟩ | ⟨_, _, _, rfl⟩
    · exact ih hnext
    · exact .inr ⟨by simp, rfl⟩

/-- Whether all that has happened is that folders were made where nothing was. -/
structure OnlyFolders (files later : Files) : Prop where
  home : later.home = files.home
  entry : ∀ names, later.entry? names = files.entry? names ∨
    files.entry? names = none ∧ later.entry? names = some .folder

theorem OnlyFolders.refl (files : Files) : OnlyFolders files files where
  home := rfl
  entry _ := .inl rfl

theorem OnlyFolders.trans (h : OnlyFolders files made) (hlater : OnlyFolders made later) :
    OnlyFolders files later where
  home := hlater.home.trans h.home
  entry names := by
    rcases h.entry names with hsame | ⟨hnone, hfolder⟩
    · rw [← hsame]
      exact hlater.entry names
    · -- what was made is not made again
      rcases hlater.entry names with hsame | ⟨hnone', _⟩
      · exact .inr ⟨hnone, hsame.trans hfolder⟩
      · rw [hfolder] at hnone'
        cases hnone'

theorem OnlyFolders.keepsFolders (h : OnlyFolders files later) : KeepsFolders files later where
  home := h.home
  entry names hfolder := by
    rcases h.entry names with hsame | ⟨_, hmade⟩
    · exact hsame.trans hfolder
    · exact hmade

/-- Making folders leaves every file, and makes none. -/
theorem OnlyFolders.file_iff (h : OnlyFolders files later) (names : List String) (data : Bytes) :
    later.entry? names = some (.file data) ↔ files.entry? names = some (.file data) := by
  rcases h.entry names with hsame | ⟨hnone, hfolder⟩
  · rw [hsame]
  · rw [hnone, hfolder]
    simp

theorem onlyFolders_put {names : List String} (h : files.entry? names = none) :
    OnlyFolders files (files.put names .folder) where
  home := rfl
  entry other := by
    by_cases heq : other = names
    · subst heq
      have hne : other ≠ [] := fun hnil => by
        rw [hnil, entry_nil] at h
        cases h
      exact .inr ⟨h, entry_put_self files .folder hne⟩
    · exact .inl (entry_put_of_ne files .folder heq)

theorem onlyFolders_of_makeFolder {path : String} (h : files.makeFolder path = .ok later) :
    OnlyFolders files later := by
  unfold makeFolder at h
  cases hfind : files.find path with
  | error fault => simp [hfind, bind, Except.bind] at h
  | ok spot =>
    rw [hfind] at h
    cases hentry : spot.entry with
    | some entry => simp [bind, Except.bind, hentry] at h
    | none =>
      -- nothing is there, so the path ends in a name and does not come through dots to a folder
      have hlater : files.put spot.names .folder = later := by
        simpa [bind, Except.bind, pure, Except.pure, hentry] using h
      subst hlater
      have hlocate := ((find_eq_ok_iff _ _ _).mp hfind).1
      rcases follow_entry ((locate_eq_ok_iff _ _ _).mp hlocate).2 with ⟨hfolder, _⟩ | ⟨_, hthere⟩
      · rw [hentry] at hfolder
        cases hfolder
      · exact onlyFolders_put (hthere.symm.trans hentry)

theorem onlyFolders_run_makeFolder (files : Files) (path : String) :
    OnlyFolders files ((FileAccess.makeFolder path : StateM Files _).run files).2 := by
  rw [run_makeFolder]
  cases hmake : files.makeFolder path with
  | error fault => exact .refl files
  | ok made => exact onlyFolders_of_makeFolder hmake

/-- Helper: whether there is a folder is only looked at. -/
theorem files_of_run_isFolder (files : Files) (path : String) (fault : FileFault) :
    ((do if ← FileAccess.isFolder path then return .ok () else return .error fault :
      StateM Files (Except FileFault Unit)).run files).2 = files := by
  rw [run_bind, run_isFolder]
  cases files.under? path == some .folder <;> rfl

theorem onlyFolders_run_ensureFolder (files : Files) (path : String) :
    OnlyFolders files ((FileAccess.ensureFolder path : StateM Files _).run files).2 := by
  have hmade := onlyFolders_run_makeFolder files path
  unfold FileAccess.ensureFolder
  rw [run_bind]
  -- where the folder cannot be made, it may be there already
  cases ((FileAccess.makeFolder path : StateM Files _).run files).1 with
  | ok _ => exact hmade
  | error fault =>
    show OnlyFolders files ((do
      if ← FileAccess.isFolder path then return .ok () else return .error fault :
        StateM Files (Except FileFault Unit)).run _).2
    rw [files_of_run_isFolder]
    exact hmade

theorem onlyFolders_run_makeFrom (files : Files) (paths : List String) :
    OnlyFolders files ((FileAccess.makeFrom paths : StateM Files _).run files).2 := by
  -- on the paths, each of which lies in the next one
  induction paths generalizing files with
  | nil => exact .refl files
  | cons path above ih =>
    have hmade := onlyFolders_run_makeFolder files path
    unfold FileAccess.makeFrom
    by_cases hempty : path = ""
    · rw [if_pos hempty]
      exact .refl files
    rw [if_neg hempty, run_bind]
    generalize (FileAccess.makeFolder path : StateM Files _).run files = outcome at hmade ⊢
    obtain ⟨result, made⟩ := outcome
    cases result with
    | ok _ => exact hmade
    | error fault =>
      cases fault with
      | missing =>
        -- the folders above it are made, and then this one is tried again
        have habove := ih made
        dsimp only
        rw [run_bind]
        generalize (FileAccess.makeFrom above : StateM Files _).run made = outcome at habove ⊢
        obtain ⟨result, made'⟩ := outcome
        cases result with
        | ok _ => exact hmade.trans (habove.trans (onlyFolders_run_ensureFolder made' path))
        | error fault => exact hmade.trans habove
      | _ =>
        show OnlyFolders files ((do
          if ← FileAccess.isFolder path then return .ok () else return .error _ :
            StateM Files (Except FileFault Unit)).run made).2
        rw [files_of_run_isFolder]
        exact hmade

/-- **Making a folder with all folders above it makes folders only**, whether it succeeds or
fails. -/
theorem onlyFolders_run_makeFolders (files : Files) (path : String) :
    OnlyFolders files ((FileAccess.makeFolders path : StateM Files _).run files).2 :=
  onlyFolders_run_makeFrom files (Path.ancestors path)

theorem onlyFolders_run_makeParent (files : Files) (path : String) :
    OnlyFolders files ((FileAccess.makeParent path : StateM Files _).run files).2 := by
  unfold FileAccess.makeParent
  cases Path.parent path with
  | none => exact .refl files
  | some above =>
    dsimp only
    split
    · exact .refl files
    · exact onlyFolders_run_makeFolders files above

/-- A folder is made for a path as for every other path in it. -/
theorem makeParent_congr {path other : String} (h : Path.parent other = Path.parent path) :
    (FileAccess.makeParent other : StateM Files _) = FileAccess.makeParent path := by
  unfold FileAccess.makeParent
  rw [h]

/-- A folder that was made is not made again. -/
theorem run_makeParent_again {path : String}
    (h : (FileAccess.makeParent path : StateM Files _).run files = (.ok (), made))
    (hkeeps : KeepsFolders made later) :
    (FileAccess.makeParent path : StateM Files _).run later = (.ok (), later) := by
  unfold FileAccess.makeParent at h ⊢
  cases hparent : Path.parent path with
  | none => rfl
  | some above =>
    rw [hparent] at h
    dsimp only at h ⊢
    split
    · rfl
    · rename_i hne
      rw [if_neg hne] at h
      exact run_makeFolders_of_ready ((ready_of_makeFolders h).keeps hkeeps)

/-! ## §3 Putting bytes under a path -/

/-- **When bytes can be put under a path, and what is there then.** -/
theorem setContents_eq_ok_iff {path : String} {data : Bytes} :
    files.setContents path data = .ok later ↔
      ∃ spot, files.locate path = .ok spot ∧ spot.Fits ∧ spot.wantsFolder = false ∧
        spot.entry ≠ some .folder ∧ later = files.put spot.names (.file data) := by
  unfold setContents Spot.Fits
  cases files.locate path with
  | error fault => simp [bind, Except.bind]
  | ok spot =>
    -- the three things that can be wrong with the spot, in the order in which they are looked at
    simp only [bind, Except.bind, Except.ok.injEq, exists_eq_left', Spot.checked]
    by_cases hwants : spot.wantsFolder = true
    · simp [hwants, throw, throwThe, MonadExceptOf.throw]
    by_cases hlong : spot.names.getLast?.any isTooLong = true
    · simp [hwants, hlong]
    by_cases hfolder : spot.entry = some .folder
    · simp [hwants, hlong, hfolder, throw, throwThe, MonadExceptOf.throw]
    · simp [hwants, hlong, hfolder, pure, Except.pure, eq_comm]

/-- A path under which bytes can be put leads to what is under its last name. -/
theorem entry_of_locate {path : String} {spot : Spot} (hlocate : files.locate path = .ok spot)
    (hwants : spot.wantsFolder = false) :
    spot.names ≠ [] ∧ spot.entry = files.entry? spot.names := by
  rcases follow_entry ((locate_eq_ok_iff _ _ _).mp hlocate).2 with ⟨_, hwants'⟩ | hentry
  · rw [hwants] at hwants'
    cases hwants'
  · exact hentry

/-- Bytes under a path are no folder, so all folders stay. -/
theorem keepsFolders_of_setContents {path : String} {data : Bytes}
    (h : files.setContents path data = .ok later) : KeepsFolders files later := by
  obtain ⟨spot, hlocate, _, hwants, hfile, rfl⟩ := setContents_eq_ok_iff.mp h
  apply keepsFolders_put
  intro hfolder
  exact absurd ((entry_of_locate hlocate hwants).2.trans hfolder) hfile

/-- Where bytes could be put under a path, they still can after others were put somewhere. -/
theorem exists_setContents_again {path other : String} {data found : Bytes} {files' : Files}
    (h : files.setContents path data = .ok later)
    (hother : files.setContents other found = .ok files') (found' : Bytes) :
    ∃ files'', later.setContents other found' = .ok files'' := by
  have hkeeps := keepsFolders_of_setContents h
  obtain ⟨spot, _, _, _, _, rfl⟩ := setContents_eq_ok_iff.mp h
  obtain ⟨there, hlocate, hfits, hwants, hfile, _⟩ := setContents_eq_ok_iff.mp hother
  have hlater := locate_keeps hkeeps hlocate
  rw [if_neg hfile] at hlater
  refine ⟨_, setContents_eq_ok_iff.mpr ⟨_, hlater, hfits, hwants, ?_, rfl⟩⟩
  obtain ⟨hne, hentry⟩ := entry_of_locate hlocate hwants
  -- what is there now is what was there, or the bytes
  by_cases heq : there.names = spot.names
  · rw [heq] at hne ⊢
    simp [entry_put_self files (.file data) hne]
  · simpa [entry_put_of_ne files (.file data) heq, ← hentry] using hfile

/-! ## §4 Both steps -/

/-- What is left by writing a file: the path leads to the bytes, all folders are where they were,
and no other file was made, changed or removed. -/
structure WroteAt (files later : Files) (path : String) (names : List String) (data : Bytes) :
    Prop where
  found : later.find path = .ok ⟨names, some (.file data), false⟩
  keeps : KeepsFolders files later
  others : ∀ other, other ≠ names → ∀ kept,
    later.entry? other = some (.file kept) ↔ files.entry? other = some (.file kept)

theorem contents_of_find {path : String} {names : List String} {data : Bytes}
    (h : files.find path = .ok ⟨names, some (.file data), false⟩) :
    files.contents path = .ok data := by
  unfold contents
  rw [h]
  rfl

theorem WroteAt.contents {path : String} {names : List String} {data : Bytes}
    (h : WroteAt files later path names data) : later.contents path = .ok data :=
  contents_of_find h.found

theorem KeepsFolders.trans (h : KeepsFolders files made) (hlater : KeepsFolders made later) :
    KeepsFolders files later where
  home := hlater.home.trans h.home
  entry names hfolder := hlater.entry names (h.entry names hfolder)

/-- **What writing a file leaves**, with the folders that were made for it. -/
theorem wroteAt_of_setContents {path : String} {data : Bytes} (hmade : OnlyFolders files made)
    (h : made.setContents path data = .ok later) :
    ∃ names, WroteAt files later path names data := by
  have hkeeps := keepsFolders_of_setContents h
  obtain ⟨spot, hlocate, hfits, hwants, hfile, rfl⟩ := setContents_eq_ok_iff.mp h
  obtain ⟨hne, hentry⟩ := entry_of_locate hlocate hwants
  refine ⟨spot.names, ?_, hmade.keepsFolders.trans hkeeps, ?_⟩
  · -- the way to the spot leads through folders, and these are still there
    have hlater := locate_keeps hkeeps hlocate
    rw [if_neg hfile, entry_put_self made _ hne, hwants] at hlater
    exact (find_eq_ok_iff _ _ _).mpr ⟨hlater, hfits⟩
  · intro other hother kept
    rw [entry_put_of_ne made _ hother]
    exact hmade.file_iff other kept

/-- Whether all operations succeed that it takes to write a file under a path. -/
def CanWrite (files : Files) (path : String) : Prop :=
  ∃ made, (FileAccess.makeParent path : StateM Files _).run files = (.ok (), made) ∧
    ∀ data, ∃ later, made.setContents path data = .ok later

/-- Where no folder has to be made and the path leads to no folder, a file can be written. -/
theorem canWrite_of_locate {path : String} {spot : Spot}
    (hmade : (FileAccess.makeParent path : StateM Files _).run files = (.ok (), files))
    (hlocate : files.locate path = .ok spot) (hfits : spot.Fits) (hwants : spot.wantsFolder = false)
    (hfile : spot.entry ≠ some .folder) : CanWrite files path :=
  ⟨files, hmade, fun _ =>
    ⟨_, setContents_eq_ok_iff.mpr ⟨spot, hlocate, hfits, hwants, hfile, rfl⟩⟩⟩

/-- The steps of writing a file, and what they leave. Every path of the same folder that could be
written before can be written afterwards. -/
theorem CanWrite.steps {path : String} (h : CanWrite files path) (data : Bytes) :
    ∃ made later names,
      (FileAccess.makeParent path : StateM Files _).run files = (.ok (), made) ∧
      (FileAccess.setContents path data : StateM Files _).run made = (.ok (), later) ∧
      WroteAt files later path names data ∧
      ∀ other, Path.parent other = Path.parent path → CanWrite files other →
        CanWrite later other := by
  obtain ⟨made, hmade, hwrites⟩ := h
  obtain ⟨later, hset⟩ := hwrites data
  have honly := onlyFolders_run_makeParent files path
  rw [hmade] at honly
  obtain ⟨names, hwrote⟩ := wroteAt_of_setContents honly hset
  refine ⟨made, later, names, hmade, ?_, hwrote, ?_⟩
  · rw [FingerprintCache.run_setContents, hset]
    rfl
  · rintro other hparent ⟨made', hmade', hwrites'⟩
    -- it is in the folder that was made
    rw [makeParent_congr hparent, hmade] at hmade'
    obtain rfl : made = made' := congrArg Prod.snd hmade'
    refine ⟨later, ?_, ?_⟩
    · rw [makeParent_congr hparent]
      exact run_makeParent_again hmade (keepsFolders_of_setContents hset)
    · intro found
      obtain ⟨files', hother⟩ := hwrites' found
      exact exists_setContents_again hset hother found

end Files

/-! ## §5 Text -/

/-- A text that was written is the text that is read. -/
theorem Utf8.text?_bytes (text : String) : Utf8.text? (Utf8.bytes text) = some text := by
  have hbytes : (⟨(Utf8.bytes text).toArray⟩ : ByteArray) = text.toByteArray := by
    rw [← String.utf8Encode_toList, List.utf8Encode]
    apply ByteArray.ext
    simp [Utf8.bytes]
  rw [Utf8.text?, hbytes, String.fromUTF8?, dif_pos text.isValidUTF8]
  rfl

namespace Files

variable {files : Files}

theorem run_readText {path text : String} (h : files.contents path = .ok (Utf8.bytes text)) :
    (FileAccess.readText path : StateM Files _).run files = (.ok text, files) := by
  have hread : (FileAccess.contents path : StateM Files _).run files =
      (.ok (Utf8.bytes text), files) := congrArg (·, files) h
  unfold FileAccess.readText
  simp only [run_bind, hread, Utf8.text?_bytes]
  rfl

/-- Reading leaves the files as they are. -/
theorem files_of_run_readText (files : Files) (path : String) :
    ((FileAccess.readText path : StateM Files _).run files).2 = files := by
  have hread : (FileAccess.contents path : StateM Files _).run files =
      (files.contents path, files) := rfl
  unfold FileAccess.readText
  rw [run_bind, hread]
  cases files.contents path with
  | error fault => rfl
  | ok data =>
    dsimp only
    cases Utf8.text? data <;> rfl

theorem under?_of_find {path : String} {names : List String} {data : Bytes}
    (h : files.find path = .ok ⟨names, some (.file data), false⟩) :
    files.under? path = some (.file data) := by
  unfold under?
  rw [h]
  rfl

end Files

end DiveLink
