import DiveLink.Files.Store
import Mathlib

/-!
# Where paths lead

A path leads through folders to its last name. Where it leads stays the same as long as these
folders do, whatever happens to files.

1. `entry_put_self`, `entry_drop_self` and their companions are the laws of entries.
2. `Files.folderAt` is the way through folders, `Files.follow_concat_iff` splits a path into this
   way and its last name.
3. `KeepsFolders` is what a change of files does not touch: all paths lead where they led.
4. `Files.locate_keeps` and `Files.under?_folder_keeps` say so for paths.
5. `Files.ready_of_makeFolders` and `Files.run_makeFolders_of_ready`: folders are made once.
-/

namespace DiveLink

namespace Files

/-! ## §1 Entries -/

theorem lookup_filter_ne {names other : List String} (entries : List (List String × Entry))
    (hne : other ≠ names) :
    (entries.filter (·.1 ≠ names)).lookup other = entries.lookup other := by
  induction entries with
  | nil => rfl
  | cons head rest ih =>
    obtain ⟨found, entry⟩ := head
    by_cases hfound : found = names
    · -- the entry that is left out is not the one that is looked up
      subst hfound
      rw [List.filter_cons_of_neg (by simp), ih, List.lookup_cons, beq_false_of_ne hne]
    · rw [List.filter_cons_of_pos (by simpa using hfound), List.lookup_cons, List.lookup_cons, ih]

theorem lookup_filter_self (names : List String) (entries : List (List String × Entry)) :
    (entries.filter (·.1 ≠ names)).lookup names = none := by
  rw [List.lookup_eq_none_iff]
  intro entry hentry
  have hne : entry.1 ≠ names := by simpa using (List.mem_filter.mp hentry).2
  simpa using Ne.symm hne

@[simp] theorem entry_nil (files : Files) : files.entry? [] = some .folder := rfl

theorem entry_put_self (files : Files) {names : List String} (entry : Entry) (hne : names ≠ []) :
    Files.entry? (files.put names entry) names = some entry := by
  unfold Files.entry?
  simp [put, hne]

theorem entry_put_of_ne (files : Files) {names other : List String} (entry : Entry)
    (hne : other ≠ names) : Files.entry? (files.put names entry) other = files.entry? other := by
  unfold Files.entry?
  simp only [put, drop]
  rw [List.lookup_cons, beq_false_of_ne hne, lookup_filter_ne _ hne]

theorem entry_drop_self (files : Files) {names : List String} (hne : names ≠ []) :
    Files.entry? (files.drop names) names = none := by
  unfold Files.entry?
  simp only [drop, if_neg hne]
  exact lookup_filter_self names files.entries

theorem entry_drop_of_ne (files : Files) {names other : List String} (hne : other ≠ names) :
    Files.entry? (files.drop names) other = files.entry? other := by
  unfold Files.entry?
  simp only [drop]
  rw [lookup_filter_ne _ hne]

/-! ## §2 Folders on the way -/

/-- The folder to which names lead from a folder, if all of them lead to folders. -/
def folderAt (files : Files) : List String → List String → Option (List String)
  | folder, [] => some folder
  | folder, name :: names =>
    if name = "." then files.folderAt folder names
    else if name = ".." then files.folderAt folder.dropLast names
    else if isTooLong name then none
    else if files.entry? (folder ++ [name]) = some .folder then
      files.folderAt (folder ++ [name]) names
    else none

/-- A path leads through folders, and its last name is looked up in the last of them. -/
theorem follow_concat_iff (files : Files) (wantsFolder : Bool) (folder names : List String)
    {name : String} (hdot : name ≠ ".") (hdots : name ≠ "..") (spot : Spot) :
    files.follow wantsFolder folder (names ++ [name]) = .ok spot ↔
      ∃ base, files.folderAt folder names = some base ∧
        spot = ⟨base ++ [name], files.entry? (base ++ [name]), wantsFolder⟩ := by
  -- on the names before the last one, from whatever folder they start
  induction names generalizing folder with
  | nil =>
    simp only [List.nil_append, follow, if_neg hdot, if_neg hdots, ↓reduceIte, folderAt,
      Except.ok.injEq, Option.some.injEq, exists_eq_left']
    exact eq_comm
  | cons first names ih =>
    have hmore : names ++ [name] ≠ [] := by simp
    rw [List.cons_append, follow, folderAt]
    by_cases hfirst : first = "."
    · simp only [if_pos hfirst]
      exact ih folder
    by_cases hfirst' : first = ".."
    · simp only [if_neg hfirst, if_pos hfirst']
      exact ih folder.dropLast
    by_cases hlong : isTooLong first = true
    · simp [hfirst, hfirst', hlong]
    simp only [if_neg hfirst, if_neg hfirst', if_neg hmore, if_neg hlong]
    -- behind a name that is not the last one there has to be a folder
    cases hentry : files.entry? (folder ++ [first]) with
    | none => simp
    | some entry =>
      cases entry with
      | file data => simp
      | folder =>
        simp only [↓reduceIte]
        exact ih (folder ++ [first])

/-! ## §3 What leaves all paths in place -/

/-- Whether all folders are still folders. -/
structure KeepsFolders (files later : Files) : Prop where
  home : later.home = files.home
  entry : ∀ names, files.entry? names = some .folder → later.entry? names = some .folder

theorem keepsFolders_put (files : Files) (names : List String) (entry : Entry)
    (h : files.entry? names = some .folder → entry = .folder) :
    KeepsFolders files (files.put names entry) where
  home := rfl
  entry other hother := by
    by_cases hnil : other = []
    · rw [hnil, entry_nil]
    by_cases heq : other = names
    · subst heq
      rw [entry_put_self files entry hnil, h hother]
    · rwa [entry_put_of_ne files entry heq]

theorem keepsFolders_drop (files : Files) (names : List String)
    (h : files.entry? names ≠ some .folder) : KeepsFolders files (files.drop names) where
  home := rfl
  entry other hother := by
    have hne : other ≠ names := fun heq => h (heq ▸ hother)
    rwa [entry_drop_of_ne files hne]

variable {files later : Files}

theorem folderAt_keeps (hkeeps : KeepsFolders files later) {folder names base : List String}
    (h : files.folderAt folder names = some base) : later.folderAt folder names = some base := by
  induction names generalizing folder with
  | nil => exact h
  | cons first names ih =>
    rw [folderAt] at h ⊢
    -- the way goes on only where it went on before
    split_ifs at h with hdot hdots hlong hentry
    · rw [if_pos hdot]
      exact ih h
    · rw [if_neg hdot, if_pos hdots]
      exact ih h
    · rw [if_neg hdot, if_neg hdots, if_neg hlong, if_pos (hkeeps.entry _ hentry)]
      exact ih h

/-- A path still leads where it led. What is there is what is there now. -/
theorem follow_keeps (hkeeps : KeepsFolders files later) {wantsFolder : Bool}
    {folder names : List String} {spot : Spot}
    (h : files.follow wantsFolder folder names = .ok spot) :
    later.follow wantsFolder folder names = .ok { spot with
      entry := if spot.entry = some .folder then some .folder else later.entry? spot.names } := by
  induction names generalizing folder with
  | nil =>
    obtain rfl := Except.ok.inj h
    rfl
  | cons first names ih =>
    rw [follow] at h ⊢
    by_cases hfirst : first = "."
    · rw [if_pos hfirst] at h ⊢
      exact ih h
    by_cases hfirst' : first = ".."
    · rw [if_neg hfirst, if_pos hfirst'] at h ⊢
      exact ih h
    simp only [if_neg hfirst, if_neg hfirst'] at h ⊢
    by_cases hlast : names = []
    · rw [if_pos hlast] at h ⊢
      obtain rfl := Except.ok.inj h
      -- a folder is still there; of everything else the change decides
      split
      · rw [hkeeps.entry _ (by assumption)]
      · rfl
    rw [if_neg hlast] at h ⊢
    by_cases hlong : isTooLong first = true
    · simp [hlong] at h
    rw [if_neg hlong] at h ⊢
    -- on the way there are folders only, and they stay
    cases hentry : files.entry? (folder ++ [first]) with
    | none => simp [hentry] at h
    | some entry =>
      cases entry with
      | file data => simp [hentry] at h
      | folder =>
        rw [hentry] at h
        rw [hkeeps.entry _ hentry]
        exact ih h

/-! ## §4 Paths -/

/-- Whether a path can be looked at, whatever files there are. -/
def Sayable (path : String) : Prop :=
  Char.ofNat 0 ∉ path.toList ∧ path ≠ "" ∧ (Utf8.bytes path).length ≤ pathLimit

/-- Where the names of a path are followed from. -/
def start (files : Files) (path : String) : List String :=
  if Path.isAbsolute path then [] else files.home

theorem locate_eq_ok_iff (files : Files) (path : String) (spot : Spot) :
    files.locate path = .ok spot ↔ Sayable path ∧
      files.follow (Path.endsInSlash path) (files.start path) (Path.parts path) = .ok spot := by
  unfold locate Sayable start
  by_cases hnul : Char.ofNat 0 ∈ path.toList
  · simp [hnul]
  by_cases hempty : path = ""
  · simp [hempty]
  by_cases hlong : pathLimit < (Utf8.bytes path).length
  · simp [hnul, hempty, hlong, Nat.not_le.mpr hlong]
  · simp [hnul, hempty, hlong, Nat.le_of_not_lt hlong]

theorem locate_keeps (hkeeps : KeepsFolders files later) {path : String} {spot : Spot}
    (h : files.locate path = .ok spot) : later.locate path = .ok { spot with
      entry := if spot.entry = some .folder then some .folder else later.entry? spot.names } := by
  rw [locate_eq_ok_iff] at h ⊢
  refine ⟨h.1, ?_⟩
  rw [start, hkeeps.home]
  exact follow_keeps hkeeps h.2

/-- Whether a spot has a name of its own that is too long. -/
def Spot.Fits (spot : Spot) : Prop := ¬ spot.names.getLast?.any isTooLong = true

theorem find_eq_ok_iff (files : Files) (path : String) (spot : Spot) :
    files.find path = .ok spot ↔ files.locate path = .ok spot ∧ spot.Fits := by
  unfold find Spot.Fits
  cases files.locate path with
  | error fault => simp [bind, Except.bind]
  | ok found =>
    simp only [bind, Except.bind, Spot.checked]
    split
    · simp only [reduceCtorEq, Except.ok.injEq, false_iff, not_and, not_not]
      rintro rfl
      assumption
    · simp only [Except.ok.injEq, iff_self_and]
      rintro rfl
      assumption

theorem under?_eq_folder_iff (files : Files) (path : String) :
    files.under? path = some .folder ↔
      ∃ spot, files.find path = .ok spot ∧ spot.entry = some .folder := by
  unfold under?
  cases files.find path with
  | error fault => simp [Except.bind, Except.toOption]
  | ok spot =>
    cases hentry : spot.entry with
    | none => simp [Except.bind, Except.toOption, Spot.meant, hentry]
    | some entry =>
      cases entry with
      | folder => simp [Except.bind, Except.toOption, Spot.meant, hentry]
      | file data =>
        by_cases hwants : spot.wantsFolder = true <;>
          simp [Except.bind, Except.toOption, Spot.meant, hentry, hwants]

theorem under?_folder_keeps (hkeeps : KeepsFolders files later) {path : String}
    (h : files.under? path = some .folder) : later.under? path = some .folder := by
  rw [under?_eq_folder_iff] at h ⊢
  obtain ⟨spot, hfind, hentry⟩ := h
  obtain ⟨hlocate, hfits⟩ := (find_eq_ok_iff _ _ _).mp hfind
  have hlater := locate_keeps hkeeps hlocate
  rw [if_pos hentry] at hlater
  exact ⟨_, (find_eq_ok_iff _ _ _).mpr ⟨hlater, hfits⟩, rfl⟩

/-- Where nothing is found at the end of a path for files, nothing is there. -/
theorem entry_of_under?_none {path : String} {spot : Spot} (hfind : files.find path = .ok spot)
    (hwants : spot.wantsFolder = false) (h : files.under? path = none) : spot.entry = none := by
  unfold under? at h
  rw [hfind] at h
  cases hentry : spot.entry with
  | none => rfl
  | some entry =>
    cases entry <;> simp [Except.bind, Except.toOption, Spot.meant, hentry, hwants] at h

/-- The path of a file that can be written is in order. -/
theorem locate_of_setContents {path : String} {data : Bytes}
    (h : files.setContents path data = .ok later) :
    ∃ spot, files.locate path = .ok spot ∧ spot.Fits := by
  unfold setContents at h
  cases hlocate : files.locate path with
  | error fault => simp [hlocate, bind, Except.bind] at h
  | ok spot =>
    refine ⟨spot, rfl, fun hlong => ?_⟩
    have hchecked : spot.checked = .error .nameTooLong := if_pos hlong
    by_cases hwants : spot.wantsFolder = true <;>
      simp [hlocate, bind, Except.bind, hwants, hchecked, throw, throwThe,
        MonadExceptOf.throw] at h

/-! ## §5 Making folders -/

/-- Whether there is a folder under a path. The empty path needs none. -/
def IsReady (files : Files) (path : String) : Prop :=
  path = "" ∨ files.under? path = some .folder

theorem IsReady.keeps (hkeeps : KeepsFolders files later) {path : String}
    (h : files.IsReady path) : later.IsReady path := by
  rcases h with hempty | hfolder
  · exact Or.inl hempty
  · exact Or.inr (under?_folder_keeps hkeeps hfolder)

/-- A folder that was made is there. -/
theorem under?_of_makeFolder {path : String} (h : files.makeFolder path = .ok later) :
    later.under? path = some .folder := by
  unfold makeFolder at h
  cases hfind : files.find path with
  | error fault => simp [hfind, bind, Except.bind] at h
  | ok spot =>
    rw [hfind] at h
    cases hentry : spot.entry with
    | some entry => simp [bind, Except.bind, hentry] at h
    | none =>
      have hlater : files.put spot.names .folder = later := by
        simpa [bind, Except.bind, pure, Except.pure, hentry] using h
      subst hlater
      -- the new folder does not change where its own path leads
      obtain ⟨hlocate, hfits⟩ := (find_eq_ok_iff _ _ _).mp hfind
      have hkeeps := keepsFolders_put files spot.names .folder (fun _ => rfl)
      have hthere := locate_keeps hkeeps hlocate
      rw [if_neg (by simp [hentry])] at hthere
      rw [under?_eq_folder_iff]
      refine ⟨_, (find_eq_ok_iff _ _ _).mpr ⟨hthere, hfits⟩, ?_⟩
      by_cases hnil : spot.names = []
      · rw [hnil, entry_nil]
      · exact entry_put_self files .folder hnil

/-- A folder that is there is not made again. -/
theorem makeFolder_of_under? {path : String} (h : files.under? path = some .folder) :
    files.makeFolder path = .error .taken := by
  obtain ⟨spot, hfind, hentry⟩ := (under?_eq_folder_iff _ _).mp h
  simp only [makeFolder, hfind, bind, Except.bind, hentry]
  rfl

/-- One operation on files and then another. -/
theorem run_bind {α β : Type} (action : StateM Files α) (next : α → StateM Files β)
    (files : Files) :
    (action >>= next).run files = (next (action.run files).1).run (action.run files).2 := rfl

theorem run_makeFolder (files : Files) (path : String) :
    (FileAccess.makeFolder path : StateM Files _).run files =
      files.after (files.makeFolder path) := rfl

theorem run_isFolder (files : Files) (path : String) :
    (FileAccess.isFolder path : StateM Files _).run files =
      (files.under? path == some .folder, files) := rfl

/-- Helper: a path where a folder could not be made because there is one. -/
theorem ready_of_run_isFolder {path : String} {fault : FileFault}
    (h : ((do if ← FileAccess.isFolder path then return .ok () else return .error fault :
      StateM Files (Except FileFault Unit))).run files = (.ok (), later)) :
    later.IsReady path := by
  rw [run_bind, run_isFolder] at h
  by_cases hfolder : files.under? path = some .folder
  · rw [hfolder] at h
    obtain rfl : files = later := congrArg Prod.snd h
    exact Or.inr hfolder
  · have hfalse : (files.under? path == some .folder) = false := by simpa using hfolder
    rw [hfalse] at h
    exact absurd (congrArg Prod.fst h) (by simp [StateT.run, pure, StateT.pure])

theorem ready_of_ensureFolder {path : String}
    (h : (FileAccess.ensureFolder path : StateM Files _).run files = (.ok (), later)) :
    later.IsReady path := by
  unfold FileAccess.ensureFolder at h
  rw [run_bind, run_makeFolder] at h
  cases hmake : files.makeFolder path with
  | ok made =>
    rw [hmake] at h
    obtain rfl : made = later := congrArg Prod.snd h
    exact Or.inr (under?_of_makeFolder hmake)
  | error fault =>
    rw [hmake] at h
    exact ready_of_run_isFolder h

/-- Folders that were made are there. -/
theorem ready_of_makeFrom {path : String} {above : List String}
    (h : (FileAccess.makeFrom (path :: above) : StateM Files _).run files = (.ok (), later)) :
    later.IsReady path := by
  unfold FileAccess.makeFrom at h
  by_cases hempty : path = ""
  · exact Or.inl hempty
  rw [if_neg hempty, run_bind, run_makeFolder] at h
  cases hmake : files.makeFolder path with
  | ok made =>
    rw [hmake] at h
    obtain rfl : made = later := congrArg Prod.snd h
    exact Or.inr (under?_of_makeFolder hmake)
  | error fault =>
    rw [hmake] at h
    cases fault with
    | missing =>
      -- the folders above are made first, and then this one is tried again
      simp only [after, run_bind] at h
      cases hmade : ((FileAccess.makeFrom above : StateM Files _).run files).1 with
      | ok _ =>
        rw [hmade] at h
        exact ready_of_ensureFolder h
      | error fault =>
        rw [hmade] at h
        exact absurd (congrArg Prod.fst h) (by simp [StateT.run, pure, StateT.pure])
    | _ => exact ready_of_run_isFolder h

theorem ancestors_eq_cons (path : String) : ∃ above, Path.ancestors path = path :: above := by
  unfold Path.ancestors
  cases path.toList.length with
  | zero => exact ⟨[], rfl⟩
  | succ fuel => exact ⟨_, rfl⟩

theorem ready_of_makeFolders {path : String}
    (h : (FileAccess.makeFolders path : StateM Files _).run files = (.ok (), later)) :
    later.IsReady path := by
  unfold FileAccess.makeFolders at h
  obtain ⟨above, habove⟩ := ancestors_eq_cons path
  rw [habove] at h
  exact ready_of_makeFrom h

/-- A folder whose folder is there is made. -/
theorem run_makeFolders_of_makeFolder {path : String} (hne : path ≠ "")
    (h : files.makeFolder path = .ok later) :
    (FileAccess.makeFolders path : StateM Files _).run files = (.ok (), later) := by
  unfold FileAccess.makeFolders
  obtain ⟨above, habove⟩ := ancestors_eq_cons path
  rw [habove, FileAccess.makeFrom, if_neg hne, run_bind, run_makeFolder, h]
  rfl

/-- Folders that are there are left alone. -/
theorem run_makeFolders_of_ready {path : String} (h : files.IsReady path) :
    (FileAccess.makeFolders path : StateM Files _).run files = (.ok (), files) := by
  unfold FileAccess.makeFolders
  obtain ⟨above, habove⟩ := ancestors_eq_cons path
  rw [habove, FileAccess.makeFrom]
  by_cases hempty : path = ""
  · rw [if_pos hempty]
    rfl
  have hfolder := h.resolve_left hempty
  rw [if_neg hempty, run_bind, run_makeFolder, makeFolder_of_under? hfolder]
  simp only [after, run_bind, run_isFolder, hfolder]
  rfl

end Files

end DiveLink
