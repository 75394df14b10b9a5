import DiveLink.Proofs.Texts
import DiveLink.Proofs.Writing

/-!
# Settings after a row of changes

1. `SettingsUpdate.settled` is what a row of changes makes of settings, told field by field: the
   value that was given last since the last reset, or else what held before.
   `SettingsUpdate.settled_concat`: one change more is that change applied.
2. `Settings.Kept` are files in which settings can be loaded and written. One change leads from such
   files to such files (`Settings.Kept.run`), and so does a row of changes
   (`SettingsUpdate.kept_filesAfter`).
3. `settings_follow_updates` is the whole history of a file of settings.
-/

namespace DiveLink

namespace SettingsUpdate

/-! ## §1 The value given last -/

/-- The changes from the last reset on, the reset included; all of them, if there is no reset. -/
def sinceReset : List SettingsUpdate → List SettingsUpdate
  | [] => []
  | update :: updates => if updates.any reset then sinceReset updates else update :: updates

/-- The value that a row of changes gave a field last, since the last reset. -/
def lastGiven {α : Type} (given : SettingsUpdate → Option α) (updates : List SettingsUpdate) :
    Option α :=
  ((sinceReset updates).filterMap given).getLast?

/-- The value of a field after a row of changes. -/
def fieldAfter {α : Type} (given : SettingsUpdate → Option α) (default initial : α)
    (updates : List SettingsUpdate) : α :=
  (lastGiven given updates).getD (if updates.any reset then default else initial)

/-- Settings after a row of changes. -/
def settled (initial : Settings) (updates : List SettingsUpdate) : Settings where
  cacheDir :=
    fieldAfter (·.cacheDir.map some) Settings.default.cacheDir initial.cacheDir updates
  logLevel :=
    fieldAfter (·.logLevel.map some) Settings.default.logLevel initial.logLevel updates
  prettyJson := fieldAfter (·.prettyJson) Settings.default.prettyJson initial.prettyJson updates

theorem sinceReset_concat (updates : List SettingsUpdate) (update : SettingsUpdate) :
    sinceReset (updates ++ [update]) =
      if update.reset then [update] else sinceReset updates ++ [update] := by
  -- a reset at the end cuts off all that is before it
  induction updates with
  | nil => simp [sinceReset]
  | cons first updates ih =>
    rw [List.cons_append, sinceReset, sinceReset, ih, List.any_append]
    cases hupdate : update.reset <;> cases hany : updates.any reset <;>
      simp [hupdate]

/-- One change more gives its own value, or else takes the default at a reset, or else leaves what
there was. -/
theorem fieldAfter_concat {α : Type} (given : SettingsUpdate → Option α) (default initial : α)
    (updates : List SettingsUpdate) (update : SettingsUpdate) :
    fieldAfter given default initial (updates ++ [update]) =
      (given update).getD
        (if update.reset then default else fieldAfter given default initial updates) := by
  unfold fieldAfter lastGiven
  -- whether the last change resets, and whether it gives the field
  rw [sinceReset_concat, List.any_append]
  cases hupdate : update.reset <;> cases hgiven : given update <;>
    simp [hupdate, hgiven, List.filterMap_append]

/-- One change more is that change applied. -/
theorem settled_concat (initial : Settings) (updates : List SettingsUpdate)
    (update : SettingsUpdate) :
    settled initial (updates ++ [update]) = update.apply (settled initial updates) := by
  simp only [settled, fieldAfter_concat, apply]
  cases update.reset <;> cases update.cacheDir <;> cases update.logLevel <;> rfl

/-- What was given before a reset is forgotten, what was given with it or behind it is not. -/
example :
    settled ⟨some "here", none, true⟩
        [⟨false, some "there", none, none⟩, ⟨true, none, some "debug", none⟩,
          ⟨false, none, none, some true⟩] =
      ⟨none, some "debug", true⟩ := rfl

theorem apply_of_isEmpty {update : SettingsUpdate} (h : update.isEmpty = true)
    (settings : Settings) : update.apply settings = settings := by
  simp only [isEmpty, Bool.and_eq_true, Bool.not_eq_true', Option.isNone_iff_eq_none] at h
  obtain ⟨⟨⟨hreset, hcache⟩, hlog⟩, hpretty⟩ := h
  simp [apply, hreset, hcache, hlog, hpretty]

end SettingsUpdate

/-! ## §2 One change of a file -/

namespace Settings

variable {files later : Files} {path : String}

/-- Loading leaves the files as they are. -/
theorem files_of_run_load (files : Files) (path : String) :
    ((load path : StateM Files _).run files).2 = files := by
  unfold load
  rw [Files.run_bind, FingerprintCache.run_isPresent]
  cases (files.under? path).isSome with
  | false => rfl
  | true =>
    simp only [if_true]
    rw [Files.run_bind, Files.files_of_run_readText]
    cases ((FileAccess.readText path : StateM Files _).run files).1 <;> rfl

theorem run_load_eq_iff {loaded : Except SettingsFault Settings} :
    (load path : StateM Files _).run files = (loaded, files) ↔
      ((load path : StateM Files _).run files).1 = loaded := by
  constructor
  · intro h
    rw [h]
  · intro h
    exact Prod.ext h (files_of_run_load files path)

/-- The text of settings is not blank. -/
theorem trim_text_ne_nil (pretty : Bool) (settings : Settings) :
    Blank.trim (Json.Record.text pretty settings).toList ≠ [] := by
  -- it starts with a brace
  obtain ⟨rest, htext⟩ : ∃ rest, (Json.Record.text pretty settings).toList = '\x7b' :: rest := by
    rw [Json.Record.text, Json.Tree.text, String.toList_ofList]
    exact ⟨_, Json.Tree.laid_object pretty 0 (List.cons_ne_nil _ _)⟩
  rw [htext]
  simp [Blank.trim, Blank.trimEnd, Blank.trimStart, Blank.isBlank, List.dropWhile_eq_nil_iff]

/-- Settings that were written are the settings that are loaded. -/
theorem run_load_of_found {names : List String} {settings : Settings}
    (hfound : later.find path =
      .ok ⟨names, some (.file (Utf8.bytes (Json.Record.text true settings))), false⟩) :
    (load path : StateM Files _).run later = (.ok settings, later) := by
  have htext : ofText (Json.Record.text true settings) = .ok settings := by
    rw [ofText, if_neg (trim_text_ne_nil true settings), Settings.read_text]
    rfl
  unfold load
  rw [Files.run_bind, FingerprintCache.run_isPresent, Files.under?_of_find hfound]
  simp only [Option.isSome_some, if_true]
  rw [Files.run_bind, Files.run_readText (Files.contents_of_find hfound)]
  exact congrArg (·, later) htext

/-- Files in which settings can be loaded and written. -/
structure Kept (path : String) (settings : Settings) (files : Files) : Prop where
  loads : (load path : StateM Files _).run files = (.ok settings, files)
  writable : files.CanWrite path

/-- Writing settings keeps them. -/
theorem Kept.run_save {settings : Settings} (h : Kept path settings files) (changed : Settings) :
    ∃ later, (save path changed : StateM Files _).run files = (.ok (), later) ∧
      Kept path changed later := by
  -- what was written is found under the path, and the path can be written again
  obtain ⟨made, later, names, hmade, hset, hwrote, hagain⟩ :=
    h.writable.steps (Utf8.bytes (Json.Record.text true changed))
  refine ⟨later, ?_, run_load_of_found hwrote.found, hagain path rfl h.writable⟩
  unfold save
  rw [Files.run_bind, hmade]
  dsimp only
  rw [Files.run_bind, hset]
  rfl

/-- One change: it succeeds, it is what is loaded next, and without content it writes nothing. -/
theorem Kept.run {settings : Settings} (h : Kept path settings files) (update : SettingsUpdate) :
    ∃ later, (update.run path : StateM Files _).run files = (.ok (update.apply settings), later) ∧
      Kept path (update.apply settings) later ∧ (update.isEmpty = true → later = files) := by
  cases hempty : update.isEmpty with
  | true =>
    -- nothing is saved, and nothing had to change
    refine ⟨files, ?_, ?_, fun _ => rfl⟩
    · unfold SettingsUpdate.run
      rw [Files.run_bind, h.loads, SettingsUpdate.apply_of_isEmpty hempty]
      simp only [hempty, if_true]
      rfl
    · rw [SettingsUpdate.apply_of_isEmpty hempty]
      exact h
  | false =>
    obtain ⟨later, hsave, hkept⟩ := h.run_save (update.apply settings)
    refine ⟨later, ?_, hkept, fun hfull => absurd hfull (by decide)⟩
    unfold SettingsUpdate.run
    rw [Files.run_bind, h.loads]
    simp only [hempty, Bool.false_eq_true, if_false]
    rw [Files.run_bind, hsave]
    rfl

/-- Where settings cannot be loaded a change fails for the same reason and writes nothing. -/
theorem run_of_load_error {fault : SettingsFault}
    (h : (load path : StateM Files _).run files = (.error fault, files))
    (update : SettingsUpdate) :
    (update.run path : StateM Files _).run files = (.error fault, files) := by
  unfold SettingsUpdate.run
  rw [Files.run_bind, h]
  rfl

end Settings

/-! ## §3 A row of changes -/

namespace SettingsUpdate

/-- The files after a row of changes. -/
def filesAfter (path : String) (files : Files) (updates : List SettingsUpdate) : Files :=
  updates.foldl (fun files update => ((update.run path : StateM Files _).run files).2) files

/-- A row of changes keeps what it makes of the settings. -/
theorem kept_filesAfter {path : String} {initial : Settings} {files : Files}
    (h : Settings.Kept path initial files) (updates : List SettingsUpdate) :
    Settings.Kept path (settled initial updates) (filesAfter path files updates) := by
  -- on the changes from the end, as `settled_concat` takes them
  induction updates using List.reverseRecOn with
  | nil => exact h
  | append_singleton updates update ih =>
    obtain ⟨later, hrun, hkept, -⟩ := ih.run update
    rw [settled_concat, filesAfter, List.foldl_concat]
    change Settings.Kept path _
      ((update.run path : StateM Files _).run (filesAfter path files updates)).2
    rw [hrun]
    exact hkept

theorem filesAfter_of_load_error {path : String} {fault : SettingsFault} {files : Files}
    (h : (Settings.load path : StateM Files _).run files = (.error fault, files))
    (updates : List SettingsUpdate) : filesAfter path files updates = files := by
  induction updates with
  | nil => rfl
  | cons update updates ih =>
    rw [filesAfter, List.foldl_cons, Settings.run_of_load_error h update]
    exact ih

end SettingsUpdate

open SettingsUpdate in
/-- **The history of a file of settings.** Where the settings cannot be loaded every change of a row
fails, and the files stay as they are. Otherwise, if the file can be written, every change of a row
succeeds, one without content writes nothing, and what it returns is what is loaded next: in every
field the value given last since the last reset, or else the default after a reset, or else what was
loaded first. -/
theorem settings_follow_updates (files : Files) (path : String) (earlier : List SettingsUpdate)
    (next : SettingsUpdate) :
    (∀ fault, ((Settings.load path : StateM Files _).run files).1 = .error fault →
      (next.run path : StateM Files _).run (filesAfter path files earlier) =
        (.error fault, files)) ∧
      ∀ initial, ((Settings.load path : StateM Files _).run files).1 = .ok initial →
        files.CanWrite path →
        ∃ later, (next.run path : StateM Files _).run (filesAfter path files earlier) =
            (.ok (settled initial (earlier ++ [next])), later) ∧
          (Settings.load path : StateM Files _).run later =
            (.ok (settled initial (earlier ++ [next])), later) ∧
          (next.isEmpty = true → later = filesAfter path files earlier) := by
  constructor
  · intro fault hload
    have hload := Settings.run_load_eq_iff.mpr hload
    rw [filesAfter_of_load_error hload, Settings.run_of_load_error hload]
  · -- the changes before leave settings that can be changed once more
    intro initial hload hwritable
    have hkept := kept_filesAfter ⟨Settings.run_load_eq_iff.mpr hload, hwritable⟩ earlier
    obtain ⟨later, hrun, hafter, hempty⟩ := hkept.run next
    rw [← settled_concat] at hrun hafter
    exact ⟨later, hrun, hafter.loads, hempty⟩

/-- A blank file of settings, and nothing else. -/
def blankSettings : Files := ⟨[(["settings.json"], .file [32])], []⟩

open SettingsUpdate in
/-- From a blank file: a folder and indentation are set, then everything is taken back but the log
level is set, and then indentation is set again. -/
theorem settings_follow_updates_blank :
    ((Settings.load "settings.json" : StateM Files _).run blankSettings).1 =
        .ok Settings.default ∧
      blankSettings.CanWrite "settings.json" ∧
      ∃ later, ((⟨false, none, none, some true⟩ : SettingsUpdate).run "settings.json" :
            StateM Files _).run (filesAfter "settings.json" blankSettings
              [⟨false, some "there", none, some true⟩, ⟨true, none, some "debug", none⟩]) =
          (.ok ⟨none, some "debug", true⟩, later) ∧
        (Settings.load "settings.json" : StateM Files _).run later =
          (.ok ⟨none, some "debug", true⟩, later) := by
  have hload : ((Settings.load "settings.json" : StateM Files _).run blankSettings).1 =
      .ok Settings.default := by
    decide +kernel
  have hlocate : blankSettings.locate "settings.json" =
      .ok ⟨["settings.json"], some (.file [32]), false⟩ := by
    decide +kernel
  have hwritable : blankSettings.CanWrite "settings.json" :=
    Files.canWrite_of_locate rfl hlocate (by unfold Files.Spot.Fits; decide +kernel) rfl
      (by simp)
  obtain ⟨later, hrun, hafter, -⟩ := (settings_follow_updates blankSettings "settings.json"
    [⟨false, some "there", none, some true⟩, ⟨true, none, some "debug", none⟩]
    ⟨false, none, none, some true⟩).2 Settings.default hload hwritable
  exact ⟨hload, hwritable, later, hrun, hafter⟩

end DiveLink
