import DiveLink.FingerprintCache
import DiveLink.Proofs.Hexadecimal
import DiveLink.Proofs.Places

/-!
# What a folder of fingerprints remembers

A folder in which fingerprints are remembered is a map from serial numbers to bytes, as long as
nothing else gets in its way.

1. `FingerprintCache.parts_path` is the path of an entry, `fileName_injective` keeps entries apart.
2. `FingerprintCache.Holds` is the map that a folder holds, with what `load`, `save` and `remove`
   make of it.
3. `FingerprintCache.Fresh` is a folder without entries that may not be there yet.
4. `FingerprintCache.Stores` is either; `run_load`, `run_save` and `run_remove` are the laws of a
   map from serial numbers to bytes.
5. `FingerprintCache.Remembers` and its laws say the same of fingerprints, as long as every entry
   holds one.
-/

namespace DiveLink

namespace Path

/-! ## §1 Names behind folders -/

theorem pieces_ne_nil (text : List Char) : pieces text ≠ [] := by
  cases text with
  | nil => simp [pieces]
  | cons c cs =>
    rw [pieces]
    split
    · simp
    · split <;> simp

theorem pieces_append_slash (front back : List Char) :
    pieces (front ++ '/' :: back) = pieces front ++ pieces back := by
  induction front with
  | nil => simp [pieces]
  | cons c cs ih =>
    rw [List.cons_append, pieces, pieces, ih]
    by_cases hslash : c = '/'
    · simp [hslash]
    · -- the character joins the first piece, which is there in any case
      rw [if_neg hslash, if_neg hslash]
      cases hpieces : pieces cs with
      | nil => exact absurd hpieces (pieces_ne_nil cs)
      | cons piece others => simp

theorem pieces_of_no_slash {text : List Char} (h : '/' ∉ text) : pieces text = [text] := by
  induction text with
  | nil => rfl
  | cons c cs ih =>
    simp only [List.mem_cons, not_or] at h
    rw [pieces, if_neg (Ne.symm h.1), ih h.2]

/-- A name, as the last one of a path. -/
structure IsName (name : String) : Prop where
  no_slash : '/' ∉ name.toList
  ne_empty : name ≠ ""
  ne_dot : name ≠ "."
  ne_dots : name ≠ ".."

theorem parts_join (folder : String) {name : String} (h : IsName name) :
    parts (join folder name) = parts folder ++ [name] := by
  have hname : name.toList ≠ [] := fun hnil => h.ne_empty (by simpa using hnil)
  unfold join
  by_cases hempty : folder = ""
  · subst hempty
    simp [parts, pieces_of_no_slash h.no_slash, pieces, hname]
  rw [if_neg hempty]
  by_cases hslash : endsInSlash folder
  · -- the slash at the end of the folder stands before the name
    rw [if_pos hslash]
    obtain ⟨front, hfront⟩ := List.getLast?_eq_some_iff.mp (beq_iff_eq.mp hslash)
    simp [parts, hfront, pieces_append_slash, pieces_of_no_slash h.no_slash, pieces, hname]
  · rw [if_neg hslash]
    simp [parts, pieces_append_slash, pieces_of_no_slash h.no_slash, hname]

theorem endsInSlash_join (folder : String) {name : String} (h : IsName name) :
    endsInSlash (join folder name) = false := by
  obtain ⟨front, last, hlast⟩ : ∃ front last, name.toList = front ++ [last] :=
    ⟨_, _, (List.dropLast_concat_getLast fun hnil => h.ne_empty (by simpa using hnil)).symm⟩
  have hne : last ≠ '/' := fun heq => h.no_slash (by simp [hlast, heq])
  -- however it is joined, the path ends as the name does
  unfold join
  split_ifs <;> simp [endsInSlash, hlast, hne, List.getLast?_cons]

theorem isAbsolute_join (folder : String) {name : String} (h : IsName name) :
    isAbsolute (join folder name) = isAbsolute folder := by
  -- the first character is the folder's, or the name's if the folder is empty
  unfold join
  by_cases hempty : folder = ""
  · rw [if_pos hempty, hempty]
    cases hname : name.toList with
    | nil => simp [isAbsolute, hname]
    | cons c cs =>
      have hne : c ≠ '/' := fun heq => h.no_slash (by simp [hname, heq])
      simp [isAbsolute, hname, hne]
  · obtain ⟨c, cs, hfolder⟩ := List.exists_cons_of_ne_nil
      (fun hnil => hempty (by simpa using hnil) : folder.toList ≠ [])
    split_ifs <;> simp [isAbsolute, hfolder]

/-- A name alone is a path with one name. -/
theorem IsName.parts {name : String} (h : IsName name) : Path.parts name = [name] :=
  parts_join "" h

theorem IsName.endsInSlash {name : String} (h : IsName name) : Path.endsInSlash name = false :=
  endsInSlash_join "" h

theorem IsName.isAbsolute {name : String} (h : IsName name) : Path.isAbsolute name = false :=
  isAbsolute_join "" h

end Path

/-! ## §2 Names of entries -/

/-- A character takes at most four bytes. -/
theorem Utf8.length_bytes_le (text : String) :
    (Utf8.bytes text).length ≤ 4 * text.toList.length := by
  unfold Utf8.bytes
  induction text.toList with
  | nil => exact Nat.le_refl _
  | cons c cs ih =>
    have := c.utf8Size_le_four
    rw [List.flatMap_cons, List.length_append, String.length_utf8EncodeChar, List.length_cons]
    omega

namespace FingerprintCache

theorem toList_fileName (cache : FingerprintCache) (serial : UInt32) :
    (cache.fileName serial).toList = cache.family.name.toList ++ '-' ::
      (Hex.encode Hex.upperDigit (Word.toBytes serial).reverse ++ ".bin".toList) := by
  simp [fileName, Hex.upperWord, Hex.upper]

/-- Every serial number has an entry of its own. -/
theorem fileName_injective (cache : FingerprintCache) {serial other : UInt32}
    (h : cache.fileName serial = cache.fileName other) : serial = other := by
  -- what is the same in all names is taken off, and the digits are left
  have hlists := congrArg String.toList h
  simp only [toList_fileName, List.append_cancel_left_eq, List.cons.injEq, true_and,
    List.append_cancel_right_eq] at hlists
  have hbytes := List.reverse_inj.mp (Hex.encode_injective hlists)
  have := congrArg Word.front hbytes
  rwa [Word.front_toBytes_self, Word.front_toBytes_self] at this

theorem length_fileName (cache : FingerprintCache) (serial : UInt32) :
    (cache.fileName serial).toList.length = 24 := by
  have hfamily : cache.family.name.toList.length = 11 := by
    cases cache.family
    rfl
  rw [toList_fileName, List.length_append, List.length_cons, List.length_append,
    Hex.length_encode, List.length_reverse, Word.length_toBytes, hfamily]
  rfl

/-- A character that is no digit and is not in the fixed parts of a name. -/
theorem not_mem_fileName (cache : FingerprintCache) (serial : UInt32) {c : Char}
    (hdigits : ∀ n < 16, Hex.upperDigit n ≠ c) (hfixed : c ∉ "scubapro_g2-.bin".toList) :
    c ∉ (cache.fileName serial).toList := by
  have hdigits : c ∉ Hex.encode Hex.upperDigit (Word.toBytes serial).reverse := by
    intro hmem
    obtain ⟨n, hn, heq⟩ := Hex.exists_of_mem_encode hmem
    exact hdigits n hn heq
  have hsplit : "scubapro_g2-.bin".toList = cache.family.name.toList ++ '-' :: ".bin".toList := by
    cases cache.family
    rfl
  rw [hsplit] at hfixed
  rw [toList_fileName]
  simp only [List.mem_append, List.mem_cons, not_or] at hfixed ⊢
  obtain ⟨hfamily, hdash, hback⟩ := hfixed
  exact ⟨hfamily, hdash, hdigits, hback⟩

theorem isName_fileName (cache : FingerprintCache) (serial : UInt32) :
    Path.IsName (cache.fileName serial) := by
  have hlength := cache.length_fileName serial
  -- the texts that are no names are shorter
  refine ⟨cache.not_mem_fileName serial (by decide) (by decide), ?_, ?_, ?_⟩
  · intro heq
    rw [heq] at hlength
    exact absurd hlength (by decide)
  · intro heq
    rw [heq] at hlength
    exact absurd hlength (by decide)
  · intro heq
    rw [heq] at hlength
    exact absurd hlength (by decide)

theorem not_isTooLong_of_length {name : String} (h : name.toList.length ≤ 63) :
    ¬ Files.isTooLong name = true := by
  have := Utf8.length_bytes_le name
  unfold Files.isTooLong Files.nameLimit
  rw [decide_eq_true_eq]
  omega

/-! ## §3 Entries in a folder -/

variable {cache : FingerprintCache} {files : Files}

/-- The path of an entry of a folder whose path can be looked at and is not too long. -/
theorem sayable_path (hnul : Char.ofNat 0 ∉ cache.folder.toList)
    (hlength : cache.folder.toList.length ≤ 998) (serial : UInt32) :
    Files.Sayable (cache.path serial) := by
  have hname := cache.isName_fileName serial
  have hnul' : Char.ofNat 0 ∉ (cache.fileName serial).toList :=
    cache.not_mem_fileName serial (by decide) (by decide)
  have hlength' := cache.length_fileName serial
  have hpath : Char.ofNat 0 ∉ (cache.path serial).toList ∧ (cache.path serial).toList ≠ [] ∧
      (cache.path serial).toList.length ≤ cache.folder.toList.length + 25 := by
    have hne : (cache.fileName serial).toList ≠ [] := fun hnil => by
      rw [hnil] at hlength'
      cases hlength'
    unfold path Path.join
    split_ifs with hempty hslash
    · exact ⟨hnul', hne, by omega⟩
    · rw [String.toList_append, List.length_append]
      exact ⟨by simp [hnul, hnul'], by simp [hne], by omega⟩
    · rw [String.toList_append, String.toList_append, List.length_append, List.length_append]
      exact ⟨by simp [hnul, hnul'], by simp, by rw [hlength']; exact Nat.le_refl _⟩
  have := Utf8.length_bytes_le (cache.path serial)
  refine ⟨hpath.1, fun hempty => hpath.2.1 ?_, ?_⟩
  · rw [hempty]
    rfl
  · unfold Files.pathLimit
    omega

/-- Where the path of an entry leads: to its name in the folder. -/
theorem locate_path_iff (serial : UInt32) (spot : Files.Spot) :
    files.locate (cache.path serial) = .ok spot ↔ Files.Sayable (cache.path serial) ∧
      ∃ base, files.folderAt (files.start cache.folder) (Path.parts cache.folder) = some base ∧
        spot = ⟨base ++ [cache.fileName serial],
          files.entry? (base ++ [cache.fileName serial]), false⟩ := by
  have hname := cache.isName_fileName serial
  rw [Files.locate_eq_ok_iff]
  refine and_congr_right fun _ => ?_
  unfold path
  rw [Path.parts_join _ hname, Path.endsInSlash_join _ hname, Files.start,
    Path.isAbsolute_join _ hname]
  exact Files.follow_concat_iff files false _ _ hname.ne_dot hname.ne_dots spot

/-- What a folder holds: for each serial number the bytes of its entry, if there is one. The folder
is there, and nothing about names and paths is in the way. -/
structure Holds (cache : FingerprintCache) (files : Files) (held : UInt32 → Option Bytes) :
    Prop where
  ready : files.IsReady cache.folder
  sayable : ∀ serial, Files.Sayable (cache.path serial)
  fits : ∀ serial, ¬ Files.isTooLong (cache.fileName serial) = true
  entries : ∃ base,
    files.folderAt (files.start cache.folder) (Path.parts cache.folder) = some base ∧
      ∀ serial, files.entry? (base ++ [cache.fileName serial]) = (held serial).map .file

variable {held : UInt32 → Option Bytes}

/-- Where the entries are. -/
theorem Holds.place (h : Holds cache files held) : ∃ base,
    files.folderAt (files.start cache.folder) (Path.parts cache.folder) = some base ∧
      (∀ serial, files.entry? (base ++ [cache.fileName serial]) = (held serial).map .file) ∧
      ∀ serial, files.locate (cache.path serial) =
          .ok ⟨base ++ [cache.fileName serial], (held serial).map .file, false⟩ ∧
        files.find (cache.path serial) =
          .ok ⟨base ++ [cache.fileName serial], (held serial).map .file, false⟩ := by
  obtain ⟨base, hbase, hentries⟩ := h.entries
  -- the path leads to the name in the folder, and the name is not too long to be looked at
  have hlocate : ∀ serial, files.locate (cache.path serial) =
      .ok ⟨base ++ [cache.fileName serial], (held serial).map .file, false⟩ := fun serial =>
    (locate_path_iff serial _).mpr ⟨h.sayable serial, base, hbase, by rw [hentries]⟩
  refine ⟨base, hbase, hentries, fun serial => ⟨hlocate serial, ?_⟩⟩
  refine (Files.find_eq_ok_iff _ _ _).mpr ⟨hlocate serial, ?_⟩
  simpa [Files.Spot.Fits] using h.fits serial

/-- Files that change in one entry only. -/
theorem Holds.change (h : Holds cache files held) {base : List String}
    (hbase : files.folderAt (files.start cache.folder) (Path.parts cache.folder) = some base)
    {later : Files} (hkeeps : Files.KeepsFolders files later) (serial : UInt32)
    (entry : Option Bytes)
    (hself : later.entry? (base ++ [cache.fileName serial]) = entry.map .file)
    (hother : ∀ names, names ≠ base ++ [cache.fileName serial] →
      later.entry? names = files.entry? names) :
    Holds cache later (Function.update held serial entry) where
  ready := h.ready.keeps hkeeps
  sayable := h.sayable
  fits := h.fits
  entries := by
    obtain ⟨base', hbase', hentries⟩ := h.entries
    obtain rfl : base = base' := by simpa [hbase] using hbase'
    refine ⟨base, ?_, fun other => ?_⟩
    · rw [Files.start, hkeeps.home]
      exact Files.folderAt_keeps hkeeps hbase
    · by_cases heq : other = serial
      · subst heq
        rw [hself, Function.update_self]
      · -- the entry of another serial number has another name
        have hne : base ++ [cache.fileName other] ≠ base ++ [cache.fileName serial] := by
          intro h
          exact heq (cache.fileName_injective (by simpa using h))
        rw [hother _ hne, hentries, Function.update_of_ne heq]

theorem Holds.under? (h : Holds cache files held) (serial : UInt32) :
    files.under? (cache.path serial) = (held serial).map .file := by
  obtain ⟨base, _, _, hplace⟩ := h.place
  simp only [Files.under?, (hplace serial).2, Except.bind]
  cases held serial <;> rfl

theorem Holds.contents (h : Holds cache files held) {serial : UInt32} {data : Bytes}
    (hheld : held serial = some data) : files.contents (cache.path serial) = .ok data := by
  obtain ⟨base, _, _, hplace⟩ := h.place
  simp only [Files.contents, (hplace serial).2, hheld]
  rfl

theorem run_isPresent (files : Files) (path : String) :
    (FileAccess.isPresent path : StateM Files _).run files =
      ((files.under? path).isSome, files) := rfl

theorem run_setContents (files : Files) (path : String) (data : Bytes) :
    (FileAccess.setContents path data : StateM Files _).run files =
      files.after (files.setContents path data) := rfl

theorem Holds.run_load_none (h : Holds cache files held) {serial : UInt32}
    (hheld : held serial = none) :
    (cache.load serial : StateM Files _).run files = (.ok none, files) := by
  unfold load
  rw [Files.run_bind, run_isPresent, h.under?, hheld]
  rfl

theorem Holds.run_load_some (h : Holds cache files held) {serial : UInt32} {data : Bytes}
    (hheld : held serial = some data) :
    (cache.load serial : StateM Files _).run files =
      (if data.length = 4 then .ok (some ⟨Word.front data⟩)
        else .error (.wrongSize (cache.path serial) data.length), files) := by
  have hcontents : (FileAccess.contents (cache.path serial) : StateM Files _).run files =
      (.ok data, files) := congrArg (·, files) (h.contents hheld)
  unfold load
  rw [Files.run_bind, run_isPresent, h.under?, hheld]
  simp only [Option.map_some, Option.isSome_some, ↓reduceIte]
  rw [Files.run_bind, hcontents]
  by_cases hlength : data.length = 4
  · simp only [hlength, ↓reduceIte]
    rfl
  · simp only [hlength, ↓reduceIte]
    rfl

/-- An entry that is there is removed, whatever its bytes. -/
theorem Holds.run_remove_some (h : Holds cache files held) {serial : UInt32} {data : Bytes}
    (hheld : held serial = some data) :
    ∃ later, (cache.remove serial : StateM Files _).run files = (.ok true, later) ∧
      Holds cache later (Function.update held serial none) := by
  obtain ⟨base, hbase, hentries, hplace⟩ := h.place
  have hentry := hentries serial
  rw [hheld, Option.map_some] at hentry
  refine ⟨files.drop (base ++ [cache.fileName serial]), ?_, ?_⟩
  · have hremove : files.remove (cache.path serial) =
        .ok (files.drop (base ++ [cache.fileName serial])) := by
      simp only [Files.remove, (hplace serial).2, hheld]
      rfl
    have hrun : (FileAccess.remove (cache.path serial) : StateM Files _).run files =
        files.after (files.remove (cache.path serial)) := rfl
    unfold remove
    rw [Files.run_bind, run_isPresent, h.under?, hheld]
    simp only [Option.map_some, Option.isSome_some, ↓reduceIte]
    rw [Files.run_bind, hrun, hremove]
    rfl
  · refine h.change hbase (Files.keepsFolders_drop files _ ?_) serial none ?_ fun names hne => ?_
    · rw [hentry]
      simp
    · rw [Files.entry_drop_self files (by simp)]
      rfl
    · exact Files.entry_drop_of_ne files hne

/-- The file of an entry gets other bytes, whatever was there. -/
theorem Holds.run_setContents (h : Holds cache files held) (serial : UInt32) (data : Bytes) :
    ∃ later, (FileAccess.setContents (cache.path serial) data : StateM Files _).run files =
        (.ok (), later) ∧
      Holds cache later (Function.update held serial (some data)) := by
  obtain ⟨base, hbase, hentries, hplace⟩ := h.place
  have hentry := hentries serial
  refine ⟨files.put (base ++ [cache.fileName serial]) (.file data), ?_, ?_⟩
  · have hset : files.setContents (cache.path serial) data =
        .ok (files.put (base ++ [cache.fileName serial]) (.file data)) := by
      obtain ⟨hlocate, hfind⟩ := hplace serial
      have hchecked := hfind
      rw [Files.find, hlocate] at hchecked
      simp only [Files.setContents, hlocate, bind, Except.bind] at hchecked ⊢
      rw [hchecked]
      cases held serial <;> rfl
    rw [FingerprintCache.run_setContents, hset]
    rfl
  · refine h.change hbase (Files.keepsFolders_put files _ _ ?_) serial _ ?_ fun names hne => ?_
    · -- what was there was a file, if anything
      intro hfolder
      rw [hentry] at hfolder
      cases hheld : held serial <;> simp [hheld] at hfolder
    · rw [Files.entry_put_self files _ (by simp)]
      rfl
    · exact Files.entry_put_of_ne files _ hne

/-- An entry is written, whatever was there. -/
theorem Holds.run_save (h : Holds cache files held) (serial : UInt32) (fingerprint : Fingerprint) :
    ∃ later, (cache.save serial fingerprint : StateM Files _).run files = (.ok (), later) ∧
      Holds cache later (Function.update held serial (some fingerprint.toBytes)) := by
  obtain ⟨later, hrun, hlater⟩ := h.run_setContents serial fingerprint.toBytes
  refine ⟨later, ?_, hlater⟩
  unfold save
  rw [Files.run_bind, Files.run_makeFolders_of_ready h.ready]
  simp only
  rw [Files.run_bind, hrun]
  rfl

/-! ## §4 A folder without entries -/

/-- A folder without entries, which may have to be made before the first one is written. -/
structure Fresh (cache : FingerprintCache) (files : Files) : Prop where
  /-- No entry is found. -/
  unknown : ∀ serial, ((cache.load serial : StateM Files _).run files).1 = .ok none
  /-- Every entry could be written. -/
  saves : ∀ serial fingerprint,
    ((cache.save serial fingerprint : StateM Files _).run files).1 = .ok ()
  /-- No entry is found once the folder is there. -/
  empty : ∀ serial, ((cache.load serial : StateM Files _).run
    ((FileAccess.makeFolders cache.folder : StateM Files _).run files).2).1 = .ok none

theorem under?_of_load {serial : UInt32}
    (h : ((cache.load serial : StateM Files _).run files).1 = .ok none) :
    files.under? (cache.path serial) = none := by
  cases hunder : files.under? (cache.path serial) with
  | none => rfl
  | some entry =>
    unfold load at h
    rw [Files.run_bind, run_isPresent, hunder] at h
    simp only [Option.isSome_some, ↓reduceIte] at h
    have hrun : (FileAccess.contents (cache.path serial) : StateM Files _).run files =
      (files.contents (cache.path serial), files) := rfl
    rw [Files.run_bind, hrun] at h
    -- something is there, and so the answer is a fingerprint or a fault
    cases hcontents : files.contents (cache.path serial) with
    | error fault =>
      simp only [hcontents] at h
      cases h
    | ok data =>
      simp only [hcontents] at h
      split at h <;> cases h

theorem run_load_of_under? {serial : UInt32} (h : files.under? (cache.path serial) = none) :
    (cache.load serial : StateM Files _).run files = (.ok none, files) := by
  unfold load
  rw [Files.run_bind, run_isPresent, h]
  rfl

theorem run_remove_of_under? {serial : UInt32} (h : files.under? (cache.path serial) = none) :
    (cache.remove serial : StateM Files _).run files = (.ok false, files) := by
  unfold remove
  rw [Files.run_bind, run_isPresent, h]
  rfl

/-- The folder is made with the first entry. -/
theorem Fresh.run_makeFolders (h : Fresh cache files) : ∃ made,
    (FileAccess.makeFolders cache.folder : StateM Files _).run files = (.ok (), made) := by
  have hsave := h.saves 0 .none
  unfold save at hsave
  rw [Files.run_bind] at hsave
  cases hmade : (FileAccess.makeFolders cache.folder : StateM Files _).run files with
  | mk result made =>
    cases result with
    | ok _ => exact ⟨made, rfl⟩
    | error fault =>
      rw [hmade] at hsave
      cases hsave

/-- Once it is there it holds no entries, and entries are written as they would have been. -/
theorem Fresh.made (h : Fresh cache files) : ∃ made, Holds cache made (fun _ => none) ∧
    ∀ serial fingerprint, (cache.save serial fingerprint : StateM Files _).run files =
      (cache.save serial fingerprint : StateM Files _).run made := by
  obtain ⟨made, hmade⟩ := h.run_makeFolders
  have hready := Files.ready_of_makeFolders hmade
  have hsaves : ∀ serial fingerprint,
      (cache.save serial fingerprint : StateM Files _).run files =
        (cache.save serial fingerprint : StateM Files _).run made := fun serial fingerprint => by
    unfold save
    rw [Files.run_bind, Files.run_bind, hmade, Files.run_makeFolders_of_ready hready]
  refine ⟨made, ?_, hsaves⟩
  -- entries can be written, so there is nothing wrong with their paths
  have hlocate : ∀ serial, ∃ spot, made.locate (cache.path serial) = .ok spot ∧ spot.Fits := by
    intro serial
    have hsave := h.saves serial .none
    rw [hsaves] at hsave
    unfold save at hsave
    rw [Files.run_bind, Files.run_makeFolders_of_ready hready] at hsave
    simp only at hsave
    rw [Files.run_bind, run_setContents] at hsave
    cases hset : made.setContents (cache.path serial) Fingerprint.none.toBytes with
    | ok later => exact Files.locate_of_setContents hset
    | error fault =>
      rw [hset] at hsave
      cases hsave
  -- and nothing is found there, so nothing is there
  have hspot : ∀ serial, Files.Sayable (cache.path serial) ∧ ∃ base,
      made.folderAt (made.start cache.folder) (Path.parts cache.folder) = some base ∧
        ¬ Files.isTooLong (cache.fileName serial) = true ∧
        made.entry? (base ++ [cache.fileName serial]) = none := by
    intro serial
    obtain ⟨spot, hok, hfits⟩ := hlocate serial
    obtain ⟨hsayable, base, hbase, rfl⟩ := (locate_path_iff serial spot).mp hok
    have hunder := h.empty serial
    rw [hmade] at hunder
    exact ⟨hsayable, base, hbase, by simpa [Files.Spot.Fits] using hfits,
      Files.entry_of_under?_none ((Files.find_eq_ok_iff _ _ _).mpr ⟨hok, hfits⟩) rfl
        (under?_of_load hunder)⟩
  -- all entries are in the one folder to which the path of the folder leads
  obtain ⟨base, hbase, _⟩ := (hspot 0).2
  refine ⟨hready, fun serial => (hspot serial).1, fun serial => ?_, base, hbase, fun serial => ?_⟩
  · obtain ⟨_, _, hfits, _⟩ := (hspot serial).2
    exact hfits
  · obtain ⟨base', hbase', _, hentry⟩ := (hspot serial).2
    obtain rfl : base = base' := by simpa [hbase] using hbase'
    exact hentry

/-- A folder that can be made and holds nothing then. -/
theorem Fresh.of_made {made : Files}
    (hmade : (FileAccess.makeFolders cache.folder : StateM Files _).run files = (.ok (), made))
    (hholds : Holds cache made fun _ => none)
    (hunknown : ∀ serial, files.under? (cache.path serial) = none) : Fresh cache files where
  unknown serial := by rw [run_load_of_under? (hunknown serial)]
  saves serial fingerprint := by
    obtain ⟨later, hrun, _⟩ := hholds.run_save serial fingerprint
    have hready := Files.ready_of_makeFolders hmade
    unfold save at hrun ⊢
    rw [Files.run_bind, Files.run_makeFolders_of_ready hready] at hrun
    rw [Files.run_bind, hmade, hrun]
  empty serial := by rw [hmade, hholds.run_load_none rfl]

theorem start_of_isName {name : String} (h : Path.IsName name) (files : Files) :
    files.start name = files.home := by
  rw [Files.start, h.isAbsolute]
  rfl

/-- A name that is not too long, where there are no files. -/
theorem find_startingAt {name : String} (hname : Path.IsName name)
    (hnul : Char.ofNat 0 ∉ name.toList) (hlength : name.toList.length ≤ 63) :
    (Files.startingAt []).find name = .ok ⟨[name], none, false⟩ := by
  refine (Files.find_eq_ok_iff _ _ _).mpr ⟨(Files.locate_eq_ok_iff _ _ _).mpr ⟨?_, ?_⟩, ?_⟩
  · have := Utf8.length_bytes_le name
    exact ⟨hnul, hname.ne_empty, by unfold Files.pathLimit; omega⟩
  · rw [start_of_isName hname, hname.parts, hname.endsInSlash]
    exact (Files.follow_concat_iff _ _ _ [] hname.ne_dot hname.ne_dots _).mpr ⟨[], rfl, rfl⟩
  · simpa [Files.Spot.Fits] using not_isTooLong_of_length hlength

/-- Where there is no folder, the paths of its entries lead nowhere. -/
theorem under?_of_no_folder
    (h : files.folderAt (files.start cache.folder) (Path.parts cache.folder) = none)
    (serial : UInt32) : files.under? (cache.path serial) = none := by
  cases hfind : files.find (cache.path serial) with
  | error fault => simp [Files.under?, hfind, Except.bind, Except.toOption]
  | ok spot =>
    obtain ⟨_, base, hbase, _⟩ :=
      (locate_path_iff serial spot).mp ((Files.find_eq_ok_iff _ _ _).mp hfind).1
    rw [h] at hbase
    cases hbase

/-- A folder that is still to be made where relative paths start is fresh. -/
theorem fresh_startingAt (hname : Path.IsName cache.folder)
    (hnul : Char.ofNat 0 ∉ cache.folder.toList) (hlength : cache.folder.toList.length ≤ 63) :
    cache.Fresh (Files.startingAt []) := by
  have hshort := not_isTooLong_of_length hlength
  have hmake : (Files.startingAt []).makeFolder cache.folder =
      .ok ((Files.startingAt []).put [cache.folder] .folder) := by
    rw [Files.makeFolder, find_startingAt hname hnul hlength]
    rfl
  have hthere : Files.entry? ((Files.startingAt []).put [cache.folder] .folder) [cache.folder] =
      some .folder := Files.entry_put_self _ _ (by simp)
  refine Fresh.of_made (Files.run_makeFolders_of_makeFolder hname.ne_empty hmake)
    { ready := Or.inr (Files.under?_of_makeFolder hmake)
      sayable := sayable_path hnul (by omega)
      fits := fun serial => not_isTooLong_of_length (by rw [length_fileName]; decide)
      entries := ⟨[cache.folder], ?_, fun serial => ?_⟩ } (under?_of_no_folder ?_)
  · rw [start_of_isName hname, hname.parts, Files.folderAt, if_neg hname.ne_dot,
      if_neg hname.ne_dots, if_neg hshort]
    exact if_pos hthere
  · rw [Files.entry_put_of_ne _ _ (by simp)]
    rfl
  · -- as long as nothing was made, the path of the folder leads nowhere
    rw [start_of_isName hname, hname.parts, Files.folderAt, if_neg hname.ne_dot,
      if_neg hname.ne_dots, if_neg hshort]
    rfl

/-! ## §5 A map from serial numbers to bytes -/

/-- What a folder stores for each serial number. The folder may still have to be made. -/
def Stores (cache : FingerprintCache) (files : Files) (held : UInt32 → Option Bytes) : Prop :=
  (Fresh cache files ∧ held = fun _ => none) ∨ Holds cache files held

/-- What is read from the bytes of an entry, or from no entry. -/
def reading (cache : FingerprintCache) (serial : UInt32) :
    Option Bytes → Except CacheFault (Option Fingerprint)
  | none => .ok none
  | some data =>
    if data.length = 4 then .ok (some ⟨Word.front data⟩)
    else .error (.wrongSize (cache.path serial) data.length)

/-- What was written as a fingerprint is read as that fingerprint. -/
theorem reading_toBytes (cache : FingerprintCache) (serial : UInt32)
    (fingerprint : Option Fingerprint) :
    cache.reading serial (fingerprint.map Fingerprint.toBytes) = .ok fingerprint := by
  cases fingerprint with
  | none => rfl
  | some fingerprint =>
    have hfront : Word.front fingerprint.toBytes = fingerprint.timestamp :=
      Word.front_toBytes_self fingerprint.timestamp
    have hlength : fingerprint.toBytes.length = 4 := rfl
    rw [Option.map_some, reading, if_pos hlength, hfront]

namespace Stores

theorem under? (h : Stores cache files held) (serial : UInt32) :
    files.under? (cache.path serial) = (held serial).map .file := by
  rcases h with ⟨hfresh, rfl⟩ | hholds
  · exact under?_of_load (hfresh.unknown serial)
  · exact hholds.under? serial

/-- **Looking up gives what is stored.** -/
theorem run_load (h : Stores cache files held) (serial : UInt32) :
    (cache.load serial : StateM Files _).run files =
      (cache.reading serial (held serial), files) := by
  rcases h with ⟨hfresh, rfl⟩ | hholds
  · exact run_load_of_under? (under?_of_load (hfresh.unknown serial))
  · cases hheld : held serial with
    | none => exact hholds.run_load_none hheld
    | some data => exact hholds.run_load_some hheld

/-- **What is saved is stored from then on.** -/
theorem run_save (h : Stores cache files held) (serial : UInt32) (fingerprint : Fingerprint) :
    ∃ later, (cache.save serial fingerprint : StateM Files _).run files = (.ok (), later) ∧
      Stores cache later (Function.update held serial (some fingerprint.toBytes)) := by
  rcases h with ⟨hfresh, rfl⟩ | hholds
  · -- the folder is made on the way
    obtain ⟨made, hholds, hsaves⟩ := hfresh.made
    obtain ⟨later, hrun, hlater⟩ := hholds.run_save serial fingerprint
    exact ⟨later, (hsaves serial fingerprint).trans hrun, Or.inr hlater⟩
  · obtain ⟨later, hrun, hlater⟩ := hholds.run_save serial fingerprint
    exact ⟨later, hrun, Or.inr hlater⟩

/-- **What is removed is stored no longer.** -/
theorem run_remove (h : Stores cache files held) (serial : UInt32) :
    ∃ later, (cache.remove serial : StateM Files _).run files =
        (.ok (held serial).isSome, later) ∧
      Stores cache later (Function.update held serial none) := by
  cases hheld : held serial with
  | none =>
    -- there is nothing to remove, and the folder is what it was
    have hunder := h.under? serial
    rw [hheld] at hunder
    refine ⟨files, run_remove_of_under? hunder, ?_⟩
    rw [← hheld, Function.update_eq_self]
    exact h
  | some data =>
    rcases h with ⟨_, rfl⟩ | hholds
    · cases hheld
    · obtain ⟨later, hrun, hlater⟩ := hholds.run_remove_some hheld
      exact ⟨later, hrun, Or.inr hlater⟩

end Stores

/-! ## §6 A map from serial numbers to fingerprints -/

/-- What a folder remembers, as long as only `save` and `remove` change its entries. -/
def Remembers (cache : FingerprintCache) (files : Files) (memory : UInt32 → Option Fingerprint) :
    Prop :=
  (Fresh cache files ∧ memory = fun _ => none) ∨
    Holds cache files fun serial => (memory serial).map Fingerprint.toBytes

variable {memory : UInt32 → Option Fingerprint}

/-- A folder remembers fingerprints if it stores their bytes. -/
theorem remembers_iff : Remembers cache files memory ↔
    Stores cache files fun serial => (memory serial).map Fingerprint.toBytes := by
  have hnone : memory = (fun _ => none) ↔
      (fun serial => (memory serial).map Fingerprint.toBytes) = fun _ => none := by
    simp [funext_iff]
  unfold Remembers Stores
  rw [hnone]

theorem map_update (memory : UInt32 → Option Fingerprint) (serial : UInt32)
    (fingerprint : Option Fingerprint) :
    (fun other => (Function.update memory serial fingerprint other).map Fingerprint.toBytes) =
      Function.update (fun other => (memory other).map Fingerprint.toBytes) serial
        (fingerprint.map Fingerprint.toBytes) := by
  funext other
  by_cases heq : other = serial
  · subst heq
    rw [Function.update_self, Function.update_self]
  · rw [Function.update_of_ne heq, Function.update_of_ne heq]

/-- **Looking up gives what is remembered.** -/
theorem Remembers.run_load (h : Remembers cache files memory) (serial : UInt32) :
    (cache.load serial : StateM Files _).run files = (.ok (memory serial), files) := by
  rw [(remembers_iff.mp h).run_load, reading_toBytes]

/-- **What is saved is remembered from then on.** -/
theorem Remembers.run_save (h : Remembers cache files memory) (serial : UInt32)
    (fingerprint : Fingerprint) :
    ∃ later, (cache.save serial fingerprint : StateM Files _).run files = (.ok (), later) ∧
      Remembers cache later (Function.update memory serial (some fingerprint)) := by
  obtain ⟨later, hrun, hlater⟩ := (remembers_iff.mp h).run_save serial fingerprint
  refine ⟨later, hrun, remembers_iff.mpr ?_⟩
  rw [map_update]
  exact hlater

/-- **What is removed is forgotten.** -/
theorem Remembers.run_remove (h : Remembers cache files memory) (serial : UInt32) :
    ∃ later, (cache.remove serial : StateM Files _).run files =
        (.ok (memory serial).isSome, later) ∧
      Remembers cache later (Function.update memory serial none) := by
  obtain ⟨later, hrun, hlater⟩ := (remembers_iff.mp h).run_remove serial
  rw [Option.isSome_map] at hrun
  refine ⟨later, hrun, remembers_iff.mpr ?_⟩
  rw [map_update]
  exact hlater

end FingerprintCache

/-- A folder of fingerprints where relative paths start. -/
def cacheFolder : FingerprintCache := ⟨"cache", .scubaproG2⟩

theorem fresh_cacheFolder : cacheFolder.Fresh (Files.startingAt []) :=
  FingerprintCache.fresh_startingAt
    ⟨by decide, by decide, by decide, by decide⟩ (by decide) (by decide)

end DiveLink
