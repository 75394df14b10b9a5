import DiveLink.Proofs.Remembering

/-!
# Entries over time

A folder of fingerprints is asked, written and cleared in any order and for any serial numbers, and
now and then something else writes over the file of an entry. What the folder answers depends on
the last of these calls alone that was about the entry.

1. `Call` is what can happen to a folder, `after` are the files after a row of calls.
2. `left` is the map from serial numbers to bytes that the calls leave.
3. `left_of_save`, `left_of_overwrite` and `left_of_no_save` read it off the calls.
4. `Stores.run_call` and `Stores.after`: the folder stores that map.
5. `calls_leave_map`: what the folder answers after any calls.
-/

namespace DiveLink.FingerprintCache

/-! ## §1 Calls -/

/-- What can happen to a folder of fingerprints. -/
inductive Call where
  | load (serial : UInt32)
  | save (serial : UInt32) (fingerprint : Fingerprint)
  | remove (serial : UInt32)
  /-- Something else writes over the file of an entry, if the entry is there. -/
  | overwrite (serial : UInt32) (data : Bytes)
  deriving DecidableEq, Repr

namespace Call

/-- The serial number that a call is about. -/
def serial : Call → UInt32
  | load serial => serial
  | save serial _ => serial
  | remove serial => serial
  | overwrite serial _ => serial

/-- Whether a call is about the entry of a serial number and does more than look it up. -/
def Changes (serial : UInt32) : Call → Prop
  | load _ => False
  | save other _ => other = serial
  | remove other => other = serial
  | overwrite other _ => other = serial

/-- Whether a call saves a fingerprint for a serial number. -/
def Saves (serial : UInt32) : Call → Prop
  | save other _ => other = serial
  | _ => False

/-- The files after a call. -/
def run (cache : FingerprintCache) (files : Files) : Call → Files
  | load serial => ((cache.load serial : StateM Files _).run files).2
  | save serial fingerprint => ((cache.save serial fingerprint : StateM Files _).run files).2
  | remove serial => ((cache.remove serial : StateM Files _).run files).2
  | overwrite serial data =>
    if (files.under? (cache.path serial)).isSome then
      ((FileAccess.setContents (cache.path serial) data : StateM Files _).run files).2
    else files

/-- What a call leaves of the bytes that are stored. -/
def leaves (held : UInt32 → Option Bytes) : Call → UInt32 → Option Bytes
  | load _ => held
  | save serial fingerprint => Function.update held serial (some fingerprint.toBytes)
  | remove serial => Function.update held serial none
  | overwrite serial data => Function.update held serial ((held serial).map fun _ => data)

end Call

/-- The files after a row of calls. -/
def after (cache : FingerprintCache) (files : Files) (calls : List Call) : Files :=
  calls.foldl (Call.run cache) files

/-- What looking up gives. -/
def loaded (cache : FingerprintCache) (files : Files) (serial : UInt32) :
    Except CacheFault (Option Fingerprint) :=
  ((cache.load serial : StateM Files _).run files).1

/-- What removing says of whether there was an entry. -/
def removed (cache : FingerprintCache) (files : Files) (serial : UInt32) :
    Except CacheFault Bool :=
  ((cache.remove serial : StateM Files _).run files).1

/-! ## §2 The map that calls leave -/

/-- What a row of calls leaves of the bytes that are stored. -/
def leavesAll (held : UInt32 → Option Bytes) (calls : List Call) : UInt32 → Option Bytes :=
  calls.foldl Call.leaves held

/-- What a row of calls leaves where nothing was stored. -/
def left (calls : List Call) : UInt32 → Option Bytes :=
  leavesAll (fun _ => none) calls

variable {held : UInt32 → Option Bytes} {serial : UInt32} {call : Call} {calls : List Call}

theorem leavesAll_cons (held : UInt32 → Option Bytes) (call : Call) (calls : List Call) :
    leavesAll held (call :: calls) = leavesAll (call.leaves held) calls := rfl

theorem left_append (before rest : List Call) :
    left (before ++ rest) = leavesAll (left before) rest :=
  List.foldl_append

/-- A call changes no entry but the one that it is about. -/
theorem Call.Changes.serial_eq (h : call.Changes serial) : call.serial = serial := by
  cases call with
  | load other => exact h.elim
  | save other fingerprint => exact h
  | remove other => exact h
  | overwrite other data => exact h

theorem leaves_of_not_changes (h : ¬ call.Changes serial) :
    call.leaves held serial = held serial := by
  -- but for a look-up every call updates the map at its own serial number
  cases call with
  | load other => rfl
  | save other fingerprint =>
    apply Function.update_of_ne
    exact Ne.symm h
  | remove other =>
    apply Function.update_of_ne
    exact Ne.symm h
  | overwrite other data =>
    apply Function.update_of_ne
    exact Ne.symm h

/-- Calls that do not change an entry leave it. -/
theorem leavesAll_of_not_changes (h : ∀ call ∈ calls, ¬ call.Changes serial) :
    leavesAll held calls serial = held serial := by
  -- on the calls, from any map
  induction calls generalizing held with
  | nil => rfl
  | cons call rest ih =>
    obtain ⟨hcall, hrest⟩ := List.forall_mem_cons.mp h
    rw [leavesAll_cons, ih hrest, leaves_of_not_changes hcall]

theorem leaves_of_not_saves (hheld : held serial = none) (h : ¬ call.Saves serial) :
    call.leaves held serial = none := by
  by_cases hchanges : call.Changes serial
  · -- what changes an entry without saving it takes it away or writes over it
    cases call with
    | load other => exact hheld
    | save other fingerprint => exact absurd hchanges h
    | remove other =>
      obtain rfl : other = serial := hchanges
      exact Function.update_self ..
    | overwrite other data =>
      -- there is nothing to write over
      obtain rfl : other = serial := hchanges
      rw [Call.leaves, Function.update_self, hheld]
      rfl
  · rw [leaves_of_not_changes hchanges, hheld]

/-- Where there is no entry, there is none until one is saved. -/
theorem leavesAll_of_not_saves (hheld : held serial = none)
    (h : ∀ call ∈ calls, ¬ call.Saves serial) : leavesAll held calls serial = none := by
  induction calls generalizing held with
  | nil => exact hheld
  | cons call rest ih =>
    obtain ⟨hcall, hrest⟩ := List.forall_mem_cons.mp h
    rw [leavesAll_cons]
    exact ih (leaves_of_not_saves hheld hcall) hrest

/-! ## §3 The map, read off the calls -/

theorem left_of_save (before : List Call) (fingerprint : Fingerprint) {rest : List Call}
    (h : ∀ call ∈ rest, ¬ call.Changes serial) :
    left (before ++ .save serial fingerprint :: rest) serial = some fingerprint.toBytes := by
  -- whatever the calls before have left is written over
  rw [left_append, leavesAll_cons, leavesAll_of_not_changes h]
  exact Function.update_self ..

theorem left_of_overwrite {before : List Call} (data : Bytes) {rest : List Call}
    (hthere : (left before serial).isSome) (h : ∀ call ∈ rest, ¬ call.Changes serial) :
    left (before ++ .overwrite serial data :: rest) serial = some data := by
  obtain ⟨found, hfound⟩ := Option.isSome_iff_exists.mp hthere
  rw [left_append, leavesAll_cons, leavesAll_of_not_changes h, Call.leaves, Function.update_self,
    hfound]
  rfl

/-- Without a save there is no entry, whatever was there before it was removed. -/
theorem left_of_no_save {before rest : List Call}
    (hcalls : calls = rest ∨ calls = before ++ .remove serial :: rest)
    (h : ∀ call ∈ rest, ¬ call.Saves serial) : left calls serial = none := by
  rcases hcalls with rfl | rfl
  · exact leavesAll_of_not_saves rfl h
  · -- behind the removal the calls start without the entry again
    rw [left_append, leavesAll_cons]
    apply leavesAll_of_not_saves
    · exact Function.update_self ..
    · exact h

/-! ## §4 The folder stores the map -/

variable {cache : FingerprintCache} {files : Files}

/-- Where an entry is there, its file can be written over. -/
theorem Stores.run_setContents (h : Stores cache files held) (hthere : (held serial).isSome)
    (data : Bytes) :
    ∃ later, (FileAccess.setContents (cache.path serial) data : StateM Files _).run files =
        (.ok (), later) ∧
      Stores cache later (Function.update held serial (some data)) := by
  rcases h with ⟨_, rfl⟩ | hholds
  · -- a fresh folder has no entries
    cases hthere
  · obtain ⟨later, hrun, hlater⟩ := hholds.run_setContents serial data
    exact ⟨later, hrun, Or.inr hlater⟩

/-- **One call changes the folder as it changes the map.** -/
theorem Stores.run_call (h : Stores cache files held) (call : Call) :
    Stores cache (call.run cache files) (call.leaves held) := by
  -- one case a call, by what the folder does with a single entry
  cases call with
  | load serial =>
    rw [Call.run, h.run_load serial]
    exact h
  | save serial fingerprint =>
    obtain ⟨later, hrun, hlater⟩ := h.run_save serial fingerprint
    rw [Call.run, hrun]
    exact hlater
  | remove serial =>
    obtain ⟨later, hrun, hlater⟩ := h.run_remove serial
    rw [Call.run, hrun]
    exact hlater
  | overwrite serial data =>
    rw [Call.run, Call.leaves, h.under? serial, Option.isSome_map]
    by_cases hthere : (held serial).isSome
    · obtain ⟨found, hfound⟩ := Option.isSome_iff_exists.mp hthere
      obtain ⟨later, hrun, hlater⟩ := h.run_setContents hthere data
      rw [if_pos hthere, hrun, hfound]
      exact hlater
    · -- there is no file to write over
      have hnone : held serial = none := by simpa using hthere
      rw [if_neg hthere, hnone, Option.map_none, ← hnone, Function.update_eq_self]
      exact h

/-- **So does a row of calls.** -/
theorem Stores.after (h : Stores cache files held) (calls : List Call) :
    Stores cache (cache.after files calls) (leavesAll held calls) := by
  -- on the calls, from any files and the map that they store
  induction calls generalizing files held with
  | nil => exact h
  | cons call rest ih => exact ih (h.run_call call)

theorem Fresh.after (h : Fresh cache files) (calls : List Call) :
    Stores cache (cache.after files calls) (left calls) :=
  Stores.after (Or.inl ⟨h, rfl⟩) calls

theorem Stores.loaded (h : Stores cache files held) (serial : UInt32) :
    cache.loaded files serial = cache.reading serial (held serial) :=
  congrArg Prod.fst (h.run_load serial)

theorem Stores.removed (h : Stores cache files held) (serial : UInt32) :
    cache.removed files serial = .ok (held serial).isSome := by
  obtain ⟨later, hrun, _⟩ := h.run_remove serial
  exact congrArg Prod.fst hrun

/-! ## §5 Answers -/

/-- **A folder of fingerprints answers as a map does.** It starts without entries, and then any
calls are made, for any serial numbers. The fingerprint that was saved last for a serial number is
there until the entry is removed; before the first save, and after the entry was removed until the
next save, there is none. Bytes that something else has written over an entry are read as a
fingerprint if they are four, and are a fault otherwise, until the entry is saved or removed again.
No call changes what is looked up for another serial number, and no save fails. -/
theorem calls_leave_map (h : Fresh cache files) (calls : List Call) (serial : UInt32) :
    let later := cache.after files calls
    (∀ before fingerprint rest, calls = before ++ .save serial fingerprint :: rest →
        (∀ call ∈ rest, ¬ call.Changes serial) →
        cache.loaded later serial = .ok (some fingerprint) ∧
          cache.removed later serial = .ok true) ∧
      (∀ before rest, (calls = rest ∨ calls = before ++ .remove serial :: rest) →
        (∀ call ∈ rest, ¬ call.Saves serial) →
        cache.loaded later serial = .ok none ∧ cache.removed later serial = .ok false) ∧
      (∀ before data rest, calls = before ++ .overwrite serial data :: rest →
        ((cache.after files before).under? (cache.path serial)).isSome →
        (∀ call ∈ rest, ¬ call.Changes serial) →
        cache.loaded later serial = (if data.length = 4 then .ok (some ⟨Word.front data⟩)
            else .error (.wrongSize (cache.path serial) data.length)) ∧
          cache.removed later serial = .ok true) ∧
      (∀ call : Call, call.serial ≠ serial →
        cache.loaded (call.run cache later) serial = cache.loaded later serial) ∧
      ∀ fingerprint, ((cache.save serial fingerprint : StateM Files _).run later).1 = .ok () := by
  intro later
  have hstores : Stores cache later (left calls) := h.after calls
  -- both answers are about the map, and the map is read off the calls
  rw [hstores.loaded, hstores.removed]
  refine ⟨?_, ?_, ?_, ?_, ?_⟩
  · -- the entry was saved and not changed since
    intro before fingerprint rest hcalls hrest
    rw [hcalls, left_of_save before fingerprint hrest]
    exact ⟨cache.reading_toBytes serial (some fingerprint), rfl⟩
  · -- the entry was never saved, or not since it was removed
    intro before rest hcalls hrest
    rw [left_of_no_save hcalls hrest]
    exact ⟨rfl, rfl⟩
  · -- the entry was there and something else wrote over it
    intro before data rest hcalls hthere hrest
    rw [(h.after before).under? serial, Option.isSome_map] at hthere
    rw [hcalls, left_of_overwrite data hthere hrest]
    exact ⟨rfl, rfl⟩
  · -- one call more, about another entry
    intro call hother
    have hunchanged : ¬ call.Changes serial := fun hchanges => hother hchanges.serial_eq
    rw [(hstores.run_call call).loaded, leaves_of_not_changes hunchanged]
  · intro fingerprint
    obtain ⟨_, hrun, _⟩ := hstores.run_save serial fingerprint
    exact congrArg Prod.fst hrun

/-- Two computers are remembered, and something else writes over the entry of the first. -/
def spoiled : List Call := [.save 1 ⟨5⟩, .save 2 ⟨7⟩, .overwrite 1 [1, 2, 3]]

/-- The first entry cannot be read until it is saved again; the second one is not touched. -/
theorem calls_leave_map_spoiled :
    cacheFolder.Fresh (Files.startingAt []) ∧
      cacheFolder.loaded (cacheFolder.after (Files.startingAt []) spoiled) 1 =
        .error (.wrongSize "cache/scubapro_g2-00000001.bin" 3) ∧
      cacheFolder.loaded (cacheFolder.after (Files.startingAt []) spoiled) 2 = .ok (some ⟨7⟩) ∧
      cacheFolder.loaded (cacheFolder.after (Files.startingAt []) (spoiled ++ [.save 1 ⟨9⟩])) 1 =
        .ok (some ⟨9⟩) := by
  have hthere : ((cacheFolder.after (Files.startingAt []) [.save 1 ⟨5⟩, .save 2 ⟨7⟩]).under?
      (cacheFolder.path 1)).isSome := by
    decide +kernel
  have hpath : cacheFolder.path 1 = "cache/scubapro_g2-00000001.bin" := by
    decide +kernel
  -- the first entry was written over and the second one saved; then the first one is saved again
  obtain ⟨_, _, hfirst, _⟩ := calls_leave_map fresh_cacheFolder spoiled 1
  obtain ⟨hsecond, _⟩ := calls_leave_map fresh_cacheFolder spoiled 2
  obtain ⟨hagain, _⟩ := calls_leave_map fresh_cacheFolder (spoiled ++ [.save 1 ⟨9⟩]) 1
  refine ⟨fresh_cacheFolder, ?_, ?_, ?_⟩
  · rw [← hpath]
    exact (hfirst [.save 1 ⟨5⟩, .save 2 ⟨7⟩] [1, 2, 3] [] rfl hthere (by simp)).1
  · refine (hsecond [.save 1 ⟨5⟩] ⟨7⟩ [.overwrite 1 [1, 2, 3]] rfl ?_).1
    simp [Call.Changes]
  · exact (hagain spoiled ⟨9⟩ [] rfl (by simp)).1

end DiveLink.FingerprintCache
