import DiveLink.Proofs.Newer

/-!
# Older bytes change nothing behind them

A dump that starts later is the end of one that starts earlier. The scan runs from the end, so it
reads the later dump as it reads that part of the earlier one: the same results, with all places as
much further behind as there are bytes in front. Only where the later dump ends without a fault does
the scan of the earlier one go on.

1. `moved` is a result so many bytes further behind, `examine_append` a record with bytes in front.
2. `walkFrom_append`: the walk over the later dump is the start of the walk over the earlier one.
3. `older_bytes_change_nothing`: so is the scan, step for step, and a broken record ends both.
-/

namespace DiveLink

/-- A broken record that lies so many bytes further behind. -/
def Overrun.moved (skipped : Nat) (overrun : Overrun) : Overrun :=
  ⟨skipped + overrun.offset, overrun.length, skipped + overrun.limit⟩

namespace Scan

/-! ## §1 Places with bytes in front -/

/-- A result that lies so many bytes further behind. -/
def moved (skipped : Nat) : Except Overrun Dive → Except Overrun Dive
  | .ok dive => .ok (dive.moved skipped)
  | .error overrun => .error (overrun.moved skipped)

variable {older memory : Bytes} {limit place : Nat}

theorem drop_append_add (older memory : Bytes) (place : Nat) :
    (older ++ memory).drop (older.length + place) = memory.drop place := by
  rw [List.drop_append, List.drop_of_length_le (Nat.le_add_right _ _), List.nil_append,
    Nat.add_sub_cancel_left]

/-- Whether a marker stands somewhere does not depend on what is in front of it. -/
theorem markedAt_append_iff :
    MarkedAt (older ++ memory) (older.length + place) ↔ MarkedAt memory place := by
  rw [MarkedAt, drop_append_add, MarkedAt]

/-- The markers of the later dump come first, from the highest to the lowest; then those that start
in the bytes in front. -/
theorem placesBelow_append (older memory : Bytes) (bound : Nat) :
    placesBelow (older ++ memory) (older.length + bound) =
      (placesBelow memory bound).map (older.length + ·) ++
        placesBelow (older ++ memory) older.length := by
  induction bound with
  | zero => rfl
  | succ bound ih =>
    simp only [← Nat.add_assoc, placesBelow_succ, markedAt_append_iff, ih]
    split <;> rfl

/-- A record is the same, and if it is broken it is so in the same way. -/
theorem examine_append (older memory : Bytes) (limit place : Nat) :
    examine (older ++ memory) (older.length + limit) (older.length + place) =
      moved older.length (examine memory limit place) := by
  unfold examine
  rw [Nat.add_assoc older.length place 4, Nat.add_assoc older.length place 8]
  simp only [drop_append_add, List.length_append, Nat.add_assoc, Nat.add_lt_add_iff_left]
  split
  · rfl
  · split <;> rfl

/-! ## §2 The walk -/

/-- **The walk over the later dump starts the walk over the earlier one.** If it ends at a broken
record, so does the other. -/
theorem walkFrom_append (below : List Nat) (places : List Nat) (limit : Nat) :
    ∃ rest, walkFrom (older ++ memory) (older.length + limit)
          (places.map (older.length + ·) ++ below) =
        (walkFrom memory limit places).map (moved older.length) ++ rest ∧
      ∀ overrun, .error overrun ∈ walkFrom memory limit places → rest = [] := by
  -- on the places; a record that is found becomes the limit of both walks
  induction places generalizing limit with
  | nil => exact ⟨_, rfl, fun overrun hmem => by simp [walkFrom] at hmem⟩
  | cons place places ih =>
    simp only [List.map_cons, List.cons_append, walkFrom, Nat.add_assoc, Nat.add_le_add_iff_left,
      examine_append]
    split
    · exact ih limit
    · cases examine memory limit place with
      | error overrun => exact ⟨[], rfl, fun _ _ => rfl⟩
      | ok dive =>
        obtain ⟨rest, hrest, hbroken⟩ := ih place
        refine ⟨rest, ?_, ?_⟩
        · simp only [moved, hrest, List.map_cons, List.cons_append]
        · intro overrun hmem
          simp only [List.mem_cons, reduceCtorEq, false_or] at hmem
          exact hbroken overrun hmem

theorem walk_append (older memory : Bytes) :
    ∃ rest, walk (older ++ memory) = (walk memory).map (moved older.length) ++ rest ∧
      ∀ overrun, .error overrun ∈ walk memory → rest = [] := by
  have hplaces := placesBelow_append older memory memory.length
  rw [walk, walk, ahead, ahead, List.length_append, hplaces]
  exact walkFrom_append _ _ _

/-! ## §3 The scan -/

theorem map_moved_resultsOf (skipped : Nat) (dives : List Dive) (overrun : Option Overrun) :
    (resultsOf dives overrun).map (moved skipped) =
      resultsOf (dives.map (Dive.moved skipped)) (overrun.map (Overrun.moved skipped)) := by
  cases overrun <;> simp [resultsOf, moved, Function.comp_def]

/-- The records among the results of a scan. -/
theorem filterMap_resultsOf (dives : List Dive) (overrun : Option Overrun) :
    (resultsOf dives overrun).filterMap Except.toOption = dives := by
  rw [resultsOf, List.filterMap_append, List.filterMap_map]
  cases overrun <;> simp [Except.toOption, Function.comp_def]

/-- **Older bytes change nothing in how newer dives are read.** With any bytes in front of a dump,
every step of a scan reports what it reports without them, so many bytes further behind, as long as
the scan without them reports anything. So the listing starts with the same dives. If the dump alone
ends at a broken record, both scans end there, and the listings are the same. -/
theorem older_bytes_change_nothing (older memory : Bytes) :
    (∀ call result, (start memory).nth call = some result →
      (start (older ++ memory)).nth call = some (moved older.length result)) ∧
      (Dive.all memory).1.map (Dive.moved older.length) <+: (Dive.all (older ++ memory)).1 ∧
      ∀ overrun, (Dive.all memory).2 = some overrun →
        Dive.all (older ++ memory) =
          ((Dive.all memory).1.map (Dive.moved older.length),
            some (overrun.moved older.length)) := by
  obtain ⟨rest, hwalk, hbroken⟩ := walk_append older memory
  refine ⟨?_, ?_, ?_⟩
  · intro call result hresult
    rw [nth_eq_walk] at hresult ⊢
    obtain ⟨hcall, -⟩ := List.getElem?_eq_some_iff.mp hresult
    rw [hwalk, List.getElem?_append_left (by simpa using hcall), List.getElem?_map, hresult]
    rfl
  · -- the dives are the records among the results
    have hdives := congrArg (List.filterMap Except.toOption) hwalk
    rw [List.filterMap_append, walk_eq_all, walk_eq_all, map_moved_resultsOf, filterMap_resultsOf,
      filterMap_resultsOf] at hdives
    exact ⟨_, hdives.symm⟩
  · intro overrun hoverrun
    have hends : .error overrun ∈ walk memory := by
      rw [walk_eq_all, hoverrun]
      simp [resultsOf]
    rw [hbroken overrun hends, List.append_nil, walk_eq_all memory, map_moved_resultsOf,
      hoverrun] at hwalk
    exact all_eq_iff.mpr hwalk

end Scan

end DiveLink
