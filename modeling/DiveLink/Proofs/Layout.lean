import DiveLink.Proofs.Walk
import Mathlib.Data.List.Induction

/-!
# Scanning a well-formed dump

A well-formed dump is a row of records. Their payloads and timestamps may hold the marker anywhere,
so a scan can come upon markers that no record starts with. It is not led astray by them: the start
of the record around such a marker is still reached, and refused because of it.

1. `memoryOf` is the dump of a row of dives, `layout` says where each of its records lies.
2. `RecordAt` says that a record stands at a place, `examine_recordAt` what a scan makes of it.
3. `ahead_of_stray`: below a marker that strays inside a record, the scan ends at a broken record.
4. `scan_well_formed`: a scan lists exactly the records, or it fails, and it is plain which.
-/

namespace DiveLink

open Scan (MarkedAt examine ahead walk walkFrom placesBelow)

/-! ## §1 Rows of records -/

namespace Dive

/-- The dump that holds the records of these dives, by timestamp and payload, oldest first. -/
def memoryOf (dives : List (UInt32 × Bytes)) : Bytes :=
  dives.flatMap fun dive => record dive.1 dive.2

/-- The records of these dives as they lie in the dump, the first of them at `offset`. -/
def layout (offset : Nat) : List (UInt32 × Bytes) → List Dive
  | [] => []
  | dive :: rest =>
    ⟨offset, record dive.1 dive.2, Word.toBytes dive.1⟩ ::
      layout (offset + (record dive.1 dive.2).length) rest

@[simp] theorem length_record (timestamp : UInt32) (payload : Bytes) :
    (record timestamp payload).length = 12 + payload.length := by
  simp only [record, List.length_append, Word.length_toBytes, marker, List.length_cons,
    List.length_nil]

@[simp] theorem memoryOf_nil : memoryOf [] = [] := rfl

@[simp] theorem memoryOf_append (older newer : List (UInt32 × Bytes)) :
    memoryOf (older ++ newer) = memoryOf older ++ memoryOf newer := by
  simp [memoryOf]

@[simp] theorem memoryOf_singleton (dive : UInt32 × Bytes) :
    memoryOf [dive] = record dive.1 dive.2 := by
  simp [memoryOf]

theorem layout_append (offset : Nat) (older newer : List (UInt32 × Bytes)) :
    layout offset (older ++ newer) =
      layout offset older ++ layout (offset + (memoryOf older).length) newer := by
  -- each record moves the place where the next one begins
  induction older generalizing offset with
  | nil => simp [layout]
  | cons dive rest ih =>
    simp only [List.cons_append, layout, ih, memoryOf, List.flatMap_cons, List.length_append]
    rw [Nat.add_assoc]

end Dive

open Dive (memoryOf layout record)

theorem layout_stop_le {offset : Nat} {dives : List (UInt32 × Bytes)} {found : Dive}
    (h : found ∈ layout offset dives) :
    offset ≤ found.offset ∧ found.stop ≤ offset + (memoryOf dives).length := by
  induction dives generalizing offset with
  | nil => simp [layout] at h
  | cons dive rest ih =>
    have hsplit : (memoryOf (dive :: rest)).length =
        (record dive.1 dive.2).length + (memoryOf rest).length := by
      simp [memoryOf]
    rcases List.mem_cons.mp h with rfl | h
    · simp only [Dive.stop, Dive.size]
      omega
    · have := ih h
      omega

/-- Helper: one more dive lies behind the others. -/
theorem layout_concat (dives : List (UInt32 × Bytes)) (dive : UInt32 × Bytes) :
    layout 0 (dives ++ [dive]) =
      layout 0 dives ++
        [⟨(memoryOf dives).length, record dive.1 dive.2, Word.toBytes dive.1⟩] := by
  rw [Dive.layout_append, Nat.zero_add]
  rfl

/-! ## §2 One record -/

/-- The record of a dive stands at this place of the dump. -/
def RecordAt (memory : Bytes) (place : Nat) (dive : UInt32 × Bytes) : Prop :=
  record dive.1 dive.2 <+: memory.drop place

variable {memory : Bytes} {place : Nat} {dive : UInt32 × Bytes}

/-- Behind the marker come length, timestamp and payload. -/
theorem RecordAt.drop_eq (h : RecordAt memory place dive) :
    ∃ back, memory.drop (place + 4) =
      Word.toBytes (UInt32.ofNat (12 + dive.2.length)) ++ (Word.toBytes dive.1 ++
        (dive.2 ++ back)) := by
  obtain ⟨back, hback⟩ := h
  refine ⟨back, ?_⟩
  rw [← List.drop_drop, ← hback]
  simp [record, Dive.marker, Dive.headerSize]

theorem RecordAt.markedAt (h : RecordAt memory place dive) : MarkedAt memory place := by
  refine List.IsPrefix.trans ?_ h
  exact ⟨Word.toBytes (UInt32.ofNat (Dive.headerSize + dive.2.length)) ++
    Word.toBytes dive.1 ++ dive.2, by simp [record]⟩

theorem RecordAt.le_length (h : RecordAt memory place dive) :
    place + (record dive.1 dive.2).length ≤ memory.length := by
  have hle := h.length_le
  have := Dive.length_record dive.1 dive.2
  rw [List.length_drop] at hle
  omega

/-- A record that stands in the dump is found, unless it reaches beyond the limit. -/
theorem examine_recordAt (h : RecordAt memory place dive)
    (hfits : (record dive.1 dive.2).length < 2 ^ 32) (limit : Nat) :
    examine memory limit place =
      if limit < place + (record dive.1 dive.2).length then
        .error ⟨place, (record dive.1 dive.2).length, limit⟩
      else .ok ⟨place, record dive.1 dive.2, Word.toBytes dive.1⟩ := by
  obtain ⟨back, hback⟩ := h.drop_eq
  have hlen := Dive.length_record dive.1 dive.2
  -- the length that the record claims is its own, since it fits into a word
  have hclaimed : (Word.front (memory.drop (place + 4))).toNat =
      (record dive.1 dive.2).length := by
    rw [hback, Word.front_toBytes, UInt32.toNat_ofNat', hlen]
    omega
  have hdata : (memory.drop place).take (record dive.1 dive.2).length = record dive.1 dive.2 :=
    (List.prefix_iff_eq_take.mp h).symm
  have hfingerprint : (memory.drop (place + 8)).take 4 = Word.toBytes dive.1 := by
    rw [show place + 8 = place + 4 + 4 by omega, ← List.drop_drop, hback]
    rfl
  -- a record that stands in the dump is never shorter than its header
  have hle := h.le_length
  unfold examine
  simp only [hclaimed, hdata, hfingerprint]
  rw [if_neg (by omega)]

/-- The bytes of the length say how long the record is. -/
theorem RecordAt.length_bytes (h : RecordAt memory place dive)
    (hfits : (record dive.1 dive.2).length < 2 ^ 32) :
    memory[place + 4]? = some (UInt8.ofNat (record dive.1 dive.2).length) ∧
      memory[place + 5]? = some (UInt8.ofNat ((record dive.1 dive.2).length / 256)) ∧
      memory[place + 6]? = some (UInt8.ofNat ((record dive.1 dive.2).length / 65536)) ∧
      memory[place + 7]? = some (UInt8.ofNat ((record dive.1 dive.2).length / 16777216)) := by
  obtain ⟨back, hback⟩ := h.drop_eq
  rw [Dive.length_record] at hfits ⊢
  have hget : ∀ i, memory[place + 4 + i]? = (memory.drop (place + 4))[i]? :=
    fun i => List.getElem?_drop.symm
  have hword : (UInt32.ofNat (12 + dive.2.length)).toNat = 12 + dive.2.length := by
    rw [UInt32.toNat_ofNat']
    omega
  rw [hback, Word.toBytes, hword] at hget
  exact ⟨hget 0, hget 1, hget 2, hget 3⟩

theorem mod_eq_of_ofNat_eq {n : Nat} {byte : UInt8} (h : UInt8.ofNat n = byte) :
    n % 256 = byte.toNat := by
  rw [← h, UInt8.toNat_ofNat']

/-- No marker starts in the length of a record that is shorter than the marker read as a number.
So the places that a scan leaves out when it steps below a marker never hide the record around
it. -/
theorem RecordAt.add_eight_le (h : RecordAt memory place dive)
    (hshort : (record dive.1 dive.2).length < 0x5A5AA5A5) {other : Nat} (hlt : place < other)
    (hmark : MarkedAt memory other) : place + 8 ≤ other := by
  obtain ⟨hb₀, hb₁, hb₂, hb₃⟩ := h.length_bytes (by omega)
  obtain ⟨hm₀, hm₁, hm₂, hm₃⟩ := Scan.markedAt_iff.mp hmark
  have hfour := h.markedAt.add_four_le hmark hlt
  by_contra hnear
  -- where the marker would have to stand, its bytes make the length too great
  obtain rfl | rfl | rfl | rfl :
    other = place + 4 ∨ other = place + 5 ∨ other = place + 6 ∨ other = place + 7 := by omega
  · -- the length would be the marker itself
    have h₀ := mod_eq_of_ofNat_eq (Option.some.inj (hb₀.symm.trans hm₀))
    have h₁ := mod_eq_of_ofNat_eq (Option.some.inj (hb₁.symm.trans hm₁))
    have h₂ := mod_eq_of_ofNat_eq (Option.some.inj (hb₂.symm.trans hm₂))
    have h₃ := mod_eq_of_ofNat_eq (Option.some.inj (hb₃.symm.trans hm₃))
    simp only [UInt8.reduceToNat] at h₀ h₁ h₂ h₃
    omega
  · have h₂ := mod_eq_of_ofNat_eq (Option.some.inj (hb₂.symm.trans hm₁))
    have h₃ := mod_eq_of_ofNat_eq (Option.some.inj (hb₃.symm.trans hm₂))
    simp only [UInt8.reduceToNat] at h₂ h₃
    omega
  · -- its greatest byte would be 0xA5, which is too great already
    have h₃ := mod_eq_of_ofNat_eq (Option.some.inj (hb₃.symm.trans hm₁))
    simp only [UInt8.reduceToNat] at h₃
    omega
  · have h₃ := mod_eq_of_ofNat_eq (Option.some.inj (hb₃.symm.trans hm₀))
    simp only [UInt8.reduceToNat] at h₃
    omega

/-! ## §3 Markers that stray -/

/-- Between the start of a record and a limit inside it, the scan ends at a broken record: at the
latest it comes to the record itself, which reaches beyond the limit. -/
theorem exists_error_ahead_inside (h : RecordAt memory place dive)
    (hshort : (record dive.1 dive.2).length < 0x5A5AA5A5) {limit : Nat} (hlow : place + 8 ≤ limit)
    (hinside : limit < place + (record dive.1 dive.2).length) :
    ∃ overrun, .error overrun ∈ ahead memory limit := by
  -- on the limit: a bogus record in between becomes the new limit, and is still inside the record
  induction limit using Nat.strong_induction_on with
  | _ limit ih =>
    have hreach : ∀ found, Scan.seek memory.toArray (limit - 4) = some found → place ≤ found :=
      fun found hfound =>
        (Scan.seek_eq_some_iff.mp hfound).2 place (by omega) h.markedAt
    cases hseek : Scan.seek memory.toArray (limit - 4) with
    | none =>
      -- the start of the record is there to be found
      have hmem := Scan.mem_placesBelow.mpr ⟨(by omega : place < limit - 4), h.markedAt⟩
      rw [Scan.placesBelow_of_seek_none hseek] at hmem
      simp at hmem
    | some found =>
      have hfound := (Scan.seek_eq_some_iff.mp hseek).1
      rw [Scan.ahead_of_seek hseek]
      cases hexam : examine memory limit found with
      | error overrun => exact ⟨overrun, List.mem_singleton_self _⟩
      | ok bogus =>
        rcases Nat.eq_or_lt_of_le (hreach found hseek) with rfl | hlt
        · -- the record around the limit is not sound under it
          rw [examine_recordAt h (by omega), if_pos hinside] at hexam
          simp at hexam
        · -- no marker starts in its length, so eight bytes of it stay below the new limit
          have height := h.add_eight_le hshort hlt hfound.2
          obtain ⟨overrun, hmem⟩ := ih found (by omega) height (by omega)
          exact ⟨overrun, List.mem_cons_of_mem _ hmem⟩

/-- **A marker that strays inside a record ends the scan at a broken record.** -/
theorem exists_error_ahead_of_stray (h : RecordAt memory place dive)
    (hshort : (record dive.1 dive.2).length < 0x5A5AA5A5) {stray : Nat}
    (hmark : MarkedAt memory stray)
    (hlow : place < stray) (hhigh : stray + 4 < place + (record dive.1 dive.2).length) :
    ∃ overrun, .error overrun ∈ ahead memory (place + (record dive.1 dive.2).length) := by
  cases hseek : Scan.seek memory.toArray (place + (record dive.1 dive.2).length - 4) with
  | none =>
    have hmem := Scan.mem_placesBelow.mpr ⟨(by omega : stray <
      place + (record dive.1 dive.2).length - 4), hmark⟩
    rw [Scan.placesBelow_of_seek_none hseek] at hmem
    simp at hmem
  | some found =>
    obtain ⟨hfound, hhighest⟩ := Scan.seek_eq_some_iff.mp hseek
    have hle := hhighest stray (by omega) hmark
    have height := h.add_eight_le hshort (by omega) hfound.2
    rw [Scan.ahead_of_seek hseek]
    cases hexam : examine memory (place + (record dive.1 dive.2).length) found with
    | error overrun => exact ⟨overrun, List.mem_singleton_self _⟩
    | ok bogus =>
      -- a bogus record was found, and its place is a limit inside the record
      obtain ⟨overrun, hmem⟩ := exists_error_ahead_inside h hshort height (by omega)
      exact ⟨overrun, List.mem_cons_of_mem _ hmem⟩

/-- A record without a stray marker is the next to be reported. -/
theorem ahead_of_tidy (h : RecordAt memory place dive)
    (hfits : (record dive.1 dive.2).length < 2 ^ 32)
    (htidy : ∀ other, place < other → MarkedAt memory other →
      place + (record dive.1 dive.2).length ≤ other + 4) :
    ahead memory (place + (record dive.1 dive.2).length) =
      .ok ⟨place, record dive.1 dive.2, Word.toBytes dive.1⟩ :: ahead memory place := by
  have hlen := Dive.length_record dive.1 dive.2
  have hseek : Scan.seek memory.toArray (place + (record dive.1 dive.2).length - 4) =
      some place := by
    refine Scan.seek_eq_some_iff.mpr ⟨⟨by omega, h.markedAt⟩, ?_⟩
    intro other hlt hmark
    by_contra hgt
    have := htidy other (by omega) hmark
    omega
  rw [Scan.ahead_of_seek hseek, examine_recordAt h hfits, if_neg (lt_irrefl _)]

/-! ## §4 The whole row -/

theorem recordAt_last (dives : List (UInt32 × Bytes)) (dive : UInt32 × Bytes) (back : Bytes) :
    RecordAt (memoryOf (dives ++ [dive]) ++ back) (memoryOf dives).length dive := by
  refine ⟨back, ?_⟩
  rw [Dive.memoryOf_append, Dive.memoryOf_singleton, List.append_assoc, List.drop_left]

/-- **A row of records in which every marker starts a record or ends one is reported as it is.**
More bytes may follow the row. -/
theorem ahead_memoryOf (dives : List (UInt32 × Bytes)) (back : Bytes)
    (hfits : ∀ dive ∈ dives, (record dive.1 dive.2).length < 2 ^ 32)
    (htidy : ∀ place, place < (memoryOf dives).length → MarkedAt (memoryOf dives ++ back) place →
      ∃ found ∈ layout 0 dives, place = found.offset ∨ place + 4 = found.stop) :
    ahead (memoryOf dives ++ back) (memoryOf dives).length =
      (layout 0 dives).reverse.map .ok := by
  -- from the end of the row, as the scan goes: the last record joins the bytes behind the others
  induction dives using List.reverseRecOn generalizing back with
  | nil => rfl
  | append_singleton dives dive ih =>
    have hlast := recordAt_last dives dive back
    have hlen : (memoryOf (dives ++ [dive])).length =
        (memoryOf dives).length + (record dive.1 dive.2).length := by simp
    have hrecord := Dive.length_record dive.1 dive.2
    rw [layout_concat] at htidy
    rw [layout_concat, List.reverse_append, List.map_append, hlen, ahead_of_tidy hlast
      (hfits dive (by simp)), Dive.memoryOf_append, List.append_assoc, ih]
    · simp
    · exact fun older hmem => hfits older (by simp [hmem])
    · -- a marker in front of the last record belongs to one of the others
      intro place hlt hmark
      rw [← List.append_assoc, ← Dive.memoryOf_append] at hmark
      obtain ⟨found, hmem, hplace⟩ := htidy place (by omega) hmark
      rcases List.mem_append.mp hmem with hmem | hmem
      · exact ⟨found, hmem, hplace⟩
      · -- the last record neither starts nor ends there
        obtain rfl := List.mem_singleton.mp hmem
        simp only [Dive.stop, Dive.size] at hplace
        omega
    · -- and a marker behind its start can only be its end
      intro other hgt hmark
      by_contra hlt
      obtain ⟨found, hmem, hplace⟩ := htidy other (by omega) hmark
      rcases List.mem_append.mp hmem with hmem | hmem
      · have := layout_stop_le hmem
        simp only [Dive.stop] at hplace this
        omega
      · obtain rfl := List.mem_singleton.mp hmem
        simp only [Dive.stop, Dive.size] at hplace
        omega

/-- A row of records with a marker that neither starts a record nor ends one is refused, whether
the row ends the dump or another record follows it. -/
theorem exists_error_ahead_memoryOf (dives : List (UInt32 × Bytes)) (back : Bytes)
    (hshort : ∀ dive ∈ dives, (record dive.1 dive.2).length < 0x5A5AA5A5)
    (hback : back = [] ∨ MarkedAt (memoryOf dives ++ back) (memoryOf dives).length)
    {stray : Nat} (hlt : stray < (memoryOf dives).length)
    (hmark : MarkedAt (memoryOf dives ++ back) stray)
    (hstray : ∀ found ∈ layout 0 dives, stray ≠ found.offset ∧ stray + 4 ≠ found.stop) :
    ∃ overrun, .error overrun ∈ ahead (memoryOf dives ++ back) (memoryOf dives).length := by
  induction dives using List.reverseRecOn generalizing back with
  | nil => simp at hlt
  | append_singleton dives dive ih =>
    have hlast := recordAt_last dives dive back
    have hlen : (memoryOf (dives ++ [dive])).length =
        (memoryOf dives).length + (record dive.1 dive.2).length := by simp
    have hshort' := hshort dive (by simp)
    rw [hlen] at hlt hback ⊢
    rw [layout_concat] at hstray
    -- either some marker strays in the last record, or that record is reported and the scan goes on
    by_cases hinside : ∃ other, (memoryOf dives).length < other ∧
        MarkedAt (memoryOf (dives ++ [dive]) ++ back) other ∧
        other + 4 < (memoryOf dives).length + (record dive.1 dive.2).length
    · obtain ⟨other, hlow, hother, hhigh⟩ := hinside
      exact exists_error_ahead_of_stray hlast hshort' hother hlow hhigh
    · -- the last record is sound, so the marker strays in front of it
      have htidy : ∀ other, (memoryOf dives).length < other →
          MarkedAt (memoryOf (dives ++ [dive]) ++ back) other →
          (memoryOf dives).length + (record dive.1 dive.2).length ≤ other + 4 := by
        intro other hlow hother
        by_contra hhigh
        exact hinside ⟨other, hlow, hother, by omega⟩
      have hfront : stray < (memoryOf dives).length := by
        have hself := hstray _ (List.mem_append_right _ (List.mem_singleton_self _))
        simp only [Dive.stop, Dive.size] at hself
        by_contra hge
        have hreach := htidy stray (by omega) hmark
        -- it does not go beyond the row: the dump ends there, or another marker begins
        rcases hback with rfl | hback
        · have := hmark.le_length
          rw [List.append_nil, hlen] at this
          omega
        · have := hmark.add_four_le hback hlt
          omega
      have hhead := hlast.markedAt
      rw [ahead_of_tidy hlast (by omega) htidy]
      rw [Dive.memoryOf_append, List.append_assoc] at hmark hhead ⊢
      obtain ⟨overrun, hmem⟩ := ih (memoryOf [dive] ++ back)
        (fun older hmem => hshort older (by simp [hmem])) (Or.inr hhead) hfront hmark
        (fun found hmem => hstray found (List.mem_append_left _ hmem))
      exact ⟨overrun, List.mem_cons_of_mem _ hmem⟩

theorem all_of_walk {dives : List Dive} (h : walk memory = dives.map .ok) :
    Dive.all memory = (dives, none) := by
  rw [Scan.all_eq_iff, Scan.resultsOf_none, h]

theorem all_of_walk_error {broken : Overrun} (h : .error broken ∈ walk memory) :
    ∃ overrun, (Dive.all memory).2 = some overrun := by
  rw [Scan.walk_eq_all] at h
  exact ⟨broken, by simpa [Scan.resultsOf] using h⟩

/-- The walk through a row of records in which every marker starts a record or ends one. -/
theorem walk_memoryOf (dives : List (UInt32 × Bytes))
    (hfits : ∀ dive ∈ dives, (record dive.1 dive.2).length < 2 ^ 32)
    (htidy : ∀ place, MarkedAt (memoryOf dives) place →
      ∃ found ∈ layout 0 dives, place = found.offset ∨ place + 4 = found.stop) :
    walk (memoryOf dives) = (layout 0 dives).reverse.map .ok := by
  have hahead := ahead_memoryOf dives [] hfits
  rw [List.append_nil] at hahead
  exact hahead fun place _ => htidy place

/-- The listing of such a row. -/
theorem all_memoryOf (dives : List (UInt32 × Bytes))
    (hfits : ∀ dive ∈ dives, (record dive.1 dive.2).length < 2 ^ 32)
    (htidy : ∀ place, MarkedAt (memoryOf dives) place →
      ∃ found ∈ layout 0 dives, place = found.offset ∨ place + 4 = found.stop) :
    Dive.all (memoryOf dives) = ((layout 0 dives).reverse, none) :=
  all_of_walk (walk_memoryOf dives hfits htidy)

/-- **A well-formed dump is never listed wrongly.** The scan of a row of records, each shorter than
the marker read as a number, reports exactly the records, newest first, or fails with a fault of
the format. It reports them exactly if every marker in the dump starts a record or ends one. -/
theorem scan_well_formed (dives : List (UInt32 × Bytes))
    (hshort : ∀ dive ∈ dives, (record dive.1 dive.2).length < 0x5A5AA5A5) :
    (Dive.all (memoryOf dives) = ((layout 0 dives).reverse, none) ∨
        ∃ offset length limit, (Dive.all (memoryOf dives)).2.map Overrun.fault =
          some (.dataFormat offset length limit)) ∧
      (Dive.all (memoryOf dives) = ((layout 0 dives).reverse, none) ↔
        ∀ place, MarkedAt (memoryOf dives) place →
          ∃ found ∈ layout 0 dives, place = found.offset ∨ place + 4 = found.stop) := by
  have hfits : ∀ dive ∈ dives, (record dive.1 dive.2).length < 2 ^ 32 :=
    fun dive hmem => by have := hshort dive hmem; omega
  by_cases htidy : ∀ place, MarkedAt (memoryOf dives) place →
      ∃ found ∈ layout 0 dives, place = found.offset ∨ place + 4 = found.stop
  · have hall := all_memoryOf dives hfits htidy
    exact ⟨Or.inl hall, fun _ => htidy, fun _ => hall⟩
  · -- some marker strays, and the scan ends at a broken record
    push Not at htidy
    obtain ⟨stray, hmark, hstray⟩ := htidy
    have hlt := hmark.le_length
    rw [← List.append_nil (memoryOf dives)] at hmark
    obtain ⟨broken, hmem⟩ :=
      exists_error_ahead_memoryOf dives [] hshort (Or.inl rfl) (by omega) hmark hstray
    rw [List.append_nil] at hmark hmem
    obtain ⟨overrun, hall⟩ := all_of_walk_error hmem
    refine ⟨Or.inr ⟨overrun.offset, overrun.length, overrun.limit, by rw [hall]; rfl⟩, ?_, ?_⟩
    · intro hexact
      rw [hexact] at hall
      simp at hall
    · -- the marker that strays is neither a start nor an end
      intro htidy
      obtain ⟨found, hmem, hplace⟩ := htidy stray hmark
      have := hstray found hmem
      omega

/-- A dive whose timestamp is the marker, and one that starts its payload with the marker. -/
def markerDives : List (UInt32 × Bytes) :=
  [(0x5A5AA5A5, []), (7, Dive.marker ++ [1])]

theorem scan_well_formed_markerDives :
    (∀ dive ∈ markerDives, (record dive.1 dive.2).length < 0x5A5AA5A5) ∧
      (Dive.all (memoryOf markerDives) = ((layout 0 markerDives).reverse, none) ↔
        ∀ place, MarkedAt (memoryOf markerDives) place →
          ∃ found ∈ layout 0 markerDives, place = found.offset ∨ place + 4 = found.stop) :=
  ⟨by decide, (scan_well_formed markerDives (by decide)).2⟩

end DiveLink
