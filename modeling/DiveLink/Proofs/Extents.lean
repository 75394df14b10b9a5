import DiveLink.Proofs.Walk
import Mathlib.Data.List.Basic

/-!
# Where records lie

A dump may be broken in any way, and the lengths in it may be any words. Whatever a scan reports
all the same, every record lies in the dump below the one reported before it, and the scan looks at
no place outside the dump.

1. `LiesIn` says where a record under a limit lies, `examine_liesIn` that a record that is found
   lies there.
2. `Descends` is a row of results that comes down through a dump, five places or more at a time.
   `walk_descends`: a scan does.
3. `next?` is the scan with every access to the dump guarded, `next?_eq`: no guard ever fails.
4. `scan_stays_inside`: records lie apart from each other in the dump, there are few of them, and
   the scan ends.
5. `holdsHeader_iff_claims`: a record holds its own header if it claims to be long enough for it.
   `header_outside` is a record that does not.
-/

namespace DiveLink.Scan

variable {memory : Bytes} {limit place : Nat} {dive : Dive}

/-! ## §1 One record -/

/-- A record that starts with the marker, is as long as it claims, and ends by the limit. Its
fingerprint is read behind its length, and the dump goes on for that long. -/
structure LiesIn (memory : Bytes) (limit : Nat) (dive : Dive) : Prop where
  marked : MarkedAt memory dive.offset
  header_le : dive.offset + Dive.headerSize ≤ memory.length
  claimed : lengthAt memory.toArray dive.offset = dive.size
  stop_le : dive.stop ≤ limit
  data_eq : dive.data = (memory.drop dive.offset).take dive.size
  fingerprint_eq : dive.fingerprintBytes =
    (memory.drop (dive.offset + Dive.fingerprintPlace)).take 4

theorem LiesIn.mono {higher : Nat} (h : LiesIn memory limit dive) (hle : limit ≤ higher) :
    LiesIn memory higher dive :=
  { h with stop_le := h.stop_le.trans hle }

/-- A record that is found lies under the limit. -/
theorem examine_liesIn (hmark : MarkedAt memory place) (hlimit : limit ≤ memory.length)
    (h : examine memory limit place = .ok dive) : LiesIn memory limit dive := by
  unfold examine at h
  rw [← lengthAt_eq] at h
  dsimp only at h
  -- a record that is found has passed two checks: its header lies in the dump, and it ends by the
  -- limit
  split at h
  · cases h
  · rename_i hheader
    split at h
    · cases h
    · rename_i hfits
      obtain rfl := Except.ok.inj h
      -- the limit lies in the dump, so there are as many bytes as the record claims
      have hsize : ((memory.drop place).take (lengthAt memory.toArray place)).length =
          lengthAt memory.toArray place := by
        rw [List.length_take, List.length_drop]
        omega
      constructor
      · exact hmark
      · exact Nat.le_of_not_lt hheader
      · exact hsize.symm
      · unfold Dive.stop Dive.size
        rw [hsize]
        exact Nat.le_of_not_lt hfits
      · unfold Dive.size
        rw [hsize]
      · rfl

/-! ## §2 Rows of results -/

/-- Results that come down through a dump from a limit: each lies five places or more below the
one before it, and a record ends where the one before it starts, or earlier. -/
inductive Descends (memory : Bytes) : Nat → List (Except Overrun Dive) → Prop where
  | ended (limit : Nat) : Descends memory limit []
  | broken {limit : Nat} {overrun : Overrun} :
      overrun.offset + 5 ≤ limit → Descends memory limit [.error overrun]
  | found {limit : Nat} {dive : Dive} {below : List (Except Overrun Dive)} :
      dive.offset + 5 ≤ limit → LiesIn memory limit dive →
      Descends memory dive.offset below → Descends memory limit (.ok dive :: below)

/-- What lies ahead of a scan comes down from the limit. -/
theorem ahead_descends (hlimit : limit ≤ memory.length) :
    Descends memory limit (ahead memory limit) := by
  -- on the limit, which every record brings down to its own place
  induction limit using Nat.strong_induction_on with
  | _ limit ih =>
    cases hseek : seek memory.toArray (limit - 4) with
    | none =>
      rw [ahead_of_seek_none hseek]
      exact .ended limit
    | some place =>
      obtain ⟨hlt, hmark⟩ := (seek_eq_some_iff.mp hseek).1
      rw [ahead_of_seek hseek]
      -- the search starts four places below the limit, so the marker it finds is five below
      cases hexam : examine memory limit place with
      | error overrun =>
        have hplace := examine_error hexam
        apply Descends.broken
        omega
      | ok dive =>
        obtain rfl := examine_ok hexam
        apply Descends.found
        · omega
        · exact examine_liesIn hmark hlimit hexam
        · apply ih
          · omega
          · omega

theorem walk_descends (memory : Bytes) : Descends memory memory.length (walk memory) :=
  ahead_descends (le_refl _)

namespace Descends

variable {results : List (Except Overrun Dive)}

/-- Every result takes five places. -/
theorem length_le (h : Descends memory limit results) : 5 * results.length ≤ limit := by
  -- on the results, from the lowest one up
  induction h with
  | ended limit => simp
  | broken hplace =>
    simp only [List.length_cons, List.length_nil]
    omega
  | found hplace _ _ ih =>
    simp only [List.length_cons]
    omega

/-- Every record lies under the limit, five places or more below it. -/
theorem liesIn_of_mem (h : Descends memory limit results) (hmem : .ok dive ∈ results) :
    LiesIn memory limit dive ∧ dive.offset + 5 ≤ limit := by
  induction h with
  | ended limit => simp at hmem
  | broken hplace => simp at hmem
  | found hplace hlies hbelow ih =>
    rcases List.mem_cons.mp hmem with heq | hmem
    · obtain rfl := Except.ok.inj heq
      exact ⟨hlies, hplace⟩
    · -- further below the limit is the record before
      obtain ⟨hlies', hplace'⟩ := ih hmem
      have hle := hplace
      exact ⟨hlies'.mono (by omega), by omega⟩

/-- Of two results, the later one lies below the earlier one. -/
def Apart (newer older : Except Overrun Dive) : Prop :=
  ∀ first second, newer = .ok first → older = .ok second →
    second.stop ≤ first.offset ∧ second.offset + 5 ≤ first.offset

theorem pairwise_apart (h : Descends memory limit results) : results.Pairwise Apart := by
  -- a record is the limit of all that come later
  induction h with
  | ended limit => exact List.Pairwise.nil
  | broken hplace => exact List.pairwise_singleton ..
  | found hplace hlies hbelow ih =>
    apply List.Pairwise.cons
    · intro older hmem first second hfirst hsecond
      obtain rfl := Except.ok.inj hfirst
      rw [hsecond] at hmem
      obtain ⟨hlies', hplace'⟩ := hbelow.liesIn_of_mem hmem
      exact ⟨hlies'.stop_le, hplace'⟩
    · exact ih

end Descends

/-! ## §3 Access to the dump -/

section

variable (memory : Array UInt8)

/-- The bytes of the dump from one place up to another, if both are places of the dump. -/
def slice? (start stop : Nat) : Option Bytes :=
  if start ≤ stop ∧ stop ≤ memory.size then some (slice memory start stop) else none

/-- The word that four bytes spell. -/
def word? : Bytes → Option UInt32
  | [b₀, b₁, b₂, b₃] => some (Word.ofBytes b₀ b₁ b₂ b₃)
  | _ => none

/-- The length that the record at a place claims, with guards. -/
def lengthAt? (place : Nat) : Option Nat := do
  let bytes ← slice? memory (place + Dive.lengthPlace) (place + Dive.fingerprintPlace)
  let length ← word? bytes
  some length.toNat

/-- The search for a marker, with guards. -/
def seek? : Nat → Option (Option Nat)
  | 0 => some none
  | place + 1 => do
    let rest ← slice? memory place memory.size
    if Dive.marker.isPrefixOf rest then some (some place) else seek? place

end

/-- The record at a place, with guards. -/
def recordAt? (scan : Scan) (place : Nat) : Option (Except Overrun Dive) :=
  if scan.memory.size < place + Dive.headerSize then
    some (.error ⟨place, Dive.headerSize, scan.memory.size⟩)
  else do
    let length ← lengthAt? scan.memory place
    if scan.limit < place + length then
      some (.error ⟨place, length, scan.limit⟩)
    else
      let data ← slice? scan.memory place (place + length)
      let fingerprintBytes ←
        slice? scan.memory (place + Dive.fingerprintPlace) (place + Dive.headerSize)
      some (.ok ⟨place, data, fingerprintBytes⟩)

/-- The next record, with guards: nothing where the scan would look outside the dump. -/
def next? (scan : Scan) : Option (Option (Except Overrun Dive) × Scan) :=
  if scan.done then some (none, scan)
  else do
    match ← seek? scan.memory scan.position with
    | none => some (none, { scan with position := 0, done := true })
    | some place =>
      match ← scan.recordAt? place with
      | .error overrun =>
        some (some (.error overrun), { scan with position := place, done := true })
      | .ok dive =>
        some (some (.ok dive),
          { scan with limit := place, position := place - Dive.marker.length })

/-- A scan whose limit and whose position are places of the dump. -/
structure InRange (scan : Scan) : Prop where
  limit_le : scan.limit ≤ scan.memory.size
  position_le : scan.position ≤ scan.memory.size

theorem slice?_eq {memory : Array UInt8} {start stop : Nat} (hle : start ≤ stop)
    (hstop : stop ≤ memory.size) : slice? memory start stop = some (slice memory start stop) :=
  if_pos ⟨hle, hstop⟩

/-- Four bytes are a word. -/
theorem word?_eq {bytes : Bytes} (h : bytes.length = 4) :
    word? bytes = some (Word.front bytes) := by
  match bytes, h with
  | [_, _, _, _], _ => rfl

/-- The marker at the front of what is left of the dump is the marker at that place. -/
theorem isPrefixOf_slice (memory : Array UInt8) (place : Nat) :
    Dive.marker.isPrefixOf (slice memory place memory.size) = markerAt memory place := by
  have hslice : slice memory place memory.size = memory.toList.drop place := by
    rw [slice_eq, List.take_of_length_le]
    simp
  rw [Bool.eq_iff_iff, List.isPrefixOf_iff_prefix, hslice]
  exact (@markerAt_iff memory.toList place).symm

theorem seek?_eq {memory : Array UInt8} {position : Nat} (h : position ≤ memory.size) :
    seek? memory position = some (seek memory position) := by
  -- on the position: the search goes down, and every place below is a place of the dump too
  induction position with
  | zero => rfl
  | succ place ih =>
    have hplace : place ≤ memory.size := by omega
    rw [seek?, slice?_eq hplace (le_refl _), seek]
    simp only [Option.bind_eq_bind, Option.bind_some, isPrefixOf_slice, ih hplace]
    split <;> rfl

/-- Where there is room for a header, its length is there. -/
theorem lengthAt?_eq {memory : Array UInt8} (h : place + Dive.headerSize ≤ memory.size) :
    lengthAt? memory place = some (lengthAt memory place) := by
  unfold Dive.headerSize at h
  -- the length stands in the header, in front of the fingerprint
  have hbytes : (slice memory (place + Dive.lengthPlace)
      (place + Dive.fingerprintPlace)).length = 4 := by
    unfold slice Dive.lengthPlace Dive.fingerprintPlace
    simp only [Array.length_toList, Array.size_extract]
    omega
  have hplaces : place + Dive.lengthPlace ≤ place + Dive.fingerprintPlace := by
    unfold Dive.lengthPlace Dive.fingerprintPlace
    omega
  have hstop : place + Dive.fingerprintPlace ≤ memory.size := by
    unfold Dive.fingerprintPlace
    omega
  unfold lengthAt?
  rw [slice?_eq hplaces hstop]
  simp only [Option.bind_eq_bind, Option.bind_some, word?_eq hbytes]
  rfl

/-- Behind the check of the header every access is inside the dump. -/
theorem recordAt?_eq {scan : Scan} (h : scan.limit ≤ scan.memory.size) (place : Nat) :
    scan.recordAt? place = some (scan.recordAt place) := by
  unfold recordAt? recordAt
  -- the checks of the scan itself: nothing is looked at before the first of them
  by_cases hheader : scan.memory.size < place + Dive.headerSize
  · rw [if_pos hheader, if_pos hheader]
  · have hroom : place + Dive.headerSize ≤ scan.memory.size := Nat.le_of_not_lt hheader
    have hplaces : place + Dive.fingerprintPlace ≤ place + Dive.headerSize := by
      unfold Dive.fingerprintPlace Dive.headerSize
      omega
    rw [if_neg hheader, if_neg hheader, lengthAt?_eq hroom]
    simp only [Option.bind_eq_bind, Option.bind_some]
    by_cases hbeyond : scan.limit < place + lengthAt scan.memory place
    · rw [if_pos hbeyond, if_pos hbeyond]
    · -- a record that ends by the limit ends in the dump
      rw [if_neg hbeyond, if_neg hbeyond, slice?_eq (by omega) (by omega),
        slice?_eq hplaces hroom]
      rfl

/-- **A scan looks at no place outside the dump.** -/
theorem InRange.next?_eq {scan : Scan} (h : InRange scan) : scan.next? = some scan.next := by
  unfold next? next
  split
  · rfl
  · -- the search is guarded by the position, and the record that it finds by the limit
    rw [seek?_eq h.position_le]
    simp only [Option.bind_eq_bind, Option.bind_some]
    cases hseek : seek scan.memory scan.position with
    | none => rfl
    | some place =>
      simp only [recordAt?_eq h.limit_le, Option.bind_some]
      cases scan.recordAt place <;> rfl

/-- Limit and position only come down. -/
theorem InRange.next {scan : Scan} (h : InRange scan) : InRange scan.next.2 := by
  have hlimit := h.limit_le
  have hposition := h.position_le
  unfold Scan.next
  split
  · exact h
  · split
    · -- no marker is left
      exact ⟨hlimit, Nat.zero_le _⟩
    · rename_i place hseek
      have hlt := seek_lt hseek
      split
      · -- a broken record ends the scan where it starts
        refine ⟨hlimit, ?_⟩
        show place ≤ scan.memory.size
        omega
      · -- a record is the next limit
        constructor
        · show place ≤ scan.memory.size
          omega
        · show place - Dive.marker.length ≤ scan.memory.size
          omega

/-- The scan after so many calls. -/
def advanced (scan : Scan) : Nat → Scan
  | 0 => scan
  | calls + 1 => advanced scan.next.2 calls

theorem InRange.advanced {scan : Scan} (h : InRange scan) (calls : Nat) :
    InRange (scan.advanced calls) := by
  induction calls generalizing scan with
  | zero => exact h
  | succ calls ih => exact ih h.next

theorem start_inRange (memory : Bytes) : InRange (start memory) where
  limit_le := by simp [start]
  position_le := by simp [start]

/-! ## §4 The whole scan -/

/-- What a call reports is a result of the walk. -/
theorem mem_walk_of_nth {call : Nat} {result : Except Overrun Dive}
    (h : (start memory).nth call = some result) : result ∈ walk memory := by
  rw [nth_eq_walk] at h
  exact List.mem_of_getElem? h

/-- **A scan stays inside the dump, whatever the dump holds.** Every record that a call reports
lies in the dump, with the bytes that stand there, and its fingerprint is read inside the dump as
well. Records that are reported later end where the earlier ones start, or before, and start five
places or more below them. So there is at most one result for five bytes of the dump, and the calls
behind them report nothing. No call looks at a place outside the dump. -/
theorem scan_stays_inside (memory : Bytes) :
    (∀ call dive, (start memory).nth call = some (.ok dive) →
      dive.stop ≤ memory.length ∧
        dive.data = (memory.drop dive.offset).take (dive.stop - dive.offset) ∧
        dive.offset + 12 ≤ memory.length ∧
        dive.fingerprintBytes = (memory.drop (dive.offset + 8)).take 4) ∧
      (∀ call later newer older, call < later → (start memory).nth call = some (.ok newer) →
        (start memory).nth later = some (.ok older) →
        older.stop ≤ newer.offset ∧ older.offset + 5 ≤ newer.offset) ∧
      (∀ call, memory.length / 5 ≤ call → (start memory).nth call = none) ∧
      ∀ calls, ((start memory).advanced calls).next? =
        some ((start memory).advanced calls).next := by
  have hdescends := walk_descends memory
  refine ⟨?_, ?_, ?_, ?_⟩
  · -- one record
    intro call dive hcall
    obtain ⟨hlies, _⟩ := hdescends.liesIn_of_mem (mem_walk_of_nth hcall)
    have hsize : dive.stop - dive.offset = dive.size := Nat.add_sub_cancel_left ..
    rw [hsize]
    exact ⟨hlies.stop_le, hlies.data_eq, hlies.header_le, hlies.fingerprint_eq⟩
  · -- two records: calls count the results of the walk
    intro call later newer older hlt hnewer holder
    rw [nth_eq_walk, List.getElem?_eq_some_iff] at hnewer holder
    obtain ⟨hcall, hnewer⟩ := hnewer
    obtain ⟨hlater, holder⟩ := holder
    have hpair := List.pairwise_iff_getElem.mp hdescends.pairwise_apart call later hcall hlater hlt
    exact hpair newer older hnewer holder
  · -- the number of results
    intro call hcall
    have hlength := hdescends.length_le
    rw [nth_eq_walk, List.getElem?_eq_none_iff]
    omega
  · -- the guards, in every state that calls come to
    intro calls
    exact ((start_inRange memory).advanced calls).next?_eq

/-! ## §5 Headers -/

/-- The record holds its marker, its length and its fingerprint. -/
structure HoldsHeader (dive : Dive) : Prop where
  size_le : Dive.headerSize ≤ dive.size
  marker_prefix : Dive.marker <+: dive.data
  fingerprint_eq : dive.fingerprintBytes = (dive.data.drop Dive.fingerprintPlace).take 4

theorem LiesIn.holdsHeader (h : LiesIn memory limit dive) (hsize : Dive.headerSize ≤ dive.size) :
    HoldsHeader dive := by
  have hsize' : 12 ≤ dive.size := hsize
  constructor
  · exact hsize
  · -- the marker is one of two starts of the same bytes, and the shorter one
    rw [h.data_eq]
    apply List.prefix_take_iff.mpr
    refine ⟨h.marked, ?_⟩
    show 4 ≤ dive.size
    omega
  · -- four bytes are left behind the length, so none of the fingerprint is cut off
    rw [h.fingerprint_eq, h.data_eq, List.drop_take, List.drop_drop, List.take_take]
    congr 1
    show 4 = min 4 (dive.size - 8)
    omega

/-- **A record holds its own header exactly if it claims to be at least as long.** Every record that
a scan of a dump reports stands at a marker, is as long as the word behind the marker claims, and
has a header that lies in the dump. That the header lies in the record is not looked at, so a
shorter length is enough for a fingerprint that is read behind the end of the record. -/
theorem holdsHeader_iff_claims (memory : Bytes) (call : Nat) (dive : Dive) :
    (start memory).nth call = some (.ok dive) →
      MarkedAt memory dive.offset ∧ dive.offset + 12 ≤ memory.length ∧
        dive.size = lengthAt memory.toArray dive.offset ∧
        (HoldsHeader dive ↔ 12 ≤ lengthAt memory.toArray dive.offset) := by
  intro hcall
  obtain ⟨hlies, _⟩ := (walk_descends memory).liesIn_of_mem (mem_walk_of_nth hcall)
  refine ⟨hlies.marked, hlies.header_le, hlies.claimed.symm, ?_⟩
  rw [hlies.claimed]
  constructor
  · intro hholds
    exact hholds.size_le
  · intro hsize
    exact hlies.holdsHeader hsize

/-- A record that claims no bytes at all, right in front of another record. -/
def emptyBeforeRecord : Bytes := Dive.marker ++ [0, 0, 0, 0] ++ Dive.record 7 []

/-- The second of its records holds its header. -/
theorem holdsHeader_iff_claims_second :
    (start emptyBeforeRecord).nth 0 = some (.ok ⟨8, Dive.record 7 [], [7, 0, 0, 0]⟩) ∧
      HoldsHeader ⟨8, Dive.record 7 [], [7, 0, 0, 0]⟩ := by
  have hcall : (start emptyBeforeRecord).nth 0 =
      some (.ok ⟨8, Dive.record 7 [], [7, 0, 0, 0]⟩) := by decide
  obtain ⟨_, _, _, hiff⟩ := holdsHeader_iff_claims emptyBeforeRecord 0 _ hcall
  exact ⟨hcall, hiff.mpr (by decide)⟩

/-- The first of its records is reported without any byte of its own, and the fingerprint that it is
reported with is the marker of the second. -/
theorem header_outside :
    (start emptyBeforeRecord).nth 0 = some (.ok ⟨8, Dive.record 7 [], [7, 0, 0, 0]⟩) ∧
      (start emptyBeforeRecord).nth 1 = some (.ok ⟨0, [], (Dive.record 7 []).take 4⟩) ∧
      ¬ HoldsHeader ⟨0, [], (Dive.record 7 []).take 4⟩ := by
  refine ⟨by decide, by decide, ?_⟩
  intro hholds
  exact absurd hholds.size_le (by decide)

end DiveLink.Scan
