import DiveLink.Link.Emulated
import DiveLink.Proofs.Layout

/-!
# Newer dives

The log of a computer holds its dives oldest first, so the dives after a timestamp are the end of
the log, and their records are the end of its memory.

1. `OrderedLog` is a log whose memory can be read back. In a `SoundLog` no two dives have the same
   timestamp.
2. `newer` are the dives after a timestamp and `older` the others, `older_append_newer` says that
   they are the two ends of the log.
3. `OrderedLog.newer` says that the newer dives are a log as well, `OrderedLog.all` is the listing
   of a log.
-/

namespace DiveLink

open Dive (memoryOf layout record)
open Scan (MarkedAt)

/-! ## §1 Logs -/

/-- A log in which timestamps do not fall, whose memory has a size that is a word, and in whose
memory the marker stands only where a record starts. -/
structure OrderedLog (dives : List (UInt32 × Bytes)) : Prop where
  ordered : dives.Pairwise fun older younger => older.1 ≤ younger.1
  positive : ∀ dive ∈ dives, 0 < dive.1
  fits : (memoryOf dives).length + 4 < 2 ^ 32
  tidy : ∀ place, MarkedAt (memoryOf dives) place →
    ∃ found ∈ layout 0 dives, place = found.offset

/-- Whether a log is ordered can be seen at the places of its memory. -/
theorem orderedLog_iff (dives : List (UInt32 × Bytes)) :
    OrderedLog dives ↔
      (dives.Pairwise fun older younger => older.1 ≤ younger.1) ∧ (∀ dive ∈ dives, 0 < dive.1) ∧
        (memoryOf dives).length + 4 < 2 ^ 32 ∧
        ∀ place < (memoryOf dives).length, MarkedAt (memoryOf dives) place →
          ∃ found ∈ layout 0 dives, place = found.offset := by
  constructor
  · intro h
    exact ⟨h.ordered, h.positive, h.fits, fun place _ => h.tidy place⟩
  · -- behind the end of the memory there is no marker
    rintro ⟨hordered, hpositive, hfits, htidy⟩
    refine ⟨hordered, hpositive, hfits, fun place hmark => htidy place ?_ hmark⟩
    have := hmark.le_length
    omega

instance (dives : List (UInt32 × Bytes)) : Decidable (OrderedLog dives) :=
  decidable_of_iff _ (orderedLog_iff dives).symm

/-- A log in which timestamps grow, whose memory has a size that is a word, and in whose memory the
marker stands only where a record starts. -/
structure SoundLog (dives : List (UInt32 × Bytes)) : Prop where
  increasing : dives.Pairwise fun older younger => older.1 < younger.1
  positive : ∀ dive ∈ dives, 0 < dive.1
  fits : (memoryOf dives).length + 4 < 2 ^ 32
  tidy : ∀ place, MarkedAt (memoryOf dives) place →
    ∃ found ∈ layout 0 dives, place = found.offset

theorem SoundLog.ordered {dives : List (UInt32 × Bytes)} (h : SoundLog dives) :
    OrderedLog dives where
  ordered := h.increasing.imp fun hlt => UInt32.le_of_lt hlt
  positive := h.positive
  fits := h.fits
  tidy := h.tidy

theorem soundLog_iff (dives : List (UInt32 × Bytes)) :
    SoundLog dives ↔
      (dives.Pairwise fun older younger => older.1 < younger.1) ∧ OrderedLog dives := by
  constructor
  · intro h
    exact ⟨h.increasing, h.ordered⟩
  · rintro ⟨hincreasing, hordered⟩
    exact ⟨hincreasing, hordered.positive, hordered.fits, hordered.tidy⟩

instance (dives : List (UInt32 × Bytes)) : Decidable (SoundLog dives) :=
  decidable_of_iff _ (soundLog_iff dives).symm

/-- The dives after a timestamp. -/
def newer (timestamp : UInt32) (dives : List (UInt32 × Bytes)) : List (UInt32 × Bytes) :=
  dives.filter fun dive => timestamp < dive.1

/-- The other dives. -/
def older (timestamp : UInt32) (dives : List (UInt32 × Bytes)) : List (UInt32 × Bytes) :=
  dives.filter fun dive => ¬ timestamp < dive.1

/-- The memory after a timestamp holds the records of the dives after it. -/
theorem memoryAfter_eq (computer : Emulated) (timestamp : UInt32) :
    computer.memoryAfter timestamp = memoryOf (newer timestamp computer.dives) := rfl

/-- The dives after a timestamp are the end of a log. -/
theorem older_append_newer {dives : List (UInt32 × Bytes)}
    (h : dives.Pairwise fun older younger => older.1 ≤ younger.1) (timestamp : UInt32) :
    older timestamp dives ++ newer timestamp dives = dives := by
  -- from the front of the log, up to the first dive that is newer
  induction dives with
  | nil => rfl
  | cons dive rest ih =>
    obtain ⟨hfirst, hrest⟩ := List.pairwise_cons.mp h
    unfold older newer at ih ⊢
    by_cases hnew : timestamp < dive.1
    · -- all dives behind a newer one are newer
      have hall : ∀ other ∈ dive :: rest, timestamp < other.1 := by
        intro other hother
        rcases List.mem_cons.mp hother with rfl | hmem
        · exact hnew
        · exact UInt32.lt_of_lt_of_le hnew (hfirst other hmem)
      have hnone : (dive :: rest).filter (fun dive => ¬ timestamp < dive.1) = [] := by
        rw [List.filter_eq_nil_iff]
        intro other hother
        simpa using hall other hother
      have hself : (dive :: rest).filter (fun dive => timestamp < dive.1) = dive :: rest := by
        rw [List.filter_eq_self]
        intro other hother
        exact decide_eq_true (hall other hother)
      rw [hnone, hself, List.nil_append]
    · -- a dive that is not newer is one of those before
      rw [List.filter_cons_of_pos (by simpa using hnew),
        List.filter_cons_of_neg (by simpa using hnew), List.cons_append, ih hrest]

/-- After the timestamp zero are all dives of a log. -/
theorem OrderedLog.newer_zero {dives : List (UInt32 × Bytes)} (h : OrderedLog dives) :
    newer 0 dives = dives := by
  unfold newer
  rw [List.filter_eq_self]
  intro dive hdive
  exact decide_eq_true (h.positive dive hdive)

/-! ## §2 Listings -/

/-- A record that lies so many bytes further behind. -/
def Dive.moved (skipped : Nat) (dive : Dive) : Dive :=
  { dive with offset := skipped + dive.offset }

theorem layout_add (skipped offset : Nat) (dives : List (UInt32 × Bytes)) :
    layout (skipped + offset) dives = (layout offset dives).map (Dive.moved skipped) := by
  induction dives generalizing offset with
  | nil => rfl
  | cons dive rest ih =>
    simp only [layout, List.map_cons]
    rw [Nat.add_assoc, ih]
    rfl

theorem lt_stop_of_mem_layout {offset : Nat} {dives : List (UInt32 × Bytes)} {found : Dive}
    (h : found ∈ layout offset dives) : found.offset < found.stop := by
  induction dives generalizing offset with
  | nil => simp [layout] at h
  | cons dive rest ih =>
    rcases List.mem_cons.mp h with rfl | h
    · simp only [Dive.stop, Dive.size, Dive.length_record]
      omega
    · exact ih h

theorem markedAt_append {front back : Bytes} {place : Nat} (h : MarkedAt back place) :
    MarkedAt (front ++ back) (front.length + place) := by
  unfold MarkedAt at h ⊢
  rwa [List.drop_append, List.drop_of_length_le (Nat.le_add_right _ _), List.nil_append,
    Nat.add_sub_cancel_left]

/-- The end of a log can be read back as well. -/
theorem OrderedLog.tidy_newer {dives : List (UInt32 × Bytes)} (h : OrderedLog dives)
    (timestamp : UInt32) (place : Nat) (hmark : MarkedAt (memoryOf (newer timestamp dives)) place) :
    ∃ found ∈ layout 0 (newer timestamp dives), place = found.offset := by
  -- a marker in the end of the memory is a marker in the whole of it
  have hsplit := older_append_newer h.ordered timestamp
  generalize newer timestamp dives = later, older timestamp dives = earlier at hsplit hmark ⊢
  subst hsplit
  have hwhole := @markedAt_append (memoryOf earlier) _ _ hmark
  rw [← Dive.memoryOf_append] at hwhole
  obtain ⟨found, hfound, hplace⟩ := h.tidy _ hwhole
  rw [Dive.layout_append, Nat.zero_add] at hfound
  rcases List.mem_append.mp hfound with hfound | hfound
  · -- the records before end where these begin
    have := layout_stop_le hfound
    have := lt_stop_of_mem_layout hfound
    omega
  · rw [← Nat.add_zero (memoryOf earlier).length, layout_add] at hfound
    obtain ⟨other, hother, rfl⟩ := List.mem_map.mp hfound
    exact ⟨other, hother, Nat.add_left_cancel hplace⟩

theorem length_memoryOf_cons (dive : UInt32 × Bytes) (rest : List (UInt32 × Bytes)) :
    (memoryOf (dive :: rest)).length = (record dive.1 dive.2).length + (memoryOf rest).length := by
  simp [memoryOf]

theorem length_record_le {dives : List (UInt32 × Bytes)} {dive : UInt32 × Bytes}
    (h : dive ∈ dives) : (record dive.1 dive.2).length ≤ (memoryOf dives).length := by
  induction dives with
  | nil => exact absurd h List.not_mem_nil
  | cons first rest ih =>
    rw [length_memoryOf_cons]
    rcases List.mem_cons.mp h with rfl | h
    · omega
    · have := ih h
      omega

theorem length_memoryOf_newer_le (timestamp : UInt32) (dives : List (UInt32 × Bytes)) :
    (memoryOf (newer timestamp dives)).length ≤ (memoryOf dives).length := by
  induction dives with
  | nil => exact Nat.le_refl _
  | cons dive rest ih =>
    unfold newer at ih ⊢
    rw [List.filter_cons]
    split
    · rw [length_memoryOf_cons, length_memoryOf_cons]
      omega
    · rw [length_memoryOf_cons]
      omega

namespace OrderedLog

variable {dives : List (UInt32 × Bytes)} (h : OrderedLog dives)

include h

/-- The dives after a timestamp are a log as well. -/
theorem newer (timestamp : UInt32) : OrderedLog (DiveLink.newer timestamp dives) where
  ordered := h.ordered.sublist List.filter_sublist
  positive dive hdive := h.positive dive (List.mem_filter.mp hdive).1
  fits := by
    have := length_memoryOf_newer_le timestamp dives
    have := h.fits
    omega
  tidy := h.tidy_newer timestamp

/-- A scan of the memory comes to its records, from the last one on. -/
theorem walk : Scan.walk (memoryOf dives) = (layout 0 dives).reverse.map .ok := by
  refine walk_memoryOf dives (fun dive hdive => ?_) fun place hmark => ?_
  · -- a record is no longer than the memory it is in
    have := length_record_le hdive
    have := h.fits
    omega
  · obtain ⟨found, hfound, hplace⟩ := h.tidy place hmark
    exact ⟨found, hfound, Or.inl hplace⟩

/-- **The dives of a log are listed newest first.** -/
theorem all : Dive.all (memoryOf dives) = ((layout 0 dives).reverse, none) :=
  all_of_walk h.walk

end OrderedLog

end DiveLink
