import DiveLink.Dive.Scan
import Mathlib.Data.List.Basic
import Mathlib.Tactic.Ring

/-!
# The walk over the markers of a dump

`Scan.next` moves a position through the dump, one place at a time, and jumps after each record.
This file says what a scan finds without that position: it walks over the places where the marker
stands, from the highest to the lowest, under a limit that starts at the end of the dump and moves
down to each record that is found.

1. `MarkedAt` says where the marker stands. Two markers never overlap.
2. `walk` is the reference: what a scan finds, read off the places of the markers.
3. `nth_eq_walk`, `visit_eq_hand` and `all_eq_iff`: the scan, its visitors and the listing of a dump
   follow the walk.
4. `scan_follows_walk`: the walk is what successive steps give, it reports markers only, and it
   passes over those markers only that end at the limit.
-/

namespace DiveLink.Scan

/-! ## §1 Places of the marker -/

/-- The marker stands at this place of the dump. -/
def MarkedAt (memory : Bytes) (place : Nat) : Prop :=
  Dive.marker <+: memory.drop place

instance (memory : Bytes) : DecidablePred (MarkedAt memory) :=
  fun place => inferInstanceAs (Decidable (Dive.marker <+: memory.drop place))

variable {memory : Bytes} {place other : Nat}

/-- The marker byte by byte. -/
theorem markedAt_iff :
    MarkedAt memory place ↔
      memory[place]? = some 0xA5 ∧ memory[place + 1]? = some 0xA5 ∧
        memory[place + 2]? = some 0x5A ∧ memory[place + 3]? = some 0x5A := by
  rw [MarkedAt, List.prefix_iff_getElem?]
  simp only [List.getElem?_drop, Dive.marker]
  -- a prefix of four bytes is looked at byte by byte
  constructor
  · intro h
    exact ⟨h 0 (by decide), h 1 (by decide), h 2 (by decide), h 3 (by decide)⟩
  · rintro ⟨h₀, h₁, h₂, h₃⟩ i hi
    match i, hi with
    | 0, _ => exact h₀
    | 1, _ => exact h₁
    | 2, _ => exact h₂
    | 3, _ => exact h₃

/-- The test of the scan finds the places of the marker. -/
theorem markerAt_iff : markerAt memory.toArray place = true ↔ MarkedAt memory place := by
  rw [markedAt_iff]
  simp [markerAt, and_assoc]

/-- A marker lies inside the dump. -/
theorem MarkedAt.le_length (h : MarkedAt memory place) : place + 4 ≤ memory.length := by
  have hlast := (markedAt_iff.mp h).2.2.2
  have := (List.getElem?_eq_some_iff.mp hlast).1
  omega

/-- Two markers never overlap: no proper end of the marker is also a start of it. -/
theorem MarkedAt.add_four_le (h : MarkedAt memory place) (h' : MarkedAt memory other)
    (hlt : place < other) : place + 4 ≤ other := by
  by_contra hnear
  obtain ⟨_, _, h₂, h₃⟩ := markedAt_iff.mp h
  obtain ⟨h₀', h₁', _, _⟩ := markedAt_iff.mp h'
  -- the second half of one marker would have to be the first half of the other
  obtain rfl | rfl | rfl : other = place + 1 ∨ other = place + 2 ∨ other = place + 3 := by omega
  · -- one place further on, the first bytes agree, but the second ones do not
    rw [show place + 1 + 1 = place + 2 by ring, h₂] at h₁'
    exact absurd h₁' (by decide)
  · rw [h₂] at h₀'
    exact absurd h₀' (by decide)
  · rw [h₃] at h₀'
    exact absurd h₀' (by decide)

/-- The places below a bound where the marker stands, highest first. -/
def placesBelow (memory : Bytes) (bound : Nat) : List Nat :=
  ((List.range bound).filter fun place => MarkedAt memory place).reverse

theorem placesBelow_succ :
    placesBelow memory (place + 1) =
      if MarkedAt memory place then place :: placesBelow memory place
      else placesBelow memory place := by
  rw [placesBelow, List.range_succ, List.filter_append, List.reverse_append]
  by_cases h : MarkedAt memory place <;> simp [h, placesBelow]

theorem mem_placesBelow {bound : Nat} :
    place ∈ placesBelow memory bound ↔ place < bound ∧ MarkedAt memory place := by
  simp [placesBelow]

/-- Helper: below the highest marker under a bound stand the others. -/
theorem placesBelow_of_seek {bound : Nat} (h : seek memory.toArray bound = some place) :
    placesBelow memory bound = place :: placesBelow memory place := by
  -- the search and the list of places go down together
  induction bound with
  | zero => simp [seek] at h
  | succ n ih =>
    rw [placesBelow_succ]
    unfold seek at h
    split at h
    · rename_i hmark
      cases h
      rw [if_pos (markerAt_iff.mp hmark)]
    · rename_i hmark
      rw [if_neg (mt markerAt_iff.mpr hmark), ih h]

theorem placesBelow_of_seek_none {bound : Nat} (h : seek memory.toArray bound = none) :
    placesBelow memory bound = [] := by
  induction bound with
  | zero => rfl
  | succ n ih =>
    unfold seek at h
    split at h
    · simp at h
    · rename_i hmark
      rw [placesBelow_succ, if_neg (mt markerAt_iff.mpr hmark), ih h]

/-- The search finds the highest marker below a bound. -/
theorem seek_eq_some_iff {bound : Nat} :
    seek memory.toArray bound = some place ↔
      (place < bound ∧ MarkedAt memory place) ∧
        ∀ other, other < bound → MarkedAt memory other → other ≤ place := by
  constructor
  · -- what is found is the first of the places below the bound
    intro h
    have hplaces := placesBelow_of_seek h
    refine ⟨mem_placesBelow.mp (by rw [hplaces]; exact List.mem_cons_self ..), ?_⟩
    intro other hlt hmark
    have hmem : other ∈ placesBelow memory bound := mem_placesBelow.mpr ⟨hlt, hmark⟩
    rw [hplaces] at hmem
    rcases List.mem_cons.mp hmem with rfl | hmem
    · exact le_refl _
    · exact le_of_lt (mem_placesBelow.mp hmem).1
  · -- there is a place, so something is found, and both of them are the highest
    rintro ⟨hplace, hhighest⟩
    cases h : seek memory.toArray bound with
    | none =>
      have hmem := mem_placesBelow.mpr hplace
      rw [placesBelow_of_seek_none h] at hmem
      simp at hmem
    | some found =>
      have hplaces := placesBelow_of_seek h
      have hfound : found < bound ∧ MarkedAt memory found :=
        mem_placesBelow.mp (by rw [hplaces]; exact List.mem_cons_self ..)
      have hle := hhighest found hfound.1 hfound.2
      have hmem := mem_placesBelow.mpr hplace
      rw [hplaces] at hmem
      rcases List.mem_cons.mp hmem with rfl | hmem
      · rfl
      · have := (mem_placesBelow.mp hmem).1
        omega

/-! ## §2 The walk -/

/-- The record at a place under a limit, or what is wrong with it. -/
def examine (memory : Bytes) (limit place : Nat) : Except Overrun Dive :=
  let claimed := (Word.front (memory.drop (place + 4))).toNat
  if memory.length < place + 12 then .error ⟨place, 12, memory.length⟩
  else if limit < place + claimed then .error ⟨place, claimed, limit⟩
  else .ok ⟨place, (memory.drop place).take claimed, (memory.drop (place + 8)).take 4⟩

/-- Walks over places, highest first. A marker that ends at the limit, or above it, is passed over;
a broken record ends the walk; a record that is found becomes the limit of what is below it. -/
def walkFrom (memory : Bytes) (limit : Nat) : List Nat → List (Except Overrun Dive)
  | [] => []
  | place :: below =>
    if limit ≤ place + 4 then walkFrom memory limit below
    else match examine memory limit place with
      | .error overrun => [.error overrun]
      | .ok dive => .ok dive :: walkFrom memory place below

/-- What lies ahead of a scan that has come down to a limit. -/
def ahead (memory : Bytes) (limit : Nat) : List (Except Overrun Dive) :=
  walkFrom memory limit (placesBelow memory limit)

/-- What a scan of the dump finds. -/
def walk (memory : Bytes) : List (Except Overrun Dive) :=
  ahead memory memory.length

/-- The results of a scan that reports these dives, and then the broken record that ends it, if
there is one. -/
def resultsOf (dives : List Dive) (overrun : Option Overrun) : List (Except Overrun Dive) :=
  dives.map .ok ++ overrun.toList.map .error

theorem resultsOf_none (dives : List Dive) : resultsOf dives none = dives.map .ok :=
  List.append_nil _

theorem walkFrom_eq_resultsOf (memory : Bytes) (limit : Nat) (places : List Nat) :
    ∃ dives overrun, walkFrom memory limit places = resultsOf dives overrun := by
  induction places generalizing limit with
  | nil => exact ⟨[], none, rfl⟩
  | cons place below ih =>
    rw [walkFrom]
    split
    · exact ih limit
    · cases examine memory limit place with
      | error overrun => exact ⟨[], some overrun, rfl⟩
      | ok dive =>
        obtain ⟨dives, overrun, hbelow⟩ := ih place
        refine ⟨dive :: dives, overrun, ?_⟩
        dsimp only
        rw [hbelow]
        rfl

/-- The place that a result of a scan is about. -/
def placeOf : Except Overrun Dive → Nat
  | .ok dive => dive.offset
  | .error overrun => overrun.offset

@[simp] theorem placeOf_examine (limit : Nat) : placeOf (examine memory limit place) = place := by
  unfold examine
  dsimp only
  split
  · rfl
  · split <;> rfl

theorem examine_ok {limit : Nat} {dive : Dive} (h : examine memory limit place = .ok dive) :
    dive.offset = place := by
  have hplace := @placeOf_examine memory place limit
  rwa [h] at hplace

theorem examine_error {limit : Nat} {overrun : Overrun}
    (h : examine memory limit place = .error overrun) : overrun.offset = place := by
  have hplace := @placeOf_examine memory place limit
  rwa [h] at hplace

/-- Markers that end at the limit or above it change nothing. -/
theorem walkFrom_skip {limit bound : Nat} (h : limit - 4 ≤ bound) :
    walkFrom memory limit (placesBelow memory bound) =
      walkFrom memory limit (placesBelow memory (limit - 4)) := by
  induction bound, h using Nat.le_induction with
  | base => rfl
  | succ bound hle ih =>
    rw [placesBelow_succ]
    split
    · -- this marker ends at the limit or above it
      rw [walkFrom, if_pos (by omega), ih]
    · exact ih

/-- The walk goes on at the highest marker that ends below the limit. -/
theorem ahead_eq (limit : Nat) :
    ahead memory limit = walkFrom memory limit (placesBelow memory (limit - 4)) :=
  walkFrom_skip (by omega)

/-- Where no marker ends below the limit, nothing lies ahead. -/
theorem ahead_of_seek_none {limit : Nat} (h : seek memory.toArray (limit - 4) = none) :
    ahead memory limit = [] := by
  rw [ahead_eq, placesBelow_of_seek_none h, walkFrom]

/-- Else the highest such marker comes first, and then, if its record is sound, what lies ahead
below it. -/
theorem ahead_of_seek {limit : Nat} (h : seek memory.toArray (limit - 4) = some place) :
    ahead memory limit = match examine memory limit place with
      | .error overrun => [.error overrun]
      | .ok dive => .ok dive :: ahead memory place := by
  have hlt := seek_lt h
  rw [ahead_eq, placesBelow_of_seek h, walkFrom, if_neg (by omega)]
  rfl

/-! ## §3 The scan follows the walk -/

/-- The scan of this dump is not over: it has looked at all places from which a marker would reach
the limit, and at none below them. -/
structure Live (memory : Bytes) (scan : Scan) : Prop where
  memory_eq : scan.memory = memory.toArray
  position_eq : scan.position = scan.limit - 4
  done_eq : scan.done = false

theorem start_live (memory : Bytes) : Live memory (start memory) :=
  ⟨rfl, rfl, rfl⟩

theorem slice_eq {start stop : Nat} :
    slice memory.toArray start stop = (memory.drop start).take (stop - start) := by
  rw [slice, Array.toList_extract, List.extract_eq_take_drop]

theorem front_take_four (bytes : Bytes) : Word.front (bytes.take 4) = Word.front bytes := by
  match bytes with
  | [] => rfl
  | [_] => rfl
  | [_, _] => rfl
  | [_, _, _] => rfl
  | _ :: _ :: _ :: _ :: _ => rfl

theorem lengthAt_eq (memory : Bytes) (place : Nat) :
    lengthAt memory.toArray place = (Word.front (memory.drop (place + 4))).toNat := by
  rw [lengthAt, slice_eq, Dive.lengthPlace, Dive.fingerprintPlace,
    show place + 8 - (place + 4) = 4 by omega, front_take_four]

theorem recordAt_eq {scan : Scan} (hmem : scan.memory = memory.toArray) (place : Nat) :
    scan.recordAt place = examine memory scan.limit place := by
  unfold recordAt examine
  simp only [hmem, lengthAt_eq, slice_eq, Dive.headerSize, Dive.fingerprintPlace,
    List.size_toArray, Nat.add_sub_cancel_left, show place + 12 - (place + 8) = 4 by omega]

/-- What one step of a scan does, given what the walk has ahead of it. -/
inductive StepsTo (memory : Bytes) (scan : Scan) : List (Except Overrun Dive) → Prop where
  /-- No record is left. -/
  | ended (rest : Scan) : scan.next = (none, rest) → rest.done = true → StepsTo memory scan []
  /-- The next record is broken. -/
  | broken (overrun : Overrun) (rest : Scan) :
      scan.next = (some (.error overrun), rest) → rest.done = true →
      StepsTo memory scan [.error overrun]
  /-- The next record is reported, and the scan goes on below it. -/
  | found (dive : Dive) (rest : Scan) :
      scan.next = (some (.ok dive), rest) → Live memory rest →
      StepsTo memory scan (.ok dive :: ahead memory rest.limit)

/-- Of a live scan, one step is a search below the limit and an examination of what it finds. -/
theorem Live.next_eq {scan : Scan} (live : Live memory scan) :
    scan.next = match seek memory.toArray (scan.limit - 4) with
      | none => (none, { scan with position := 0, done := true })
      | some place => match examine memory scan.limit place with
        | .error overrun => (some (.error overrun), { scan with position := place, done := true })
        | .ok dive => (some (.ok dive), { scan with limit := place, position := place - 4 }) := by
  unfold next
  simp only [live.done_eq, Bool.false_eq_true, if_false, live.memory_eq, live.position_eq,
    recordAt_eq live.memory_eq]
  rfl

/-- **One step of the scan is one step of the walk.** -/
theorem Live.stepsTo {scan : Scan} (live : Live memory scan) :
    StepsTo memory scan (ahead memory scan.limit) := by
  have hnext := live.next_eq
  cases hseek : seek memory.toArray (scan.limit - 4) with
  | none =>
    rw [hseek] at hnext
    rw [ahead_of_seek_none hseek]
    exact .ended _ hnext rfl
  | some place =>
    rw [hseek] at hnext
    rw [ahead_of_seek hseek]
    cases hexam : examine memory scan.limit place with
    | error overrun =>
      simp only [hexam] at hnext
      exact .broken overrun _ hnext rfl
    | ok dive =>
      -- the record is the new limit, and the position has come down with it
      simp only [hexam] at hnext
      exact .found dive _ hnext ⟨live.memory_eq, rfl, live.done_eq⟩

/-- What the call of this number gives, counted from zero, when a scan is asked for record after
record. -/
def nth (scan : Scan) : Nat → Option (Except Overrun Dive)
  | 0 => scan.next.1
  | calls + 1 => nth scan.next.2 calls

theorem nth_of_done {scan : Scan} (hdone : scan.done = true) (calls : Nat) :
    scan.nth calls = none := by
  have hnext : scan.next = (none, scan) := by simp [next, hdone]
  induction calls with
  | zero => simp [nth, hnext]
  | succ calls ih => rw [nth, hnext]; exact ih

theorem nth_eq_ahead {scan : Scan} (live : Live memory scan) (calls : Nat) :
    scan.nth calls = (ahead memory scan.limit)[calls]? := by
  -- on the number of calls; the scan after a record is live again, under a lower limit
  induction calls generalizing scan with
  | zero =>
    have hstep := live.stepsTo
    generalize ahead memory scan.limit = results at hstep ⊢
    cases hstep with
    | ended rest hnext _ => simp [nth, hnext]
    | broken overrun rest hnext _ => simp [nth, hnext]
    | found dive rest hnext _ => simp [nth, hnext]
  | succ calls ih =>
    have hstep := live.stepsTo
    generalize ahead memory scan.limit = results at hstep ⊢
    cases hstep with
    | ended rest hnext hdone => simp [nth, hnext, nth_of_done hdone]
    | broken overrun rest hnext hdone => simp [nth, hnext, nth_of_done hdone]
    | found dive rest hnext hlive => simp [nth, hnext, ih hlive]

/-- Successive steps of a scan give the walk, and then nothing. -/
theorem nth_eq_walk (memory : Bytes) (calls : Nat) :
    (start memory).nth calls = (walk memory)[calls]? :=
  nth_eq_ahead (start_live memory) calls

/-- Hands the records of a walk to a visitor, until it has had enough or a record is broken. -/
def hand {σ : Type} (visitor : σ → Dive → σ × Bool) :
    List (Except Overrun Dive) → σ → σ × Option Overrun
  | [], state => (state, none)
  | .error overrun :: _, state => (state, some overrun)
  | .ok dive :: rest, state =>
    if (visitor state dive).2 then hand visitor rest (visitor state dive).1
    else ((visitor state dive).1, none)

/-- Helper: one step of a visit. -/
theorem visit_eq {σ : Type} (visitor : σ → Dive → σ × Bool) (scan : Scan) (state : σ) :
    scan.visit visitor state = match scan.next with
      | (none, _) => (state, none)
      | (some (.error overrun), _) => (state, some overrun)
      | (some (.ok dive), rest) =>
        if (visitor state dive).2 then rest.visit visitor (visitor state dive).1
        else ((visitor state dive).1, none) := by
  rw [visit]
  split
  · rename_i hnext
    rw [hnext]
  · rename_i hnext
    rw [hnext]
  · rename_i dive rest hnext
    rw [hnext]
    cases hgo : visitor state dive with
    | mk state' more => cases more <;> simp [hgo]

/-- A visitor of a scan gets the records of the walk. -/
theorem visit_eq_hand {σ : Type} (visitor : σ → Dive → σ × Bool) {scan : Scan}
    (live : Live memory scan) (state : σ) :
    scan.visit visitor state = hand visitor (ahead memory scan.limit) state := by
  -- on the position, which every record brings down
  induction hsize : scan.position using Nat.strong_induction_on generalizing scan state with
  | _ position ih =>
    have hstep := live.stepsTo
    rw [visit_eq]
    generalize ahead memory scan.limit = results at hstep ⊢
    cases hstep with
    | ended rest hnext _ => simp only [hnext, hand]
    | broken overrun rest hnext _ => simp only [hnext, hand]
    | found dive rest hnext hlive =>
      have hlt : rest.position < position := hsize ▸ next_position_lt hnext
      simp only [hnext, hand, ih _ hlt hlive _ rfl]

theorem extract_eq_hand {σ : Type} (visitor : σ → Dive → σ × Bool) (state : σ) :
    Dive.extract memory visitor state = hand visitor (walk memory) state :=
  visit_eq_hand visitor (start_live memory) state

/-- A visitor that keeps every dive and never has had enough gets them all. -/
theorem hand_keep (dives kept : List Dive) (overrun : Option Overrun) :
    hand (fun kept dive => (dive :: kept, true)) (resultsOf dives overrun) kept =
      (dives.reverse ++ kept, overrun) := by
  induction dives generalizing kept with
  | nil => cases overrun <;> rfl
  | cons dive rest ih =>
    rw [resultsOf, List.map_cons, List.cons_append, hand, if_pos rfl, ← resultsOf, ih,
      List.reverse_cons, List.append_assoc]
    rfl

theorem extract_keep {dives : List Dive} {overrun : Option Overrun}
    (h : walk memory = resultsOf dives overrun) :
    Dive.extract memory (fun kept dive => (dive :: kept, true)) [] = (dives.reverse, overrun) := by
  rw [extract_eq_hand, h, hand_keep, List.append_nil]

/-- The listing of a dump has all results of the walk. -/
theorem all_eq_iff {dives : List Dive} {overrun : Option Overrun} :
    Dive.all memory = (dives, overrun) ↔ walk memory = resultsOf dives overrun := by
  have hall : ∀ found broken, walk memory = resultsOf found broken →
      Dive.all memory = (found, broken) := by
    intro found broken hwalk
    simp only [Dive.all, extract_keep hwalk, List.reverse_reverse]
  constructor
  · intro h
    obtain ⟨found, broken, hwalk⟩ :=
      walkFrom_eq_resultsOf memory memory.length (placesBelow memory memory.length)
    obtain ⟨rfl, rfl⟩ := Prod.mk.inj ((hall found broken hwalk).symm.trans h)
    exact hwalk
  · exact hall dives overrun

theorem walk_eq_all (memory : Bytes) :
    walk memory = resultsOf (Dive.all memory).1 (Dive.all memory).2 :=
  all_eq_iff.mp rfl

/-! ## §4 What the walk reports and what it passes over -/

/-- Everything that is reported stands at a marker that ends below the limit. -/
theorem placeOf_mem_walkFrom {limit : Nat} {places : List Nat} {result : Except Overrun Dive}
    (h : result ∈ walkFrom memory limit places) : placeOf result ∈ places := by
  -- the limit changes on the way, so the claim is about all limits
  induction places generalizing limit with
  | nil => simp [walkFrom] at h
  | cons place below ih =>
    rw [walkFrom] at h
    split at h
    · exact List.mem_cons_of_mem _ (ih h)
    · split at h
      · -- the broken record is the last result
        rename_i overrun hexam
        obtain rfl : result = .error overrun := by simpa using h
        simp [placeOf, examine_error hexam]
      · rename_i dive hexam
        rcases List.mem_cons.mp h with rfl | h
        · simp [placeOf, examine_ok hexam]
        · exact List.mem_cons_of_mem _ (ih h)

/-- A place under a limit is reported, or it ends at the limit or at a record that is reported, or
a broken record above it ends the walk. -/
theorem mem_walkFrom_cases {limit bound : Nat}
    (hfits : ∀ p, p < bound → MarkedAt memory p → p + 4 ≤ limit)
    (hplace : place < bound) (hmark : MarkedAt memory place) :
    (∃ result ∈ walkFrom memory limit (placesBelow memory bound), placeOf result = place) ∨
      (place + 4 = limit ∨
        ∃ dive, .ok dive ∈ walkFrom memory limit (placesBelow memory bound) ∧
          place + 4 = dive.offset) ∨
      (∃ overrun, .error overrun ∈ walkFrom memory limit (placesBelow memory bound) ∧
        place < overrun.offset) := by
  -- `hfits` is what the induction carries along: two markers never overlap, so it holds again below
  -- a record that has become the limit
  induction bound generalizing limit with
  | zero => omega
  | succ bound ih =>
    have hfits' : ∀ p, p < bound → MarkedAt memory p → p + 4 ≤ limit :=
      fun p hp => hfits p (by omega)
    rw [placesBelow_succ]
    by_cases hbound : MarkedAt memory bound
    · rw [if_pos hbound, walkFrom]
      have hbelow : place < bound → ∀ p, p < bound → MarkedAt memory p → p + 4 ≤ bound :=
        fun _ p hp hpm => hpm.add_four_le hbound hp
      split
      · rename_i hskip
        rcases Nat.lt_succ_iff_lt_or_eq.mp hplace with hlt | rfl
        · exact ih hfits' hlt
        · -- the marker at the bound itself ends at the limit, since it does not end above it
          exact Or.inr (Or.inl (Or.inl (by have := hfits place (by omega) hmark; omega)))
      · split
        · rename_i overrun hexam
          have hoff := examine_error hexam
          rcases Nat.lt_succ_iff_lt_or_eq.mp hplace with hlt | rfl
          · -- the walk has ended above the place
            exact Or.inr (Or.inr ⟨overrun, by simp, by omega⟩)
          · exact Or.inl ⟨.error overrun, by simp, hoff⟩
        · rename_i dive hexam
          have hoff := examine_ok hexam
          rcases Nat.lt_succ_iff_lt_or_eq.mp hplace with hlt | rfl
          · -- below the record, its own place is the limit
            rcases ih (hbelow hlt) hlt with ⟨result, hmem, h⟩ | (h | ⟨other, hmem, h⟩) |
              ⟨overrun, hmem, h⟩
            · exact Or.inl ⟨result, List.mem_cons_of_mem _ hmem, h⟩
            · -- it ends at the new limit, which is a record that is reported
              exact Or.inr (Or.inl (Or.inr ⟨dive, List.mem_cons_self .., by omega⟩))
            · exact Or.inr (Or.inl (Or.inr ⟨other, List.mem_cons_of_mem _ hmem, h⟩))
            · exact Or.inr (Or.inr ⟨overrun, List.mem_cons_of_mem _ hmem, h⟩)
          · exact Or.inl ⟨.ok dive, List.mem_cons_self .., hoff⟩
    · rw [if_neg hbound]
      have hlt : place < bound := by
        rcases Nat.lt_succ_iff_lt_or_eq.mp hplace with hlt | rfl
        · exact hlt
        · exact absurd hmark hbound
      exact ih hfits' hlt

/-- **The scan is the walk.** Successive steps of the scan of any dump give the results of the walk
in their order, and then nothing. Only markers are reported. A marker is reported, or it ends at
the end of the dump or at a record that is reported, or a broken record above it has ended the
scan. -/
theorem scan_follows_walk (memory : Bytes) :
    (∀ calls, (start memory).nth calls = (walk memory)[calls]?) ∧
      (∀ result ∈ walk memory, MarkedAt memory (placeOf result)) ∧
      ∀ place, MarkedAt memory place →
        (∃ result ∈ walk memory, placeOf result = place) ∨
          (place + 4 = memory.length ∨
            ∃ dive, .ok dive ∈ walk memory ∧ place + 4 = dive.offset) ∨
          ∃ overrun, .error overrun ∈ walk memory ∧ place < overrun.offset := by
  refine ⟨nth_eq_walk memory, fun result hmem => ?_, fun place hmark => ?_⟩
  · exact (mem_placesBelow.mp (placeOf_mem_walkFrom hmem)).2
  · -- at the start no marker ends above the limit, which is the end of the dump
    have hfits := hmark.le_length
    exact mem_walkFrom_cases (fun p _ hp => hp.le_length) (by omega) hmark

end DiveLink.Scan
