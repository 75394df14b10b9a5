import DiveLink.Proofs.Walk

/-!
# What a visitor hears of a scan

A dump can be scanned in two ways: step after step, or by a visitor that is given record after
record and says whether it wants more. A visitor keeps a state of its own, so what it says may depend
on all it was given before. The two ways tell the same.

1. `nth_of_over`: a scan that reported a broken record, or nothing, reports nothing from then on,
   whatever state it started from.
2. `noting` is a visitor that writes down what it hears. `Tells` are the ways in which a visitor can
   be told the results of a scan, `hand_noting` says that every visit is one of them.
3. `visitor_hears_steps`: a visitor hears what the steps of the scan report, up to the first record
   after which it has had enough, and of a broken record only if that comes before.
-/

namespace DiveLink.Scan

/-! ## §1 Scans that are over -/

/-- A step that reports no record is the last one that reports anything. -/
theorem done_of_next {scan : Scan} (h : ∀ dive, scan.next.1 ≠ some (.ok dive)) :
    scan.next.2.done = true := by
  unfold next at h ⊢
  split
  · assumption
  · rename_i hlive
    rw [if_neg hlive] at h
    cases hseek : seek scan.memory scan.position with
    | none => rfl
    | some place =>
      cases hrecord : scan.recordAt place with
      | error overrun => simp only [hrecord]
      | ok dive =>
        -- a record would have been reported
        simp only [hseek, hrecord, ne_eq, Option.some.injEq, Except.ok.injEq] at h
        exact absurd rfl (h dive)

/-- **Behind a broken record, and behind the end, a scan reports nothing.** -/
theorem nth_of_over {scan : Scan} {call later : Nat}
    (h : ∀ dive, scan.nth call ≠ some (.ok dive)) (hlater : call < later) :
    scan.nth later = none := by
  -- on the calls before; the scan may be in any state
  obtain ⟨behind, rfl⟩ := Nat.exists_eq_succ_of_ne_zero (by omega : later ≠ 0)
  induction call generalizing scan behind with
  | zero => exact nth_of_done (done_of_next h) behind
  | succ call ih =>
    obtain ⟨behind, rfl⟩ := Nat.exists_eq_succ_of_ne_zero (by omega : behind ≠ 0)
    have hnext : ∀ dive, scan.next.2.nth call ≠ some (.ok dive) := h
    exact ih hnext behind (by omega)

theorem eq_of_nth_error {scan : Scan} {call other : Nat} {overrun otherOverrun : Overrun}
    (h : scan.nth call = some (.error overrun))
    (hother : scan.nth other = some (.error otherOverrun)) : call = other := by
  have hover : ∀ {earlier later : Nat} {first second : Overrun}, earlier < later →
      scan.nth earlier = some (.error first) → scan.nth later ≠ some (.error second) := by
    intro earlier later first second hlt hfirst hsecond
    have hnone : scan.nth later = none := nth_of_over (by simp [hfirst]) hlt
    simp [hnone] at hsecond
  rcases Nat.lt_trichotomy call other with hlt | heq | hlt
  · exact absurd hother (hover hlt h)
  · exact heq
  · exact absurd h (hover hlt hother)

/-! ## §2 Visitors that write down what they hear -/

/-- A record that a visitor was given, and whether it wanted more after it. -/
structure Heard where
  dive : Dive
  more : Bool

section

variable {σ : Type} (visitor : σ → Dive → σ × Bool)

/-- The visitor that also writes down what it hears, in the order in which it hears it. -/
def noting (state : σ × List Heard) (dive : Dive) : (σ × List Heard) × Bool :=
  (((visitor state.1 dive).1, state.2 ++ [⟨dive, (visitor state.1 dive).2⟩]),
    (visitor state.1 dive).2)

/-- The state of a visitor that was given these records, one after the other. -/
def stateAfter (state : σ) (dives : List Dive) : σ :=
  dives.foldl (fun state dive => (visitor state dive).1) state

/-- The ways in which a visitor is told results: what it hears of them, the state in which that
leaves it, and the broken record with which it ends. -/
inductive Tells : List (Except Overrun Dive) → σ → List Heard → σ × Option Overrun → Prop where
  /-- Nothing is left to tell. -/
  | ended (state : σ) : Tells [] state [] (state, none)
  /-- The next record is broken. -/
  | broken (overrun : Overrun) (rest : List (Except Overrun Dive)) (state : σ) :
      Tells (.error overrun :: rest) state [] (state, some overrun)
  /-- After the next record the visitor has had enough. -/
  | enough {dive : Dive} {state : σ} (rest : List (Except Overrun Dive)) :
      (visitor state dive).2 = false →
      Tells (.ok dive :: rest) state [⟨dive, false⟩] ((visitor state dive).1, none)
  /-- After the next record it wants more. -/
  | more {dive : Dive} {rest : List (Except Overrun Dive)} {state : σ} {heard : List Heard}
      {last : σ × Option Overrun} :
      (visitor state dive).2 = true → Tells rest (visitor state dive).1 heard last →
      Tells (.ok dive :: rest) state (⟨dive, true⟩ :: heard) last

end

section

variable {σ : Type} {visitor : σ → Dive → σ × Bool}

/-- **Every visit tells its results in one of these ways, and the notes do not disturb it.** -/
theorem hand_noting (visitor : σ → Dive → σ × Bool) (results : List (Except Overrun Dive))
    (state : σ) (before : List Heard) :
    ∃ heard, hand (noting visitor) results (state, before) =
        (((hand visitor results state).1, before ++ heard), (hand visitor results state).2) ∧
      Tells visitor results state heard (hand visitor results state) := by
  -- on the results; what is written down next goes behind what is there
  induction results generalizing state before with
  | nil => exact ⟨[], by simp [hand], .ended state⟩
  | cons result rest ih =>
    cases result with
    | error overrun => exact ⟨[], by simp [hand], .broken overrun rest state⟩
    | ok dive =>
      cases hmore : (visitor state dive).2 with
      | false =>
        refine ⟨[⟨dive, false⟩], ?_, ?_⟩
        · simp [hand, noting, hmore]
        · simpa [hand, hmore] using Tells.enough rest hmore
      | true =>
        -- the rest is told to the visitor as this record leaves it
        obtain ⟨heard, hhand, htells⟩ :=
          ih (visitor state dive).1 (before ++ [⟨dive, true⟩])
        refine ⟨⟨dive, true⟩ :: heard, ?_, ?_⟩
        · simp only [hand, noting, hmore, if_true, hhand, List.append_assoc, List.singleton_append]
        · simp only [hand, hmore, if_true]
          exact .more hmore htells

namespace Tells

variable {results : List (Except Overrun Dive)} {state : σ} {heard : List Heard}
  {last : σ × Option Overrun}

/-- The visitor ends in the state in which the records leave it. -/
theorem state_eq (h : Tells visitor results state heard last) :
    last.1 = stateAfter visitor state (heard.map Heard.dive) := by
  induction h with
  | ended state => rfl
  | broken overrun rest state => rfl
  | enough rest henough => rfl
  | more hmore hrest ih => exact ih

/-- What is heard is the next result, with the answer of the visitor as it then was, and an answer
that it has had enough is the last one. -/
theorem at_place (h : Tells visitor results state heard last) {place : Nat} {note : Heard}
    (hnote : heard[place]? = some note) :
    results[place]? = some (.ok note.dive) ∧
      note.more = (visitor (stateAfter visitor state ((heard.take place).map Heard.dive))
        note.dive).2 ∧
      (note.more = false → place + 1 = heard.length) := by
  induction h generalizing place with
  | ended state => simp at hnote
  | broken overrun rest state => simp at hnote
  | enough rest henough =>
    cases place with
    | zero =>
      obtain rfl := Option.some.inj hnote
      exact ⟨rfl, henough.symm, fun _ => rfl⟩
    | succ place => simp at hnote
  | more hmore hrest ih =>
    cases place with
    | zero =>
      obtain rfl := Option.some.inj hnote
      exact ⟨rfl, hmore.symm, fun h => by simp at h⟩
    | succ place =>
      obtain ⟨hresult, hanswer, hlast⟩ := ih hnote
      refine ⟨hresult, hanswer, fun henough => ?_⟩
      rw [List.length_cons, hlast henough]

/-- A visit ends when the visitor has had enough, or where the results have no record left. -/
theorem at_end (h : Tells visitor results state heard last) :
    (∃ note ∈ heard, note.more = false) ∧ last.2 = none ∨
      (∀ note ∈ heard, note.more = true) ∧ results[heard.length]? = last.2.map .error := by
  induction h with
  | ended state => exact .inr ⟨by simp, rfl⟩
  | broken overrun rest state => exact .inr ⟨by simp, rfl⟩
  | enough rest henough => exact .inl ⟨⟨_, List.mem_singleton_self _, rfl⟩, rfl⟩
  | more hmore hrest ih =>
    rcases ih with ⟨⟨note, hmem, henough⟩, hlast⟩ | ⟨hall, hlast⟩
    · exact .inl ⟨⟨note, List.mem_cons_of_mem _ hmem, henough⟩, hlast⟩
    · exact .inr ⟨List.forall_mem_cons.mpr ⟨rfl, hall⟩, hlast⟩

/-- Behind what a visitor heard that always wanted more there is no record. -/
theorem getElem?_length (h : Tells visitor results state heard last)
    (hmore : ∀ note ∈ heard, note.more = true) :
    results[heard.length]? = last.2.map .error := by
  rcases h.at_end with ⟨⟨note, hmem, henough⟩, -⟩ | ⟨-, hlast⟩
  · rw [hmore note hmem] at henough
    cases henough
  · exact hlast

end Tells

/-! ## §3 Agreement -/

namespace Tells

variable {memory : Bytes} {state : σ} {heard : List Heard} {last : σ × Option Overrun}

/-- A step reports nothing behind what a visitor heard that always wanted more. -/
theorem le_length (h : Tells visitor (walk memory) state heard last) {place : Nat}
    {result : Except Overrun Dive} (hresult : (start memory).nth place = some result)
    (hmore : ∀ note ∈ heard.take place, note.more = true) : place ≤ heard.length := by
  -- behind what was heard there is no record, and a step behind that reports nothing
  by_contra hbehind
  rw [List.take_of_length_le (by omega)] at hmore
  have hover : ∀ dive, (start memory).nth heard.length ≠ some (.ok dive) := by
    rw [nth_eq_walk, h.getElem?_length hmore]
    cases last.2 <;> simp
  rw [nth_of_over hover (by omega)] at hresult
  cases hresult

/-- As long as the visitor wants more, it hears of the next record. -/
theorem lt_length (h : Tells visitor (walk memory) state heard last) {place : Nat} {dive : Dive}
    (hdive : (start memory).nth place = some (.ok dive))
    (hmore : ∀ note ∈ heard.take place, note.more = true) : place < heard.length := by
  refine Nat.lt_of_le_of_ne (h.le_length hdive hmore) ?_
  rintro rfl
  rw [List.take_length] at hmore
  rw [nth_eq_walk, h.getElem?_length hmore] at hdive
  cases hoverrun : last.2 <;> simp [hoverrun] at hdive

/-- A visit fails with a broken record that comes before the visitor has had enough. -/
theorem broken_iff (h : Tells visitor (walk memory) state heard last) {overrun : Overrun} :
    last.2 = some overrun ↔ ∃ place, (start memory).nth place = some (.error overrun) ∧
      ∀ note ∈ heard.take place, note.more = true := by
  constructor
  · intro hoverrun
    refine ⟨heard.length, ?_⟩
    rcases h.at_end with ⟨-, hnone⟩ | ⟨hall, hlast⟩
    · rw [hnone] at hoverrun
      cases hoverrun
    · rw [nth_eq_walk, hlast, hoverrun, List.take_length]
      exact ⟨rfl, hall⟩
  · rintro ⟨place, hbroken, hmore⟩
    -- it is not one of the records that were heard, so it is the result behind them
    have hplace : place = heard.length := by
      refine Nat.le_antisymm (h.le_length hbroken hmore) (Nat.le_of_not_lt fun hlt => ?_)
      obtain ⟨hdive, -⟩ := h.at_place (List.getElem?_eq_getElem hlt)
      rw [← nth_eq_walk, hbroken] at hdive
      cases hdive
    rw [hplace, List.take_length] at hmore
    rw [nth_eq_walk, hplace, h.getElem?_length hmore] at hbroken
    simpa using hbroken

end Tells

end

/-- **A visitor hears what the steps of a scan report.** Whatever the dump, and whatever the visitor
makes of what it was given before: it is given the records that successive steps report, in their
order, until it has had enough or no record is left. The visit fails with a broken record exactly if
a step reports that record before the visitor has had enough. Successive steps report at most one
broken record, and nothing behind it or behind the end. -/
theorem visitor_hears_steps {σ : Type} (memory : Bytes) (visitor : σ → Dive → σ × Bool)
    (state : σ) :
    let noted := Dive.extract memory (noting visitor) (state, [])
    let heard := noted.1.2
    Dive.extract memory visitor state = (noted.1.1, noted.2) ∧
      noted.1.1 = stateAfter visitor state (heard.map Heard.dive) ∧
      (∀ place note, heard[place]? = some note →
        (start memory).nth place = some (.ok note.dive) ∧
          note.more = (visitor (stateAfter visitor state ((heard.take place).map Heard.dive))
            note.dive).2 ∧
          (note.more = false → place + 1 = heard.length)) ∧
      (∀ place dive, (start memory).nth place = some (.ok dive) →
        (∀ note ∈ heard.take place, note.more = true) → place < heard.length) ∧
      (∀ overrun, noted.2 = some overrun ↔
        ∃ place, (start memory).nth place = some (.error overrun) ∧
          ∀ note ∈ heard.take place, note.more = true) ∧
      (∀ call other first second, (start memory).nth call = some (.error first) →
        (start memory).nth other = some (.error second) → call = other) ∧
      ∀ call later, (∀ dive, (start memory).nth call ≠ some (.ok dive)) → call < later →
        (start memory).nth later = none := by
  intro noted heard
  -- the visit is told the walk, whose results are what the steps report
  obtain ⟨notes, hnoted, htells⟩ := hand_noting visitor (walk memory) state []
  rw [← extract_eq_hand, ← extract_eq_hand] at hnoted
  rw [← extract_eq_hand] at htells
  obtain rfl : notes = heard := (congrArg (fun last => last.1.2) hnoted).symm
  have hlast : Dive.extract memory visitor state = (noted.1.1, noted.2) :=
    (congrArg (fun last => (last.1.1, last.2)) hnoted).symm
  rw [hlast] at htells
  refine ⟨hlast, htells.state_eq, ?_, ?_, ?_, ?_, ?_⟩
  · intro place note hnote
    rw [nth_eq_walk]
    exact htells.at_place hnote
  · intro place dive hdive hmore
    exact htells.lt_length hdive hmore
  · intro overrun
    exact htells.broken_iff
  · intro call other first second hfirst hsecond
    exact eq_of_nth_error hfirst hsecond
  · intro call later hover hlater
    exact nth_of_over hover hlater

end DiveLink.Scan
