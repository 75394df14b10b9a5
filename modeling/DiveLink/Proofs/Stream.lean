import DiveLink.Link.Transfer
import Mathlib.Tactic.Common
import Mathlib.Tactic.Ring

/-!
# What comes in over a link

An answer is the front of a stream: of the payloads of the reports that are read one after the
other. This file says so for every link, whatever it reads and writes.

1. `Reads` is a run of sound reports, `Breaks` a read that gives none.
2. `Gathers` and `BreaksOff` are the two ways in which the receipt of an answer can end,
   `receive_spec` says that it ends in one of them.
3. `Answered` and `Unanswered` are the two ways in which a transfer can end, with `transfer_spec`.
4. `Talks` and `Fails` say so for one command after the other.
5. An exchange over a given link ends in one way only.
6. `Lasting` properties of a link are kept by every exchange.
-/

namespace DiveLink

variable {σ : Type} [ReportLink σ]

/-! ## §1 Reports in a row -/

/-- Reads that give sound reports with these payloads, one after the other. -/
inductive Reads : σ → List Bytes → σ → Prop where
  /-- Nothing is read. -/
  | nil (link : σ) : Reads link [] link
  /-- A sound report, and then others. -/
  | cons {link mid rest : σ} {reading : Reading} {payload : Bytes} {payloads : List Bytes} :
      ReportLink.read link = (.ok reading, mid) → reading.payload = .ok payload →
      Reads mid payloads rest → Reads link (payload :: payloads) rest

/-- A read that gives no payload, and its fault. -/
inductive Breaks : σ → Fault → σ → Prop where
  /-- The link fails. -/
  | link {link rest : σ} {fault : Fault} :
      ReportLink.read link = (.error fault, rest) → Breaks link fault rest
  /-- The report is not sound. -/
  | report {link rest : σ} {reading : Reading} {fault : Fault} :
      ReportLink.read link = (.ok reading, rest) → reading.payload = .error fault →
      Breaks link fault rest

/-! ## §2 The receipt of an answer -/

/-- The least run of reports that brings `size` bytes. -/
structure Gathers (link : σ) (size : Nat) (payloads : List Bytes) (rest : σ) : Prop where
  reads : Reads link payloads rest
  size_le : size ≤ payloads.flatten.length
  least : ∀ front last, payloads = front ++ [last] → front.flatten.length < size

/-- A run of reports that a fault ends before `size` bytes are there. -/
structure BreaksOff (link : σ) (size : Nat) (payloads : List Bytes) (fault : Fault) (rest : σ) :
    Prop where
  length_lt : payloads.flatten.length < size
  reads : ∃ last, Reads link payloads last ∧ Breaks last fault rest

theorem Gathers.zero (link : σ) : Gathers link 0 [] link :=
  ⟨.nil link, Nat.le_refl _, fun front last h => by simp at h⟩

/-- What is gathered fills the answer. -/
theorem Gathers.length_take {link rest : σ} {size : Nat} {payloads : List Bytes}
    (h : Gathers link size payloads rest) : (payloads.flatten.take size).length = size := by
  rw [List.length_take]
  exact Nat.min_eq_left h.size_le

theorem Gathers.cons {link mid rest : σ} {size : Nat} {reading : Reading} {payload : Bytes}
    {payloads : List Bytes} (hread : ReportLink.read link = (.ok reading, mid))
    (hpayload : reading.payload = .ok payload) (hsize : 0 < size)
    (hrest : Gathers mid (size - payload.length) payloads rest) :
    Gathers link size (payload :: payloads) rest := by
  have hle := hrest.size_le
  refine ⟨.cons hread hpayload hrest.reads, ?_, ?_⟩
  · rw [List.flatten_cons, List.length_append]
    omega
  · -- what is left without the last report is too little, here and behind the first report alike
    intro front last hfront
    cases front with
    | nil => simpa using hsize
    | cons head front =>
      obtain ⟨rfl, htail⟩ := List.cons.inj hfront
      have := hrest.least front last htail
      rw [List.flatten_cons, List.length_append]
      omega

theorem BreaksOff.cons {link mid rest : σ} {size : Nat} {reading : Reading} {payload : Bytes}
    {payloads : List Bytes} {fault : Fault} (hread : ReportLink.read link = (.ok reading, mid))
    (hpayload : reading.payload = .ok payload)
    (hrest : BreaksOff mid (size - payload.length) payloads fault rest) :
    BreaksOff link size (payload :: payloads) fault rest := by
  have hlt := hrest.length_lt
  obtain ⟨last, hreads, hbreaks⟩ := hrest.reads
  refine ⟨?_, last, .cons hread hpayload hreads, hbreaks⟩
  rw [List.flatten_cons, List.length_append]
  omega

/-- How the receipt of an answer of `size` bytes can end. -/
inductive Received (link : σ) (size : Nat) (receipt : Receipt σ) : Prop where
  /-- The bytes are the front of what came in. -/
  | complete (payloads : List Bytes) :
      Gathers link size payloads receipt.link → receipt.received = payloads.flatten.take size →
      receipt.fault = none → Received link size receipt
  /-- The bytes are all that came in before the fault. -/
  | brokenOff (payloads : List Bytes) (fault : Fault) :
      BreaksOff link size payloads fault receipt.link → receipt.received = payloads.flatten →
      receipt.fault = some fault → Received link size receipt

/-- **An answer is the front of the stream that the reports carry.** -/
theorem receive_spec (link : σ) (size : Nat) : Received link size (receive link size) := by
  fun_induction receive link size with
  | case1 link => exact .complete [] (.zero link) (by simp) rfl
  | case2 link size hsize fault rest hread =>
    -- the first read fails
    exact .brokenOff [] fault ⟨by simpa using Nat.pos_of_ne_zero hsize, link, .nil link,
      .link hread⟩ rfl rfl
  | case3 link size hsize reading rest hread fault hpayload =>
    -- the first report is not sound
    exact .brokenOff [] fault ⟨by simpa using Nat.pos_of_ne_zero hsize, link, .nil link,
      .report hread hpayload⟩ rfl rfl
  | case4 link size hsize reading rest hread payload hpayload receipt ih =>
    cases ih with
    | complete payloads hgathers hreceived hfault =>
      -- the last report may bring more than is needed, and only the front of it is taken
      refine .complete (payload :: payloads)
        (hgathers.cons hread hpayload (Nat.pos_of_ne_zero hsize)) ?_ hfault
      rw [List.flatten_cons, List.take_append, ← hreceived]
    | brokenOff payloads fault hbreaks hreceived hfault =>
      refine .brokenOff (payload :: payloads) fault (hbreaks.cons hread hpayload) ?_ hfault
      -- what came in fits, so nothing of the first payload is cut
      have hfits : payload.length ≤ size := by
        have := hbreaks.length_lt
        omega
      rw [List.flatten_cons, ← hreceived, List.take_of_length_le hfits]

omit [ReportLink σ] in
/-- A receipt over a buffer of zeros: what did not come in is still zero. -/
theorem Receipt.over_replicate (receipt : Receipt σ) (size : Nat) :
    receipt.over (List.replicate size 0) =
      receipt.received ++ List.replicate (size - receipt.received.length) 0 := by
  simp [Receipt.over]

omit [ReportLink σ] in
/-- A complete answer leaves nothing of the buffer. -/
theorem Receipt.over_of_length_eq {receipt : Receipt σ} {buffer : Bytes}
    (h : receipt.received.length = buffer.length) : receipt.over buffer = receipt.received := by
  simp [Receipt.over, h]

/-! ## §3 Transfers -/

/-- The packet of a command goes out whole. -/
def Sends (link : σ) (command : Bytes) (rest : σ) : Prop :=
  command.length ≤ commandLimit ∧
    ReportLink.write link (UInt8.ofNat command.length :: command) =
      (.ok (command.length + 1), rest)

/-- The packet of a command does not go out whole. -/
inductive Unsent (link : σ) (command : Bytes) : Fault → σ → Prop where
  /-- The command is too long, and nothing is written. -/
  | tooLong : commandLimit < command.length →
      Unsent link command (.invalidArgument (.commandTooLong command.length)) link
  /-- The link fails. -/
  | refused {fault : Fault} {rest : σ} : command.length ≤ commandLimit →
      ReportLink.write link (UInt8.ofNat command.length :: command) = (.error fault, rest) →
      Unsent link command fault rest
  /-- A part of the packet goes out. -/
  | short {written : Nat} {rest : σ} : command.length ≤ commandLimit →
      ReportLink.write link (UInt8.ofNat command.length :: command) = (.ok written, rest) →
      written ≠ command.length + 1 →
      Unsent link command (.incompleteTransfer (command.length + 1) written) rest

/-- A command goes out and its answer comes in. -/
structure Answered (link : σ) (command : Bytes) (size : Nat) (answer : Bytes) (rest : σ) :
    Prop where
  spec : ∃ mid payloads, Sends link command mid ∧ Gathers mid size payloads rest ∧
    answer = payloads.flatten.take size

/-- A command does not go out, or its answer does not come in. -/
inductive Unanswered (link : σ) (command : Bytes) (size : Nat) (fault : Fault) (rest : σ) :
    Prop where
  | unsent : Unsent link command fault rest → Unanswered link command size fault rest
  | brokenOff {mid : σ} {payloads : List Bytes} : Sends link command mid →
      BreaksOff mid size payloads fault rest → Unanswered link command size fault rest

/-- An answer has the size that was asked for. -/
theorem Answered.length_eq {link rest : σ} {command answer : Bytes} {size : Nat}
    (h : Answered link command size answer rest) : answer.length = size := by
  obtain ⟨mid, payloads, _, hgathers, rfl⟩ := h.spec
  exact hgathers.length_take

/-- How a transfer can end. -/
inductive Transferred (link : σ) (command : Bytes) (size : Nat) (receipt : Receipt σ) : Prop where
  | answered : Answered link command size receipt.received receipt.link →
      receipt.fault = none → Transferred link command size receipt
  | unanswered (fault : Fault) : Unanswered link command size fault receipt.link →
      receipt.fault = some fault → Transferred link command size receipt

theorem send_spec (link : σ) (command : Bytes) :
    (∃ rest, send link command = (.ok (), rest) ∧ Sends link command rest) ∨
      ∃ fault rest, send link command = (.error fault, rest) ∧ Unsent link command fault rest := by
  unfold send packet
  by_cases hlong : commandLimit < command.length
  · exact Or.inr ⟨_, _, by simp [hlong], .tooLong hlong⟩
  · rw [if_neg hlong]
    have hfits : command.length ≤ commandLimit := Nat.le_of_not_lt hlong
    -- of a packet that fits, the link says how much of it went out
    cases hwrite : ReportLink.write link (UInt8.ofNat command.length :: command) with
    | mk result rest =>
      cases result with
      | error fault => exact Or.inr ⟨fault, rest, by simp [hwrite], .refused hfits hwrite⟩
      | ok written =>
        by_cases hwhole : written = command.length + 1
        · subst hwhole
          exact Or.inl ⟨rest, by simp [hwrite], hfits, hwrite⟩
        · exact Or.inr ⟨_, rest, by simp [hwrite, hwhole], .short hfits hwrite hwhole⟩

/-- **A transfer is answered in full, or it fails with the first fault that it meets.** -/
theorem transfer_spec (link : σ) (command : Bytes) (size : Nat) :
    Transferred link command size (transfer link command size) := by
  unfold transfer
  rcases send_spec link command with ⟨mid, hsend, hsends⟩ | ⟨fault, rest, hsend, hunsent⟩
  · rw [hsend]
    cases receive_spec mid size with
    | complete payloads hgathers hreceived hfault =>
      exact .answered ⟨mid, payloads, hsends, hgathers, hreceived⟩ hfault
    | brokenOff payloads fault hbreaks _ hfault =>
      exact .unanswered fault (.brokenOff hsends hbreaks) hfault
  · rw [hsend]
    exact .unanswered fault (.unsent hunsent) rfl

/-! ## §4 One transfer after the other -/

/-- Commands with the sizes of their answers are answered one after the other. -/
inductive Talks : σ → List (Bytes × Nat) → List Bytes → σ → Prop where
  | nil (link : σ) : Talks link [] [] link
  | cons {link mid rest : σ} {command answer : Bytes} {size : Nat} {script : List (Bytes × Nat)}
      {answers : List Bytes} : Answered link command size answer mid →
      Talks mid script answers rest →
      Talks link ((command, size) :: script) (answer :: answers) rest

/-- One of some commands is not answered, and those before it are. -/
inductive Fails : σ → List (Bytes × Nat) → Fault → σ → Prop where
  /-- It is the first of them. -/
  | here {link rest : σ} {command : Bytes} {size : Nat} {script : List (Bytes × Nat)}
      {fault : Fault} : Unanswered link command size fault rest →
      Fails link ((command, size) :: script) fault rest
  /-- It is a later one. -/
  | later {link mid rest : σ} {command answer : Bytes} {size : Nat} {script : List (Bytes × Nat)}
      {fault : Fault} : Answered link command size answer mid → Fails mid script fault rest →
      Fails link ((command, size) :: script) fault rest

theorem Talks.append {link mid rest : σ} {front back : List (Bytes × Nat)}
    {answers more : List Bytes} (hfront : Talks link front answers mid)
    (hback : Talks mid back more rest) : Talks link (front ++ back) (answers ++ more) rest := by
  induction hfront with
  | nil => exact hback
  | cons hanswered _ ih => exact .cons hanswered (ih hback)

theorem Talks.append_fails {link mid rest : σ} {front back : List (Bytes × Nat)}
    {answers : List Bytes} {fault : Fault} (hfront : Talks link front answers mid)
    (hback : Fails mid back fault rest) : Fails link (front ++ back) fault rest := by
  induction hfront with
  | nil => exact hback
  | cons hanswered _ ih => exact .later hanswered (ih hback)

theorem Fails.append {link rest : σ} {front : List (Bytes × Nat)} {fault : Fault}
    (hfront : Fails link front fault rest) (back : List (Bytes × Nat)) :
    Fails link (front ++ back) fault rest := by
  induction hfront with
  | here hunanswered => exact .here hunanswered
  | later hanswered _ ih => exact .later hanswered ih

/-! ## §5 Every exchange has one ending -/

theorem Reads.head {link rest mid : σ} {payload : Bytes} {payloads : List Bytes}
    {reading : Reading} (h : Reads link (payload :: payloads) rest)
    (hread : ReportLink.read link = (.ok reading, mid)) :
    reading.payload = .ok payload ∧ Reads mid payloads rest := by
  cases h with
  | cons hread' hpayload hrest =>
    rw [hread] at hread'
    obtain ⟨rfl, rfl⟩ : reading = _ ∧ mid = _ := by simpa using hread'
    exact ⟨hpayload, hrest⟩

/-- Of two runs of reports over a link, one goes on where the other ends. -/
theorem Reads.comparable {link rest₁ rest₂ : σ} {payloads₁ payloads₂ : List Bytes}
    (h₁ : Reads link payloads₁ rest₁) (h₂ : Reads link payloads₂ rest₂) :
    (∃ more, payloads₂ = payloads₁ ++ more ∧ Reads rest₁ more rest₂) ∨
      ∃ more, payloads₁ = payloads₂ ++ more ∧ Reads rest₂ more rest₁ := by
  -- a read gives the same report to both
  induction h₁ generalizing payloads₂ with
  | nil => exact Or.inl ⟨payloads₂, rfl, h₂⟩
  | @cons link mid rest reading payload payloads hread hpayload hrest ih =>
    cases payloads₂ with
    | nil =>
      cases h₂
      exact Or.inr ⟨payload :: payloads, rfl, .cons hread hpayload hrest⟩
    | cons payload₂ payloads₂ =>
      obtain ⟨hpayload₂, hrest₂⟩ := h₂.head hread
      obtain rfl : payload = payload₂ := by simpa [hpayload] using hpayload₂
      rcases ih hrest₂ with ⟨more, rfl, hmore⟩ | ⟨more, rfl, hmore⟩
      · exact Or.inl ⟨more, rfl, hmore⟩
      · exact Or.inr ⟨more, rfl, hmore⟩

/-- Behind a run that brings enough, the least run does not go on. -/
theorem Gathers.not_longer {link rest : σ} {size : Nat} {payloads more : List Bytes}
    (h : Gathers link size (payloads ++ more) rest) (hsize : size ≤ payloads.flatten.length) :
    more = [] := by
  cases hmore : more.reverse with
  | nil => simpa using hmore
  | cons last front =>
    -- without its last report the run would bring too little
    obtain rfl : more = front.reverse ++ [last] := by simpa using congrArg List.reverse hmore
    have hlt := h.least (payloads ++ front.reverse) last (by rw [List.append_assoc])
    rw [List.flatten_append, List.length_append] at hlt
    omega

theorem Gathers.unique {link rest₁ rest₂ : σ} {size : Nat} {payloads₁ payloads₂ : List Bytes}
    (h₁ : Gathers link size payloads₁ rest₁) (h₂ : Gathers link size payloads₂ rest₂) :
    payloads₁ = payloads₂ ∧ rest₁ = rest₂ := by
  rcases h₁.reads.comparable h₂.reads with ⟨more, rfl, hmore⟩ | ⟨more, rfl, hmore⟩
  · obtain rfl := h₂.not_longer h₁.size_le
    cases hmore
    exact ⟨(List.append_nil _).symm, rfl⟩
  · obtain rfl := h₁.not_longer h₂.size_le
    cases hmore
    exact ⟨List.append_nil _, rfl⟩

theorem Breaks.no_reads {link rest rest' : σ} {fault : Fault} {payload : Bytes}
    {payloads : List Bytes} (h : Breaks link fault rest) :
    ¬ Reads link (payload :: payloads) rest' := by
  intro hreads
  cases h with
  | link hread =>
    cases hreads with
    | cons hread' _ _ => simp [hread] at hread'
  | report hread hfault =>
    have := (hreads.head hread).1
    simp [hfault] at this

theorem Gathers.not_breaksOff {link rest₁ rest₂ : σ} {size : Nat}
    {payloads₁ payloads₂ : List Bytes} {fault : Fault} (h₁ : Gathers link size payloads₁ rest₁)
    (h₂ : BreaksOff link size payloads₂ fault rest₂) : False := by
  have hle := h₁.size_le
  have hlt := h₂.length_lt
  obtain ⟨last, hreads, hbreaks⟩ := h₂.reads
  rcases h₁.reads.comparable hreads with ⟨more, rfl, _⟩ | ⟨more, rfl, hmore⟩
  · -- the run that breaks off would have brought enough
    rw [List.flatten_append, List.length_append] at hlt
    omega
  · -- the other run would go on over the break
    cases more with
    | nil =>
      rw [List.append_nil] at hle
      omega
    | cons payload more => exact hbreaks.no_reads hmore

theorem Breaks.unique {link rest₁ rest₂ : σ} {fault₁ fault₂ : Fault}
    (h₁ : Breaks link fault₁ rest₁) (h₂ : Breaks link fault₂ rest₂) :
    fault₁ = fault₂ ∧ rest₁ = rest₂ := by
  -- both are about the same read, and it fails or gives a report
  cases h₁ with
  | link hread₁ =>
    cases h₂ with
    | link hread₂ => simpa [hread₁] using hread₂
    | report hread₂ _ => simp [hread₁] at hread₂
  | report hread₁ hfault₁ =>
    cases h₂ with
    | link hread₂ => simp [hread₁] at hread₂
    | report hread₂ hfault₂ =>
      rw [hread₁] at hread₂
      obtain ⟨rfl, rfl⟩ := by simpa using hread₂
      rw [hfault₁] at hfault₂
      exact ⟨Except.error.inj hfault₂, rfl⟩

theorem BreaksOff.unique {link rest₁ rest₂ : σ} {size : Nat} {payloads₁ payloads₂ : List Bytes}
    {fault₁ fault₂ : Fault} (h₁ : BreaksOff link size payloads₁ fault₁ rest₁)
    (h₂ : BreaksOff link size payloads₂ fault₂ rest₂) :
    payloads₁ = payloads₂ ∧ fault₁ = fault₂ ∧ rest₁ = rest₂ := by
  obtain ⟨last₁, hreads₁, hbreaks₁⟩ := h₁.reads
  obtain ⟨last₂, hreads₂, hbreaks₂⟩ := h₂.reads
  -- neither run goes on over the break of the other
  rcases hreads₁.comparable hreads₂ with ⟨more, rfl, hmore⟩ | ⟨more, rfl, hmore⟩
  · cases more with
    | nil =>
      cases hmore
      exact ⟨(List.append_nil _).symm, hbreaks₁.unique hbreaks₂⟩
    | cons payload more => exact (hbreaks₁.no_reads hmore).elim
  · cases more with
    | nil =>
      cases hmore
      exact ⟨List.append_nil _, hbreaks₁.unique hbreaks₂⟩
    | cons payload more => exact (hbreaks₂.no_reads hmore).elim

theorem Sends.unique {link rest₁ rest₂ : σ} {command : Bytes} (h₁ : Sends link command rest₁)
    (h₂ : Sends link command rest₂) : rest₁ = rest₂ := by
  have := h₁.2.symm.trans h₂.2
  exact congrArg Prod.snd this

theorem Sends.not_unsent {link rest₁ rest₂ : σ} {command : Bytes} {fault : Fault}
    (h₁ : Sends link command rest₁) (h₂ : Unsent link command fault rest₂) : False := by
  obtain ⟨hfits, hwrite⟩ := h₁
  cases h₂ with
  | tooLong hlong => omega
  | refused _ hwrite' => simp [hwrite] at hwrite'
  | short _ hwrite' hshort =>
    rw [hwrite] at hwrite'
    exact hshort (Except.ok.inj (congrArg Prod.fst hwrite')).symm

theorem Answered.unique {link rest₁ rest₂ : σ} {command answer₁ answer₂ : Bytes} {size : Nat}
    (h₁ : Answered link command size answer₁ rest₁)
    (h₂ : Answered link command size answer₂ rest₂) : answer₁ = answer₂ ∧ rest₁ = rest₂ := by
  obtain ⟨mid₁, payloads₁, hsends₁, hgathers₁, rfl⟩ := h₁.spec
  obtain ⟨mid₂, payloads₂, hsends₂, hgathers₂, rfl⟩ := h₂.spec
  obtain rfl := hsends₁.unique hsends₂
  obtain ⟨rfl, rfl⟩ := hgathers₁.unique hgathers₂
  exact ⟨rfl, rfl⟩

theorem Answered.not_unanswered {link rest₁ rest₂ : σ} {command answer : Bytes} {size : Nat}
    {fault : Fault} (h₁ : Answered link command size answer rest₁)
    (h₂ : Unanswered link command size fault rest₂) : False := by
  obtain ⟨mid₁, payloads, hsends, hgathers, _⟩ := h₁.spec
  cases h₂ with
  | unsent hunsent => exact hsends.not_unsent hunsent
  | brokenOff hsends₂ hbreaks =>
    obtain rfl := hsends.unique hsends₂
    exact hgathers.not_breaksOff hbreaks

theorem Talks.unique {link rest₁ rest₂ : σ} {script : List (Bytes × Nat)}
    {answers₁ answers₂ : List Bytes} (h₁ : Talks link script answers₁ rest₁)
    (h₂ : Talks link script answers₂ rest₂) : answers₁ = answers₂ ∧ rest₁ = rest₂ := by
  induction h₁ generalizing answers₂ with
  | nil =>
    cases h₂
    exact ⟨rfl, rfl⟩
  | cons hanswered _ ih =>
    cases h₂ with
    | cons hanswered₂ htalks₂ =>
      obtain ⟨rfl, rfl⟩ := hanswered.unique hanswered₂
      obtain ⟨rfl, rfl⟩ := ih htalks₂
      exact ⟨rfl, rfl⟩

theorem Talks.not_fails {link rest₁ rest₂ : σ} {script : List (Bytes × Nat)}
    {answers : List Bytes} {fault : Fault} (h₁ : Talks link script answers rest₁)
    (h₂ : Fails link script fault rest₂) : False := by
  induction h₁ with
  | nil => cases h₂
  | cons hanswered _ ih =>
    cases h₂ with
    | here hunanswered => exact hanswered.not_unanswered hunanswered
    | later hanswered₂ hfails =>
      obtain ⟨rfl, rfl⟩ := hanswered.unique hanswered₂
      exact ih hfails

/-! ## §6 What an exchange keeps -/

/-- A property of links that no read and no write ends. -/
structure Lasting (keeps : σ → Prop) : Prop where
  read : ∀ link, keeps link → keeps (ReportLink.read link).2
  write : ∀ link packet, keeps link → keeps (ReportLink.write link packet).2

namespace Lasting

variable {keeps : σ → Prop} (hlasting : Lasting keeps)

include hlasting

theorem reads {link rest : σ} {payloads : List Bytes} (h : Reads link payloads rest)
    (hkeeps : keeps link) : keeps rest := by
  induction h with
  | nil => exact hkeeps
  | cons hread _ _ ih =>
    have := hlasting.read _ hkeeps
    rw [hread] at this
    exact ih this

theorem breaks {link rest : σ} {fault : Fault} (h : Breaks link fault rest)
    (hkeeps : keeps link) : keeps rest := by
  have := hlasting.read _ hkeeps
  cases h with
  | link hread => rwa [hread] at this
  | report hread _ => rwa [hread] at this

theorem breaksOff {link rest : σ} {size : Nat} {payloads : List Bytes} {fault : Fault}
    (h : BreaksOff link size payloads fault rest) (hkeeps : keeps link) : keeps rest := by
  obtain ⟨last, hreads, hbreaks⟩ := h.reads
  exact hlasting.breaks hbreaks (hlasting.reads hreads hkeeps)

theorem sends {link rest : σ} {command : Bytes} (h : Sends link command rest)
    (hkeeps : keeps link) : keeps rest := by
  have := hlasting.write _ (UInt8.ofNat command.length :: command) hkeeps
  rwa [h.2] at this

theorem unsent {link rest : σ} {command : Bytes} {fault : Fault}
    (h : Unsent link command fault rest) (hkeeps : keeps link) : keeps rest := by
  have := hlasting.write _ (UInt8.ofNat command.length :: command) hkeeps
  cases h with
  | tooLong _ => exact hkeeps
  | refused _ hwrite => rwa [hwrite] at this
  | short _ hwrite _ => rwa [hwrite] at this

theorem answered {link rest : σ} {command answer : Bytes} {size : Nat}
    (h : Answered link command size answer rest) (hkeeps : keeps link) : keeps rest := by
  obtain ⟨mid, payloads, hsends, hgathers, _⟩ := h.spec
  exact hlasting.reads hgathers.reads (hlasting.sends hsends hkeeps)

theorem unanswered {link rest : σ} {command : Bytes} {size : Nat} {fault : Fault}
    (h : Unanswered link command size fault rest) (hkeeps : keeps link) : keeps rest := by
  cases h with
  | unsent hunsent => exact hlasting.unsent hunsent hkeeps
  | brokenOff hsends hbreaks => exact hlasting.breaksOff hbreaks (hlasting.sends hsends hkeeps)

theorem talks {link rest : σ} {script : List (Bytes × Nat)} {answers : List Bytes}
    (h : Talks link script answers rest) (hkeeps : keeps link) : keeps rest := by
  induction h with
  | nil => exact hkeeps
  | cons hanswered _ ih => exact ih (hlasting.answered hanswered hkeeps)

theorem fails {link rest : σ} {script : List (Bytes × Nat)} {fault : Fault}
    (h : Fails link script fault rest) (hkeeps : keeps link) : keeps rest := by
  induction h with
  | here hunanswered => exact hlasting.unanswered hunanswered hkeeps
  | later hanswered _ ih => exact ih (hlasting.answered hanswered hkeeps)

end Lasting

end DiveLink
