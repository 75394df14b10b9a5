import DiveLink.Proofs.Course

/-!
# What a dump leaves

What follows from the ways in which a dump can go.

1. `dump_buffer` is what a dump leaves in the buffer, over every link.
2. `dump_keeps` says which properties of the link a dump keeps.
3. `dump_of_supplied` is a dump in which nothing fails, `supplied_of_dump` one that succeeds.
-/

namespace DiveLink

namespace Session

variable {σ : Type} [ReportLink σ]

/-! ## §1 What a dump leaves in the buffer -/

/-- The questions that come before the bulk transfer, and the sizes of their answers. -/
def questions (cursor : Fingerprint) : List (Bytes × Nat) :=
  probes ++ [(Opcode.dataLength.after cursor, 4)]

/-- A bulk transfer of `length` bytes that came in whole: first the right announcement, and then
reports that bring what is in the buffer. -/
def Delivered (link : σ) (cursor : Fingerprint) (length : Nat) (buffer : Bytes) (rest : σ) : Prop :=
  ∃ total start payloads, Answered link (Opcode.data.after cursor) 4 total start ∧
    (Word.front total).toNat = length + 4 ∧ Gathers start length payloads rest ∧
    buffer = payloads.flatten.take length

/-- A bulk transfer of `length` bytes that did not come in whole, with the payloads that did. -/
inductive Undelivered (link : σ) (cursor : Fingerprint) (length : Nat) :
    List Bytes → Fault → σ → Prop where
  /-- It is not announced. -/
  | refused {fault : Fault} {rest : σ} :
      Unanswered link (Opcode.data.after cursor) 4 fault rest →
      Undelivered link cursor length [] fault rest
  /-- Another size is announced. -/
  | mismatched {total : Bytes} {rest : σ} :
      Answered link (Opcode.data.after cursor) 4 total rest →
      (Word.front total).toNat ≠ length + 4 →
      Undelivered link cursor length [] (.sizeMismatch (length + 4) (Word.front total).toNat) rest
  /-- It breaks off. -/
  | brokenOff {total : Bytes} {start rest : σ} {payloads : List Bytes} {fault : Fault} :
      Answered link (Opcode.data.after cursor) 4 total start →
      (Word.front total).toNat = length + 4 → BreaksOff start length payloads fault rest →
      Undelivered link cursor length payloads fault rest

/-- The fill of a buffer by reports that brought less than it holds. -/
def filled (length : Nat) (payloads : List Bytes) : Bytes :=
  payloads.flatten ++ List.replicate (length - payloads.flatten.length) 0

theorem Undelivered.length_filled {link rest : σ} {cursor : Fingerprint} {length : Nat}
    {payloads : List Bytes} {fault : Fault}
    (h : Undelivered link cursor length payloads fault rest) :
    (filled length payloads).length = length := by
  -- in each of these endings less came in than was wanted
  have hle : payloads.flatten.length ≤ length := by
    cases h with
    | refused _ => exact Nat.zero_le _
    | mismatched _ _ => exact Nat.zero_le _
    | brokenOff _ _ hbreaks => exact Nat.le_of_lt hbreaks.length_lt
  rw [filled, List.length_append, List.length_replicate]
  omega

theorem Delivered.length_eq {link rest : σ} {cursor : Fingerprint} {length : Nat} {buffer : Bytes}
    (h : Delivered link cursor length buffer rest) : buffer.length = length := by
  obtain ⟨total, start, payloads, _, _, hgathers, rfl⟩ := h
  exact hgathers.length_take

/-- The announcement is a word as well, so the last four sizes cannot be delivered. -/
theorem Delivered.length_lt {link rest : σ} {cursor : Fingerprint} {length : Nat} {buffer : Bytes}
    (h : Delivered link cursor length buffer rest) : length + 4 < 2 ^ 32 := by
  obtain ⟨total, start, payloads, _, htotal, _, _⟩ := h
  rw [← htotal]
  exact (Word.front total).toNat_lt

/-- How a bulk transfer ends, without what the session keeps of it. -/
theorem Bulk.ending {session left : Session σ} {length : UInt32} {result : Except Fault Unit}
    {buffer : Bytes} (h : Bulk session length result left buffer) :
    left.cursor = session.cursor ∧
      ((result = .ok () ∧ Delivered session.link session.cursor length.toNat buffer left.link) ∨
        ∃ fault payloads, result = .error fault ∧ buffer = filled length.toNat payloads ∧
          Undelivered session.link session.cursor length.toNat payloads fault left.link) := by
  cases h with
  | refused hunanswered => exact ⟨rfl, .inr ⟨_, [], rfl, rfl, .refused hunanswered⟩⟩
  | mismatched htotal hne => exact ⟨rfl, .inr ⟨_, [], rfl, rfl, .mismatched htotal hne⟩⟩
  | brokenOff htotal heq hbreaks =>
    exact ⟨rfl, .inr ⟨_, _, rfl, rfl, .brokenOff htotal heq hbreaks⟩⟩
  | complete htotal heq hgathers => exact ⟨rfl, .inl ⟨rfl, _, _, _, htotal, heq, hgathers, rfl⟩⟩

/-- **What a dump leaves in the buffer.** After a dump that succeeds it holds the dives whose size
was answered, and the bulk transfer is only asked for if there are any. After a fault it is empty if
the size was not answered, and else it holds what came in, with zeros behind it. Nothing of what the
buffer held before is left.

There is always room for the buffer. Links that send reports without payload for ever are left out,
also where nobody would read as far as that; every finite row of reads is that of some link. -/
theorem dump_buffer (around : Surroundings) (session : Session σ) (old : Bytes) :
    session.dump around old = session.dump around [] ∧
    ((session.dump around old).1 = .ok () →
      ∃ answers size mid,
        Talks session.link (questions (session.dump around old).2.session.cursor)
          (answers ++ [size]) mid ∧
        (session.dump around old).2.buffer.length = (Word.front size).toNat ∧
        (Word.front size = 0 → (session.dump around old).2.session.link = mid) ∧
        (Word.front size ≠ 0 → (Word.front size).toNat ≤ 2 ^ 32 - 5 ∧
          Delivered mid (session.dump around old).2.session.cursor (Word.front size).toNat
            (session.dump around old).2.buffer (session.dump around old).2.session.link)) ∧
    ∀ fault, (session.dump around old).1 = .error fault →
      ((session.dump around old).2.buffer = [] ∧
        Fails session.link (questions (session.dump around old).2.session.cursor) fault
          (session.dump around old).2.session.link) ∨
      ∃ answers size mid payloads,
        Talks session.link (questions (session.dump around old).2.session.cursor)
          (answers ++ [size]) mid ∧
        Word.front size ≠ 0 ∧
        Undelivered mid (session.dump around old).2.session.cursor (Word.front size).toNat
          payloads fault (session.dump around old).2.session.link ∧
        (session.dump around old).2.buffer = filled (Word.front size).toNat payloads ∧
        (session.dump around old).2.buffer.length = (Word.front size).toNat := by
  -- what the buffer held before is cleared by the first step
  refine ⟨rfl, ?_⟩
  refine dump_elim around session old fun result left buffer hcourse => ?_
  cases hcourse with
  | unidentified hfails =>
    refine ⟨fun h => (nomatch h), fun fault h => ?_⟩
    obtain rfl := Except.error.inj h
    -- the size was not even asked for
    exact .inl ⟨rfl, hfails.append _⟩
  | unsized htalks hsize =>
    refine ⟨fun h => (nomatch h), fun fault h => ?_⟩
    obtain rfl := Except.error.inj h
    exact .inl ⟨rfl, htalks.append_fails (.here hsize)⟩
  | @nothing mid rest model serial devtime size htalks hsize hzero =>
    refine ⟨fun _ => ?_, fun fault h => nomatch h⟩
    refine ⟨[model, serial, devtime], size, rest,
      htalks.append (.cons hsize (.nil rest)), ?_, fun _ => rfl, fun h => absurd hzero h⟩
    rw [hzero]
    rfl
  | @bulk mid rest model serial devtime size _ _ _ htalks hsize hzero hbulk =>
    have hasked := htalks.append (.cons hsize (.nil rest))
    obtain ⟨hcursor, ⟨rfl, hdelivered⟩ | ⟨fault, payloads, rfl, rfl, hundelivered⟩⟩ := hbulk.ending
    · refine ⟨fun _ => ?_, fun fault h => nomatch h⟩
      rw [hcursor]
      -- the announcement was a word
      have hlt := hdelivered.length_lt
      exact ⟨[model, serial, devtime], size, rest, hasked, hdelivered.length_eq,
        fun h => absurd h hzero, fun _ => ⟨by omega, hdelivered⟩⟩
    · refine ⟨fun h => (nomatch h), fun found h => .inr ?_⟩
      obtain rfl := Except.error.inj h
      rw [hcursor]
      exact ⟨[model, serial, devtime], size, rest, payloads, hasked, hzero, hundelivered, rfl,
        hundelivered.length_filled⟩

/-! ## §2 What a dump keeps -/

/-- A property that no read and no write ends is not ended by a dump either. -/
theorem dump_keeps {keeps : σ → Prop} (hlasting : Lasting keeps) (around : Surroundings)
    (session : Session σ) (old : Bytes) (hkeeps : keeps session.link) :
    keeps (session.dump around old).2.session.link := by
  refine dump_elim around session old fun result left buffer hcourse => ?_
  -- every way is a chain of exchanges, and each of them keeps the property
  cases hcourse with
  | unidentified hfails => exact hlasting.fails hfails hkeeps
  | unsized htalks hsize => exact hlasting.unanswered hsize (hlasting.talks htalks hkeeps)
  | nothing htalks hsize _ => exact hlasting.answered hsize (hlasting.talks htalks hkeeps)
  | bulk htalks hsize _ hbulk =>
    have hmid := hlasting.answered hsize (hlasting.talks htalks hkeeps)
    cases hbulk with
    | refused hunanswered => exact hlasting.unanswered hunanswered hmid
    | mismatched htotal _ => exact hlasting.answered htotal hmid
    | brokenOff htotal _ hbreaks => exact hlasting.breaksOff hbreaks (hlasting.answered htotal hmid)
    | complete htotal _ hgathers =>
      exact hlasting.reads hgathers.reads (hlasting.answered htotal hmid)

/-! ## §3 A dump that is answered in full -/

/-- What is promised and delivered where the size `length` was answered: without dives nothing is
asked for. -/
def Supplied (link : σ) (cursor : Fingerprint) (length : UInt32) (buffer : Bytes) (rest : σ) :
    Prop :=
  (length = 0 ∧ buffer = [] ∧ rest = link) ∨
    (length ≠ 0 ∧ Delivered link cursor length.toNat buffer rest)

/-- Where all questions are answered and the dives are delivered, they are what the dump leaves. -/
theorem dump_of_supplied {around : Surroundings} {session : Session σ} {mid start rest : σ}
    {model serial devtime size buffer : Bytes} (old : Bytes)
    (htalks : Talks session.link probes [model, serial, devtime] mid)
    (hsize : Answered mid (Opcode.dataLength.after
      (session.cursorFor around.files (Word.front serial))) 4 size start)
    (hsupplied : Supplied start (session.cursorFor around.files (Word.front serial))
      (Word.front size) buffer rest) :
    (session.dump around old).1 = .ok () ∧
      (session.dump around old).2.buffer = buffer ∧
      (session.dump around old).2.session.link = rest ∧
      (session.dump around old).2.session.info =
        some ⟨UInt32.ofNat (model.headD 0).toNat, 0, Word.front serial⟩ ∧
      (session.dump around old).2.session.clock = some ⟨Word.front devtime, around.now⟩ := by
  refine dump_elim around session old fun result left found hcourse => ?_
  -- in each way that the dump can have gone, the exchanges are those that are given
  cases hcourse with
  | unidentified hfails => exact (htalks.not_fails hfails).elim
  | unsized htalks' hsize' =>
    obtain ⟨hanswers, rfl⟩ := htalks.unique htalks'
    obtain ⟨rfl, rfl, rfl⟩ : model = _ ∧ serial = _ ∧ devtime = _ := by simpa using hanswers
    exact (hsize.not_unanswered hsize').elim
  | nothing htalks' hsize' hzero =>
    obtain ⟨hanswers, rfl⟩ := htalks.unique htalks'
    obtain ⟨rfl, rfl, rfl⟩ : model = _ ∧ serial = _ ∧ devtime = _ := by simpa using hanswers
    obtain ⟨rfl, rfl⟩ := hsize.unique hsize'
    rcases hsupplied with ⟨_, rfl, rfl⟩ | ⟨hne, _⟩
    · exact ⟨rfl, rfl, rfl, rfl, rfl⟩
    · exact absurd hzero hne
  | bulk htalks' hsize' hzero hbulk =>
    obtain ⟨hanswers, rfl⟩ := htalks.unique htalks'
    obtain ⟨rfl, rfl, rfl⟩ : model = _ ∧ serial = _ ∧ devtime = _ := by simpa using hanswers
    obtain ⟨rfl, rfl⟩ := hsize.unique hsize'
    rcases hsupplied with ⟨heq, _, _⟩ | ⟨_, total, begun, payloads, htotal, hmatch, hgathers, rfl⟩
    · exact absurd heq hzero
    -- the announcement is the right one and the reports bring enough, so there is one way left
    cases hbulk with
    | refused hunanswered => exact (htotal.not_unanswered hunanswered).elim
    | mismatched htotal' hne =>
      obtain ⟨rfl, rfl⟩ := htotal.unique htotal'
      exact absurd hmatch hne
    | brokenOff htotal' _ hbreaks =>
      obtain ⟨rfl, rfl⟩ := htotal.unique htotal'
      exact (hgathers.not_breaksOff hbreaks).elim
    | complete htotal' _ hgathers' =>
      obtain ⟨rfl, rfl⟩ := htotal.unique htotal'
      obtain ⟨rfl, rfl⟩ := hgathers.unique hgathers'
      exact ⟨rfl, rfl, rfl, rfl, rfl⟩

/-- A dump that succeeds was answered in full, and what was supplied is what it leaves. -/
theorem supplied_of_dump {around : Surroundings} {session : Session σ} {old : Bytes}
    (h : (session.dump around old).1 = .ok ()) :
    ∃ mid start model serial devtime size,
      Talks session.link probes [model, serial, devtime] mid ∧
      Answered mid (Opcode.dataLength.after
        (session.cursorFor around.files (Word.front serial))) 4 size start ∧
      Supplied start (session.cursorFor around.files (Word.front serial)) (Word.front size)
        (session.dump around old).2.buffer (session.dump around old).2.session.link ∧
      (session.dump around old).2.session.cursor =
        session.cursorFor around.files (Word.front serial) ∧
      (session.dump around old).2.session.info =
        some ⟨UInt32.ofNat (model.headD 0).toNat, 0, Word.front serial⟩ ∧
      (session.dump around old).2.session.clock = some ⟨Word.front devtime, around.now⟩ := by
  revert h
  refine dump_elim around session old fun result left buffer hcourse h => ?_
  -- only two of the ways end well
  cases hcourse with
  | unidentified hfails => cases h
  | unsized htalks hsize => cases h
  | nothing htalks hsize hzero =>
    exact ⟨_, _, _, _, _, _, htalks, hsize, .inl ⟨hzero, rfl, rfl⟩, rfl, rfl, rfl⟩
  | bulk htalks hsize hzero hbulk =>
    cases hbulk with
    | refused hunanswered => cases h
    | mismatched htotal hne => cases h
    | brokenOff htotal hmatch hbreaks => cases h
    | complete htotal hmatch hgathers =>
      exact ⟨_, _, _, _, _, _, htalks, hsize,
        .inr ⟨hzero, _, _, _, htotal, hmatch, hgathers, rfl⟩, rfl, rfl, rfl⟩

end Session

end DiveLink
