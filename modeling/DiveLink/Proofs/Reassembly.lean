import DiveLink.Link.Scripted
import DiveLink.Proofs.Stream

/-!
# Answers from reports

An answer is put together from the payloads of the reports that a link gives, however the bytes are
split into reports and whatever goes wrong on the way. This file says how far a link is read for it.

1. `Brings` and `Spoils` judge the result of one read, by what was transferred and by the first byte.
2. `results` are the results of reading a link again and again, `behind` is the link after them.
   By `results_scripted` they can begin in every way.
3. `Suffices` and `FallsShort` are the two cases: enough comes in, or a result is not sound before.
4. `receive_reassembles` says what each case leaves in the answer and on the link.
-/

namespace DiveLink

variable {σ : Type} [ReportLink σ]

/-! ## §1 Results of reads -/

/-- A report came in whole. Its first byte counts the bytes behind it that are payload, and leaves
room for itself. -/
inductive Brings : Except Fault Reading → Bytes → Prop where
  | sound {report : Report} {first : UInt8} {others : Bytes} :
      report.bytes = first :: others → first.toNat < 64 →
      Brings (.ok ⟨64, report⟩) (others.take first.toNat)

/-- A result that brings no payload, and its fault: the read failed, or a part of a report came in,
or a whole report that claims more payload than it has room for. -/
inductive Spoils : Except Fault Reading → Fault → Prop where
  | failed (fault : Fault) : Spoils (.error fault) fault
  | partly {reading : Reading} : reading.count ≠ 64 →
      Spoils (.ok reading) (.incompleteTransfer 64 reading.count)
  | impossible {report : Report} {first : UInt8} {others : Bytes} :
      report.bytes = first :: others → 64 ≤ first.toNat →
      Spoils (.ok ⟨64, report⟩) (.protocol (.impossibleSize first.toNat))

theorem Report.exists_cons (report : Report) : ∃ first others, report.bytes = first :: others := by
  cases hbytes : report.bytes with
  | nil =>
    have hlength := report.length_bytes
    rw [hbytes] at hlength
    simp [reportSize] at hlength
  | cons first others => exact ⟨first, others, rfl⟩

/-- Every result is one of the two, and `Reading.payload` says which. -/
theorem payload_spec (reading : Reading) :
    (∃ payload, reading.payload = .ok payload ∧ Brings (.ok reading) payload) ∨
      ∃ fault, reading.payload = .error fault ∧ Spoils (.ok reading) fault := by
  obtain ⟨count, report⟩ := reading
  obtain ⟨first, others, hbytes⟩ := report.exists_cons
  have hclaimed : report.claimedSize = first.toNat := by simp [Report.claimedSize, hbytes]
  -- the count is looked at first, and the first byte only of a whole report
  by_cases hcount : count = 64
  · subst hcount
    by_cases hfirst : first.toNat < 64
    · refine .inl ⟨others.take first.toNat, ?_, .sound hbytes hfirst⟩
      simp [Reading.payload, reportSize, hclaimed, hbytes, Nat.not_le.mpr hfirst]
    · have hfirst := Nat.le_of_not_lt hfirst
      refine .inr ⟨_, ?_, .impossible hbytes hfirst⟩
      simp [Reading.payload, reportSize, hclaimed, hfirst]
  · refine .inr ⟨_, ?_, .partly hcount⟩
    simp [Reading.payload, reportSize, hcount]

theorem Brings.payload {reading : Reading} {payload : Bytes} (h : Brings (.ok reading) payload) :
    reading.payload = .ok payload := by
  cases h with
  | sound hbytes hfirst =>
    simp [Reading.payload, reportSize, Report.claimedSize, hbytes, Nat.not_le.mpr hfirst]

theorem Spoils.payload {reading : Reading} {fault : Fault} (h : Spoils (.ok reading) fault) :
    reading.payload = .error fault := by
  cases h with
  | partly hcount => simp [Reading.payload, reportSize, hcount]
  | impossible hbytes hfirst =>
    simp [Reading.payload, reportSize, Report.claimedSize, hbytes, hfirst]

theorem brings_iff {reading : Reading} {payload : Bytes} :
    Brings (.ok reading) payload ↔ reading.payload = .ok payload := by
  refine ⟨Brings.payload, ?_⟩
  intro hpayload
  rcases payload_spec reading with ⟨found, hfound, hbrings⟩ | ⟨fault, hfault, _⟩
  · rw [hfound] at hpayload
    cases hpayload
    exact hbrings
  · rw [hfault] at hpayload
    cases hpayload

theorem spoils_iff {reading : Reading} {fault : Fault} :
    Spoils (.ok reading) fault ↔ reading.payload = .error fault := by
  refine ⟨Spoils.payload, ?_⟩
  intro hpayload
  rcases payload_spec reading with ⟨payload, hfound, _⟩ | ⟨found, hfound, hspoils⟩
  · rw [hfound] at hpayload
    cases hpayload
  · rw [hfound] at hpayload
    cases hpayload
    exact hspoils

/-! ## §2 A link that is read again and again -/

/-- The link after so many reads. -/
def behind (link : σ) : Nat → σ
  | 0 => link
  | count + 1 => behind (ReportLink.read link).2 count

/-- The result of the read after so many others. -/
def results (link : σ) (count : Nat) : Except Fault Reading :=
  (ReportLink.read (behind link count)).1

theorem behind_succ (link : σ) (count : Nat) :
    behind link (count + 1) = (ReportLink.read (behind link count)).2 := by
  induction count generalizing link with
  | zero => rfl
  | succ count ih => exact ih (ReportLink.read link).2

/-- A record of a link that is read again and again counts the reads. -/
theorem behind_recorded (record : Recorded σ) (count : Nat) :
    behind record count =
      ⟨behind record.link count, record.sent, record.reads + count⟩ := by
  induction count generalizing record with
  | zero => rfl
  | succ count ih =>
    have hread : (ReportLink.read record).2 =
        ⟨(ReportLink.read record.link).2, record.sent, record.reads + 1⟩ := rfl
    rw [behind, ih, hread, behind]
    simp only [Nat.add_assoc, Nat.add_comm 1]

theorem results_recorded (record : Recorded σ) : results record = results record.link := by
  funext count
  unfold results
  rw [behind_recorded]
  rfl

/-- Helper: a scripted link goes through its script. -/
theorem behind_scripted (link : Scripted) (count : Nat) :
    behind link count = ⟨link.reads.drop count, link.writes⟩ := by
  induction count generalizing link with
  | zero => rfl
  | succ count ih =>
    rw [behind, ih]
    match link with
    | ⟨[], writes⟩ => simp [ReportLink.read, Scripted.read]
    | ⟨result :: reads, writes⟩ => rfl

/-- **Every finite row of results is that of a link**, whatever is in it: that patience ends shuts
out nothing but an endless row of reports without payload. -/
theorem results_scripted (link : Scripted) {count : Nat} (h : count < link.reads.length) :
    results link count = link.reads[count] := by
  rw [results, behind_scripted, List.drop_eq_getElem_cons h]
  rfl

/-- The first results bring these payloads. -/
def Supplies (sequence : Nat → Except Fault Reading) (payloads : List Bytes) : Prop :=
  ∀ i (_ : i < payloads.length), Brings (sequence i) payloads[i]

theorem supplies_cons {link : σ} {payload : Bytes} {payloads : List Bytes} :
    Supplies (results link) (payload :: payloads) ↔
      Brings (ReportLink.read link).1 payload ∧
        Supplies (results (ReportLink.read link).2) payloads := by
  constructor
  · intro h
    exact ⟨h 0 (Nat.succ_pos _), fun i hi => h (i + 1) (Nat.succ_lt_succ hi)⟩
  · rintro ⟨hfirst, hothers⟩ i hi
    cases i with
    | zero => exact hfirst
    | succ i => exact hothers i (Nat.lt_of_succ_lt_succ hi)

/-- A run of reports is a row of results that bring its payloads. -/
theorem reads_iff {link rest : σ} {payloads : List Bytes} :
    Reads link payloads rest ↔
      Supplies (results link) payloads ∧ rest = behind link payloads.length := by
  -- on the payloads, one read each
  induction payloads generalizing link rest with
  | nil =>
    constructor
    · intro h
      cases h
      exact ⟨fun i hi => absurd hi (Nat.not_lt_zero i), rfl⟩
    · rintro ⟨_, rfl⟩
      exact .nil _
  | cons payload payloads ih =>
    rw [supplies_cons]
    constructor
    · intro h
      cases h with
      | cons hread hpayload hrest =>
        obtain ⟨hsupplies, rfl⟩ := ih.mp hrest
        rw [List.length_cons, behind, hread]
        exact ⟨⟨brings_iff.mpr hpayload, hsupplies⟩, rfl⟩
    · rintro ⟨⟨hbrings, hsupplies⟩, rfl⟩
      -- a result that brings a payload is a reading
      cases hread : ReportLink.read link with
      | mk result mid =>
        simp only [hread] at hbrings hsupplies
        rw [List.length_cons, behind, hread]
        cases result with
        | error fault => cases hbrings
        | ok reading =>
          exact .cons hread hbrings.payload (ih.mpr ⟨hsupplies, rfl⟩)

theorem breaks_iff {link rest : σ} {fault : Fault} :
    Breaks link fault rest ↔
      Spoils (ReportLink.read link).1 fault ∧ rest = (ReportLink.read link).2 := by
  constructor
  · intro h
    cases h with
    | link hread =>
      rw [hread]
      exact ⟨.failed fault, rfl⟩
    | report hread hpayload =>
      rw [hread]
      exact ⟨spoils_iff.mpr hpayload, rfl⟩
  · rintro ⟨hspoils, rfl⟩
    cases hread : ReportLink.read link with
    | mk result mid =>
      rw [hread] at hspoils
      -- either the link has failed or the report is not sound
      cases result with
      | error found =>
        cases hspoils
        exact .link hread
      | ok reading => exact .report hread hspoils.payload

/-! ## §3 How far a link is read -/

/-- The first results bring these payloads, they are enough for an answer, and fewer are not. -/
structure Suffices (sequence : Nat → Except Fault Reading) (size : Nat) (payloads : List Bytes) :
    Prop where
  supplies : Supplies sequence payloads
  size_le : size ≤ payloads.flatten.length
  least : ∀ fewer < payloads.length, (payloads.take fewer).flatten.length < size

/-- The first results bring these payloads, they are not enough for an answer, and the next result
has a fault. -/
structure FallsShort (sequence : Nat → Except Fault Reading) (size : Nat) (payloads : List Bytes)
    (fault : Fault) : Prop where
  supplies : Supplies sequence payloads
  length_lt : payloads.flatten.length < size
  spoils : Spoils (sequence payloads.length) fault

theorem take_prefix_dropLast {α : Type} {items : List α} {count : Nat}
    (hcount : count < items.length) : items.take count <+: items.dropLast := by
  rw [List.dropLast_eq_take]
  exact List.take_prefix_take_left (by omega)

theorem gathers_iff {link rest : σ} {size : Nat} {payloads : List Bytes} :
    Gathers link size payloads rest ↔
      Suffices (results link) size payloads ∧ rest = behind link payloads.length := by
  constructor
  · intro h
    obtain ⟨hsupplies, hrest⟩ := reads_iff.mp h.reads
    refine ⟨⟨hsupplies, h.size_le, ?_⟩, hrest⟩
    intro fewer hfewer
    -- all payloads but the last one are at least as many
    have hne : payloads ≠ [] := List.ne_nil_of_length_pos (by omega)
    have hfront := h.least payloads.dropLast (payloads.getLast hne)
      (List.dropLast_concat_getLast hne).symm
    obtain ⟨others, hothers⟩ := take_prefix_dropLast hfewer
    rw [← hothers, List.flatten_append, List.length_append] at hfront
    omega
  · rintro ⟨h, rfl⟩
    refine ⟨reads_iff.mpr ⟨h.supplies, rfl⟩, h.size_le, ?_⟩
    -- all payloads but the last one are fewer
    rintro front last rfl
    have hfront := h.least front.length (by simp)
    simpa using hfront

theorem breaksOff_iff {link rest : σ} {size : Nat} {payloads : List Bytes} {fault : Fault} :
    BreaksOff link size payloads fault rest ↔
      FallsShort (results link) size payloads fault ∧ rest = behind link (payloads.length + 1) := by
  rw [behind_succ]
  constructor
  · intro h
    obtain ⟨last, hreads, hbreaks⟩ := h.reads
    obtain ⟨hsupplies, rfl⟩ := reads_iff.mp hreads
    obtain ⟨hspoils, hrest⟩ := breaks_iff.mp hbreaks
    exact ⟨⟨hsupplies, h.length_lt, hspoils⟩, hrest⟩
  · -- the next read is the one with the fault
    rintro ⟨h, rfl⟩
    exact ⟨h.length_lt, behind link payloads.length, reads_iff.mpr ⟨h.supplies, rfl⟩,
      breaks_iff.mpr ⟨h.spoils, rfl⟩⟩

/-! ## §4 What comes of an answer -/

section

variable {link : σ} {answer : Bytes} {payloads : List Bytes} {fault : Fault}

theorem Suffices.receive (h : Suffices (results link) answer.length payloads) :
    (receive link answer.length).fault = none ∧
      (receive link answer.length).over answer = payloads.flatten.take answer.length ∧
      (receive link answer.length).link = behind link payloads.length := by
  have hgathers := gathers_iff.mpr ⟨h, rfl⟩
  -- an answer goes one of two ways, and what the link gives allows for one of them only
  cases receive_spec link answer.length with
  | complete found hfound hreceived hfault =>
    obtain ⟨rfl, hlink⟩ := hgathers.unique hfound
    -- the whole of the answer is written over
    have hlength := hgathers.length_take
    rw [← hreceived] at hlength
    exact ⟨hfault, (Receipt.over_of_length_eq hlength).trans hreceived, hlink.symm⟩
  | brokenOff found fault hfound _ _ => exact (hgathers.not_breaksOff hfound).elim

theorem FallsShort.receive (h : FallsShort (results link) answer.length payloads fault) :
    (receive link answer.length).fault = some fault ∧
      (receive link answer.length).over answer =
        payloads.flatten ++ answer.drop payloads.flatten.length ∧
      (receive link answer.length).link = behind link (payloads.length + 1) := by
  have hbreaks := breaksOff_iff.mpr ⟨h, rfl⟩
  cases receive_spec link answer.length with
  | complete found hfound _ _ => exact (hfound.not_breaksOff hbreaks).elim
  | brokenOff found fault hfound hreceived hfault =>
    obtain ⟨rfl, rfl, hlink⟩ := hbreaks.unique hfound
    rw [Receipt.over, hreceived]
    exact ⟨hfault, rfl, hlink.symm⟩

end

/-- One of the two cases holds, whatever a link gives. -/
theorem suffices_or_fallsShort (link : σ) (size : Nat) :
    (∃ payloads, Suffices (results link) size payloads) ∨
      ∃ payloads fault, FallsShort (results link) size payloads fault := by
  cases receive_spec link size with
  | complete payloads hgathers _ _ => exact .inl ⟨payloads, (gathers_iff.mp hgathers).1⟩
  | brokenOff payloads fault hbreaks _ _ =>
    exact .inr ⟨payloads, fault, (breaksOff_iff.mp hbreaks).1⟩

/-- A packet that is written is recorded, whatever becomes of it. -/
theorem write_recorded {record : Recorded σ} {packet : Bytes} {result : Except Fault Nat} {rest : σ}
    (h : ReportLink.write record.link packet = (result, rest)) :
    ReportLink.write record packet =
      (result, ⟨rest, record.sent ++ [packet], record.reads⟩) := by
  show record.write packet = _
  simp only [Recorded.write, h]

section

variable {link rest : σ} {command : Bytes}

theorem packet_of_fits (hfits : command.length ≤ 62) :
    packet command = .ok (UInt8.ofNat command.length :: command) :=
  if_neg (Nat.not_lt.mpr hfits)

theorem transfer_of_tooLong (hlong : 62 < command.length) (size : Nat) :
    transfer link command size =
      ⟨link, [], some (.invalidArgument (.commandTooLong command.length)), []⟩ := by
  have hpacket : packet command = .error (.invalidArgument (.commandTooLong command.length)) :=
    if_pos hlong
  simp only [transfer, send, hpacket]

theorem transfer_of_refused {fault : Fault} (hfits : command.length ≤ 62)
    (hwrite : ReportLink.write link (UInt8.ofNat command.length :: command) = (.error fault, rest))
    (size : Nat) : transfer link command size = ⟨rest, [], some fault, []⟩ := by
  simp only [transfer, send, packet_of_fits hfits, hwrite]

theorem transfer_of_short {count : Nat} (hfits : command.length ≤ 62)
    (hwrite : ReportLink.write link (UInt8.ofNat command.length :: command) = (.ok count, rest))
    (hshort : count ≠ (UInt8.ofNat command.length :: command).length) (size : Nat) :
    transfer link command size =
      ⟨rest, [], some (.incompleteTransfer (UInt8.ofNat command.length :: command).length count),
        []⟩ := by
  simp only [transfer, send, packet_of_fits hfits, hwrite, if_pos hshort]

theorem transfer_of_sends (hsends : Sends link command rest) (size : Nat) :
    transfer link command size = receive rest size := by
  obtain ⟨hfits, hwrite⟩ := hsends
  simp only [transfer, send, packet_of_fits hfits, hwrite, List.length_cons, ne_eq,
    not_true_eq_false, if_false]

end

/-- **An answer is put together from the reports, and no report behind it is read.** If enough comes
in, the answer is the front of it; else it holds what came in before the first fault, and that is
the fault of the exchange. A command of at most sixty-two bytes is written once before, in one
packet, and nothing is read unless all of the packet went out.

Of links that send reports without payload for ever this says nothing, also where those reports
would come behind the last one that is read; by `results_scripted` every finite row of reads is
there. -/
theorem receive_reassembles (record : Recorded σ) (command answer : Bytes) :
    ((∃ payloads, Suffices (results record.link) answer.length payloads) ∨
      ∃ payloads fault, FallsShort (results record.link) answer.length payloads fault) ∧
    (∀ payloads, Suffices (results record.link) answer.length payloads →
      (receive record answer.length).fault = none ∧
      (receive record answer.length).over answer = payloads.flatten.take answer.length ∧
      (receive record answer.length).link =
        ⟨behind record.link payloads.length, record.sent, record.reads + payloads.length⟩) ∧
    (∀ payloads fault, FallsShort (results record.link) answer.length payloads fault →
      (receive record answer.length).fault = some fault ∧
      (receive record answer.length).over answer =
        payloads.flatten ++ answer.drop payloads.flatten.length ∧
      (receive record answer.length).link =
        ⟨behind record.link (payloads.length + 1), record.sent,
          record.reads + (payloads.length + 1)⟩) ∧
    (62 < command.length → transfer record command answer.length =
      ⟨record, [], some (.invalidArgument (.commandTooLong command.length)), []⟩) ∧
    (command.length ≤ 62 →
      let packet := UInt8.ofNat command.length :: command
      ∀ result rest, ReportLink.write record.link packet = (result, rest) →
        let written : Recorded σ := ⟨rest, record.sent ++ [packet], record.reads⟩
        (∀ fault, result = .error fault →
          transfer record command answer.length = ⟨written, [], some fault, []⟩) ∧
        (∀ count, result = .ok count → count ≠ packet.length →
          transfer record command answer.length =
            ⟨written, [], some (.incompleteTransfer packet.length count), []⟩) ∧
        (result = .ok packet.length →
          transfer record command answer.length = receive written answer.length)) := by
  refine ⟨suffices_or_fallsShort record.link answer.length, ?_, ?_, ?_, ?_⟩
  · -- enough comes in; a record gives what its link gives, and counts
    intro payloads h
    rw [← results_recorded] at h
    have hreceive := h.receive
    rwa [behind_recorded] at hreceive
  · -- a fault comes first
    intro payloads fault h
    rw [← results_recorded] at h
    have hreceive := h.receive
    rwa [behind_recorded] at hreceive
  · -- a packet has no room for the command, so the link is not used
    intro hlong
    exact transfer_of_tooLong hlong answer.length
  · -- one write, which fails, or writes a part of the packet, or all of it
    intro hfits packet result rest hwrite written
    refine ⟨?_, ?_, ?_⟩
    · rintro fault rfl
      exact transfer_of_refused hfits (write_recorded hwrite) answer.length
    · rintro count rfl hshort
      exact transfer_of_short hfits (write_recorded hwrite) hshort answer.length
    · rintro rfl
      exact transfer_of_sends ⟨hfits, write_recorded hwrite⟩ answer.length

end DiveLink
