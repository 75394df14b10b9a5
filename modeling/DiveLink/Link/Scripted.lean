import DiveLink.Link.Report

/-!
# Scripted links

1. `Scripted` is a link of which every read and every write is given beforehand.
2. `Recorded` is a link together with what was written to it and how often it was read.
-/

namespace DiveLink

/-! ## §1 Scripts -/

/-- What a write gives. -/
inductive WriteResult where
  /-- The whole packet goes out. -/
  | whole
  /-- So many bytes go out. -/
  | count (n : Nat)
  | failure (fault : Fault)
  deriving DecidableEq, Repr

/-- A link of which everything is given beforehand. -/
structure Scripted where
  reads : List (Except Fault Reading)
  writes : List WriteResult

namespace Scripted

/-- The next write; behind the script every packet goes out whole. -/
def write (link : Scripted) (packet : Bytes) : Except Fault Nat × Scripted :=
  let rest := { link with writes := link.writes.tail }
  match link.writes.headD .whole with
  | .whole => (.ok packet.length, rest)
  | .count n => (.ok n, rest)
  | .failure fault => (.error fault, rest)

/-- The next read; behind the script there is nothing to read. -/
def read (link : Scripted) : Except Fault Reading × Scripted :=
  match link.reads with
  | [] => (.error (.link "script exhausted"), link)
  | result :: reads => (result, { link with reads := reads })

theorem length_reads_lt (link : Scripted) (reading : Reading) (rest : Scripted)
    (h : link.read = (.ok reading, rest)) : rest.reads.length < link.reads.length := by
  unfold read at h
  split at h
  · simp at h
  · rename_i result reads scripted
    simp only [Prod.mk.injEq] at h
    obtain ⟨_, rfl⟩ := h
    simp [scripted]

end Scripted

instance : ReportLink Scripted where
  write := Scripted.write
  read := Scripted.read
  patience link := link.reads.length
  patience_lt link reading rest h _ := link.length_reads_lt reading rest h

/-! ## §2 Records -/

/-- A link with a record of its use. -/
structure Recorded (σ : Type) where
  link : σ
  /-- The packets that were handed in for writing. -/
  sent : List Bytes
  /-- How often the link was read. -/
  reads : Nat

namespace Recorded

variable {σ : Type}

/-- A link that was not used yet. -/
def fresh (link : σ) : Recorded σ := ⟨link, [], 0⟩

variable [ReportLink σ]

/-- Records a write. -/
def write (record : Recorded σ) (packet : Bytes) : Except Fault Nat × Recorded σ :=
  let (result, link) := ReportLink.write record.link packet
  (result, { record with link := link, sent := record.sent ++ [packet] })

/-- Records a read. -/
def read (record : Recorded σ) : Except Fault Reading × Recorded σ :=
  let (result, link) := ReportLink.read record.link
  (result, { record with link := link, reads := record.reads + 1 })

end Recorded

instance {σ : Type} [ReportLink σ] : ReportLink (Recorded σ) where
  write := Recorded.write
  read := Recorded.read
  patience record := ReportLink.patience record.link
  patience_lt record reading rest h empty := by
    simp only [Recorded.read, Prod.mk.injEq] at h
    obtain ⟨hr, rfl⟩ := h
    exact ReportLink.patience_lt record.link reading _ (Prod.ext hr rfl) empty

/-- A link that is one of two. -/
instance {σ τ : Type} [ReportLink σ] [ReportLink τ] : ReportLink (σ ⊕ τ) where
  write
    | .inl link, packet => (ReportLink.write link packet).map id .inl
    | .inr link, packet => (ReportLink.write link packet).map id .inr
  read
    | .inl link => (ReportLink.read link).map id .inl
    | .inr link => (ReportLink.read link).map id .inr
  patience
    | .inl link => ReportLink.patience link
    | .inr link => ReportLink.patience link
  patience_lt link reading rest h empty := by
    cases link <;>
    · simp only [Prod.map, id, Prod.mk.injEq] at h
      obtain ⟨hr, rfl⟩ := h
      exact ReportLink.patience_lt _ reading _ (Prod.ext hr rfl) empty

end DiveLink
