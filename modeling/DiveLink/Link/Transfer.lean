import DiveLink.Link.Report

/-!
# Transfers

Commands go out in one packet, answers come in as many reports as it takes.

1. `send` writes the packet of a command.
2. `receive` reads reports until an answer is complete. Its `Receipt` tells which bytes came in,
   what cut it short, and which payloads were longer than what was still missing.
3. `transfer` sends a command and receives its answer.
-/

namespace DiveLink

variable {σ : Type} [ReportLink σ]

/-- A payload of `length` bytes where only `room` were missing. -/
structure Truncation where
  length : Nat
  room : Nat
  deriving DecidableEq, Repr

/-- What came in for an answer. -/
structure Receipt (σ : Type) where
  link : σ
  /-- The bytes of the answer, from its front. -/
  received : Bytes
  /-- What kept the answer from being complete. -/
  fault : Option Fault
  truncations : List Truncation

/-- An answer buffer after a receipt: what came in stands at its front. -/
def Receipt.over (receipt : Receipt σ) (buffer : Bytes) : Bytes :=
  receipt.received ++ buffer.drop receipt.received.length

/-- Writes the packet of a command, which has to go out whole. -/
def send (link : σ) (command : Bytes) : Except Fault Unit × σ :=
  match packet command with
  | .error fault => (.error fault, link)
  | .ok bytes =>
    match ReportLink.write link bytes with
    | (.error fault, link) => (.error fault, link)
    | (.ok written, link) =>
      if written ≠ bytes.length then (.error (.incompleteTransfer bytes.length written), link)
      else (.ok (), link)

/-- Reads reports until `missing` bytes have come in. A payload that is longer than what is missing
is cut. -/
def receive (link : σ) (missing : Nat) : Receipt σ :=
  if missing = 0 then ⟨link, [], none, []⟩
  else
    match _h : ReportLink.read link with
    | (.error fault, rest) => ⟨rest, [], some fault, []⟩
    | (.ok reading, rest) =>
      match _p : reading.payload with
      | .error fault => ⟨rest, [], some fault, []⟩
      | .ok payload =>
        let receipt := receive rest (missing - payload.length)
        { receipt with
          received := payload.take missing ++ receipt.received
          truncations :=
            if missing < payload.length then ⟨payload.length, missing⟩ :: receipt.truncations
            else receipt.truncations }
termination_by (missing, ReportLink.patience link)
decreasing_by
  by_cases hp : payload = []
  · subst hp
    have := ReportLink.patience_lt _ _ _ (by assumption) (by assumption)
    exact Prod.Lex.right' _ (Nat.sub_le ..) this
  · have := List.length_pos_iff.mpr hp
    exact Prod.Lex.left _ _ (by omega)

/-- Sends a command and receives the `size` bytes of its answer. -/
def transfer (link : σ) (command : Bytes) (size : Nat) : Receipt σ :=
  match send link command with
  | (.error fault, link) => ⟨link, [], some fault, []⟩
  | (.ok (), link) => receive link size

end DiveLink
