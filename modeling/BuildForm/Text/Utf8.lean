/-
  UTF-8: one step of decoding, strict decoding of a whole
  byte sequence, and decoding that puts U+FFFD in the place
  of every maximal part that is no character.

  Key definitions include:
    * `Utf8.encode`
    * `Utf8.step`
    * `Utf8.decode?`
    * `Utf8.decodeLossy`
-/

namespace BuildForm

namespace Utf8

/- The bytes of a text. -/
def encode (text : List Char) : List UInt8 :=
  text.flatMap String.utf8EncodeChar

/-
  The outcome of decoding at the head of a byte sequence: a
  character or a part that is none, with its byte count.
-/
inductive Piece where
  | char (c : Char) (count : Nat)
  | invalid (count : Nat)
deriving DecidableEq, Repr

def Piece.count : Piece → Nat
  | .char _ count => count
  | .invalid count => count

/- A continuation byte within bounds, as its six low bits. -/
def continuation?
    (low high : UInt8)
    (bytes : List UInt8)
    (index : Nat) : Option Nat :=
  match bytes[index]? with
  | some b =>
      if low ≤ b ∧ b ≤ high then
        some (b.toNat % 64)
      else
        none
  | none => none

/-
  The rest of a sequence whose lead byte announces `more`
  continuation bytes; `done` of them have been read, and the
  first one has bounds of its own.
-/
def stepTail
    (low high : UInt8)
    (bytes : List UInt8) : Nat → Nat → Nat → Piece
  | 0, done, value => .char (Char.ofNat value) (done + 1)
  | more + 1, done, value =>
      let bounds : UInt8 × UInt8 :=
        if done = 0 then (low, high) else (0x80, 0xBF)
      match continuation? bounds.1 bounds.2 bytes done with
      | some six =>
          stepTail low high bytes more (done + 1)
            (64 * value + six)
      | none => .invalid (done + 1)

/- Decode the head of a sequence with lead byte `lead`. -/
def step (lead : UInt8) (rest : List UInt8) : Piece :=
  let value := lead.toNat
  if lead < 0x80 then
    .char (Char.ofNat value) 1
  else if lead < 0xC2 then
    .invalid 1
  else if lead < 0xE0 then
    stepTail 0x80 0xBF rest 1 0 (value % 32)
  else if lead = 0xE0 then
    stepTail 0xA0 0xBF rest 2 0 (value % 16)
  else if lead = 0xED then
    stepTail 0x80 0x9F rest 2 0 (value % 16)
  else if lead < 0xF0 then
    stepTail 0x80 0xBF rest 2 0 (value % 16)
  else if lead = 0xF0 then
    stepTail 0x90 0xBF rest 3 0 (value % 8)
  else if lead < 0xF4 then
    stepTail 0x80 0xBF rest 3 0 (value % 8)
  else if lead = 0xF4 then
    stepTail 0x80 0x8F rest 3 0 (value % 8)
  else
    .invalid 1

/-
  The pieces of a byte sequence. The counter is the number of
  bytes of the last piece still to be passed over.
-/
def piecesFrom : Nat → List UInt8 → List Piece
  | _, [] => []
  | n + 1, _ :: rest => piecesFrom n rest
  | 0, lead :: rest =>
      let piece := step lead rest
      piece :: piecesFrom (piece.count - 1) rest

/- Every byte sequence as text, with U+FFFD for bad parts. -/
def decodeLossy (bytes : List UInt8) : List Char :=
  (piecesFrom 0 bytes).map fun
    | .char c _ => c
    | .invalid _ => Char.ofNat 0xFFFD

/- The text of a byte sequence that has no bad part. -/
def decode? (bytes : List UInt8) : Option (List Char) :=
  (piecesFrom 0 bytes).mapM fun
    | .char c _ => some c
    | .invalid _ => none

end Utf8

end BuildForm
