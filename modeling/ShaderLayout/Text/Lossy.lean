/-!
Bytes read as text at all costs. Where the bytes are no UTF-8, each longest run
that starts a character but does not complete it, and each byte that starts
none, is read as one replacement character.
-/

namespace ShaderLayout.Text

/-- A character of which some bytes are there: how many are owed, the bounds of the next one, and
the value so far. -/
structure PartialChar where
  owed : Nat
  low : Nat
  high : Nat
  value : Nat

/-- The first byte of a character of several bytes. -/
def leadByte (byte : Nat) : Option PartialChar :=
  if 0xC2 ≤ byte ∧ byte ≤ 0xDF then some ⟨1, 0x80, 0xBF, byte - 0xC0⟩
  else if byte = 0xE0 then some ⟨2, 0xA0, 0xBF, 0⟩
  else if byte = 0xED then some ⟨2, 0x80, 0x9F, 0xD⟩
  else if 0xE1 ≤ byte ∧ byte ≤ 0xEF then some ⟨2, 0x80, 0xBF, byte - 0xE0⟩
  else if byte = 0xF0 then some ⟨3, 0x90, 0xBF, 0⟩
  else if byte = 0xF4 then some ⟨3, 0x80, 0x8F, 4⟩
  else if 0xF1 ≤ byte ∧ byte ≤ 0xF3 then some ⟨3, 0x80, 0xBF, byte - 0xF0⟩
  else none

def replacement : Char := '\uFFFD'

/-- A byte between characters: what it completes, and what it starts. -/
def firstByte (byte : Nat) : List Char × Option PartialChar :=
  if byte < 0x80 then ([Char.ofNat byte], none)
  else
    match leadByte byte with
    | some started => ([], some started)
    | none => ([replacement], none)

/-- A further byte of a character that has started. -/
def nextByte (started : PartialChar) (byte : Nat) : List Char × Option PartialChar :=
  if started.low ≤ byte ∧ byte ≤ started.high then
    let value := started.value * 64 + (byte - 0x80)
    if started.owed = 1 then ([Char.ofNat value], none)
    else ([], some ⟨started.owed - 1, 0x80, 0xBF, value⟩)
  else
    let (chars, next) := firstByte byte
    (replacement :: chars, next)

def lossyChars : Option PartialChar → List UInt8 → List Char
  | none, [] => []
  | some _, [] => [replacement]
  | started, byte :: rest =>
    let (chars, next) := match started with
      | none => firstByte byte.toNat
      | some started => nextByte started byte.toNat
    chars ++ lossyChars next rest

def lossy (bytes : ByteArray) : String := String.ofList (lossyChars none bytes.toList)

end ShaderLayout.Text
