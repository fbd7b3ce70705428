namespace Reshape.Text

/-- A character of which some bytes are read: how many are missing, the value so far, and the
range of the next byte. -/
structure PendingChar where
  missing : Nat
  value : Nat
  low : Nat
  high : Nat

/-- Stands for the longest stretch of bytes that begins a character and does not finish it. -/
def replacement : Char := '\uFFFD'

/-- What the first byte of a character settles. The narrower ranges for the second byte shut out
overlong forms, surrogates and values beyond the last code point. -/
def firstByte (b : Nat) : List Char × Option PendingChar :=
  if b < 0x80 then ([Char.ofNat b], none)
  else if b < 0xC2 then ([replacement], none)
  else if b < 0xE0 then ([], some ⟨1, b - 0xC0, 0x80, 0xBF⟩)
  else if b = 0xE0 then ([], some ⟨2, 0, 0xA0, 0xBF⟩)
  else if b = 0xED then ([], some ⟨2, 0xD, 0x80, 0x9F⟩)
  else if b < 0xF0 then ([], some ⟨2, b - 0xE0, 0x80, 0xBF⟩)
  else if b = 0xF0 then ([], some ⟨3, 0, 0x90, 0xBF⟩)
  else if b < 0xF4 then ([], some ⟨3, b - 0xF0, 0x80, 0xBF⟩)
  else if b = 0xF4 then ([], some ⟨3, 4, 0x80, 0x8F⟩)
  else ([replacement], none)

def nextByte (p : PendingChar) (b : Nat) : List Char × Option PendingChar :=
  if p.low ≤ b ∧ b ≤ p.high then
    let value := p.value * 64 + (b - 0x80)
    if p.missing ≤ 1 then ([Char.ofNat value], none)
    else ([], some ⟨p.missing - 1, value, 0x80, 0xBF⟩)
  else
    let (chars, pending) := firstByte b
    (replacement :: chars, pending)

def decodeAfter : Option PendingChar → List UInt8 → List Char
  | none, [] => []
  | some _, [] => [replacement]
  | pending, b :: bs =>
    let (chars, pending) := match pending with
      | none => firstByte b.toNat
      | some p => nextByte p b.toNat
    chars ++ decodeAfter pending bs

def decodeLossy (bytes : ByteArray) : String := String.ofList (decodeAfter none bytes.toList)

end Reshape.Text
