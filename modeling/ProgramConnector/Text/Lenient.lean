/-!
# Lenient decoding

Bytes as text, whatever they are: a replacement character stands for every longest run of bytes that
starts a character and does not finish it, and for every byte that starts none.
-/

namespace ProgramConnector.Text

/-- A character of which some bytes have been read. -/
structure PartialChar where
  /-- The bits so far. -/
  code : Nat
  /-- The number of bytes to come. -/
  missing : Nat
  /-- The least value of the next byte. -/
  low : Nat
  /-- The greatest value of the next byte. -/
  high : Nat

/-- What stands for bytes that are no character. -/
def replacement : Char := '\ufffd'

/-- What a first byte of a character starts, if it is not the whole character. -/
def PartialChar.ofLead? (byte : Nat) : Option PartialChar :=
  if byte < 0xC2 then none
  else if byte ≤ 0xDF then some ⟨byte % 32, 1, 0x80, 0xBF⟩
  else if byte == 0xE0 then some ⟨0, 2, 0xA0, 0xBF⟩
  else if byte == 0xED then some ⟨13, 2, 0x80, 0x9F⟩
  else if byte ≤ 0xEF then some ⟨byte % 16, 2, 0x80, 0xBF⟩
  else if byte == 0xF0 then some ⟨0, 3, 0x90, 0xBF⟩
  else if byte ≤ 0xF3 then some ⟨byte % 8, 3, 0x80, 0xBF⟩
  else if byte == 0xF4 then some ⟨4, 3, 0x80, 0x8F⟩
  else none

/-- The characters that a byte completes, and the character that it leaves unfinished. -/
def decodeByte (unfinished : Option PartialChar) (byte : Nat) : List Char × Option PartialChar :=
  let first : List Char × Option PartialChar :=
    if byte < 0x80 then ([Char.ofNat byte], none)
    else
      match PartialChar.ofLead? byte with
      | some started => ([], some started)
      | none => ([replacement], none)
  match unfinished with
  | none => first
  | some p =>
    if p.low ≤ byte && byte ≤ p.high then
      let code := p.code * 64 + byte % 64
      if p.missing == 1 then ([Char.ofNat code], none)
      else ([], some ⟨code, p.missing - 1, 0x80, 0xBF⟩)
    else (replacement :: first.1, first.2)

/-- The characters of bytes behind an unfinished character. -/
def decodeFrom : Option PartialChar → List UInt8 → List Char
  | none, [] => []
  | some _, [] => [replacement]
  | unfinished, byte :: rest =>
    let (chars, left) := decodeByte unfinished byte.toNat
    chars ++ decodeFrom left rest

/-- The characters of bytes. -/
def decodeLeniently (bytes : List UInt8) : List Char := decodeFrom none bytes

end ProgramConnector.Text
