import ProgramConnector.Checksum.Sha256

/-!
# Checksums

A checksum tells whether the content of a file is still what it was. It is shown as sixty-four
hexadecimal digits.
-/

namespace ProgramConnector

/-- The checksum of some bytes. -/
structure Checksum where
  /-- The digest. -/
  digest : Sha256.State
deriving DecidableEq

namespace Checksum

/-- The checksum of bytes. -/
def ofBytes (bytes : ByteArray) : Checksum := ⟨Sha256.digest bytes.data.toList⟩

/-- Whether bytes have this checksum. -/
def isOf (checksum : Checksum) (bytes : ByteArray) : Bool := checksum == ofBytes bytes

/-- The eight hexadecimal digits of a word. -/
def hexWord (word : UInt32) : List Char :=
  [7, 6, 5, 4, 3, 2, 1, 0].map fun place => Nat.digitChar (word.toNat / Nat.pow 16 place % 16)

/-- A checksum as text. -/
def toText (checksum : Checksum) : String := String.ofList (checksum.digest.toList.flatMap hexWord)

end Checksum

end ProgramConnector
