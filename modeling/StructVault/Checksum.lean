import StructVault.Bytes

/-!
# The body checksum

CRC-32 with the reflected polynomial `0xEDB88320`: the remainder starts with all bits set,
each byte is added to its low end and pushed out by eight shifts, and the result is the
complement of the remainder.

- `Crc32.shift`: one bit of polynomial division.
- `Crc32.step`: one byte, eight shifts.
- `Crc32.checksum`: all bytes of a string.
-/

namespace StructVault.Crc32

/-- The divisor, with its bits in reflected order and the top coefficient left out. -/
def polynomial : UInt32 := 0xEDB88320

/-- Push one bit out of the remainder, subtracting the divisor when the bit was set. -/
def shift (crc : UInt32) : UInt32 :=
  if crc &&& 1 = 1 then (crc >>> 1) ^^^ polynomial else crc >>> 1

/-- Push `n` bits out of the remainder. -/
def shifts : Nat → UInt32 → UInt32
  | 0, crc => crc
  | n + 1, crc => shifts n (shift crc)

/-- Take one byte into the remainder. -/
def step (crc : UInt32) (byte : UInt8) : UInt32 := shifts 8 (crc ^^^ byte.toUInt32)

/-- The remainder before any byte was taken in. -/
def start : UInt32 := 0xFFFFFFFF

/-- Take a string of bytes into a remainder, the first byte first. -/
def run (crc : UInt32) (bytes : Bytes) : UInt32 := bytes.foldl step crc

@[simp] theorem run_nil (crc : UInt32) : run crc [] = crc := rfl

@[simp] theorem run_cons (crc : UInt32) (byte : UInt8) (bytes : Bytes) :
    run crc (byte :: bytes) = run (step crc byte) bytes := rfl

theorem run_append (crc : UInt32) (front back : Bytes) :
    run crc (front ++ back) = run (run crc front) back :=
  List.foldl_append ..

/-- The checksum of a string of bytes. -/
def checksum (bytes : Bytes) : UInt32 := ~~~ run start bytes

example : checksum [] = 0 := by decide

example : checksum [0x31, 0x32, 0x33] = 0x884863D2 := by decide +kernel

end StructVault.Crc32
