import TokenPersistence.Bytes

/-!
# The AES-256 block cipher

Bytes are elements of the field of 256 elements with the modulus
x^8 + x^4 + x^3 + x + 1. A block is four columns of four bytes. A round substitutes
every byte from a table, shifts the rows, mixes the columns and adds a round key; the last
of the fourteen rounds mixes nothing.
-/

namespace TokenPersistence.Cipher

set_option autoImplicit false

/-- Multiplies a field element by x. -/
def timesX (byte : UInt8) : UInt8 :=
  if byte &&& 0x80 = 0 then byte <<< 1 else (byte <<< 1) ^^^ 0x1b

/-- The substitutions of all bytes: one number for each upper half of a byte, in which sixteen
bytes follow one another by the lower half. -/
def substitutionTable : List Nat :=
  [
    0x637c777bf26b6fc53001672bfed7ab76, 0xca82c97dfa5947f0add4a2af9ca472c0,
    0xb7fd9326363ff7cc34a5e5f171d83115, 0x04c723c31896059a071280e2eb27b275,
    0x09832c1a1b6e5aa0523bd6b329e32f84, 0x53d100ed20fcb15b6acbbe394a4c58cf,
    0xd0efaafb434d338545f9027f503c9fa8, 0x51a3408f929d38f5bcb6da2110fff3d2,
    0xcd0c13ec5f974417c4a77e3d645d1973, 0x60814fdc222a908846eeb814de5e0bdb,
    0xe0323a0a4906245cc2d3ac629195e479, 0xe7c8376d8dd54ea96c56f4ea657aae08,
    0xba78252e1ca6b4c6e8dd741f4bbd8b8a, 0x703eb5664803f60e613557b986c11d9e,
    0xe1f8981169d98e949b1e87e9ce5528df, 0x8ca1890dbfe6426841992d0fb054bb16]

def substituted (byte : UInt8) : UInt8 :=
  let row := substitutionTable.getD (byte.toNat / 16) 0
  UInt8.ofNat (row / Nat.pow 256 (15 - byte.toNat % 16))

/-- The product of two field elements, from the lowest `bits` bits of the second. -/
def fieldProduct : Nat → UInt8 → UInt8 → UInt8
  | 0, _, _ => 0
  | bits + 1, left, right =>
      (if right &&& 1 = 0 then 0 else left) ^^^ fieldProduct bits (timesX left) (right >>> 1)

def rotateLeft (byte : UInt8) (places : UInt8) : UInt8 :=
  (byte <<< places) ||| (byte >>> (8 - places))

/-- Undoes the affine map with which a substitution ends. -/
def affineInverse (byte : UInt8) : UInt8 :=
  rotateLeft byte 1 ^^^ rotateLeft byte 3 ^^^ rotateLeft byte 6 ^^^ 0x05

/-- The table holds an affine image of the inverse of every byte, and that of zero for zero. -/
theorem substituted_inverts (byte : UInt8) :
    fieldProduct 8 byte (affineInverse (substituted byte)) = if byte = 0 then 0 else 1 := by
  have all : ∀ number : Fin 256, fieldProduct 8 (.ofFin number)
      (affineInverse (substituted (.ofFin number))) = if UInt8.ofFin number = 0 then 0 else 1 := by
    decide +kernel
  exact all byte.toFin

structure Column where
  first : UInt8
  second : UInt8
  third : UInt8
  fourth : UInt8
  deriving DecidableEq, Repr, Inhabited

namespace Column

def map (change : UInt8 → UInt8) (column : Column) : Column :=
  ⟨change column.first, change column.second, change column.third, change column.fourth⟩

def add (left right : Column) : Column :=
  ⟨left.first ^^^ right.first, left.second ^^^ right.second, left.third ^^^ right.third,
    left.fourth ^^^ right.fourth⟩

def rotate (column : Column) : Column :=
  ⟨column.second, column.third, column.fourth, column.first⟩

/-- Multiplies by the circulant matrix of 2, 3, 1, 1. -/
def mix (column : Column) : Column :=
  let entry (a b c d : UInt8) : UInt8 := timesX a ^^^ timesX b ^^^ b ^^^ c ^^^ d
  ⟨entry column.first column.second column.third column.fourth,
    entry column.second column.third column.fourth column.first,
    entry column.third column.fourth column.first column.second,
    entry column.fourth column.first column.second column.third⟩

def toBytes (column : Column) : Bytes :=
  [column.first, column.second, column.third, column.fourth]

end Column

structure Block where
  one : Column
  two : Column
  three : Column
  four : Column
  deriving DecidableEq, Repr, Inhabited

namespace Block

def map (change : Column → Column) (block : Block) : Block :=
  ⟨change block.one, change block.two, change block.three, change block.four⟩

def add (left right : Block) : Block :=
  ⟨left.one.add right.one, left.two.add right.two, left.three.add right.three,
    left.four.add right.four⟩

/-- Row `n` moves `n` columns to the left. -/
def shiftRows (block : Block) : Block :=
  let pick (a b c d : Column) : Column := ⟨a.first, b.second, c.third, d.fourth⟩
  ⟨pick block.one block.two block.three block.four,
    pick block.two block.three block.four block.one,
    pick block.three block.four block.one block.two,
    pick block.four block.one block.two block.three⟩

def toBytes (block : Block) : Bytes :=
  block.one.toBytes ++ block.two.toBytes ++ block.three.toBytes ++ block.four.toBytes

theorem length_to_bytes (block : Block) : block.toBytes.length = 16 := rfl

end Block

/-- Bytes taken in fours; fewer than four bytes at the end are left out. -/
def columns : Bytes → List Column
  | first :: second :: third :: fourth :: rest =>
      ⟨first, second, third, fourth⟩ :: columns rest
  | _ => []

def blocks : List Column → List Block
  | one :: two :: three :: four :: rest => ⟨one, two, three, four⟩ :: blocks rest
  | _ => []

def blockOfBytes (bytes : Bytes) : Block := (blocks (columns bytes)).headD default

def keyLength : Nat := 32

structure CipherKey where
  bytes : Bytes
  length_eq : bytes.length = keyLength
  deriving DecidableEq

def CipherKey.ofBytes? (bytes : Bytes) : Option CipherKey :=
  if length_eq : bytes.length = keyLength then some ⟨bytes, length_eq⟩ else none

/-- The power of x that is added in every eighth word of the key schedule. -/
def roundConstant (index : Nat) : UInt8 := Nat.repeat timesX (index - 1) 1

/-- Word number `index` of the schedule, given the words before it, the latest one
first. -/
def scheduleWord (index : Nat) (previous : List Column) : Column :=
  let last := previous.headD default
  let changed :=
    if index % 8 = 0 then
      (last.rotate.map substituted).add ⟨roundConstant (index / 8), 0, 0, 0⟩
    else if index % 8 = 4 then last.map substituted
    else last
  (previous.getD 7 default).add changed

def extendSchedule : Nat → Nat → List Column → List Column
  | 0, _, previous => previous
  | count + 1, index, previous =>
      extendSchedule count (index + 1) (scheduleWord index previous :: previous)

def CipherKey.roundKeys (key : CipherKey) : List Block :=
  blocks (extendSchedule 52 8 (columns key.bytes).reverse).reverse

def middleRound (state key : Block) : Block :=
  (((state.map (Column.map substituted)).shiftRows).map Column.mix).add key

def lastRound (state key : Block) : Block :=
  ((state.map (Column.map substituted)).shiftRows).add key

def rounds : Block → List Block → Block
  | state, [] => state
  | state, [key] => lastRound state key
  | state, key :: rest => rounds (middleRound state key) rest

def encryptBlock (keys : List Block) (block : Block) : Block :=
  rounds (block.add (keys.headD default)) keys.tail

end TokenPersistence.Cipher
