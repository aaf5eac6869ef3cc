/-!
# Compressed files

Compressed data is a sequence of bits, the least significant bit of every byte first.  Numbers have
their least significant bit first.

A *code* gives each symbol a word of bits, none of which begins another.  It is known by the
lengths of its words alone: shorter words come first, words of one length come in the order of
their symbols, and each word is the next number of its length.

Data is compressed in blocks.  A block is stored as it is, or it is a sequence of symbols of a code
that is fixed or that the block starts with.  A symbol is a byte, the end of the block, or a length;
behind a length stands a distance, in a code of its own, and as many bytes are repeated from so far
back.

A compressed file is a head, compressed data, and a checksum and the size of the data.  Reading
takes any file of this form and ignores what stands behind it.  Writing stores the data as it is,
in blocks.
-/

namespace FilterStore.Gzip

/-! ## Bits and codes -/

/-- The bits of bytes from a position on. -/
structure Bits where
  bytes : ByteArray
  position : Nat

/-- A reader of bits, which fails where there are none left. -/
abbrev BitReader := StateT Bits Option

namespace Bits

/-- The bit at a position. -/
def at? (b : Bits) : Option Bool :=
  let index := b.position / 8
  if h : index < b.bytes.size then some (b.bytes[index].toNat.testBit (b.position % 8)) else none

/-- Reads a bit. -/
def bit : BitReader Bool := fun b => b.at?.map fun x => (x, { b with position := b.position + 1 })

/-- Reads a number of a width. -/
def number : Nat → BitReader Nat
  | 0 => pure 0
  | width + 1 => do
    let low ← bit
    let high ← number width
    pure (low.toNat + 2 * high)

/-- Goes to the next whole byte. -/
def align : BitReader Unit := modify fun b => { b with position := (b.position + 7) / 8 * 8 }

end Bits

/-- A code by its words of each length. -/
structure Code where
  /-- How many words there are of length one, two and so on. -/
  counts : List Nat
  /-- The symbols in the order of their words. -/
  symbols : Array Nat

namespace Code

/-- The greatest length of a word. -/
def maxLength : Nat := 15

/-- The code with words of these lengths for the symbols from zero on; a symbol of length zero has
no word. -/
def ofLengths (lengths : List Nat) : Code :=
  let symbolsOf := fun n => (lengths.zipIdx.filter fun p => p.1 == n).map (·.2)
  let byLength := (List.range maxLength).map fun n => symbolsOf (n + 1)
  { counts := byLength.map List.length, symbols := byLength.flatten.toArray }

/-- Reads the rest of a word: its bits so far, the first word of that length, and the place of that
word's symbol. -/
def walk (symbols : Array Nat) : List Nat → Nat → Nat → Nat → BitReader Nat
  | [], _, _, _ => failure
  | count :: counts, word, first, place => do
    let word := 2 * word + (← Bits.bit).toNat
    if word < first + count then
      match symbols[place + (word - first)]? with
      | some symbol => pure symbol
      | none => failure
    else walk symbols counts word (2 * (first + count)) (place + count)

/-- Reads a symbol. -/
def symbol (c : Code) : BitReader Nat := walk c.symbols c.counts 0 0 0

end Code

/-! ## Blocks -/

/-- A range of numbers that share a symbol: where it starts, and how many bits tell its members
apart. -/
abbrev Span := Nat × Nat

/-- The lengths by symbol. -/
def lengthSpans : Array Span :=
  #[(3, 0), (4, 0), (5, 0), (6, 0), (7, 0), (8, 0), (9, 0), (10, 0), (11, 1), (13, 1), (15, 1),
    (17, 1), (19, 2), (23, 2), (27, 2), (31, 2), (35, 3), (43, 3), (51, 3), (59, 3), (67, 4),
    (83, 4), (99, 4), (115, 4), (131, 5), (163, 5), (195, 5), (227, 5), (258, 0)]

/-- The distances by symbol. -/
def distanceSpans : Array Span :=
  #[(1, 0), (2, 0), (3, 0), (4, 0), (5, 1), (7, 1), (9, 2), (13, 2), (17, 3), (25, 3), (33, 4),
    (49, 4), (65, 5), (97, 5), (129, 6), (193, 6), (257, 7), (385, 7), (513, 8), (769, 8),
    (1025, 9), (1537, 9), (2049, 10), (3073, 10), (4097, 11), (6145, 11), (8193, 12), (12289, 12),
    (16385, 13), (24577, 13)]

/-- Reads a number of the span of a symbol. -/
def spanNumber (spans : Array Span) (symbol : Nat) : BitReader Nat :=
  match spans[symbol]? with
  | some (start, width) => do pure (start + (← Bits.number width))
  | none => failure

/-- Repeats bytes from a distance back. -/
def repeatBytes (distance : Nat) : Nat → ByteArray → Option ByteArray
  | 0, out => some out
  | n + 1, out =>
    if h : 0 < distance ∧ distance ≤ out.size then
      repeatBytes distance n (out.push (out.get (out.size - distance) (by omega)))
    else none

/-- The symbol that ends a block. -/
def blockEnd : Nat := 256

/-- Reads the symbols of a block.  Every symbol has at least one bit, so `fuel` need not exceed the
number of bits. -/
def blockSymbols (literals distances : Code) : Nat → ByteArray → BitReader ByteArray
  | 0, _ => failure
  | fuel + 1, out => do
    let symbol ← literals.symbol
    if symbol < blockEnd then blockSymbols literals distances fuel (out.push symbol.toUInt8)
    else if symbol = blockEnd then pure out
    else
      let length ← spanNumber lengthSpans (symbol - blockEnd - 1)
      let distance ← spanNumber distanceSpans (← distances.symbol)
      match repeatBytes distance length out with
      | some out => blockSymbols literals distances fuel out
      | none => failure

/-- The fixed code of bytes and lengths. -/
def fixedLiterals : Code :=
  .ofLengths (List.replicate 144 8 ++ List.replicate 112 9 ++ List.replicate 24 7 ++
    List.replicate 8 8)

/-- The fixed code of distances. -/
def fixedDistances : Code := .ofLengths (List.replicate 30 5)

/-- The order in which the lengths of the words for lengths are given. -/
def lengthOrder : List Nat := [16, 17, 18, 0, 8, 7, 9, 6, 10, 5, 11, 4, 12, 3, 13, 2, 14, 1, 15]

/-- Reads lengths of words until there are as many as wanted; those read so far stand in reverse. -/
def readLengths (code : Code) (wanted : Nat) : Nat → List Nat → BitReader (List Nat)
  | 0, _ => failure
  | fuel + 1, sofar =>
    if wanted ≤ sofar.length then pure (sofar.reverse.take wanted)
    else do
      let again := fun (start width length : Nat) => do
        let n ← Bits.number width
        readLengths code wanted fuel (List.replicate (start + n) length ++ sofar)
      match ← code.symbol with
      | 16 =>
        match sofar with
        | last :: _ => again 3 2 last
        | [] => failure
      | 17 => again 3 3 0
      | 18 => again 11 7 0
      | length => readLengths code wanted fuel (length :: sofar)

/-- Reads the codes a block starts with. -/
def readCodes : BitReader (Code × Code) := do
  let literals := 257 + (← Bits.number 5)
  let distances := 1 + (← Bits.number 5)
  let count := 4 + (← Bits.number 4)
  let given ← (List.range count).mapM fun _ => Bits.number 3
  let named := lengthOrder.zip given
  let code := Code.ofLengths ((List.range 19).map fun n => (named.lookup n).getD 0)
  let lengths ← readLengths code (literals + distances) (literals + distances + 1) []
  pure (.ofLengths (lengths.take literals), .ofLengths (lengths.drop literals))

/-- Reads a block that is stored as it is. -/
def storedBlock (out : ByteArray) : BitReader ByteArray := do
  Bits.align
  let length ← Bits.number 16
  let check ← Bits.number 16
  let b ← get
  let start := b.position / 8
  if length + check = 0xffff ∧ start + length ≤ b.bytes.size then
    set { b with position := b.position + 8 * length }
    pure (out ++ b.bytes.extract start (start + length))
  else failure

/-- Reads blocks up to the last one. -/
def blocks (bits : Nat) : Nat → ByteArray → BitReader ByteArray
  | 0, _ => failure
  | fuel + 1, out => do
    let last ← Bits.bit
    let out ←
      match ← Bits.number 2 with
      | 0 => storedBlock out
      | 1 => blockSymbols fixedLiterals fixedDistances bits out
      | 2 => do
        let (literals, distances) ← readCodes
        blockSymbols literals distances bits out
      | _ => failure
    if last then pure out else blocks bits fuel out

/-- Reads compressed data. -/
def inflate : BitReader ByteArray := do
  let bits := 8 * (← get).bytes.size + 1
  blocks bits bits .empty

/-! ## Checksums -/

/-- A step of the checksum for each bit of a byte. -/
def checksumByte (sum : UInt32) (byte : UInt8) : UInt32 :=
  (List.range 8).foldl
    (fun sum _ => if sum &&& 1 = 1 then (sum >>> 1) ^^^ 0xedb88320 else sum >>> 1)
    (sum ^^^ byte.toUInt32)

/-- The checksum of data. -/
def checksum (data : ByteArray) : UInt32 := data.foldl checksumByte 0xffffffff ^^^ 0xffffffff

/-! ## Reading -/

/-- Reads a byte. -/
def byte : BitReader Nat := Bits.number 8

/-- Passes over bytes up to a zero. -/
def skipText : Nat → BitReader Unit
  | 0 => failure
  | fuel + 1 => do if (← byte) ≠ 0 then skipText fuel

/-- Passes over the head of a file. -/
def skipHead : BitReader Unit := do
  let size := (← get).bytes.size
  let magic ← (List.range 3).mapM fun _ => byte
  if magic ≠ [0x1f, 0x8b, 8] then failure
  let flags ← byte
  let _ ← (List.range 6).mapM fun _ => byte
  if flags.testBit 2 then
    let length ← Bits.number 16
    let _ ← (List.range length).mapM fun _ => byte
  if flags.testBit 3 then skipText (size + 1)
  if flags.testBit 4 then skipText (size + 1)
  if flags.testBit 1 then
    let _ ← Bits.number 16

/-- Reads a file. -/
def readFile : BitReader ByteArray := do
  skipHead
  let data ← inflate
  Bits.align
  let sum ← Bits.number 32
  let size ← Bits.number 32
  if sum = (checksum data).toNat ∧ size = data.size % UInt32.size then pure data else failure

/-- The data of a compressed file. -/
def unpack? (bytes : ByteArray) : Option ByteArray := (readFile.run ⟨bytes, 0⟩).map (·.1)

/-! ## Writing -/

/-- A number in bytes, the least significant first. -/
def littleEndian : Nat → Nat → List UInt8
  | 0, _ => []
  | width + 1, n => n.toUInt8 :: littleEndian width (n / 256)

/-- How many bytes a block may store. -/
def blockSize : Nat := 0xffff

/-- Data in blocks from a position on. -/
def storedBlocks (data : ByteArray) : Nat → Nat → ByteArray → ByteArray
  | 0, _, out => out
  | fuel + 1, start, out =>
    let length := min blockSize (data.size - start)
    let last := start + length = data.size
    let head := (if last then 1 else 0) :: littleEndian 2 length ++ littleEndian 2 (0xffff - length)
    let out := out ++ ⟨head.toArray⟩ ++ data.extract start (start + length)
    if last then out else storedBlocks data fuel (start + length) out

/-- The head of a file that says nothing about where it comes from. -/
def head : List UInt8 := [0x1f, 0x8b, 8, 0, 0, 0, 0, 0, 0, 0xff]

/-- A compressed file with the data. -/
def pack (data : ByteArray) : ByteArray :=
  let tail := littleEndian 4 (checksum data).toNat ++ littleEndian 4 data.size
  storedBlocks data (data.size + 1) 0 ⟨head.toArray⟩ ++ ⟨tail.toArray⟩

end FilterStore.Gzip
