/-!
# The BLAKE3 hash

The input is cut into chunks of 1024 octets and each chunk into blocks of 64. The blocks of a chunk
are compressed one after the other into a chaining value of eight words. The chaining values of the
chunks are joined in a binary tree whose left subtrees are complete; the node at the root gives the
digest. Words are 32 bits wide, their octets in ascending order of weight.
-/

namespace AutoAnnotate.Blake3

/-- The words of a block, and the state of a compression. -/
abbrev Words := Vector UInt32 16

/-- What identifies a node of the tree among all its possible inputs. -/
abbrev ChainingValue := Vector UInt32 8

/-- The chaining value that every chunk starts from. -/
def initial : ChainingValue :=
  #v[0x6A09E667, 0xBB67AE85, 0x3C6EF372, 0xA54FF53A, 0x510E527F, 0x9B05688C, 0x1F83D9AB, 0x5BE0CD19]

/-! ## Roles of a block -/

def chunkStart : UInt32 := 1
def chunkEnd : UInt32 := 2
def parent : UInt32 := 4
def root : UInt32 := 8

/-! ## Compression -/

def rotateRight (x : UInt32) (n : UInt32) : UInt32 := (x >>> n) ||| (x <<< (32 - n))

/-- Mixes two message words into four words of the state. -/
def mix (s : Words) (a b c d : Fin 16) (x y : UInt32) : Words :=
  let s := s.set a (s[a] + s[b] + x)
  let s := s.set d (rotateRight (s[d] ^^^ s[a]) 16)
  let s := s.set c (s[c] + s[d])
  let s := s.set b (rotateRight (s[b] ^^^ s[c]) 12)
  let s := s.set a (s[a] + s[b] + y)
  let s := s.set d (rotateRight (s[d] ^^^ s[a]) 8)
  let s := s.set c (s[c] + s[d])
  s.set b (rotateRight (s[b] ^^^ s[c]) 7)

/-- Mixes a block into the columns of the state, then into its diagonals. -/
def round (s m : Words) : Words :=
  let s := mix s 0 4 8 12 m[0] m[1]
  let s := mix s 1 5 9 13 m[2] m[3]
  let s := mix s 2 6 10 14 m[4] m[5]
  let s := mix s 3 7 11 15 m[6] m[7]
  let s := mix s 0 5 10 15 m[8] m[9]
  let s := mix s 1 6 11 12 m[10] m[11]
  let s := mix s 2 7 8 13 m[12] m[13]
  mix s 3 4 9 14 m[14] m[15]

/-- The block for the next round: each word comes from the place given here. -/
def permute (m : Words) : Words :=
  (#v[2, 6, 3, 10, 7, 0, 4, 13, 1, 11, 12, 5, 9, 14, 15, 8] : Vector (Fin 16) 16).map fun i => m[i]

/-- A number of rounds. -/
def rounds : Nat → Words → Words → Words
  | 0, s, _ => s
  | n + 1, s, m => rounds n (round s m) (permute m)

/-- What is compressed at a node of the tree. -/
structure Node where
  chaining : ChainingValue
  block : Words
  counter : UInt64
  size : UInt32
  flags : UInt32

namespace Node

/-- The first half of the state after seven rounds, folded with its second half. -/
def compress (n : Node) : ChainingValue :=
  let s : Words := n.chaining ++
    #v[initial[0], initial[1], initial[2], initial[3],
      n.counter.toUInt32, (n.counter >>> 32).toUInt32, n.size, n.flags]
  let s := rounds 7 s n.block
  Vector.zipWith (· ^^^ ·) (s.extract 0 8) (s.extract 8 16)

end Node

/-! ## The tree -/

def octetsPerBlock : Nat := 64
def octetsPerChunk : Nat := 1024

/-- The word that an octet string spells from a place on, zero where it has ended. -/
def wordAt (octets : List UInt8) (place : Nat) : UInt32 :=
  let octet (i : Nat) : UInt32 := ((octets[place + i]?).getD 0).toUInt32
  octet 0 ||| (octet 1 <<< 8) ||| (octet 2 <<< 16) ||| (octet 3 <<< 24)

def wordsOf (octets : List UInt8) : Words :=
  (Vector.finRange 16).map fun i => wordAt octets (4 * i.val)

/-- The last block of a chunk, after the blocks before it have been compressed. -/
def chunkNode (counter : UInt64) (chaining : ChainingValue) (flags : UInt32)
    (octets : List UInt8) : Node :=
  let block := octets.take octetsPerBlock
  let node (more : UInt32) : Node :=
    ⟨chaining, wordsOf block, counter, .ofNat block.length, flags ||| more⟩
  if octets.length ≤ octetsPerBlock then node chunkEnd
  else chunkNode counter (node 0).compress 0 (octets.drop octetsPerBlock)
termination_by octets.length
decreasing_by simp [octetsPerBlock] at *; omega

/-- How many octets go to the left subtree: the largest complete tree of chunks that leaves at
least one octet to the right. -/
def leftSize (size : Nat) : Nat := octetsPerChunk * Nat.pow 2 ((size - 1) / octetsPerChunk).log2

theorem leftSize_lt {size : Nat} (h : octetsPerChunk < size) : leftSize size < size := by
  have hpos : (size - 1) / octetsPerChunk ≠ 0 := by simp [octetsPerChunk] at *; omega
  have hle := Nat.log2_self_le hpos
  have hmul := Nat.mul_le_mul_left octetsPerChunk hle
  have hdiv := Nat.mul_div_le (size - 1) octetsPerChunk
  simp only [leftSize, Nat.pow_eq]
  omega

theorem leftSize_pos (size : Nat) : 0 < leftSize size :=
  Nat.mul_pos (by decide) (Nat.two_pow_pos _)

/-- The node at the root of the tree over an octet string, which starts at the chunk with a
number. -/
def treeNode (counter : Nat) (octets : List UInt8) : Node :=
  if h : octets.length ≤ octetsPerChunk then
    chunkNode (.ofNat counter) initial chunkStart octets
  else
    let size := leftSize octets.length
    have _hlt := leftSize_lt (Nat.lt_of_not_le h)
    have _hpos := leftSize_pos octets.length
    let left := treeNode counter (octets.take size)
    let right := treeNode (counter + size / octetsPerChunk) (octets.drop size)
    ⟨initial, left.compress ++ right.compress, 0, 64, parent⟩
termination_by octets.length
decreasing_by
  all_goals simp only [List.length_take, List.length_drop]; omega

/-- The octets of a word. -/
def octetsOf (w : UInt32) : List UInt8 :=
  [w.toUInt8, (w >>> 8).toUInt8, (w >>> 16).toUInt8, (w >>> 24).toUInt8]

/-- The digest of an octet string: 32 octets. -/
def digest (octets : List UInt8) : List UInt8 :=
  let node := treeNode 0 octets
  ({ node with flags := node.flags ||| root }).compress.toList.flatMap octetsOf

/-- An octet as two hexadecimal digits in lower case. -/
def hexOctet (b : UInt8) : List Char :=
  [Nat.digitChar (b.toNat / 16), Nat.digitChar (b.toNat % 16)]

/-- The digest of the UTF-8 octets of a text, in hexadecimal digits. -/
def hexDigest (s : String) : String :=
  String.ofList ((digest s.toUTF8.toList).flatMap hexOctet)

end AutoAnnotate.Blake3
