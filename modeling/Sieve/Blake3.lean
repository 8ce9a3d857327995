/-
This file computes the BLAKE3 digest of a text. The bytes are cut into chunks of
1024, each chunk into blocks of sixty-four, and a compression function chains
the blocks of a chunk together. The chunks are the leaves of a binary tree whose
left part is always a full tree, and whose root gives the digest.
-/

import Sieve.Text.Basic

namespace Sieve.Blake3

/-! ### Compression -/

/-- Eight words that stand for what has been digested so far. -/
abbrev Chain := Vector UInt32 8

/-- Sixteen words: the words of a block, or the state of a compression. -/
abbrev Words := Vector UInt32 16

/-- The chain that every chunk and every node begins with. -/
def initialChain : Chain := #v[
  0x6a09e667, 0xbb67ae85, 0x3c6ef372, 0xa54ff53a,
  0x510e527f, 0x9b05688c, 0x1f83d9ab, 0x5be0cd19]

/-- The order in which the words of a block are taken in the next round. -/
def wordOrder : Vector (Fin 16) 16 := #v[
  2, 6, 3, 10, 7, 0, 4, 13, 1, 11, 12, 5, 9, 14, 15, 8]

/-- The flag of the first block of a chunk. -/
def chunkStart : UInt32 := 1

/-- The flag of the last block of a chunk. -/
def chunkEnd : UInt32 := 2

/-- The flag of a node of the tree. -/
def parentNode : UInt32 := 4

/-- The flag of the root of the tree. -/
def treeRoot : UInt32 := 8

/-- A word turned right by a count of bits. -/
def rotateRight (word count : UInt32) : UInt32 :=
  (word >>> count) ||| (word <<< (32 - count))

/-- Mixes two words of a block into four words of the state. -/
def mix (state : Words) (a b c d : Fin 16) (x y : UInt32) : Words :=
  let first := state[a] + state[b] + x
  let fourth := rotateRight (state[d] ^^^ first) 16
  let third := state[c] + fourth
  let second := rotateRight (state[b] ^^^ third) 12
  let first := first + second + y
  let fourth := rotateRight (fourth ^^^ first) 8
  let third := third + fourth
  let second := rotateRight (second ^^^ third) 7
  (((state.set a first).set b second).set c third).set d fourth

/-- Mixes all words of a block into the state, by columns and then by diagonals. -/
def mixRound (state block : Words) : Words :=
  let state := mix state 0 4 8 12 block[0] block[1]
  let state := mix state 1 5 9 13 block[2] block[3]
  let state := mix state 2 6 10 14 block[4] block[5]
  let state := mix state 3 7 11 15 block[6] block[7]
  let state := mix state 0 5 10 15 block[8] block[9]
  let state := mix state 1 6 11 12 block[10] block[11]
  let state := mix state 2 7 8 13 block[12] block[13]
  mix state 3 4 9 14 block[14] block[15]

/-- Mixes a block into the state for a count of rounds. -/
def mixRounds : (rounds : Nat) → (state block : Words) → Words
  | 0, state, _ => state
  | rounds + 1, state, block =>
    mixRounds rounds (mixRound state block) (wordOrder.map fun place => block[place])

/-- The chain after one more block, of which `length` bytes count. -/
def compress (chain : Chain) (block : Words) (counter : UInt64) (length flags : UInt32) :
    Chain :=
  let state : Words := #v[
    chain[0], chain[1], chain[2], chain[3], chain[4], chain[5], chain[6], chain[7],
    initialChain[0], initialChain[1], initialChain[2], initialChain[3],
    counter.toUInt32, (counter >>> 32).toUInt32, length, flags]
  let mixed := mixRounds 7 state block
  Vector.ofFn fun place : Fin 8 => mixed[place.val] ^^^ mixed[place.val + 8]

/-! ### Blocks and chunks -/

/-- The word that four bytes make, the lowest first; bytes beyond the end are zero. -/
def wordAt (bytes : ByteArray) (start : Nat) : UInt32 :=
  let byte (place : Nat) : UInt32 := (bytes[place]?.getD 0).toUInt32
  byte start ||| (byte (start + 1) <<< 8) ||| (byte (start + 2) <<< 16) |||
    (byte (start + 3) <<< 24)

/-- The words of the block that begins at a place. -/
def blockAt (bytes : ByteArray) (start : Nat) : Words :=
  Vector.ofFn fun place : Fin 16 => wordAt bytes (start + 4 * place.val)

/-- Chains the rest of the blocks of a chunk together, the last one with further flags. -/
def chainBlocks (bytes : ByteArray) (counter : UInt64) (lastFlags : UInt32) :
    (blocks start : Nat) → (flags : UInt32) → Chain → Chain
  | 0, _, _, chain => chain
  | 1, start, flags, chain =>
    compress chain (blockAt bytes start) counter (UInt32.ofNat (bytes.size - start))
      (flags ||| lastFlags)
  | blocks + 2, start, flags, chain =>
    chainBlocks bytes counter lastFlags (blocks + 1) (start + 64) 0
      (compress chain (blockAt bytes start) counter 64 flags)

/-- The chain of a chunk of at most 1024 bytes, given its place among the chunks. -/
def chunkChain (bytes : ByteArray) (place : Nat) (rootFlag : UInt32) : Chain :=
  let blocks := max 1 ((bytes.size + 63) / 64)
  chainBlocks bytes (UInt64.ofNat place) (chunkEnd ||| rootFlag) blocks 0 chunkStart
    initialChain

/-! ### The tree -/

/-- The chain of a node, given the chains of its two parts. -/
def parentChain (left right : Chain) (rootFlag : UInt32) : Chain :=
  compress initialChain (left ++ right) 0 64 (parentNode ||| rootFlag)

/-- The greatest power of two below a count of chunks, which is at least two. -/
def leftCount (chunks : Nat) : Nat :=
  Nat.pow 2 (chunks - 1).log2

/-- The chain of the tree over some bytes, given the place of its first chunk. The fuel bounds
the height of the tree. -/
def treeChain : (fuel : Nat) → (bytes : ByteArray) → (place : Nat) → (rootFlag : UInt32) → Chain
  | 0, bytes, place, rootFlag => chunkChain bytes place rootFlag
  | fuel + 1, bytes, place, rootFlag =>
    if bytes.size ≤ 1024 then chunkChain bytes place rootFlag
    else
      let chunks := leftCount ((bytes.size + 1023) / 1024)
      let left := bytes.extract 0 (chunks * 1024)
      let right := bytes.extract (chunks * 1024) bytes.size
      parentChain (treeChain fuel left place 0) (treeChain fuel right (place + chunks) 0)
        rootFlag

/-- The digest of bytes, as eight words. -/
def digest (bytes : ByteArray) : Chain :=
  treeChain (bytes.size.log2 + 1) bytes 0 treeRoot

/-- The hexadecimal digits of a word, its lowest byte first. -/
def hexOfWord (word : UInt32) : List Char :=
  let byte (shift : UInt32) : List Char := Text.paddedHex 2 ((word >>> shift) &&& 0xff).toNat
  byte 0 ++ byte 8 ++ byte 16 ++ byte 24

/-- The digest of a text in hexadecimal digits. -/
def hexDigest (text : String) : String :=
  String.ofList ((digest text.toUTF8).toList.flatMap hexOfWord)

end Sieve.Blake3
