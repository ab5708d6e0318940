/-!
# Fingerprints

The 64-bit XXH3 hash, seed zero, of a text's UTF-8 bytes. Texts with the same fingerprint share
one record of the build store. Short inputs are mixed directly, inputs of up to 240 bytes in
lanes of sixteen bytes, and longer ones in stripes of 64 bytes into eight accumulators.
-/

namespace ChunkBridge.Text.Fingerprint

/-- The bytes that every round mixes into its input. -/
def secret : Array UInt8 := #[
  0xb8, 0xfe, 0x6c, 0x39, 0x23, 0xa4, 0x4b, 0xbe, 0x7c, 0x01, 0x81, 0x2c, 0xf7, 0x21, 0xad, 0x1c,
  0xde, 0xd4, 0x6d, 0xe9, 0x83, 0x90, 0x97, 0xdb, 0x72, 0x40, 0xa4, 0xa4, 0xb7, 0xb3, 0x67, 0x1f,
  0xcb, 0x79, 0xe6, 0x4e, 0xcc, 0xc0, 0xe5, 0x78, 0x82, 0x5a, 0xd0, 0x7d, 0xcc, 0xff, 0x72, 0x21,
  0xb8, 0x08, 0x46, 0x74, 0xf7, 0x43, 0x24, 0x8e, 0xe0, 0x35, 0x90, 0xe6, 0x81, 0x3a, 0x26, 0x4c,
  0x3c, 0x28, 0x52, 0xbb, 0x91, 0xc3, 0x00, 0xcb, 0x88, 0xd0, 0x65, 0x8b, 0x1b, 0x53, 0x2e, 0xa3,
  0x71, 0x64, 0x48, 0x97, 0xa2, 0x0d, 0xf9, 0x4e, 0x38, 0x19, 0xef, 0x46, 0xa9, 0xde, 0xac, 0xd8,
  0xa8, 0xfa, 0x76, 0x3f, 0xe3, 0x9c, 0x34, 0x3f, 0xf9, 0xdc, 0xbb, 0xc7, 0xc7, 0x0b, 0x4f, 0x1d,
  0x8a, 0x51, 0xe0, 0x4b, 0xcd, 0xb4, 0x59, 0x31, 0xc8, 0x9f, 0x7e, 0xc9, 0xd9, 0x78, 0x73, 0x64,
  0xea, 0xc5, 0xac, 0x83, 0x34, 0xd3, 0xeb, 0xc3, 0xc5, 0x81, 0xa0, 0xff, 0xfa, 0x13, 0x63, 0xeb,
  0x17, 0x0d, 0xdd, 0x51, 0xb7, 0xf0, 0xda, 0x49, 0xd3, 0x16, 0x55, 0x26, 0x29, 0xd4, 0x68, 0x9e,
  0x2b, 0x16, 0xbe, 0x58, 0x7d, 0x47, 0xa1, 0xfc, 0x8f, 0xf8, 0xb8, 0xd1, 0x7a, 0xd0, 0x31, 0xce,
  0x45, 0xcb, 0x3a, 0x8f, 0x95, 0x16, 0x04, 0x28, 0xaf, 0xd7, 0xfb, 0xca, 0xbb, 0x4b, 0x40, 0x7e]

/-- The odd constants of the mixing steps. -/
def prime32a : UInt64 := 0x9E3779B1
@[inherit_doc prime32a] def prime32b : UInt64 := 0x85EBCA77
@[inherit_doc prime32a] def prime32c : UInt64 := 0xC2B2AE3D
@[inherit_doc prime32a] def prime64a : UInt64 := 0x9E3779B185EBCA87
@[inherit_doc prime32a] def prime64b : UInt64 := 0xC2B2AE3D27D4EB4F
@[inherit_doc prime32a] def prime64c : UInt64 := 0x165667B19E3779F9
@[inherit_doc prime32a] def prime64d : UInt64 := 0x85EBCA77C2B2AE63
@[inherit_doc prime32a] def prime64e : UInt64 := 0x27D4EB2F165667C5
@[inherit_doc prime32a] def primeMix : UInt64 := 0x165667919E3779F9
@[inherit_doc prime32a] def primeMixShort : UInt64 := 0x9FB21C651E98DF25

/-- The little-endian number in the `width` bytes at `i`. -/
def readWord (bytes : Array UInt8) (i : Nat) : Nat → UInt64
  | 0 => 0
  | width + 1 => readWord bytes (i + 1) width <<< 8 ||| (bytes.getD i 0).toUInt64

/-- The eight-byte number at `i`. -/
def read64 (bytes : Array UInt8) (i : Nat) : UInt64 := readWord bytes i 8

/-- The four-byte number at `i`. -/
def read32 (bytes : Array UInt8) (i : Nat) : UInt64 := readWord bytes i 4

/-- The same bits, moved up and around by `n`. -/
def rotateLeft (x : UInt64) (n : UInt64) : UInt64 := x <<< n ||| x >>> (64 - n)

/-- The same eight bytes in the opposite order. -/
def swapBytes (x : UInt64) : UInt64 :=
  (List.range 8).foldl (fun acc i => acc <<< 8 ||| (x >>> (8 * i.toUInt64)) % 256) 0

/-- The two halves of the 128-bit product, combined. -/
def foldedProduct (x y : UInt64) : UInt64 :=
  let product := x.toNat * y.toNat
  (product % Nat.pow 2 64).toUInt64 ^^^ (product / Nat.pow 2 64).toUInt64

/-- The closing mix of the shortest inputs. -/
def avalancheShort (h : UInt64) : UInt64 :=
  let h := (h ^^^ h >>> 33) * prime64b
  let h := (h ^^^ h >>> 29) * prime64c
  h ^^^ h >>> 32

/-- The closing mix of all other inputs. -/
def avalanche (h : UInt64) : UInt64 :=
  let h := (h ^^^ h >>> 37) * primeMix
  h ^^^ h >>> 32

/-- Sixteen bytes of input mixed with sixteen bytes of the secret. -/
def mixLane (bytes : Array UInt8) (i j : Nat) : UInt64 :=
  foldedProduct (read64 bytes i ^^^ read64 secret j) (read64 bytes (i + 8) ^^^ read64 secret (j + 8))

/-- Inputs of at most sixteen bytes. -/
def ofShort (bytes : Array UInt8) : UInt64 :=
  let n := bytes.size
  let size := n.toUInt64
  if n == 0 then
    avalancheShort (read64 secret 56 ^^^ read64 secret 64)
  else if n ≤ 3 then
    let first := (bytes.getD 0 0).toUInt64
    let middle := (bytes.getD (n / 2) 0).toUInt64
    let last := (bytes.getD (n - 1) 0).toUInt64
    let combined := first <<< 16 ||| middle <<< 24 ||| last ||| size <<< 8
    avalancheShort (combined ^^^ (read32 secret 0 ^^^ read32 secret 4))
  else if n ≤ 8 then
    let combined := read32 bytes (n - 4) + read32 bytes 0 <<< 32
    let h := combined ^^^ (read64 secret 8 ^^^ read64 secret 16)
    let h := (h ^^^ rotateLeft h 49 ^^^ rotateLeft h 24) * primeMixShort
    let h := (h ^^^ (h >>> 35 + size)) * primeMixShort
    h ^^^ h >>> 28
  else
    let low := read64 bytes 0 ^^^ (read64 secret 24 ^^^ read64 secret 32)
    let high := read64 bytes (n - 8) ^^^ (read64 secret 40 ^^^ read64 secret 48)
    avalanche (size + swapBytes low + high + foldedProduct low high)

/-- Inputs of 17 to 128 bytes, from both ends towards the middle. -/
def ofMiddle (bytes : Array UInt8) : UInt64 :=
  let n := bytes.size
  let lanes := (n - 1) / 32 + 1
  avalanche <| (List.range lanes).foldl
    (fun acc i => acc + mixLane bytes (16 * i) (32 * i) + mixLane bytes (n - 16 * (i + 1)) (32 * i + 16))
    (n.toUInt64 * prime64a)

/-- Inputs of 129 to 240 bytes. -/
def ofLong (bytes : Array UInt8) : UInt64 :=
  let n := bytes.size
  let head := (List.range 8).foldl (fun acc i => acc + mixLane bytes (16 * i) (16 * i))
    (n.toUInt64 * prime64a)
  let body := (List.range (n / 16 - 8)).foldl
    (fun acc i => acc + mixLane bytes (16 * (i + 8)) (16 * i + 3)) (avalanche head)
  avalanche (body + mixLane bytes (n - 16) 119)

/-- One stripe of 64 bytes at `i` goes into the accumulators, keyed by the secret at `j`. -/
def accumulate (bytes : Array UInt8) (i j : Nat) (acc : Array UInt64) : Array UInt64 :=
  (List.range 8).foldl (fun (acc : Array UInt64) k =>
    let value := read64 bytes (i + 8 * k)
    let key := value ^^^ read64 secret (j + 8 * k)
    let partner := if k % 2 == 0 then k + 1 else k - 1
    let acc := acc.modify partner fun (x : UInt64) => x + value
    acc.modify k fun (x : UInt64) => x + (key % 0x100000000) * (key >>> 32)) acc

/-- The accumulators are stirred after each block of sixteen stripes. -/
def scramble (acc : Array UInt64) : Array UInt64 :=
  acc.mapIdx fun k (x : UInt64) => ((x ^^^ x >>> 47) ^^^ read64 secret (128 + 8 * k)) * prime32a

/-- The stripes that begin at `i`, the first keyed by the secret's start. -/
def accumulateRun (bytes : Array UInt8) (i count : Nat) (acc : Array UInt64) : Array UInt64 :=
  (List.range count).foldl (fun acc k => accumulate bytes (i + 64 * k) (8 * k) acc) acc

/-- Inputs of more than 240 bytes. -/
def ofStripes (bytes : Array UInt8) : UInt64 :=
  let n := bytes.size
  let blocks := (n - 1) / 1024
  let acc : Array UInt64 :=
    #[prime32c, prime64a, prime64b, prime64c, prime64d, prime32b, prime64e, prime32a]
  let acc := (List.range blocks).foldl
    (fun acc b => scramble (accumulateRun bytes (1024 * b) 16 acc)) acc
  let acc := accumulateRun bytes (1024 * blocks) ((n - 1 - 1024 * blocks) / 64) acc
  let acc := accumulate bytes (n - 64) 121 acc
  avalanche <| (List.range 4).foldl
    (fun h k => h + foldedProduct (acc.getD (2 * k) 0 ^^^ read64 secret (11 + 16 * k))
      (acc.getD (2 * k + 1) 0 ^^^ read64 secret (19 + 16 * k)))
    (n.toUInt64 * prime64a)

/-- The hash of a sequence of bytes. -/
def ofBytes (bytes : Array UInt8) : UInt64 :=
  if bytes.size ≤ 16 then ofShort bytes
  else if bytes.size ≤ 128 then ofMiddle bytes
  else if bytes.size ≤ 240 then ofLong bytes
  else ofStripes bytes

end ChunkBridge.Text.Fingerprint

namespace ChunkBridge.Text

/-- The hash of a text's UTF-8 bytes. -/
def fingerprint (text : String) : UInt64 := Fingerprint.ofBytes text.toUTF8.data

end ChunkBridge.Text
