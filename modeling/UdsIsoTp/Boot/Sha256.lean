import Mathlib.Data.List.Basic

/-!
# SHA-256

`sha256.c`. A context holds the chaining state, the number of bytes taken and the bytes of
the block not yet full; `digest` is what the incremental interface makes of a whole message.
-/

namespace UdsIsoTp.Boot

namespace Sha256

/-- `ROTRIGHT` -/
def rotRight (a b : UInt32) : UInt32 := (a >>> b) ||| (a <<< (32 - b))

/-- `CH` -/
def ch (x y z : UInt32) : UInt32 := (x &&& y) ^^^ (~~~x &&& z)

/-- `MAJ` -/
def maj (x y z : UInt32) : UInt32 := (x &&& y) ^^^ (x &&& z) ^^^ (y &&& z)

/-- `EP0` -/
def ep0 (x : UInt32) : UInt32 := rotRight x 2 ^^^ rotRight x 13 ^^^ rotRight x 22

/-- `EP1` -/
def ep1 (x : UInt32) : UInt32 := rotRight x 6 ^^^ rotRight x 11 ^^^ rotRight x 25

/-- `SIG0` -/
def sig0 (x : UInt32) : UInt32 := rotRight x 7 ^^^ rotRight x 18 ^^^ (x >>> 3)

/-- `SIG1` -/
def sig1 (x : UInt32) : UInt32 := rotRight x 17 ^^^ rotRight x 19 ^^^ (x >>> 10)

/-- `kSha256K` -/
def k : List UInt32 :=
  [0x428a2f98, 0x71374491, 0xb5c0fbcf, 0xe9b5dba5, 0x3956c25b, 0x59f111f1,
    0x923f82a4, 0xab1c5ed5, 0xd807aa98, 0x12835b01, 0x243185be, 0x550c7dc3,
    0x72be5d74, 0x80deb1fe, 0x9bdc06a7, 0xc19bf174, 0xe49b69c1, 0xefbe4786,
    0x0fc19dc6, 0x240ca1cc, 0x2de92c6f, 0x4a7484aa, 0x5cb0a9dc, 0x76f988da,
    0x983e5152, 0xa831c66d, 0xb00327c8, 0xbf597fc7, 0xc6e00bf3, 0xd5a79147,
    0x06ca6351, 0x14292967, 0x27b70a85, 0x2e1b2138, 0x4d2c6dfc, 0x53380d13,
    0x650a7354, 0x766a0abb, 0x81c2c92e, 0x92722c85, 0xa2bfe8a1, 0xa81a664b,
    0xc24b8b70, 0xc76c51a3, 0xd192e819, 0xd6990624, 0xf40e3585, 0x106aa070,
    0x19a4c116, 0x1e376c08, 0x2748774c, 0x34b0bcb5, 0x391c0cb3, 0x4ed8aa4a,
    0x5b9cca4f, 0x682e6ff3, 0x748f82ee, 0x78a5636f, 0x84c87814, 0x8cc70208,
    0x90befffa, 0xa4506ceb, 0xbef9a3f7, 0xc67178f2]

/-- The working variables, and the chaining state between blocks. -/
structure Words where
  a : UInt32
  b : UInt32
  c : UInt32
  d : UInt32
  e : UInt32
  f : UInt32
  g : UInt32
  h : UInt32

/-- A big-endian word of a block. -/
def blockWord (data : List UInt8) (i : Nat) : UInt32 :=
  ((data.getD (i * 4) 0).toUInt32 <<< 24) ||| ((data.getD (i * 4 + 1) 0).toUInt32 <<< 16)
    ||| ((data.getD (i * 4 + 2) 0).toUInt32 <<< 8) ||| (data.getD (i * 4 + 3) 0).toUInt32

/-- The message schedule `m`. -/
def schedule (data : List UInt8) : List UInt32 :=
  (List.range' 16 48).foldl
    (fun m i => m ++ [sig1 (m.getD (i - 2) 0) + m.getD (i - 7) 0 + sig0 (m.getD (i - 15) 0)
      + m.getD (i - 16) 0])
    ((List.range 16).map (blockWord data))

/-- A round, with its constant and its word of the schedule. -/
def round (v : Words) (km : UInt32 × UInt32) : Words :=
  let t1 := v.h + ep1 v.e + ch v.e v.f v.g + km.1 + km.2
  let t2 := ep0 v.a + maj v.a v.b v.c
  ⟨t1 + t2, v.a, v.b, v.c, v.d + t1, v.e, v.f, v.g⟩

/-- `sha256_transform` -/
def transform (state : Words) (data : List UInt8) : Words :=
  let v := (k.zip (schedule data)).foldl round state
  ⟨state.a + v.a, state.b + v.b, state.c + v.c, state.d + v.d, state.e + v.e, state.f + v.f,
    state.g + v.g, state.h + v.h⟩

/-- The state, how many bytes have come, and the block that is not yet full. -/
structure Ctx where
  state : Words
  count : UInt64
  buffer : List UInt8

/-- `sha256_init` -/
def init : Ctx where
  state := ⟨0x6a09e667, 0xbb67ae85, 0x3c6ef372, 0xa54ff53a, 0x510e527f, 0x9b05688c, 0x1f83d9ab,
    0x5be0cd19⟩
  count := 0
  buffer := []

/-- One byte; the one that fills the block has it transformed. -/
def updateByte (ctx : Ctx) (byte : UInt8) : Ctx :=
  let buffer := ctx.buffer ++ [byte]
  if buffer.length = 64 then ⟨transform ctx.state buffer, ctx.count + 1, []⟩
  else ⟨ctx.state, ctx.count + 1, buffer⟩

/-- `sha256_update` -/
def update (ctx : Ctx) (data : List UInt8) : Ctx := data.foldl updateByte ctx

/-- The bytes of a big-endian word. -/
def wordBytes (word : UInt32) : List UInt8 :=
  [(word >>> 24).toUInt8, (word >>> 16).toUInt8, (word >>> 8).toUInt8, word.toUInt8]

/-- The number of bits taken, as the last eight bytes of the padding. -/
def lengthBytes (count : UInt64) : List UInt8 :=
  (List.range 8).map fun i => ((count * 8) >>> (56 - UInt64.ofNat i * 8)).toUInt8

/-- `sha256_final`: pads the last block, or the last two, and gives the digest. -/
def final (ctx : Ctx) : List UInt8 :=
  let buffer := ctx.buffer ++ [0x80]
  let (state, buffer) :=
    if 56 < buffer.length then
      (transform ctx.state (buffer ++ List.replicate (64 - buffer.length) 0), [])
    else (ctx.state, buffer)
  let s := transform state
    (buffer ++ List.replicate (56 - buffer.length) 0 ++ lengthBytes ctx.count)
  wordBytes s.a ++ wordBytes s.b ++ wordBytes s.c ++ wordBytes s.d ++ wordBytes s.e
    ++ wordBytes s.f ++ wordBytes s.g ++ wordBytes s.h

end Sha256

/-- `sha256_hash` -/
def sha256Hash (data : List UInt8) : List UInt8 := Sha256.final (Sha256.update Sha256.init data)

end UdsIsoTp.Boot
