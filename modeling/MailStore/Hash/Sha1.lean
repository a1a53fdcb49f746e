import MailStore.Bytes

/-!
# SHA-1

The SHA-1 digest of a message (FIPS 180-4): the message is padded with a one bit, zero
bits and its length in bits as a 64-bit big-endian number to a multiple of 64 bytes; each
64-byte block goes through eighty rounds that update five 32-bit words, starting from the
standard initial words; the digest is the five words in big-endian order.

The library uses it for name-based identifiers (`Guid.ofName`), where it is fixed by the
UUID standard, not for security.
-/

namespace MailStore

namespace Sha1

/-- The five working words. -/
abbrev State := UInt32 × UInt32 × UInt32 × UInt32 × UInt32

/-- The initial words. -/
def initial : State := (0x67452301, 0xEFCDAB89, 0x98BADCFE, 0x10325476, 0xC3D2E1F0)

/-- A word rotated left by `n` bits. -/
def rotl (x : UInt32) (n : UInt32) : UInt32 := (x <<< n) ||| (x >>> (32 - n))

/-- The message padded to whole blocks. -/
def padding (msg : Bytes) : Bytes :=
  let len := msg.length
  let zeros := (64 + 55 - len % 64) % 64
  msg ++ [0x80] ++ List.replicate zeros 0 ++ Bytes.ofNatBE 8 (8 * len)

/-- The big-endian word of four bytes. -/
def word (b : Bytes) : UInt32 :=
  b.foldl (fun w x => (w <<< 8) ||| x.toUInt32) 0

/-- The sixteen words of a block. -/
def blockWords (block : Bytes) : List UInt32 :=
  (List.range 16).map fun i => word ((block.drop (4 * i)).take 4)

/-- The eighty words of the schedule of a block. -/
def schedule (ws : List UInt32) : Array UInt32 :=
  (List.range 64).foldl (fun (a : Array UInt32) i =>
    a.push (rotl (a[i + 13]! ^^^ a[i + 8]! ^^^ a[i + 2]! ^^^ a[i]!) 1)) ws.toArray

/-- The round function and constant of round `t`. -/
def roundMix (t : Nat) (b c d : UInt32) : UInt32 × UInt32 :=
  if t < 20 then ((b &&& c) ||| ((~~~b) &&& d), 0x5A827999)
  else if t < 40 then (b ^^^ c ^^^ d, 0x6ED9EBA1)
  else if t < 60 then ((b &&& c) ||| (b &&& d) ||| (c &&& d), 0x8F1BBCDC)
  else (b ^^^ c ^^^ d, 0xCA62C1D6)

/-- The working words after the rounds of one block. -/
def compress (s : State) (block : Bytes) : State :=
  let w := schedule (blockWords block)
  let (a, b, c, d, e) := (List.range 80).foldl (fun (st : State) t =>
    let (a, b, c, d, e) := st
    let (f, k) := roundMix t b c d
    let tmp := rotl a 5 + f + e + k + w[t]!
    (tmp, a, rotl b 30, c, d)) s
  let (h0, h1, h2, h3, h4) := s
  (h0 + a, h1 + b, h2 + c, h3 + d, h4 + e)

/-- The words after the given number of blocks of a padded message. -/
def blocks : Nat → Bytes → State → State
  | 0, _, s => s
  | n + 1, msg, s => blocks n (msg.drop 64) (compress s (msg.take 64))

/-- The digest of a message: twenty bytes. -/
def digest (msg : Bytes) : Bytes :=
  let padded := padding msg
  let (h0, h1, h2, h3, h4) := blocks (padded.length / 64) padded initial
  [h0, h1, h2, h3, h4].flatMap fun h => Bytes.ofNatBE 4 h.toNat

theorem padding_length (msg : Bytes) : (padding msg).length % 64 = 0 := by
  simp [padding, Bytes.ofNatBE, Bytes.length_ofNatLE]
  omega

end Sha1

end MailStore
