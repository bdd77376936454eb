/-!
# SHA-1 and HMAC

`sha1` follows FIPS 180-4 over lists of bytes and words, `hmac` RFC 2104 with SHA-1 as its hash.
-/

namespace TwoFactorLogin.Sha1

/-- The five words that a block transforms. -/
structure State where
  a : UInt32
  b : UInt32
  c : UInt32
  d : UInt32
  e : UInt32
  deriving DecidableEq, Repr

/-- The words that the first block starts from. -/
def State.start : State := ⟨0x67452301, 0xEFCDAB89, 0x98BADCFE, 0x10325476, 0xC3D2E1F0⟩

/-- A word with its bits moved to the left in a circle. -/
def rotateLeft (x n : UInt32) : UInt32 := (x <<< n) ||| (x >>> (32 - n))

/-- The number that some bytes spell, most significant first. -/
def ofBytes (bytes : List UInt8) : Nat := bytes.foldl (fun v b => 256 * v + b.toNat) 0

/-- The lowest bytes of a number, most significant first. -/
def toBytes : Nat → Nat → List UInt8
  | 0, _ => []
  | width + 1, n => UInt8.ofNat (n / Nat.pow 256 width) :: toBytes width n

/-- The message with its end mark, zeros and length in bits, a multiple of 64 bytes. -/
def padded (message : List UInt8) : List UInt8 :=
  let zeros := (119 - message.length % 64) % 64
  message ++ 0x80 :: List.replicate zeros 0 ++ toBytes 8 (8 * message.length)

/-- The words of a block. -/
def words : List UInt8 → List UInt32
  | a :: b :: c :: d :: rest => UInt32.ofNat (ofBytes [a, b, c, d]) :: words rest
  | _ => []

/-- The message schedule, newest word first, extended by a number of words. -/
def extend : Nat → List UInt32 → List UInt32
  | 0, ws => ws
  | n + 1, ws =>
    let word := ws.getD 2 0 ^^^ ws.getD 7 0 ^^^ ws.getD 13 0 ^^^ ws.getD 15 0
    extend n (rotateLeft word 1 :: ws)

/-- The function and constant of a round. -/
def roundParts (t : Nat) (s : State) : UInt32 × UInt32 :=
  if t < 20 then ((s.b &&& s.c) ||| (~~~s.b &&& s.d), 0x5A827999)
  else if t < 40 then (s.b ^^^ s.c ^^^ s.d, 0x6ED9EBA1)
  else if t < 60 then ((s.b &&& s.c) ||| (s.b &&& s.d) ||| (s.c &&& s.d), 0x8F1BBCDC)
  else (s.b ^^^ s.c ^^^ s.d, 0xCA62C1D6)

/-- The rounds for a row of schedule words, the first with number `t`. -/
def rounds : Nat → List UInt32 → State → State
  | _, [], s => s
  | t, w :: ws, s =>
    let (f, k) := roundParts t s
    rounds (t + 1) ws ⟨rotateLeft s.a 5 + f + s.e + k + w, s.a, rotateLeft s.b 30, s.c, s.d⟩

/-- The state after one block. -/
def block (s : State) (bytes : List UInt8) : State :=
  let r := rounds 0 (extend 64 (words bytes).reverse).reverse s
  ⟨s.a + r.a, s.b + r.b, s.c + r.c, s.d + r.d, s.e + r.e⟩

/-- The state after a number of blocks of 64 bytes. -/
def blocks : Nat → State → List UInt8 → State
  | 0, s, _ => s
  | n + 1, s, bytes => blocks n (block s (bytes.take 64)) (bytes.drop 64)

/-- The twenty bytes of the SHA-1 digest. -/
def sha1 (message : List UInt8) : List UInt8 :=
  let bytes := padded message
  let s := blocks (bytes.length / 64) State.start bytes
  [s.a, s.b, s.c, s.d, s.e].flatMap fun w => toBytes 4 w.toNat

/-- The key as a full block: hashed if it is longer than one, filled with zeros. -/
def blockKey (key : List UInt8) : List UInt8 :=
  let key := if 64 < key.length then sha1 key else key
  key ++ List.replicate (64 - key.length) 0

/-- The message authentication code of a message under a key. -/
def hmac (key message : List UInt8) : List UInt8 :=
  let key := blockKey key
  sha1 (key.map (· ^^^ 0x5C) ++ sha1 (key.map (· ^^^ 0x36) ++ message))

end TwoFactorLogin.Sha1
