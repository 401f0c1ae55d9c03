import Mathlib
/-!
# SHA-256

The hash `hashlib.sha256(data).hexdigest()` computes, on byte lists, with
32-bit words as naturals below `2 ^ 32`. It is here so that a concrete run can
be evaluated; nothing is proved about its values, and a result that needs two
digests to differ says so as a hypothesis about the byte strings at hand.
-/
namespace Adcp.L1.Sha256

def word (n : Nat) : Nat := n % 2 ^ 32

def rotr (x n : Nat) : Nat := word (x >>> n ||| x <<< (32 - n))

def bsig0 (x : Nat) : Nat := rotr x 2 ^^^ rotr x 13 ^^^ rotr x 22
def bsig1 (x : Nat) : Nat := rotr x 6 ^^^ rotr x 11 ^^^ rotr x 25
def ssig0 (x : Nat) : Nat := rotr x 7 ^^^ rotr x 18 ^^^ x >>> 3
def ssig1 (x : Nat) : Nat := rotr x 17 ^^^ rotr x 19 ^^^ x >>> 10
def ch (x y z : Nat) : Nat := x &&& y ^^^ (2 ^ 32 - 1 - x) &&& z
def maj (x y z : Nat) : Nat := x &&& y ^^^ x &&& z ^^^ y &&& z

/-- The round constants. -/
def k : List Nat :=
  [0x428a2f98, 0x71374491, 0xb5c0fbcf, 0xe9b5dba5, 0x3956c25b, 0x59f111f1, 0x923f82a4, 0xab1c5ed5,
   0xd807aa98, 0x12835b01, 0x243185be, 0x550c7dc3, 0x72be5d74, 0x80deb1fe, 0x9bdc06a7, 0xc19bf174,
   0xe49b69c1, 0xefbe4786, 0x0fc19dc6, 0x240ca1cc, 0x2de92c6f, 0x4a7484aa, 0x5cb0a9dc, 0x76f988da,
   0x983e5152, 0xa831c66d, 0xb00327c8, 0xbf597fc7, 0xc6e00bf3, 0xd5a79147, 0x06ca6351, 0x14292967,
   0x27b70a85, 0x2e1b2138, 0x4d2c6dfc, 0x53380d13, 0x650a7354, 0x766a0abb, 0x81c2c92e, 0x92722c85,
   0xa2bfe8a1, 0xa81a664b, 0xc24b8b70, 0xc76c51a3, 0xd192e819, 0xd6990624, 0xf40e3585, 0x106aa070,
   0x19a4c116, 0x1e376c08, 0x2748774c, 0x34b0bcb5, 0x391c0cb3, 0x4ed8aa4a, 0x5b9cca4f, 0x682e6ff3,
   0x748f82ee, 0x78a5636f, 0x84c87814, 0x8cc70208, 0x90befffa, 0xa4506ceb, 0xbef9a3f7, 0xc67178f2]

/-- The eight working variables. -/
structure Vars where
  a : Nat
  b : Nat
  c : Nat
  d : Nat
  e : Nat
  f : Nat
  g : Nat
  h : Nat

def init : Vars :=
  ⟨0x6a09e667, 0xbb67ae85, 0x3c6ef372, 0xa54ff53a, 0x510e527f, 0x9b05688c, 0x1f83d9ab, 0x5be0cd19⟩

/-- The next schedule word from the last sixteen, the newest first. -/
def nextWord (w : List Nat) : Nat :=
  word (ssig1 (w.getD 1 0) + w.getD 6 0 + ssig0 (w.getD 14 0) + w.getD 15 0)

/-- The message schedule: `n` more words behind the ones in `w` (newest first). -/
def schedule : Nat → List Nat → List Nat
  | 0, w => w.reverse
  | n + 1, w => schedule n (nextWord w :: w)

def round (v : Vars) (kt wt : Nat) : Vars :=
  let t1 := v.h + bsig1 v.e + ch v.e v.f v.g + kt + wt
  let t2 := bsig0 v.a + maj v.a v.b v.c
  ⟨word (t1 + t2), v.a, v.b, v.c, word (v.d + t1), v.e, v.f, v.g⟩

def rounds : Vars → List Nat → List Nat → Vars
  | v, kt :: ks, wt :: ws => rounds (round v kt wt) ks ws
  | v, _, _ => v

def compress (v : Vars) (block : List Nat) : Vars :=
  let u := rounds v k (schedule 48 block.reverse)
  ⟨word (v.a + u.a), word (v.b + u.b), word (v.c + u.c), word (v.d + u.d),
   word (v.e + u.e), word (v.f + u.f), word (v.g + u.g), word (v.h + u.h)⟩

/-- Big-endian words of a byte list. -/
def toWords : List Nat → List Nat
  | a :: b :: c :: d :: rest => (((a * 256 + b) * 256 + c) * 256 + d) :: toWords rest
  | _ => []

def bytesOf : Nat → Nat → List Nat
  | 0, _ => []
  | n + 1, x => x / 256 ^ n % 256 :: bytesOf n x

def pad (msg : List Nat) : List Nat :=
  msg ++ 0x80 :: (List.replicate ((119 - msg.length % 64) % 64) 0 ++ bytesOf 8 (8 * msg.length))

def blocks : Nat → Vars → List Nat → Vars
  | 0, v, _ => v
  | n + 1, v, ws => blocks n (compress v (ws.take 16)) (ws.drop 16)

def digest (msg : List Nat) : List Nat :=
  let ws := toWords (pad msg)
  let v := blocks (ws.length / 16) init ws
  [v.a, v.b, v.c, v.d, v.e, v.f, v.g, v.h].flatMap (bytesOf 4)

def hexChar (n : Nat) : Char := if n < 10 then Char.ofNat (48 + n) else Char.ofNat (87 + n)

/-- `hashlib.sha256(msg).hexdigest()`. -/
def hexdigest (msg : List UInt8) : String :=
  String.ofList ((digest (msg.map UInt8.toNat)).flatMap fun b => [hexChar (b / 16), hexChar (b % 16)])

/-! ## Texts as bytes -/

/-- The UTF-8 bytes of a text. -/
def utf8 (cs : List Char) : List UInt8 := cs.flatMap String.utf8EncodeChar

/-- The text of UTF-8 bytes, `none` where they are no valid UTF-8. -/
def ofUtf8 (bytes : List UInt8) : Option (List Char) := bytes.toByteArray.utf8Decode?.map Array.toList

theorem ofUtf8_utf8 (cs : List Char) : ofUtf8 (utf8 cs) = some cs := by
  have h := List.utf8Decode?_utf8Encode (l := cs)
  rw [List.utf8Encode] at h
  simp [ofUtf8, utf8, h]

/-- Decoded bytes are the bytes of the text. -/
theorem utf8_ofUtf8 {bytes : List UInt8} {cs : List Char} (h : ofUtf8 bytes = some cs) :
    utf8 cs = bytes := by
  unfold ofUtf8 at h
  obtain ⟨a, ha, rfl⟩ := Option.map_eq_some_iff.mp h
  have hsome : bytes.toByteArray.utf8Decode?.isSome := by rw [ha]; rfl
  have hget : bytes.toByteArray.utf8Decode?.get hsome = a := by simp [ha]
  have hbytes := @ByteArray.utf8Encode_get_utf8Decode? bytes.toByteArray hsome
  rw [hget] at hbytes
  have hdata := congrArg (fun b => b.data.toList) hbytes
  simpa [List.utf8Encode, utf8] using hdata

/-- Texts with the same bytes are the same. -/
theorem utf8_inj {cs ds : List Char} (h : utf8 cs = utf8 ds) : cs = ds := by
  have hc := ofUtf8_utf8 cs
  rw [h, ofUtf8_utf8] at hc
  exact (Option.some.inj hc).symm

end Adcp.L1.Sha256
