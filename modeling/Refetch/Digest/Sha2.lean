import Refetch.Digest.BlockHash
/-!
# SHA-256 and SHA-512

Both are one construction over words of 32 and 64 bits: eight chaining words, a schedule that
stretches the sixteen words of a block, and one round for every constant.
-/

namespace Refetch.Digest.Sha2

/-- The arithmetic of one word size. -/
class Word (w : Type) extends Add w, XorOp w, AndOp w, Complement w, Inhabited w where
  /-- The size in bytes. -/
  size : Nat
  ofNat : Nat → w
  toNat : w → Nat
  shr : w → Nat → w
  rotr : w → Nat → w

instance : Word UInt32 where
  size := 4
  ofNat := UInt32.ofNat
  toNat := UInt32.toNat
  shr x n := x >>> UInt32.ofNat n
  rotr x n := (x >>> UInt32.ofNat n) ||| (x <<< UInt32.ofNat (32 - n))

instance : Word UInt64 where
  size := 8
  ofNat := UInt64.ofNat
  toNat := UInt64.toNat
  shr x n := x >>> UInt64.ofNat n
  rotr x n := (x >>> UInt64.ofNat n) ||| (x <<< UInt64.ofNat (64 - n))

/-- The eight chaining words. -/
structure Chain (w : Type) where
  a : w
  b : w
  c : w
  d : w
  e : w
  f : w
  g : w
  h : w

/-- What tells the members of the family apart: the amounts of the four mixing functions, the round
constants and the initial words. -/
structure Flavour (w : Type) where
  /-- Rotations of the mix of the word `a`. -/
  bigA : Nat × Nat × Nat
  /-- Rotations of the mix of the word `e`. -/
  bigE : Nat × Nat × Nat
  /-- Two rotations and a shift of the schedule's near mix. -/
  small0 : Nat × Nat × Nat
  /-- Two rotations and a shift of the schedule's far mix. -/
  small1 : Nat × Nat × Nat
  constants : List w
  initial : Chain w

variable {w : Type} [Word w]

@[specialize] def rotations (r : Nat × Nat × Nat) (x : w) : w :=
  Word.rotr x r.1 ^^^ Word.rotr x r.2.1 ^^^ Word.rotr x r.2.2

@[specialize] def shifted (r : Nat × Nat × Nat) (x : w) : w :=
  Word.rotr x r.1 ^^^ Word.rotr x r.2.1 ^^^ Word.shr x r.2.2

/-- The words of a block, each from bytes with the highest first. -/
@[specialize] def words (k : Nat) : Bytes → List w
  | bs =>
    match k with
    | 0 => []
    | k + 1 =>
      Word.ofNat ((bs.take (Word.size w)).foldl (fun n b => n * 256 + b.toNat) 0) ::
        words k (bs.drop (Word.size w))

/-- Stretches a schedule to `n` more words. -/
@[specialize] def extend (fl : Flavour w) : Nat → Array w → Array w
  | 0, ws => ws
  | n + 1, ws =>
    let t := ws.size
    extend fl n <| ws.push <|
      shifted fl.small1 (ws.getD (t - 2) default) + ws.getD (t - 7) default +
      shifted fl.small0 (ws.getD (t - 15) default) + ws.getD (t - 16) default

@[specialize] def round (fl : Flavour w) (s : Chain w) (kw : w × w) : Chain w :=
  let t1 := s.h + rotations fl.bigE s.e + ((s.e &&& s.f) ^^^ (~~~ s.e &&& s.g)) + kw.1 + kw.2
  let t2 := rotations fl.bigA s.a + ((s.a &&& s.b) ^^^ (s.a &&& s.c) ^^^ (s.b &&& s.c))
  ⟨t1 + t2, s.a, s.b, s.c, s.d + t1, s.e, s.f, s.g⟩

@[specialize] def step (fl : Flavour w) (s : Chain w) (block : Bytes) : Chain w :=
  let schedule := extend fl (fl.constants.length - 16) (words 16 block).toArray
  let r := (fl.constants.zip schedule.toList).foldl (round fl) s
  ⟨s.a + r.a, s.b + r.b, s.c + r.c, s.d + r.d, s.e + r.e, s.f + r.f, s.g + r.g, s.h + r.h⟩

def output (s : Chain w) : Bytes :=
  [s.a, s.b, s.c, s.d, s.e, s.f, s.g, s.h].flatMap fun x =>
    bigEndian (Word.size w) (Word.toNat x)

def flavour256 : Flavour UInt32 where
  bigA := (2, 13, 22)
  bigE := (6, 11, 25)
  small0 := (7, 18, 3)
  small1 := (17, 19, 10)
  constants := [
    0x428a2f98, 0x71374491, 0xb5c0fbcf, 0xe9b5dba5, 0x3956c25b, 0x59f111f1, 0x923f82a4, 0xab1c5ed5,
    0xd807aa98, 0x12835b01, 0x243185be, 0x550c7dc3, 0x72be5d74, 0x80deb1fe, 0x9bdc06a7, 0xc19bf174,
    0xe49b69c1, 0xefbe4786, 0x0fc19dc6, 0x240ca1cc, 0x2de92c6f, 0x4a7484aa, 0x5cb0a9dc, 0x76f988da,
    0x983e5152, 0xa831c66d, 0xb00327c8, 0xbf597fc7, 0xc6e00bf3, 0xd5a79147, 0x06ca6351, 0x14292967,
    0x27b70a85, 0x2e1b2138, 0x4d2c6dfc, 0x53380d13, 0x650a7354, 0x766a0abb, 0x81c2c92e, 0x92722c85,
    0xa2bfe8a1, 0xa81a664b, 0xc24b8b70, 0xc76c51a3, 0xd192e819, 0xd6990624, 0xf40e3585, 0x106aa070,
    0x19a4c116, 0x1e376c08, 0x2748774c, 0x34b0bcb5, 0x391c0cb3, 0x4ed8aa4a, 0x5b9cca4f, 0x682e6ff3,
    0x748f82ee, 0x78a5636f, 0x84c87814, 0x8cc70208, 0x90befffa, 0xa4506ceb, 0xbef9a3f7, 0xc67178f2]
  initial := ⟨0x6a09e667, 0xbb67ae85, 0x3c6ef372, 0xa54ff53a,
    0x510e527f, 0x9b05688c, 0x1f83d9ab, 0x5be0cd19⟩

def flavour512 : Flavour UInt64 where
  bigA := (28, 34, 39)
  bigE := (14, 18, 41)
  small0 := (1, 8, 7)
  small1 := (19, 61, 6)
  constants := [
    0x428a2f98d728ae22, 0x7137449123ef65cd, 0xb5c0fbcfec4d3b2f, 0xe9b5dba58189dbbc,
    0x3956c25bf348b538, 0x59f111f1b605d019, 0x923f82a4af194f9b, 0xab1c5ed5da6d8118,
    0xd807aa98a3030242, 0x12835b0145706fbe, 0x243185be4ee4b28c, 0x550c7dc3d5ffb4e2,
    0x72be5d74f27b896f, 0x80deb1fe3b1696b1, 0x9bdc06a725c71235, 0xc19bf174cf692694,
    0xe49b69c19ef14ad2, 0xefbe4786384f25e3, 0x0fc19dc68b8cd5b5, 0x240ca1cc77ac9c65,
    0x2de92c6f592b0275, 0x4a7484aa6ea6e483, 0x5cb0a9dcbd41fbd4, 0x76f988da831153b5,
    0x983e5152ee66dfab, 0xa831c66d2db43210, 0xb00327c898fb213f, 0xbf597fc7beef0ee4,
    0xc6e00bf33da88fc2, 0xd5a79147930aa725, 0x06ca6351e003826f, 0x142929670a0e6e70,
    0x27b70a8546d22ffc, 0x2e1b21385c26c926, 0x4d2c6dfc5ac42aed, 0x53380d139d95b3df,
    0x650a73548baf63de, 0x766a0abb3c77b2a8, 0x81c2c92e47edaee6, 0x92722c851482353b,
    0xa2bfe8a14cf10364, 0xa81a664bbc423001, 0xc24b8b70d0f89791, 0xc76c51a30654be30,
    0xd192e819d6ef5218, 0xd69906245565a910, 0xf40e35855771202a, 0x106aa07032bbd1b8,
    0x19a4c116b8d2d0c8, 0x1e376c085141ab53, 0x2748774cdf8eeb99, 0x34b0bcb5e19b48a8,
    0x391c0cb3c5c95a63, 0x4ed8aa4ae3418acb, 0x5b9cca4f7763e373, 0x682e6ff3d6b2b8a3,
    0x748f82ee5defb2fc, 0x78a5636f43172f60, 0x84c87814a1f0ab72, 0x8cc702081a6439ec,
    0x90befffa23631e28, 0xa4506cebde82bde9, 0xbef9a3f7b2c67915, 0xc67178f2e372532b,
    0xca273eceea26619c, 0xd186b8c721c0c207, 0xeada7dd6cde0eb1e, 0xf57d4f7fee6ed178,
    0x06f067aa72176fba, 0x0a637dc5a2c898a6, 0x113f9804bef90dae, 0x1b710b35131c471b,
    0x28db77f523047d84, 0x32caab7b40c72493, 0x3c9ebe0a15c9bebc, 0x431d67c49c100d4c,
    0x4cc5d4becb3e42b6, 0x597f299cfc657e2a, 0x5fcb6fab3ad6faec, 0x6c44198c4a475817]
  initial := ⟨0x6a09e667f3bcc908, 0xbb67ae8584caa73b, 0x3c6ef372fe94f82b, 0xa54ff53a5f1d36f1,
    0x510e527fade682d1, 0x9b05688c2b3e6c1f, 0x1f83d9abfb41bd6b, 0x5be0cd19137e2179⟩

end Refetch.Digest.Sha2

namespace Refetch.Digest

def sha256 : BlockHash where
  State := Sha2.Chain UInt32
  blockSize := 64
  lengthSize := 8
  initial := Sha2.flavour256.initial
  step := Sha2.step Sha2.flavour256
  output := Sha2.output
  blockSize_pos := by decide

def sha512 : BlockHash where
  State := Sha2.Chain UInt64
  blockSize := 128
  lengthSize := 16
  initial := Sha2.flavour512.initial
  step := Sha2.step Sha2.flavour512
  output := Sha2.output
  blockSize_pos := by decide

end Refetch.Digest
