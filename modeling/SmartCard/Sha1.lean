import SmartCard.Octets

/-! # The hash function SHA-1 -/
namespace SmartCard.Sha1

def rotate (n : UInt32) (x : UInt32) : UInt32 := (x <<< n) ||| (x >>> (32 - n))

structure State where
  a : UInt32
  b : UInt32
  c : UInt32
  d : UInt32
  e : UInt32
  deriving DecidableEq, Repr

def initial : State := ⟨0x67452301, 0xEFCDAB89, 0x98BADCFE, 0x10325476, 0xC3D2E1F0⟩

/-- The `width` lowest octets of a number, most significant first. -/
def wordOctets : (width : Nat) → Nat → Octets
  | 0, _ => []
  | n + 1, x => wordOctets n (x / 256) ++ [UInt8.ofNat x]

/-- One octet `80`, then zeros up to a multiple of 64 octets that ends in the length in bits. -/
def pad (o : Octets) : Octets :=
  o ++ 0x80 :: List.replicate ((119 - o.length % 64) % 64) 0 ++ wordOctets 8 (8 * o.length)

def words : Octets → List UInt32
  | a :: b :: c :: d :: r => UInt32.ofNat (Octets.bigEndian [a, b, c, d]) :: words r
  | _ => []

/-- The words of `n` rounds, made from a window of the next sixteen. -/
def schedule : (n : Nat) → List UInt32 → List UInt32
  | n + 1, w :: window =>
    let next := window.getD 12 0 ^^^ window.getD 7 0 ^^^ window.getD 1 0 ^^^ w
    w :: schedule n (window ++ [rotate 1 next])
  | _, _ => []

def mixed (round : Nat) (b c d : UInt32) : UInt32 :=
  if round < 20 then ((b &&& c) ||| (~~~b &&& d)) + 0x5A827999
  else if round < 40 then (b ^^^ c ^^^ d) + 0x6ED9EBA1
  else if round < 60 then ((b &&& c) ||| (b &&& d) ||| (c &&& d)) + 0x8F1BBCDC
  else (b ^^^ c ^^^ d) + 0xCA62C1D6

def round (s : State) (w : UInt32 × Nat) : State :=
  ⟨rotate 5 s.a + mixed w.2 s.b s.c s.d + s.e + w.1, s.a, rotate 30 s.b, s.c, s.d⟩

def State.add (s t : State) : State := ⟨s.a + t.a, s.b + t.b, s.c + t.c, s.d + t.d, s.e + t.e⟩

def block (s : State) (ws : List UInt32) : State :=
  s.add ((schedule 80 ws).zipIdx.foldl round s)

/-- Takes in `n` blocks of sixteen words. -/
def blocks : (n : Nat) → State → List UInt32 → State
  | 0, s, _ => s
  | n + 1, s, ws => blocks n (block s (ws.take 16)) (ws.drop 16)

def State.octets (s : State) : Octets :=
  wordOctets 4 s.a.toNat ++ wordOctets 4 s.b.toNat ++ wordOctets 4 s.c.toNat ++
    wordOctets 4 s.d.toNat ++ wordOctets 4 s.e.toNat

def digest (o : Octets) : Octets :=
  let ws := words (pad o)
  (blocks (ws.length / 16) initial ws).octets

@[simp] theorem length_wordOctets (n x : Nat) : (wordOctets n x).length = n := by
  induction n generalizing x <;> simp [wordOctets, *]

@[simp] theorem length_octets (s : State) : s.octets.length = 20 := by simp [State.octets]

@[simp] theorem length_digest (o : Octets) : (digest o).length = 20 := length_octets _

end SmartCard.Sha1
