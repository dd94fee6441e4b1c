import BridgedDenom.Bytes.Basic

/-!
# Keccak-256

The sponge over the permutation of 1600 bits, with 136 bytes absorbed at a time
and 32 bytes squeezed out.  A message is padded by `01`, zeros and a final bit
`80`, which is the padding that came before the standardised one, so the digests
differ from those of SHA3-256.

A state is 25 lanes of 64 bits; lane `(x, y)` has index `x + 5 * y`.  Every step of
a round gives each lane of the new state by one equation.
-/

namespace BridgedDenom

namespace Keccak

abbrev State := Vector UInt64 25

/-- The place of lane `(x, y)`, with both coordinates taken modulo five. -/
def laneIndex (x y : Nat) : Fin 25 := ⟨x % 5 + 5 * (y % 5), by omega⟩

def State.lane (s : State) (x y : Nat) : UInt64 := s.get (laneIndex x y)

def State.ofLanes (lane : Nat → Nat → UInt64) : State :=
  Vector.ofFn fun i => lane (i.val % 5) (i.val / 5)

def rotate (w : UInt64) (n : Nat) : UInt64 :=
  if n % 64 = 0 then w
  else w <<< UInt64.ofNat (n % 64) ||| w >>> UInt64.ofNat (64 - n % 64)

def offsets : List Nat :=
  [0, 1, 62, 28, 27, 36, 44, 6, 55, 20, 3, 10, 43, 25, 39, 41, 45, 15, 21, 8, 18, 2, 61, 56, 14]

def roundConstants : List UInt64 :=
  [0x0000000000000001, 0x0000000000008082, 0x800000000000808A, 0x8000000080008000,
   0x000000000000808B, 0x0000000080000001, 0x8000000080008081, 0x8000000000008009,
   0x000000000000008A, 0x0000000000000088, 0x0000000080008009, 0x000000008000000A,
   0x000000008000808B, 0x800000000000008B, 0x8000000000008089, 0x8000000000008003,
   0x8000000000008002, 0x8000000000000080, 0x000000000000800A, 0x800000008000000A,
   0x8000000080008081, 0x8000000000008080, 0x0000000080000001, 0x8000000080008008]

def State.parity (s : State) (x : Nat) : UInt64 :=
  s.lane x 0 ^^^ s.lane x 1 ^^^ s.lane x 2 ^^^ s.lane x 3 ^^^ s.lane x 4

/-- Add to each lane the parities of two neighbouring columns. -/
def theta (s : State) : State :=
  let parities : Vector UInt64 5 := Vector.ofFn fun x => s.parity x.val
  let column := fun x => parities.get ⟨x % 5, Nat.mod_lt _ (by decide)⟩
  .ofLanes fun x y => s.lane x y ^^^ column (x + 4) ^^^ rotate (column (x + 1)) 1

/-- Rotate every lane and move it to its new place. -/
def rhoPi (s : State) : State :=
  .ofLanes fun x y =>
    let source := (x + 3 * y) % 5
    rotate (s.lane source x) (offsets.getD (source + 5 * x) 0)

/-- The non-linear step along each row. -/
def chi (s : State) : State :=
  .ofLanes fun x y => s.lane x y ^^^ (~~~s.lane (x + 1) y &&& s.lane (x + 2) y)

def round (s : State) (constant : UInt64) : State :=
  let t := chi (rhoPi (theta s))
  t.set 0 (t.lane 0 0 ^^^ constant)

def permute (s : State) : State := roundConstants.foldl round s

/-! ## The sponge -/

/-- How many bytes are absorbed at a time. -/
def rate : Nat := 136

/-- The padding of a message of a given length.  It is never empty. -/
def padding (length : Nat) : Bytes :=
  let missing := rate - length % rate
  if missing = 1 then [0x81] else 0x01 :: List.replicate (missing - 2) 0x00 ++ [0x80]

/-- A word from at most eight bytes, the lowest first. -/
def wordOfBytes (bytes : Bytes) : UInt64 :=
  bytes.foldr (fun byte w => w <<< 8 ||| byte.toUInt64) 0

/-- The eight bytes of a word, the lowest first. -/
def bytesOfWord (w : UInt64) : Bytes :=
  [w.toUInt8, (w >>> 8).toUInt8, (w >>> 16).toUInt8, (w >>> 24).toUInt8,
   (w >>> 32).toUInt8, (w >>> 40).toUInt8, (w >>> 48).toUInt8, (w >>> 56).toUInt8]

/-- Add a block to the first lanes and permute. -/
def absorb (s : State) (block : Bytes) : State :=
  permute (Vector.ofFn fun i => s[i] ^^^ wordOfBytes ((block.drop (8 * i.val)).take 8))

/-- Absorb a padded message block by block. -/
def absorbAll (s : State) (message : Bytes) : State :=
  if message.length = 0 then s else absorbAll (absorb s (message.take rate)) (message.drop rate)
termination_by message.length
decreasing_by simp [rate, List.length_drop]; omega

def digest (message : Bytes) : Bytes :=
  let s := absorbAll (Vector.replicate 25 0) (message ++ padding message.length)
  bytesOfWord s[0] ++ bytesOfWord s[1] ++ bytesOfWord s[2] ++ bytesOfWord s[3]

@[simp] theorem length_digest (message : Bytes) : (digest message).length = 32 := by
  simp [digest, bytesOfWord]

end Keccak

end BridgedDenom
