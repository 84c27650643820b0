/-
# `Signoff.Glob.Matching` — what a glob pattern matches

A pattern is matched against the UTF-8 bytes of a name, whole.  Matching keeps, for every place
between two bytes, whether the pieces passed so far can end there (`Reach`), and moves all places at
once over the next piece; so its cost is the product of the two lengths, whatever the pattern.
-/
import Signoff.Glob.Pattern

namespace Signoff.Glob

def bytes (cs : List Char) : List UInt8 := cs.flatMap String.utf8EncodeChar

/-! ## Classes -/

/-- The byte ranges a class entry contributes.  A character gives its bytes; a range goes from the
last byte of its first character to the first byte of its last. -/
def byteRanges (r : Char × Char) : List (UInt8 × UInt8) :=
  let first := String.utf8EncodeChar r.1
  let last := String.utf8EncodeChar r.2
  if r.1 = r.2 then first.map fun b => (b, b)
  else
    first.dropLast.map (fun b => (b, b)) ++
      [(first.getLastD 0, last.headD 0)] ++ last.tail.map (fun b => (b, b))

def inClass (negated : Bool) (ranges : List (Char × Char)) (b : UInt8) : Bool :=
  (ranges.any fun r => (byteRanges r).any fun s => s.1 ≤ b && b ≤ s.2) != negated

/-! ## Groups -/

mutual

/-- Does the pattern spell nothing at all?  Such a branch of a group is left out. -/
def spellsNothing : List Piece → Bool
  | [] => true
  | .oneOf branches :: ps => allSpellNothing branches && spellsNothing ps
  | _ :: _ => false

def allSpellNothing : List (List Piece) → Bool
  | [] => true
  | b :: bs => spellsNothing b && allSpellNothing bs

end

/-! ## Places -/

/-- For every place of a name, from before its first byte to after its last: can it be reached? -/
abbrev Reach := List Bool

namespace Reach

/-- Only the place before the first byte of a name of `n` bytes. -/
def start (n : Nat) : Reach := true :: List.replicate n false

/-- No place of a name of `n` bytes. -/
def nowhere (n : Nat) : Reach := List.replicate (n + 1) false

/-- The places after a byte of the name that passes the test, where the place before it is
reached. -/
def step (test : UInt8 → Bool) (name : List UInt8) (r : Reach) : Reach :=
  false :: List.zipWith (fun here b => here && test b) r name

/-- All places from the first that is reached on. -/
def onward (r : Reach) : Reach := go false r
where
  go (seen : Bool) : Reach → Reach
    | [] => []
    | here :: r => (seen || here) :: go (seen || here) r

/-- The places reached by either. -/
def union (r s : Reach) : Reach := List.zipWith (· || ·) r s

/-- Is the place after the last byte reached? -/
def final (r : Reach) : Bool := r.getLastD false

def slash (name : List UInt8) (r : Reach) : Reach := step (· == 0x2f) name r

end Reach

/-! ## Pieces -/

mutual

/-- The places reached over one piece. -/
def overPiece (name : List UInt8) (r : Reach) : Piece → Reach
  | .literal c => (String.utf8EncodeChar c).foldl (fun r b => r.step (· == b) name) r
  | .any => r.step (fun _ => true) name
  | .star => r.onward
  | .leading => (r.union (r.slash name)).union (r.onward.slash name)
  | .trailing => (r.slash name).onward
  | .between => (r.slash name).union ((r.slash name).onward.slash name)
  | .oneByte negated ranges => r.step (inClass negated ranges) name
  | .oneOf branches =>
    if allSpellNothing branches then r else overBranches name r branches

def overPattern (name : List UInt8) (r : Reach) : List Piece → Reach
  | [] => r
  | p :: ps => overPattern name (overPiece name r p) ps

/-- The places reached over any of the branches that spell something. -/
def overBranches (name : List UInt8) (r : Reach) : List (List Piece) → Reach
  | [] => Reach.nowhere name.length
  | b :: bs =>
    if spellsNothing b then overBranches name r bs
    else (overPattern name r b).union (overBranches name r bs)

end

/-- Is the pattern nothing but a `**` at the start?  It matches every name. -/
def Pattern.isEverything : Pattern → Bool
  | [.leading] => true
  | _ => false

/-- Does the pattern match the whole name? -/
def Pattern.covers (p : Pattern) (name : String) : Bool :=
  p.isEverything ||
    (overPattern (bytes name.toList) (Reach.start (bytes name.toList).length) p).final

end Signoff.Glob
