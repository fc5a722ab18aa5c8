import RefactorGateway.Decimal.Magnitude
/-!
# Similarity of words

How much two words are alike, as the Jaro similarity: the share of characters that both have at
nearby places, less those that come in another order.

## Main Definitions

- `jaro`: the similarity, between zero and one
- `mostSimilar?`: the word of a list that is most like another, if it is like enough

## Design Notes

The similarity is computed with the rounding of doubles, so that words on the edge of being like
enough are decided as usual.
-/

namespace RefactorGateway.Text

open Decimal (Magnitude)

/-- The first place from `low` to below `high` at which a character stands that is not taken. -/
def firstMatch (c : Char) (low high : Nat) (taken : List Nat) (word : List Char) : Option Nat :=
  (word.zipIdx.find? fun p =>
    low ≤ p.2 && p.2 < high && p.1 == c && !taken.contains p.2).map (·.2)

/-- The places that the characters of a word take in another word, each at most `range` away from
its own place. -/
def placements (range : Nat) (other : List Char) :
    Nat → List Nat → List Char → List (Char × Nat)
  | _, _, [] => []
  | i, taken, c :: cs =>
    match firstMatch c (i - range) (i + range + 1) taken other with
    | some j => (c, j) :: placements range other (i + 1) (j :: taken) cs
    | none => placements range other (i + 1) taken cs

/-- The Jaro similarity of two words. -/
def jaro (a b : List Char) : Magnitude :=
  if a.isEmpty && b.isEmpty then .ofNat 1
  else
    let range := max a.length b.length / 2 - 1
    let pairs := placements range b 0 [] a
    let shared := pairs.length
    if shared = 0 then .zero
    else
      let inOrder := (b.zipIdx.filter fun p => (pairs.map (·.2)).contains p.2).map (·.1)
      let moved := ((pairs.map (·.1)).zip inOrder).countP fun p => p.1 != p.2
      let sum := (Magnitude.ofRatio shared a.length).add (.ofRatio shared b.length)
      (sum.add (.ofRatio (shared - moved / 2) shared)).div (.ofNat 3)

/-- Words are alike if their similarity is greater than this. -/
def likeEnough : Magnitude := .ofRatio 7 10

/-- The word that is most like another one; of several the last. -/
def mostSimilar? (word : String) (words : List String) : Option String :=
  let best := words.foldl (fun (best : Option (Magnitude × String)) w =>
    let similarity := jaro word.toList w.toList
    if likeEnough.less similarity then
      match best with
      | some (top, _) => if similarity.less top then best else some (similarity, w)
      | none => some (similarity, w)
    else best) none
  best.map (·.2)

end RefactorGateway.Text
