set_option autoImplicit false

/-!
Random draws. A stream of draws is any sequence of single precision numbers together with how many were taken; `ofSeed` is
the sequence of a counter-mode generator of twelve rounds whose key is spread from a 64-bit seed.
-/

namespace Storyline

structure Draws where
  value : Nat → Float32
  taken : Nat := 0

def Draws.next (draws : Draws) : Float32 × Draws := (draws.value draws.taken, { draws with taken := draws.taken + 1 })

namespace Random

def rotateLeft (x : UInt32) (count : UInt32) : UInt32 := (x <<< count) ||| (x >>> (32 - count))

def rotateRight (x : UInt32) (count : UInt32) : UInt32 := if count = 0 then x else (x >>> count) ||| (x <<< (32 - count))

def keyWords : Nat → UInt64 → List UInt32
  | 0, _ => []
  | count + 1, state =>
    let state := state * 6364136223846793005 + 11634580027462260723
    let word := (((state >>> 18) ^^^ state) >>> 27).toUInt32
    rotateRight word (state >>> 59).toUInt32 :: keyWords count state

def word (state : Array UInt32) (index : Nat) : UInt32 := state.getD index 0

def quarter (state : Array UInt32) (a b c d : Nat) : Array UInt32 :=
  let xa := word state a + word state b
  let xd := rotateLeft (word state d ^^^ xa) 16
  let xc := word state c + xd
  let xb := rotateLeft (word state b ^^^ xc) 12
  let xa := xa + xb
  let xd := rotateLeft (xd ^^^ xa) 8
  let xc := xc + xd
  let xb := rotateLeft (xb ^^^ xc) 7
  (((state.setIfInBounds a xa).setIfInBounds b xb).setIfInBounds c xc).setIfInBounds d xd

def doubleRound (s : Array UInt32) : Array UInt32 :=
  let s := quarter s 0 4 8 12
  let s := quarter s 1 5 9 13
  let s := quarter s 2 6 10 14
  let s := quarter s 3 7 11 15
  let s := quarter s 0 5 10 15
  let s := quarter s 1 6 11 12
  let s := quarter s 2 7 8 13
  quarter s 3 4 9 14

def constants : List UInt32 := [0x61707865, 0x3320646e, 0x79622d32, 0x6b206574]

def block (key : List UInt32) (counter : UInt64) : Array UInt32 :=
  let start := (constants ++ key ++ [counter.toUInt32, (counter >>> 32).toUInt32, 0, 0]).toArray
  let mixed := (List.range 6).foldl (fun state _ => doubleRound state) start
  Array.zipWith (· + ·) mixed start

def fraction (x : UInt32) : Float32 := (x >>> 8).toFloat32 * (1.0 / 16777216.0)

def draw (key : List UInt32) (index : Nat) : Float32 :=
  fraction (word (block key (index / 16).toUInt64) (index % 16))

def ofSeed (seed : UInt64) : Draws := ⟨draw (keyWords 8 seed), 0⟩

end Random

end Storyline
