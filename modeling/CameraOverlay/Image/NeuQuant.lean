/-!
# Learning a 256-colour table with a self-organising map

A table of 256 colours for an image with more colours than that is learned by the NeuQuant
network: 256 neurons, each a colour with alpha held in floating point, start on the grey
diagonal (the first 16 with small alpha) and are pulled toward the image's pixels one at a
time.

* Every pixel is visited once, stepping through the image by the first of the primes `499`,
  `491`, `478`, `503` that does not divide the number of pixels (the last one if all do).
* The neuron that wins a pixel is the one nearest to it (city-block distance) once a bias is
  taken off; the bias of a neuron grows while it does not win and falls when it does, so that
  every neuron is used. The winner moves toward the pixel by the learning rate, and its
  neighbours in the network within the radius move by the rate scaled by
  `(radius² - d²) / radius²`, `d` counting from `0` for the nearest ones.
* The rate starts at `1` and the radius at `32`; both shrink (the rate by `1/30`, the radius
  by `1/30` of itself in steps of `1/64`) after every `pixels / 128` pixels, the radius
  counting as `0` once it is `1` or less.

The neurons then round to 8-bit colours, sorted by green with a selection sort, and an index
from each green value to a starting position in the table speeds up the search for the
nearest colour (squared distance): upward from that position, then downward from the one
below it, each side stopping once green alone is farther than the best so far.
-/

namespace CameraOverlay.NeuQuant

/-- A colour with alpha, each channel a floating-point value in `0 ... 255`. -/
structure Neuron where
  r : Float
  g : Float
  b : Float
  a : Float
deriving Inhabited

/-- The neuron moved toward a colour by the factor `alpha`. -/
def Neuron.toward (n : Neuron) (alpha : Float) (c : Neuron) : Neuron :=
  { b := n.b - alpha * (n.b - c.b), g := n.g - alpha * (n.g - c.g),
    r := n.r - alpha * (n.r - c.r), a := n.a - alpha * (n.a - c.a) }

/-- The network while it learns: its neurons, how often each has won lately, and the bias
that favours neurons that seldom win. -/
structure Network where
  neurons : Array Neuron
  freq : Array Float
  bias : Array Float

def size : Nat := 256

/-- The largest finite double, the distance nothing is as far as. -/
def farthest : Float := 1.7976931348623157e308

/-- The starting network: neuron `i` at grey `i`, opaque from the 16th on. -/
def Network.initial : Network :=
  ⟨(List.range size).toArray.map (fun i =>
      let v := i.toFloat * 256.0 / size.toFloat
      ⟨v, v, v, if i < 16 then i.toFloat * 16.0 else 255.0⟩),
    Array.replicate size (1.0 / size.toFloat), Array.replicate size 0.0⟩

/-- The winner of a colour: every neuron's frequency decays and its bias grows, the nearest
neuron (by distance alone) gains frequency and loses bias, and the neuron nearest once the
bias is taken off wins. A neuron is measured in full only if its blue and red distance is
below the best distance so far, or below the best biased distance plus its bias. -/
def Network.contest (s : Network) (c : Neuron) : Network × Nat :=
  let beta : Float := 1.0 / 1024.0
  let betaGamma : Float := beta * 1024.0
  let (_, _, nearest, winner, freq, bias) := (List.range size).foldl
    (fun (best, bestBiased, nearest, winner, freq, bias) i =>
      let bi := bias.getD i 0.0
      let n := s.neurons.getD i default
      let dist := (n.b - c.b).abs + (n.r - c.r).abs
      let (best, bestBiased, nearest, winner) :=
        if dist < best || dist < bestBiased + bi then
          let dist := dist + (n.g - c.g).abs + (n.a - c.a).abs
          let (best, nearest) := if dist < best then (dist, i) else (best, nearest)
          let (bestBiased, winner) :=
            if dist - bi < bestBiased then (dist - bi, i) else (bestBiased, winner)
          (best, bestBiased, nearest, winner)
        else (best, bestBiased, nearest, winner)
      let f := freq.getD i 0.0
      let f := f - beta * f
      (best, bestBiased, nearest, winner, freq.set! i f, bias.set! i (bi + betaGamma * f)))
    (farthest, farthest, 0, 0, s.freq, s.bias)
  let freq := freq.modify nearest (· + beta)
  let bias := bias.modify nearest (· - betaGamma)
  (⟨s.neurons, freq, bias⟩, winner)

/-- Moves the neighbours of neuron `j` within radius `rad` toward a colour, the nearest ones
by the full factor `alpha` and farther ones by less. -/
def Network.neighbours (s : Network) (alpha : Float) (rad j : Nat) (c : Neuron) : Network :=
  let lo : Int := max ((j : Int) - rad) 0
  let hi : Int := min ((j : Int) + rad) size
  let radSq := rad.toFloat * rad.toFloat
  let (neurons, _, _, _) := (List.range rad).foldl (fun (ns, up, down, q) _ =>
    let f := (alpha * (radSq - q.toFloat * q.toFloat)) / radSq
    let (ns, up) := if up < hi then (ns.modify up.toNat (·.toward f c), up + 1) else (ns, up)
    let (ns, down) :=
      if down > lo then (ns.modify down.toNat (·.toward f c), down - 1) else (ns, down)
    (ns, up, down, q + 1)) (s.neurons, (j : Int) + 1, (j : Int) - 1, 0)
  { s with neurons }

/-- The step through the pixels: the first of four primes that does not divide their number. -/
def step (count : Nat) : Nat :=
  ([499, 491, 478, 503].find? fun p => count % p ≠ 0).getD 503

/-- The radius for a biased radius, `0` when it is `1` or less. -/
def radiusOf (biased : Nat) : Nat := if biased / 64 ≤ 1 then 0 else biased / 64

/-- The network trained on `n` colours, visiting each once. -/
def Network.train (pixel : Nat → Neuron) (n : Nat) : Network :=
  let delta := max (n / 128) 1
  let stepBy := step n
  let (net, _, _, _) := (List.range n).foldl (fun (net, pos, alpha, biased) i =>
    let c := pixel pos
    let (net, j) := net.contest c
    let f := alpha.toFloat / 1024.0
    let net := { net with neurons := net.neurons.modify j (·.toward f c) }
    let rad := radiusOf biased
    let net := if rad > 0 then net.neighbours f rad j c else net
    let pos := (pos + stepBy) % n
    let (alpha, biased) :=
      if (i + 1) % delta = 0 then (alpha - alpha / 30, biased - biased / 30) else (alpha, biased)
    (net, pos, alpha, biased)) (Network.initial, 0, (1024 : Nat), 32 * 64)
  net

structure Colour where
  r : Nat
  g : Nat
  b : Nat
  a : Nat
deriving Inhabited

/-- A channel rounded to the nearest integer, halves away from zero, within `0 ... 255`. -/
def channel (x : Float) : Nat := x.round.toUInt8.toNat

/-- The learned table: its colours sorted by green, and for each green value the position
where the search starts. -/
structure Table where
  colours : Array Colour
  start : Array Nat

/-- Sorts the colours by green (selection sort, the first of equal greens chosen) and records
for each green value the middle of the positions holding it, or for a green no colour has,
the next position with a larger green. -/
def Table.ofColours (cs : Array Colour) : Table :=
  let (cs, start, previous, first) := (List.range size).foldl
    (fun (cs, start, previous, first) i =>
      let (smallest, smallValue) := ((List.range size).drop (i + 1)).foldl (fun (sp, sv) j =>
        let gj := (cs.getD j default).g
        if gj < sv then (j, gj) else (sp, sv)) (i, (cs.getD i default).g)
      let cs := if i = smallest then cs else cs.swapIfInBounds i smallest
      if smallValue ≠ previous then
        let start := start.set! previous ((first + i) / 2)
        let start := ((List.range smallValue).drop (previous + 1)).foldl
          (fun st k => st.set! k i) start
        (cs, start, smallValue, i)
      else (cs, start, previous, first))
    (cs, Array.replicate 256 0, 0, 0)
  let last := size - 1
  let start := start.set! previous ((first + last) / 2)
  let start := ((List.range 256).drop (previous + 1)).foldl (fun st k => st.set! k last) start
  ⟨cs, start⟩

def sq (x y : Int) : Nat := ((x - y) * (x - y)).toNat

/-- Scans positions in order for the colour nearest to `(r, g, b, a)`, from the best distance
and position so far: a colour replaces the best only when strictly nearer, and the scan stops
at the first colour whose green alone is farther than the best. -/
def Table.scan (t : Table) (r g b a : Int) : List Nat → Nat × Nat → Nat × Nat
  | [], best => best
  | i :: rest, (bestd, best) =>
    let p := t.colours.getD i default
    let dg := sq p.g g
    if dg > bestd then (bestd, best)
    else
      let d := dg + sq p.r r + sq p.b b + sq p.a a
      if d < bestd then t.scan r g b a rest (d, i) else t.scan r g b a rest (bestd, best)

/-- The position of the colour nearest to an opaque RGB colour: the scan runs upward from the
start position of its green, then downward from the position below that. -/
def Table.lookup (t : Table) (r g b : UInt8) : Nat :=
  let first := t.start.getD g.toNat 0
  let up := t.scan r.toNat g.toNat b.toNat 255 (List.range' first (size - first)) (2147483647, first)
  (t.scan r.toNat g.toNat b.toNat 255 (List.range first).reverse up).2

/-- The table's colours as red, green and blue bytes. -/
def Table.palette (t : Table) : Array UInt8 :=
  t.colours.flatMap fun c => #[c.r.toUInt8, c.g.toUInt8, c.b.toUInt8]

/-- The table learned from packed RGB pixels, all opaque. -/
def learn (px : Array UInt8) : Table :=
  let n := px.size / 3
  let pixel (k : Nat) : Neuron :=
    ⟨(px.getD (3 * k) 0).toNat.toFloat, (px.getD (3 * k + 1) 0).toNat.toFloat,
      (px.getD (3 * k + 2) 0).toNat.toFloat, 255.0⟩
  let net := Network.train pixel n
  Table.ofColours (net.neurons.map fun c => ⟨channel c.r, channel c.g, channel c.b, channel c.a⟩)

end CameraOverlay.NeuQuant
