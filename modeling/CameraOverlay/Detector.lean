import CameraOverlay.Face.Basic
/-!
# Face detectors

A detector answers each call with a list of faces or a failure, and may change its own state
between calls; here a detector is its state together with a step function `Detect σ`. The frame
a call is about is not an argument: none of the detectors here looks at pixels.

* `Replay` answers from a script: entry after entry, and then the last entry forever; an empty
  script answers no faces.
* `Cadence` thins the calls of an inner detector: it asks the inner detector on calls
  `0, n, 2n, ...` and otherwise answers the faces it last received. A failure of the inner
  detector is passed on and leaves the remembered faces as they were; the call still counts.
* `Faulty` makes an inner detector fail on chosen calls, counting its own calls from `0`; a
  failed call does not reach the inner detector. It exists to exercise the failure paths.
-/

namespace CameraOverlay

inductive DetectorError where
  | failed
deriving Repr, DecidableEq

def DetectorError.message : DetectorError → String
  | .failed => "detector failed"

abbrev Detection := Except DetectorError (List Face)

/-- A detector with state `σ`: one call's answer and the state after it. -/
abbrev Detect (σ : Type) := σ → Detection × σ

/-- A detector that replays a script of answers. -/
structure Replay where
  script : List (List Face)
  cursor : Nat

namespace Replay

/-- A replay from the start of a script. -/
def ofScript (script : List (List Face)) : Replay := ⟨script, 0⟩

/-- A replay that always answers the same faces. -/
def fixed (faces : List Face) : Replay := ofScript [faces]

/-- The current entry; the cursor moves on until it reaches the last entry. -/
def detect : Detect Replay := fun r =>
  match r.script with
  | [] => (.ok [], r)
  | _ :: _ =>
    let faces := r.script.getD r.cursor []
    (.ok faces, { r with cursor := if r.cursor + 1 < r.script.length then r.cursor + 1 else r.cursor })

end Replay

/-- A detector wrapper that fails on the listed call numbers. -/
structure Faulty (σ : Type) where
  failOn : List Nat
  calls : Nat
  inner : σ

namespace Faulty

/-- Fails on a listed call without asking the inner detector; passes other calls on. -/
def detect (d : Detect σ) : Detect (Faulty σ) := fun f =>
  if f.calls ∈ f.failOn then (.error .failed, { f with calls := f.calls + 1 })
  else
    let (r, s) := d f.inner
    (r, { f with calls := f.calls + 1, inner := s })

end Faulty

inductive CadenceError where
  | zeroInterval
deriving Repr, DecidableEq

def CadenceError.message : CadenceError → String
  | .zeroInterval => "interval must be >= 1"

/-- A detector wrapper that asks the inner detector once every `interval` calls. -/
structure Cadence (σ : Type) where
  interval : Nat
  count : Nat
  last : List Face
  inner : σ

namespace Cadence

/-- A cadence of `interval` calls around an inner detector; the interval must be positive. -/
def new? (interval : Nat) (inner : σ) : Except CadenceError (Cadence σ) :=
  if interval = 0 then .error .zeroInterval else .ok ⟨interval, 0, [], inner⟩

/-- Asks the inner detector when the call number is a multiple of the interval; answers the
remembered faces otherwise. -/
def detect (d : Detect σ) : Detect (Cadence σ) := fun c =>
  let c' := { c with count := c.count + 1 }
  if c.count % c.interval = 0 then
    match d c.inner with
    | (.ok faces, s) => (.ok faces, { c' with last := faces, inner := s })
    | (.error e, s) => (.error e, { c' with inner := s })
  else (.ok c.last, c')

end Cadence

/-- Runs a detector for a number of calls, collecting the answers. -/
def Detect.run (d : Detect σ) (s : σ) : Nat → List Detection × σ
  | 0 => ([], s)
  | n + 1 =>
    let (r, s') := d s
    let (rs, s'') := Detect.run d s' n
    (r :: rs, s'')

end CameraOverlay
