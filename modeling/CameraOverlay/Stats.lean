/-!
# Stage timings and metrics

The pipeline reports how long its stages took and how many faces it saw. A `Log` keeps, for each
stage and each metric name, how many values arrived, their sum and their largest value. The
largest value starts at `0` and ignores values that are not numbers, while the sum does not
ignore them. The mean is the sum over the count, `0` for no values.
-/

namespace CameraOverlay

/-- The larger of two doubles; a value that is not a number loses to the other. -/
def maxIgnoringNaN (a b : Float) : Float :=
  if a.isNaN then b else if b.isNaN then a else if a < b then b else a

/-- Count, sum and largest of a series of values. -/
structure Stats where
  count : Nat
  total : Float
  max : Float
deriving Repr, Inhabited

namespace Stats

def empty : Stats := ⟨0, 0.0, 0.0⟩

def record (s : Stats) (v : Float) : Stats := ⟨s.count + 1, s.total + v, maxIgnoringNaN s.max v⟩

/-- The sum over the count; `0` for no values. -/
def mean (s : Stats) : Float := if s.count = 0 then 0.0 else s.total / Float.ofNat s.count

end Stats

/-- Something the pipeline reports while it works. -/
inductive Event where
  | timing (stage : String)
  | metric (name : String) (value : Float)
deriving Repr, Inhabited

/-- Statistics per name, in the order the names first arrived. -/
abbrev Table := List (String × Stats)

def Table.record (t : Table) (name : String) (v : Float) : Table :=
  if t.any (·.1 == name) then t.map fun (k, s) => if k == name then (k, s.record v) else (k, s)
  else t ++ [(name, Stats.empty.record v)]

/-- The statistics of a name, if any value arrived under it. -/
def Table.get? (t : Table) (name : String) : Option Stats := t.lookup name

/-- Aggregated timings and metrics, with the progress and messages reported so far. -/
structure Log where
  timings : Table
  metrics : Table
  frames : Nat
  messages : List String
deriving Repr, Inhabited

namespace Log

def empty : Log := ⟨[], [], 0, []⟩

variable (l : Log)

/-- A stage took `ms` milliseconds. -/
def timing (stage : String) (ms : Float) : Log := { l with timings := l.timings.record stage ms }

def metric (name : String) (v : Float) : Log := { l with metrics := l.metrics.record name v }

/-- `current` of `total` frames are done. -/
def progress (_current total : Nat) : Log := { l with frames := total }

def info (msg : String) : Log := { l with messages := l.messages ++ [msg] }

def hasSummary : Bool := !l.timings.isEmpty || !l.metrics.isEmpty

end Log

end CameraOverlay
