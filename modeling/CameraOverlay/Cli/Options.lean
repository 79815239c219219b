/-!
# Command-line options

The command takes long options only: `--name value` or `--name=value`, each at most once. Four
are required (`--input`, `--width`, `--height`, `--output`); `--motion` is a flag; the counts
`--sticker`, `--filter` and `--frames` and the format name have defaults. `--help` or `-h` asks
for the help text instead of a run.

Arguments are read left to right and the first bad one is reported: an unknown argument (with
the most similar option name as a tip, when one is similar enough), an option given twice, an
option without its value, or a value that does not read as the option's type. Missing required
options are reported once all arguments are read. Every report but a bad value shows a usage
line.
-/

namespace CameraOverlay.Cli

inductive Opt where
  | input
  | width
  | height
  | output
  | png
  | stickers
  | detections
  | sticker
  | filter
  | motion
  | frames
  | format
  | settings
deriving DecidableEq, Repr

inductive ValueKind where
  /-- A file path: any text but the empty one. -/
  | path
  /-- An unsigned 32-bit integer, read as a signed 64-bit one and then range-checked. -/
  | u32
  /-- An unsigned 64-bit count. -/
  | count
  | text
  | flag
deriving DecidableEq

namespace Opt

/-- All options, in the order the help text lists them. -/
def all : List Opt :=
  [input, width, height, output, png, stickers, detections, sticker, filter, motion, frames,
   format, settings]

/-- The option's name after `--`. -/
def long : Opt → String
  | input => "input"
  | width => "width"
  | height => "height"
  | output => "output"
  | png => "png"
  | stickers => "stickers"
  | detections => "detections"
  | sticker => "sticker"
  | filter => "filter"
  | motion => "motion"
  | frames => "frames"
  | format => "format"
  | settings => "settings"

def kind : Opt → ValueKind
  | width | height => .u32
  | sticker | filter | frames => .count
  | format => .text
  | motion => .flag
  | _ => .path

def required : Opt → Bool
  | input | width | height | output => true
  | _ => false

/-- The option's value when it is not given, if it has one. -/
def default? : Opt → Option String
  | sticker => some "0"
  | filter => some "0"
  | frames => some "1"
  | format => some "nv12"
  | _ => none

def help : Opt → String
  | input => "Raw NV12 frame (luma plane followed by interleaved chroma)"
  | width => "Frame width in pixels (even)"
  | height => "Frame height in pixels (even)"
  | output => "Where to write the processed NV12 frame"
  | png => "Also write an RGB PNG preview here"
  | stickers => "Directory holding the sticker images"
  | detections => "JSON file with detected faces and landmarks"
  | sticker => "Press the sticker button this many times"
  | filter => "Press the filter button this many times"
  | motion => "Turn on gesture-driven sticker switching and capture"
  | frames => "Number of preview frames to run"
  | format => "Pixel format tag the frame is delivered with"
  | settings => "JSON file overriding pipeline settings"

/-- The option as messages show it: `--width <WIDTH>`, or `--motion` for the flag. -/
def display (o : Opt) : String :=
  if o.kind = .flag then "--" ++ o.long else "--" ++ o.long ++ " <" ++ o.long.toUpper ++ ">"

end Opt

def commandName : String := "selfcam"

/-- The usage line of the help text: optional options first, as a group, then the required ones. -/
def helpUsage : String :=
  commandName ++ " [OPTIONS]" ++ String.join ((Opt.all.filter Opt.required).map (" " ++ ·.display))

/-- What a usage line shows beyond the command's name: the options used, whether the help flag
was used, and whether the group of all options was. -/
structure Usage where
  used : List Opt
  help : Bool
  grouped : Bool

/-- The group of all options as a usage line shows it: the options between `|`, in angle
brackets. -/
def groupText : String := "<" ++ "|".intercalate (Opt.all.map Opt.display) ++ ">"

/-- The usage line. With nothing used it is the help text's line. Otherwise it shows the
required options, then the used ones that are not required, then the help flag if it was used;
when the group of all options was used, the group stands for every option instead. -/
def Usage.line (u : Usage) : String :=
  let helpText := if u.help then " --help" else ""
  if u.used.isEmpty && !u.help && !u.grouped then helpUsage
  else if u.grouped then commandName ++ helpText ++ " " ++ groupText
  else
    let shown := Opt.all.filter Opt.required ++ (u.used.filter (!·.required)).eraseDups
    commandName ++ String.join (shown.map (" " ++ ·.display)) ++ helpText

/-- The usage line of the options used, without the help flag and the group. -/
def Usage.ofUsed (used : List Opt) : Usage := ⟨used, false, false⟩

/-! ## Reading integers -/

/-- Why a text is not an integer of a type. -/
inductive IntError where
  | empty
  | invalidDigit
  | tooLarge
  | tooSmall
deriving DecidableEq

def IntError.text : IntError → String
  | .empty => "cannot parse integer from empty string"
  | .invalidDigit => "invalid digit found in string"
  | .tooLarge => "number too large to fit in target type"
  | .tooSmall => "number too small to fit in target type"

/-- Accumulates decimal digits into `acc`, towards `sign` (`1` or `-1`), within `lo..hi`. Digits
are checked one at a time: a non-digit is reported before an overflow only if it comes first. -/
def digitsWithin (lo hi sign : Int) : List Char → Int → Except IntError Int
  | [], acc => .ok acc
  | c :: cs, acc =>
    if c.isDigit then
      let acc' := acc * 10 + sign * (c.toNat - '0'.toNat : Nat)
      if acc' > hi then .error .tooLarge
      else if acc' < lo then .error .tooSmall
      else digitsWithin lo hi sign cs acc'
    else .error .invalidDigit

/-- Reads a decimal integer of the range `lo..hi` with an optional `+` sign, or `-` sign when the
range has negative numbers. A sign alone is an invalid digit. -/
def readInt (lo hi : Int) (s : String) : Except IntError Int :=
  match s.toList with
  | [] => .error .empty
  | ['+'] | ['-'] => .error .invalidDigit
  | '+' :: cs => digitsWithin lo hi 1 cs 0
  | '-' :: cs => if lo < 0 then digitsWithin lo hi (-1) cs 0 else .error .invalidDigit
  | cs => digitsWithin lo hi 1 cs 0

/-! ## Reading the command line -/

inductive Given where
  | number (n : Nat)
  | text (s : String)
  | set

inductive ArgError where
  /-- An argument that is no option; `similar` names an option close to it. -/
  | unexpected (arg : String) (similar : Option String) (usage : Usage)
  | repeated (o : Opt)
  | missingValue (o : Opt)
  /-- A value that does not read as the option's type. -/
  | invalidValue (o : Opt) (value reason : String)
  /-- A value given to a flag, named as the command line names it. -/
  | valueForFlag (flag : String) (value : String) (usage : Usage)
  | missing (os : List Opt) (usage : Usage)

/-- The text of the error as printed, with its usage line and the pointer to the help. -/
def ArgError.text (e : ArgError) : String :=
  let more := "\n\nFor more information, try '--help'.\n"
  let usage (u : Usage) := "\n\nUsage: " ++ u.line
  match e with
  | .unexpected arg similar u =>
    let tip := match similar with
      | some n => "\n\n  tip: a similar argument exists: '--" ++ n ++ "'"
      | none => ""
    "error: unexpected argument '" ++ arg ++ "' found" ++ tip ++ usage u ++ more
  | .repeated o =>
    "error: the argument '" ++ o.display ++ "' cannot be used multiple times" ++
      usage (.ofUsed []) ++ more
  | .missingValue o =>
    "error: a value is required for '" ++ o.display ++ "' but none was supplied" ++ more
  | .invalidValue o v reason =>
    "error: invalid value '" ++ v ++ "' for '" ++ o.display ++ "': " ++ reason ++ more
  | .valueForFlag flag v u =>
    "error: unexpected value '" ++ v ++ "' for '" ++ flag ++ "' found; no more were expected" ++
      usage u ++ more
  | .missing os u =>
    "error: the following required arguments were not provided:" ++
      String.join (os.map ("\n  " ++ ·.display)) ++ usage u ++ more

def readValue (o : Opt) (v : String) : Except ArgError Given :=
  match o.kind with
  | .path => if v.isEmpty then .error (.missingValue o) else .ok (.text v)
  | .text => .ok (.text v)
  | .flag => .ok .set
  | .count =>
    match readInt 0 18446744073709551615 v with
    | .ok n => .ok (.number n.toNat)
    | .error e => .error (.invalidValue o v e.text)
  | .u32 =>
    match readInt (-9223372036854775808) 9223372036854775807 v with
    | .ok n =>
      if 0 ≤ n ∧ n ≤ 4294967295 then .ok (.number n.toNat)
      else .error (.invalidValue o (toString n) (toString n ++ " is not in 0..=4294967295"))
    | .error e => .error (.invalidValue o v e.text)

/-- Whether an argument reads as an option rather than a value: it starts with `-` and is more
than that one character. -/
def looksLikeOption (a : String) : Bool := a.startsWith "-" && a.length > 1

/-! ### Similar names -/

/-- Marks the first unmatched character of `b` equal to `c` within positions `lo ≤ j < hi`. -/
def matchIn (c : Char) (b : List Char) (flags : List Bool) (lo hi : Nat) : Option Nat :=
  ((List.range (min hi b.length)).filter (lo ≤ ·)).find? fun j =>
    b.getD j ' ' == c && !(flags.getD j true)

/-- The Jaro similarity of two texts: the share of characters that match within half the longer
length, corrected by half the number of matched characters out of order. -/
def jaro (s t : String) : Float :=
  let a := s.toList
  let b := t.toList
  if a.isEmpty && b.isEmpty then 1.0
  else if a.isEmpty || b.isEmpty then 0.0
  else
    let range := max a.length b.length / 2 - 1
    let step (st : List Bool × List Bool) (i : Nat) : List Bool × List Bool :=
      let (af, bf) := st
      match matchIn (a.getD i ' ') b bf (i - range) (i + range + 1) with
      | some j => (af.set i true, bf.set j true)
      | none => (af, bf)
    let (af, bf) := (List.range a.length).foldl step
      (List.replicate a.length false, List.replicate b.length false)
    let ma := (a.zip af).filterMap fun (c, f) => if f then some c else none
    let mb := (b.zip bf).filterMap fun (c, f) => if f then some c else none
    let m := ma.length
    if m = 0 then 0.0
    else
      let t := ((ma.zip mb).filter fun (x, y) => x != y).length / 2
      let mf := m.toFloat
      (mf / a.length.toFloat + mf / b.length.toFloat + (m - t).toFloat / mf) / 3.0

/-- The option names a tip may suggest, in the order they are tried; `help` comes last. -/
def tipNames : List (String × Option Opt) :=
  Opt.all.map (fun o => (o.long, some o)) ++ [("help", none)]

/-- The most similar option name to `name`, if one is similar enough (above `0.7`); among equally
similar names the later one wins. -/
def similarOption (name : String) : Option (String × Option Opt) :=
  tipNames.foldl (fun best (n, o) =>
    let score := jaro name n
    if score > 0.7 then
      match best with
      | some (_, _, s) => if score ≥ s then some (n, o, score) else best
      | none => some (n, o, score)
    else best) none |>.map fun (n, o, _) => (n, o)

/-! ### The reading loop

An option's value is taken in only when the next option is met or the arguments end: a value
option waits, and taking it in checks, in order, that it has a value, that the option was not
given before, and that the value reads. Where the next argument is itself refused (an unknown
option, a value given to a flag, a stray value), the waiting option's own error is dropped. -/

inductive Request where
  | run (given : List (Opt × Given))
  | help

/-- What has been read of a command line so far. -/
structure Reading where
  /-- The options taken in, in the order they first came; an option whose value was refused
  counts too. -/
  present : List Opt
  values : List (Opt × Given)
  /-- Whether any option has been taken in, which puts the group of all options in use. -/
  grouped : Bool
  /-- An option waiting to be taken in, and its value once it has come. -/
  waiting : Option (Opt × Option String)
  /-- Whether `--` has been met: every argument after it is a stray value. -/
  trailing : Bool

def Reading.empty : Reading := ⟨[], [], false, none, false⟩

/-- Takes in an option with its value: a second use of the option is refused first (and the
option is dropped), then the value is read (the option counts as present either way). -/
def Reading.takeIn (r : Reading) (o : Opt) (v : String) : Reading × Option ArgError :=
  if r.present.contains o then ({ r with present := r.present.erase o }, some (.repeated o))
  else
    let r := { r with present := r.present ++ [o], grouped := true }
    match readValue o v with
    | .ok g => ({ r with values := r.values ++ [(o, g)] }, none)
    | .error e => (r, some e)

/-- Takes in the waiting option, if any: without a value it is refused. -/
def Reading.settle (r : Reading) : Reading × Option ArgError :=
  match r.waiting with
  | none => (r, none)
  | some (o, none) => ({ r with waiting := none }, some (.missingValue o))
  | some (o, some v) => Reading.takeIn { r with waiting := none } o v

/-- Takes in the waiting option and stops at its error. -/
def Reading.settled (r : Reading) : Except ArgError Reading :=
  match r.settle with
  | (_, some e) => .error e
  | (r, none) => .ok r

/-- The usage line when a flag was given a value: the options taken in that are not required,
the group of all options once any was taken in, and the flag itself. -/
def Reading.flagUsage (r : Reading) (flag : Option Opt) : Usage :=
  ⟨r.present.filter (!·.required) ++ flag.toList, flag.isNone, r.grouped⟩

/-- The report on a long option of an unknown name, once the waiting option is settled: the
most similar option, if one is similar enough, is named as a tip and counts as used. -/
def unknownLong (name : String) (r : Reading) : ArgError :=
  let used := r.settle.1.present
  match similarOption name with
  | some (n, some o) => .unexpected ("--" ++ name) (some n) (.ofUsed (used ++ [o]))
  | some (n, none) => .unexpected ("--" ++ name) (some n) ⟨used, true, false⟩
  | none => .unexpected ("--" ++ name) none (.ofUsed used)

/-- The name and the attached value of a long option `--name` or `--name=value`. -/
def longParts (a : String) : String × Option String :=
  let body := a.drop 2
  let name := (body.takeWhile (· != '=')).toString
  if (body.toString).contains '=' then (name, some ((body.dropWhile (· != '=')).drop 1).toString)
  else (name, none)

/-- Reads a long option `--name` or `--name=value`; `readRest` reads the arguments after it. -/
def readLong (readRest : Reading → Except ArgError Request) (r : Reading) (a : String) :
    Except ArgError Request :=
  let (name, value?) := longParts a
  if name == "help" then
    match value? with
    | some v => .error (.valueForFlag "--help" v (r.flagUsage none))
    | none => do let _ ← r.settled; return .help
  else
    match Opt.all.find? (·.long == name) with
    | none => .error (unknownLong name r)
    | some o =>
      if o.kind = .flag then
        match value? with
        | some v => .error (.valueForFlag ("--" ++ o.long) v (r.flagUsage (some o)))
        | none => do
          let r ← r.settled
          if r.present.contains o then throw (.repeated o)
          readRest { r with present := r.present ++ [o], values := r.values ++ [(o, .set)],
                            grouped := true }
      else
        match value? with
        | some v => do
          let r ← r.settled
          match r.takeIn o v with
          | (_, some e) => throw e
          | (r, none) => readRest r
        | none => do
          let r ← r.settled
          readRest { r with waiting := some (o, none) }

/-- Reads the arguments left to right. -/
def readArgs : List String → Reading → Except ArgError Request
  | [], r => do
    let r ← r.settled
    return .run r.values
  | a :: rest, r =>
    if r.trailing then .error (.unexpected a none (.ofUsed []))
    else if a == "--" then readArgs rest { r with trailing := true }
    else if a.startsWith "--" then readLong (readArgs rest) r a
    else if looksLikeOption a then
      if (a.drop 1).startsWith "h" then do let _ ← r.settled; return .help
      else .error (.unexpected ("-" ++ ((a.drop 1).take 1).toString) none (.ofUsed []))
    else
      match r.waiting with
      | some (o, none) => readArgs rest { r with waiting := some (o, some a) }
      | _ => .error (.unexpected a none (.ofUsed []))

def usedOf (given : List (Opt × Given)) : List Opt := given.map (·.1)

/-- What the command line asks for, once every required option is checked. -/
def request (args : List String) : Except ArgError Request := do
  match ← readArgs args .empty with
  | .help => return .help
  | .run given =>
    let missing := (Opt.all.filter Opt.required).filter fun o => !(given.any (·.1 == o))
    if missing.isEmpty then return .run given
    else throw (.missing missing (.ofUsed (usedOf given ++ missing)))

/-! ## The options of a run -/

structure Options where
  input : String
  width : Nat
  height : Nat
  output : String
  png : Option String
  stickers : Option String
  detections : Option String
  sticker : Nat
  filter : Nat
  motion : Bool
  frames : Nat
  format : String
  settings : Option String

def textOf (given : List (Opt × Given)) (o : Opt) : Option String :=
  match given.lookup o with
  | some (.text s) => some s
  | _ => none

/-- The number given to an option, or its default. -/
def numberOf (given : List (Opt × Given)) (o : Opt) (dflt : Nat) : Nat :=
  match given.lookup o with
  | some (.number n) => n
  | _ => dflt

/-- The options of a run from the values given. -/
def Options.ofGiven (given : List (Opt × Given)) : Options :=
  { input := (textOf given .input).getD ""
    width := numberOf given .width 0
    height := numberOf given .height 0
    output := (textOf given .output).getD ""
    png := textOf given .png
    stickers := textOf given .stickers
    detections := textOf given .detections
    sticker := numberOf given .sticker 0
    filter := numberOf given .filter 0
    motion := (given.lookup .motion).isSome
    frames := numberOf given .frames 1
    format := (textOf given .format).getD "nv12"
    settings := textOf given .settings }

/-! ## The help text -/

/-- What the command does, as the help text opens. -/
def about : String := "Applies stickers or color filters to a raw NV12 preview frame"

/-- Pads a text with spaces to `n` characters. -/
def padTo (n : Nat) (s : String) : String := s ++ String.ofList (List.replicate (n - s.length) ' ')

def helpText : String :=
  let width := (Opt.all.map (·.display.length)).foldl max "--help".length
  let line (o : Opt) : String :=
    let dflt := match o.default? with
      | some d => " [default: " ++ d ++ "]"
      | none => ""
    "      " ++ padTo width o.display ++ "  " ++ o.help ++ dflt ++ "\n"
  about ++ "\n\nUsage: " ++ helpUsage ++ "\n\nOptions:\n" ++ String.join (Opt.all.map line) ++
    "  -h, " ++ padTo width "--help" ++ "  Print help\n"

end CameraOverlay.Cli
