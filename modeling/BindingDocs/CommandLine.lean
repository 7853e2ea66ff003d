import BindingDocs.Run
import BindingDocs.Terminal
import BindingDocs.Timestamp

/-!
# The command line

Options have a value, `--root x` or `--root=x`, and switches have none.  One letter stands for some of them,
and several letters can share a dash.  The value of an option may be the next argument; it is looked at when
the argument after it is read, so an unknown argument right behind it is reported first.
-/

namespace BindingDocs.CommandLine

/-- The options, which have a value. -/
inductive Key where
  | root
  | output
  | manifest
  | time
  deriving DecidableEq, Repr

/-- The switches, which have none. -/
inductive Switch where
  | noEvents
  | verbose
  | help
  deriving DecidableEq, Repr

/-- The word that stands for an option. -/
def Key.word : Key → Text
  | root => "root".toList
  | output => "output".toList
  | manifest => "manifest".toList
  | time => "generated-on".toList

/-- The name of an option's value. -/
def Key.valueName : Key → Text
  | root => "ROOT".toList
  | output => "OUTPUT".toList
  | manifest => "MANIFEST".toList
  | time => "GENERATED_ON".toList

/-- An option as messages show it. -/
def Key.shown (k : Key) : Text := "--".toList ++ k.word ++ " <".toList ++ k.valueName ++ ">".toList

/-- The word that stands for a switch. -/
def Switch.word : Switch → Text
  | noEvents => "no-events".toList
  | verbose => "verbose".toList
  | help => "help".toList

/-- A switch as messages show it. -/
def Switch.shown (s : Switch) : Text := "--".toList ++ s.word

/-- The option that a word stands for. -/
def Key.ofWord? (word : Text) : Option Key := [root, output, manifest, time].find? fun k => k.word == word

/-- The switch that a word stands for. -/
def Switch.ofWord? (word : Text) : Option Switch := [noEvents, verbose, help].find? fun s => s.word == word

/-- The option that a letter stands for. -/
def Key.ofLetter? (c : Char) : Option Key := if c = 'o' then some output else none

/-- The switch that a letter stands for. -/
def Switch.ofLetter? (c : Char) : Option Switch :=
  if c = 'v' then some verbose else if c = 'h' then some help else none

/-- What has been asked for. -/
structure Options where
  root : Option Text
  output : Option Text
  manifest : Option Text
  time : Option Text
  noEvents : Bool
  verbose : Bool
  deriving DecidableEq, Repr

/-- Why arguments cannot be used. -/
inductive UsageError where
  | unknown (arg : Text)
  | missingValue (key : Key)
  | superfluousValue (value : Text) (switch : Switch)
  /-- An option or a switch, as it is shown, that is there twice. -/
  | repeated (shown : Text)
  | invalidTime (value : Text) (fault : Timestamp.Fault)
  /-- Not an error: help was asked for, and the other arguments do not count. -/
  | helpWanted
  deriving DecidableEq, Repr

/-- The fault of a time stamp in words. -/
def timeFault (fault : Timestamp.Fault) : Text := "not an RFC3339 timestamp: ".toList ++ fault.message

/-- What the program does, in one line. -/
def about : Text := "Generate wiki pages and a sample manifest from Perl XS binding sources".toList

/-- The error in words, with what the user wrote in the form that `quote` gives it. -/
def UsageError.wording (quote : Text → Text) : UsageError → Text
  | unknown arg => "error: unexpected argument '".toList ++ quote arg ++ "' found".toList
  | missingValue key =>
    "error: a value is required for '".toList ++ key.shown ++ "' but none was supplied".toList
  | superfluousValue value switch =>
    "error: unexpected value '".toList ++ quote value ++ "' for '".toList ++ switch.shown ++
      "' found; no more were expected".toList
  | repeated shown => "error: the argument '".toList ++ shown ++ "' cannot be used multiple times".toList
  | invalidTime value fault =>
    "error: invalid value '".toList ++ quote value ++ "' for '".toList ++ Key.shown .time ++ "': ".toList ++
      timeFault fault
  | helpWanted => about

/-- The error in words. -/
def UsageError.message (e : UsageError) : Text := e.wording Terminal.plain

namespace Options

/-- Nothing has been asked for. -/
def empty : Options := ⟨none, none, none, none, false, false⟩

/-- The value of an option. -/
def get? (o : Options) : Key → Option Text
  | .root => o.root
  | .output => o.output
  | .manifest => o.manifest
  | .time => o.time

/-- The options with a value given to one of them. -/
def set (o : Options) (value : Text) : Key → Options
  | .root => { o with root := some value }
  | .output => { o with output := some value }
  | .manifest => { o with manifest := some value }
  | .time => { o with time := some value }

/-- Gives a value to an option that has none.  A path is not empty, and a time stamp is checked. -/
def assign (o : Options) (key : Key) (value : Text) : Except UsageError Options :=
  if (o.get? key).isSome then .error (.repeated key.shown)
  else if key = .time then
    match Timestamp.check value with
    | .ok () => .ok (o.set value key)
    | .error fault => .error (.invalidTime value fault)
  else if value = [] then .error (.missingValue key)
  else .ok (o.set value key)

/-- Turns a switch on. -/
def turnOn (o : Options) : Switch → Except UsageError Options
  | .noEvents =>
    if o.noEvents then .error (.repeated (Switch.shown .noEvents)) else .ok { o with noEvents := true }
  | .verbose =>
    if o.verbose then .error (.repeated (Switch.shown .verbose)) else .ok { o with verbose := true }
  | .help => .error .helpWanted

/-- What a run is told; `now` is the time if none was given. -/
def settings (o : Options) (now : Text) : Settings where
  root := o.root.getD "../../..".toList
  output := o.output.getD "out".toList
  manifest := o.manifest.getD "perlsample.yml".toList
  events := !o.noEvents
  time := o.time.getD now

end Options

/-- The options that were read, and the last one if it has not been looked at yet. -/
structure Reader where
  options : Options
  /-- An option from an argument of its own, and its value if that has been read. -/
  pending : Option (Key × Option Text)

namespace Reader

/-- Nothing has been read. -/
def empty : Reader := ⟨.empty, none⟩

/-- Looks at the pending option. -/
def settle (r : Reader) : Except UsageError Reader :=
  match r.pending with
  | none => .ok r
  | some (key, none) => .error (.missingValue key)
  | some (key, some value) => (r.options.assign key value).map fun o => ⟨o, none⟩

/-- Reads an option whose value belongs to the same argument. -/
def attach (r : Reader) (key : Key) (value : Text) : Except UsageError Reader := do
  let r ← r.settle
  let o ← r.options.assign key value
  pure ⟨o, none⟩

/-- Reads an option whose value is still to come. -/
def await (r : Reader) (key : Key) : Except UsageError Reader := do
  let r ← r.settle
  pure { r with pending := some (key, none) }

/-- Reads a switch. -/
def switch (r : Reader) (s : Switch) : Except UsageError Reader := do
  let r ← r.settle
  let o ← r.options.turnOn s
  pure ⟨o, none⟩

/-- Reads what follows two dashes. -/
def long (r : Reader) (body : Text) : Except UsageError Reader :=
  let (word, value?) :=
    match Text.cut? ['='] body with
    | some (word, value) => (word, some value)
    | none => (body, none)
  match Key.ofWord? word, Switch.ofWord? word, value? with
  | some key, _, some value => r.attach key value
  | some key, _, none => r.await key
  | none, some s, some value => .error (.superfluousValue value s)
  | none, some s, none => r.switch s
  | none, none, _ => .error (.unknown ("--".toList ++ word))

/-- Reads the letters that follow one dash.  What follows the letter of an option is its value. -/
def letters (r : Reader) : Text → Except UsageError Reader
  | [] => .ok r
  | c :: s =>
    match Key.ofLetter? c, Switch.ofLetter? c with
    | some key, _ =>
      match s with
      | [] => r.await key
      | '=' :: value => r.attach key value
      | value => r.attach key value
    | none, some switch => do
      let r ← r.switch switch
      letters r s
    | none, none => .error (.unknown ['-', c])

/-- Reads an argument that begins neither an option nor a switch: the value of the pending option, if that has
none yet. -/
def plain (r : Reader) (arg : Text) : Except UsageError Reader :=
  match r.pending with
  | some (key, none) => .ok { r with pending := some (key, some arg) }
  | _ => .error (.unknown arg)

/-- Reads an argument. -/
def step (r : Reader) (arg : Text) : Except UsageError Reader :=
  match arg with
  | '-' :: '-' :: body => r.long body
  | '-' :: c :: s => r.letters (c :: s)
  | arg => r.plain arg

/-- Reads all arguments.  Two dashes alone end the options, and nothing may come after them. -/
def readAll (r : Reader) : List Text → Except UsageError Reader
  | [] => r.settle
  | arg :: args =>
    if arg = "--".toList then
      match args with
      | [] => r.settle
      | rest :: _ => .error (.unknown rest)
    else do
      let r ← r.step arg
      readAll r args

end Reader

/-- What the arguments ask for. -/
def read (args : List Text) : Except UsageError Options := (Reader.empty.readAll args).map Reader.options

/-- The help text, line by line. -/
def help : List Text := [
  about,
  [],
  "Usage: perldoc [OPTIONS]".toList,
  [],
  "Options:".toList,
  "      --root <ROOT>                  Server source tree the binding paths are relative to ".toList ++
    "[default: ../../..]".toList,
  "  -o, --output <OUTPUT>              Output directory for generated pages [default: out]".toList,
  "      --manifest <MANIFEST>          Path of the YAML sample manifest [default: perlsample.yml]".toList,
  "      --no-events                    Skip event scanning and the event dispatcher file".toList,
  "      --generated-on <GENERATED_ON>  Timestamp for page footers (RFC3339); defaults to now".toList,
  "  -v, --verbose                      Enable debug logging".toList,
  "  -h, --help                         Print help".toList]

end BindingDocs.CommandLine
