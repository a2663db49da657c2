/-! # Arguments of the command line

An option is written with its short or its long name, and short ones may share a dash.  The
value of an option stands behind it, with or without an equals sign.  All after `--` are no
options.

* `Invocation.ofArguments`   what arguments ask for -/

namespace RecordRules.CommandLine

/-- How answers are written. -/
inductive OutputStyle where
  | text
  | json
  deriving DecidableEq, Repr

/-- The style of a name. -/
def OutputStyle.ofName? : String → Option OutputStyle
  | "text" => some text
  | "json" => some json
  | _ => none

/-- A task on files. -/
inductive Command where
  /-- Validates a record. -/
  | validate (rules record : String) (style : OutputStyle) (showPassed : Bool)
  /-- Looks for issues of rules. -/
  | check (rules : String) (style : OutputStyle)
  deriving DecidableEq, Repr

namespace Command

/-- The paths of the files that a command reads. -/
def paths : Command → List String
  | validate rules record _ _ => [rules, record]
  | check rules _ => [rules]

end Command

/-- What is asked for. -/
inductive Invocation where
  | command (c : Command)
  | help
  | version
  deriving DecidableEq, Repr

/-- The options. -/
inductive Switch where
  | verbose
  | format
  | showPassed
  | help
  | version
  deriving DecidableEq, Repr

namespace Switch

/-- The switch of a long name. -/
def ofName? : String → Option Switch
  | "verbose" => some verbose
  | "format" => some format
  | "show-passed" => some showPassed
  | "help" => some help
  | "version" => some version
  | _ => none

/-- The switch of a letter. -/
def ofLetter? : Char → Option Switch
  | 'v' => some verbose
  | 'f' => some format
  | 'h' => some help
  | 'V' => some version
  | _ => none

end Switch

/-- Where arguments stand: before the name of a command, or behind it. -/
inductive Level where
  | top
  | validate
  | check
  deriving DecidableEq, Repr

namespace Level

/-- The switches of a level. -/
def switches : Level → List Switch
  | top => [.verbose, .help, .version]
  | validate => [.verbose, .help, .format, .showPassed]
  | check => [.verbose, .help, .format]

/-- How many paths a level takes. -/
def pathCount : Level → Nat
  | top => 0
  | validate => 2
  | check => 1

end Level

/-- A switch of a level, unless it is not one or was given before. -/
def Level.admit? (level : Level) (seen : List Switch) (s : Option Switch) : Option Switch :=
  s.filter fun s => level.switches.contains s && !seen.contains s

/-- What the arguments of a level have told so far. -/
structure Draft where
  paths : List String := []
  seen : List Switch := []
  style : OutputStyle := .text

/-- What an argument leads to. -/
inductive Step where
  | next (d : Draft)
  /-- The next argument is the style. -/
  | awaitStyle (d : Draft)
  | done (i : Invocation)
  | refused

namespace Step

/-- Takes a style. -/
def ofStyle (d : Draft) (name : String) : Step :=
  match OutputStyle.ofName? name with
  | some style => next { d with style := style }
  | none => refused

/-- Takes letters behind one dash. -/
def ofLetters (level : Level) (d : Draft) : List Char → Step
  | [] => next d
  | c :: rest =>
    match level.admit? d.seen (Switch.ofLetter? c) with
    | none => refused
    | some .help => done .help
    | some .version => done .version
    | some .format =>
      let d := { d with seen := .format :: d.seen }
      match rest with
      | [] => awaitStyle d
      | '=' :: name => ofStyle d (String.ofList name)
      | name => ofStyle d (String.ofList name)
    | some s => ofLetters level { d with seen := s :: d.seen } rest

/-- Takes a long name, with a value if an equals sign follows it. -/
def ofLong (level : Level) (d : Draft) (cs : List Char) : Step :=
  let name := cs.takeWhile (· ≠ '=')
  let value? := (cs.drop name.length).tail?
  match level.admit? d.seen (Switch.ofName? (String.ofList name)), value? with
  | some .format, value? =>
    let d := { d with seen := .format :: d.seen }
    (value?.map fun v => ofStyle d (String.ofList v)).getD (awaitStyle d)
  | some .help, none => done .help
  | some .version, none => done .version
  | some s, none => next { d with seen := s :: d.seen }
  | _, _ => refused

/-- Takes a path. -/
def ofPath (level : Level) (d : Draft) (path : String) : Step :=
  if d.paths.length < level.pathCount then next { d with paths := d.paths ++ [path] }
  else refused

end Step

/-- Whether an argument is no value: it begins with a dash and is longer. -/
def isSwitch (argument : String) : Bool :=
  match argument.toList with
  | '-' :: _ :: _ => true
  | _ => false

/-- The command of a level whose arguments are complete. -/
def Level.command? (level : Level) (d : Draft) : Option Invocation :=
  match level, d.paths with
  | validate, [rules, record] =>
    some (.command (.validate rules record d.style (d.seen.contains .showPassed)))
  | check, [rules] => some (.command (.check rules d.style))
  | _, _ => none

/-- Takes the arguments behind the name of a command. -/
def Level.read (level : Level) (d : Draft) : List String → Option Invocation
  | [] => level.command? d
  | "--" :: paths =>
    if d.paths.length + paths.length = level.pathCount then
      level.command? { d with paths := d.paths ++ paths }
    else none
  | argument :: rest =>
    let step :=
      match argument.toList with
      | '-' :: '-' :: name => Step.ofLong level d name
      | '-' :: c :: letters => Step.ofLetters level d (c :: letters)
      | _ => Step.ofPath level d argument
    match step, rest with
    | .next d, rest => level.read d rest
    | .awaitStyle d, name :: rest =>
      if isSwitch name then none
      else match Step.ofStyle d name with
        | .next d => level.read d rest
        | _ => none
    | .awaitStyle _, [] => none
    | .done i, _ => some i
    | .refused, _ => none

/-- The level of the name of a command. -/
def Level.ofName? : String → Option Level
  | "validate" => some validate
  | "check" => some check
  | _ => none

/-- Takes what follows `help`: the name of a command, or nothing. -/
def helpOn? : List String → Option Invocation
  | [] => some .help
  | [name] => if name = "help" || (Level.ofName? name).isSome then some .help else none
  | _ => none

/-- Takes arguments from the first one on. -/
def readTop (d : Draft) : List String → Option Invocation
  | [] => none
  | argument :: rest =>
    let step :=
      match argument.toList with
      | '-' :: '-' :: name => Step.ofLong .top d name
      | '-' :: c :: letters => Step.ofLetters .top d (c :: letters)
      | _ => .refused
    match step with
    | .next d => readTop d rest
    | .done i => some i
    | _ =>
      if argument = "help" then helpOn? rest
      else (Level.ofName? argument).bind fun level => level.read {} rest

/-- What arguments ask for. -/
def Invocation.ofArguments (arguments : List String) : Option Invocation :=
  readTop {} arguments

end RecordRules.CommandLine
