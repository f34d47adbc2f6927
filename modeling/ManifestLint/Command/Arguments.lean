namespace ManifestLint.Command

inductive Format where
  | text | json | compact
deriving DecidableEq, Repr

def Format.ofName? (s : String) : Option Format :=
  if s = "text" then some .text
  else if s = "json" then some .json
  else if s = "compact" then some .compact
  else none

inductive Action where
  | check (dumps : List String) (format : Format) (rules : Option String)
  | listRules
  | init (force : Bool)
deriving DecidableEq, Repr

structure Invocation where
  verbose : Bool
  config : Option String
  action : Action
deriving DecidableEq, Repr

inductive Stop where
  | misused | version | help
deriving DecidableEq, Repr

inductive Key where
  | verbose | config | version | help | format | rules | force
deriving DecidableEq, Repr

structure Spelling where
  key : Key
  short : Option Char
  long : String
  takesValue : Bool
deriving Repr

def sharedOptions : List Spelling := [
  ⟨.verbose, some 'v', "verbose", false⟩, ⟨.config, some 'c', "config", true⟩,
  ⟨.help, some 'h', "help", false⟩]

def leadingOptions : List Spelling := sharedOptions ++ [⟨.version, some 'V', "version", false⟩]

def checkOptions : List Spelling :=
  sharedOptions ++ [⟨.format, some 'f', "format", true⟩, ⟨.rules, none, "rules", true⟩]

def initOptions : List Spelling := sharedOptions ++ [⟨.force, none, "force", false⟩]

abbrev Given := List (Key × String)

def Key.accepts : Key → String → Bool
  | .config, value => !value.isEmpty
  | .format, value => (Format.ofName? value).isSome
  | _, _ => true

def give (key : Key) (value : String) (given : Given) : Except Stop Given :=
  if key = .version then .error .version
  else if key = .help then .error .help
  else if (given.lookup key).isSome then .error .misused
  else if key.accepts value then .ok (given ++ [(key, value)])
  else .error .misused

/-- Reads options of one letter that stand together. What follows a letter that takes a value is the
value; if nothing does, the option waits for the next argument. -/
def readShort (options : List Spelling) : List Char → Given → Except Stop (Given × Option Key)
  | [], given => .ok (given, none)
  | c :: cs, given =>
    match options.find? (·.short == some c) with
    | none => .error .misused
    | some o =>
      if o.takesValue then
        match cs with
        | [] => .ok (given, some o.key)
        | '=' :: value => (give o.key (String.ofList value) given).map (·, none)
        | value => (give o.key (String.ofList value) given).map (·, none)
      else
        match give o.key "" given with
        | .error stop => .error stop
        | .ok given => readShort options cs given

def readLong (options : List Spelling) (cs : List Char) (given : Given) :
    Except Stop (Given × Option Key) :=
  match options.find? (·.long.toList == cs.takeWhile (· != '=')) with
  | none => .error .misused
  | some o =>
    match o.takesValue, cs.dropWhile (· != '=') with
    | true, [] => .ok (given, some o.key)
    | true, _ :: value => (give o.key (String.ofList value) given).map (·, none)
    | false, [] => (give o.key "" given).map (·, none)
    | false, _ :: _ => .error .misused

/-- A dash with something behind it starts an option; a dash alone is a value. -/
def looksLikeOption (arg : String) : Bool :=
  match arg.toList with
  | '-' :: _ :: _ => true
  | _ => false

def readOption (options : List Spelling) (arg : String) (given : Given) :
    Except Stop (Given × Option Key) :=
  match arg.toList with
  | '-' :: '-' :: cs => readLong options cs given
  | _ :: cs => readShort options cs given
  | [] => .error .misused

/-- Reads options up to the name of a subcommand. The results are the options, the name and the
arguments behind it. An option may be waiting for its value. -/
def readLeading : List String → Given → Option Key → Except Stop (Given × String × List String)
  | [], _, _ => .error .misused
  | arg :: rest, given, some key =>
    if looksLikeOption arg then .error .misused
    else
      match give key arg given with
      | .error stop => .error stop
      | .ok given => readLeading rest given none
  | arg :: rest, given, none =>
    if looksLikeOption arg then
      match readOption leadingOptions arg given with
      | .error stop => .error stop
      | .ok (given, waiting) => readLeading rest given waiting
    else .ok (given, arg, rest)

def readRest (options : List Spelling) (accepts : String → Bool) :
    List String → Given → Option Key → Except Stop (Given × List String)
  | [], given, none => .ok (given, [])
  | [], _, some _ => .error .misused
  | arg :: rest, given, some key =>
    if looksLikeOption arg then .error .misused
    else
      match give key arg given with
      | .error stop => .error stop
      | .ok given => readRest options accepts rest given none
  | arg :: rest, given, none =>
    if arg = "--" then if rest.all accepts then .ok (given, rest) else .error .misused
    else if looksLikeOption arg then
      match readOption options arg given with
      | .error stop => .error stop
      | .ok (given, waiting) => readRest options accepts rest given waiting
    else if accepts arg then
      match readRest options accepts rest given none with
      | .error stop => .error stop
      | .ok (given, values) => .ok (given, arg :: values)
    else .error .misused

def readAction (name : String) (args : List String) : Except Stop (Given × Action) :=
  if name = "check" then
    match readRest checkOptions (!·.isEmpty) args [] none with
    | .error stop => .error stop
    | .ok (given, dumps) =>
      let format := ((given.lookup .format).bind Format.ofName?).getD .text
      if dumps.isEmpty then .error .misused
      else .ok (given, .check dumps format (given.lookup .rules))
  else if name = "list-rules" then
    (readRest sharedOptions (fun _ ↦ false) args [] none).map fun r ↦ (r.1, .listRules)
  else if name = "init" then
    (readRest initOptions (fun _ ↦ false) args [] none).map fun r ↦
      (r.1, .init (r.1.lookup .force).isSome)
  else if name = "help" && args.length ≤ 1 &&
    args.all (["check", "list-rules", "init", "help"].contains ·) then .error .help
  else .error .misused

/-- Understands arguments. A configuration given behind the name of the subcommand goes before one
given in front of it. -/
def Invocation.ofArguments (args : List String) : Except Stop Invocation :=
  match readLeading args [] none with
  | .error stop => .error stop
  | .ok (leading, name, rest) =>
    match readAction name rest with
    | .error stop => .error stop
    | .ok (given, action) =>
      .ok {
        verbose := (leading.lookup .verbose).isSome || (given.lookup .verbose).isSome
        config := (given.lookup .config).orElse fun _ ↦ leading.lookup .config
        action := action }

end ManifestLint.Command
