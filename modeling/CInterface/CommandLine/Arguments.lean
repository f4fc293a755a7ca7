import CInterface.Generation

namespace CInterface.CommandLine

/-!
# The command line — arguments

The arguments are `[flags] <artifact> [flags] <destination>`.  A flag may be given
once on either side of the artifact's name; behind `--` nothing is a flag any more.

* `Argument.ofText` — what a single argument is.
* `readLevel` — the flags and plain arguments on one side of the artifact's name.
* `parse` — the invocation that the arguments and the environment ask for.
-/

/-! ### Flags -/

/-- A flag of the command line. -/
inductive Flag
  | verbose
  | config
  | interface
  | ffiTypes
  | exportTypes
  | asyncify
  | help
  | version
  deriving Repr, DecidableEq

namespace Flag

/-- The flag's name behind two dashes. -/
def long : Flag → Text
  | verbose => "verbose".toList
  | config => "config".toList
  | interface => "interface".toList
  | ffiTypes => "ffi-types".toList
  | exportTypes => "export-types".toList
  | asyncify => "asyncify".toList
  | help => "help".toList
  | version => "version".toList

/-- The flag's letter behind one dash. -/
def letter? : Flag → Option Char
  | verbose => some 'v'
  | help => some 'h'
  | version => some 'V'
  | _ => none

/-- Does the flag take a value?  The value is a path, which is never empty. -/
def takesValue : Flag → Bool
  | config | interface | ffiTypes => true
  | _ => false

end Flag

/-- Why no artifact is generated. -/
inductive Stop
  /-- The arguments make no sense. -/
  | usage
  /-- Help is asked for, on the whole program or on one artifact. -/
  | help (topic : Option Artifact)
  /-- The version is asked for. -/
  | version
  deriving Repr, DecidableEq

/-! ### Single arguments -/

/-- What a single argument is. -/
inductive Argument
  /-- Two dashes alone: all that follows is plain. -/
  | escape
  /-- Two dashes with a name, as in `--name` or `--name=value`. -/
  | long (name : Text) (value : Option Text)
  /-- One dash with letters. -/
  | letters (ls : Text)
  /-- Anything else, `-` and the empty text included. -/
  | plain
  deriving Repr, DecidableEq

/-- What a single argument is. -/
def Argument.ofText : Text → Argument
  | '-' :: '-' :: [] => escape
  | '-' :: '-' :: rest =>
    match rest.dropWhile (· != '=') with
    | [] => long rest none
    | _ :: value => long (rest.takeWhile (· != '=')) (some value)
  | '-' :: c :: rest => letters (c :: rest)
  | _ => plain

/-! ### The arguments on one side of the artifact's name -/

/-- One side of the artifact's name. -/
structure Level where
  /-- The flags that may stand here. -/
  flags : List Flag
  /-- What help is given on. -/
  topic : Option Artifact

/-- In front of the artifact's name. -/
def topLevel : Level := ⟨[.verbose, .config, .help, .version], none⟩

/-- Behind the artifact's name. -/
def artifactLevel (a : Artifact) : Level :=
  ⟨[.verbose, .config, .help, .interface] ++
    (if a = .ffi then [.ffiTypes, .exportTypes, .asyncify] else []), some a⟩

/-- What has been given on one side. -/
structure Given where
  /-- The flags with their values. -/
  flags : List (Flag × Text) := []
  /-- The destination. -/
  plain : Option Text := none

namespace Given

/-- Is a flag given? -/
def has (g : Given) (f : Flag) : Bool :=
  (g.flags.lookup f).isSome

/-- The value given to a flag. -/
def value? (g : Given) (f : Flag) : Option Text :=
  g.flags.lookup f

/-- Add a flag, which must be new; help and version take effect at once. -/
def add (g : Given) (level : Level) (f : Flag) (value : Text) : Except Stop Given :=
  match f with
  | .help => .error (.help level.topic)
  | .version => .error .version
  | f =>
    if g.has f || (f.takesValue && value.isEmpty) then .error .usage
    else .ok { g with flags := g.flags ++ [(f, value)] }

/-- Add the flags that letters stand for. -/
def addLetters (g : Given) (level : Level) (ls : Text) : Except Stop Given :=
  ls.foldlM (fun g l =>
    match level.flags.find? (·.letter? = some l) with
    | some f => g.add level f []
    | none => .error .usage) g

/-- Add plain arguments; there is room for one. -/
def addPlain (g : Given) (args : List Text) : Except Stop Given :=
  match g.plain, args with
  | _, [] => .ok g
  | none, [arg] => .ok { g with plain := some arg }
  | _, _ => .error .usage

end Given

/-- Read the arguments on one side.  In front of the artifact's name the first plain argument
    ends the side, and is left with all that follows. -/
def readLevel (level : Level) : Given → List Text → Except Stop (Given × List Text)
  | g, [] => .ok (g, [])
  | g, arg :: rest =>
    match Argument.ofText arg with
    | .escape =>
      if level.topic.isNone then .error .usage
      else do
        let g ← g.addPlain rest
        .ok (g, [])
    | .plain =>
      if level.topic.isNone then .ok (g, arg :: rest)
      else do
        let g ← g.addPlain [arg]
        readLevel level g rest
    | .letters ls => do
      let g ← g.addLetters level ls
      readLevel level g rest
    | .long name value =>
      match level.flags.find? (·.long = name) with
      | none => .error .usage
      | some f =>
        match f.takesValue, value, rest with
        | false, none, rest => do
          let g ← g.add level f []
          readLevel level g rest
        | false, some _, _ => .error .usage
        | true, some value, rest => do
          let g ← g.add level f value
          readLevel level g rest
        | true, none, value :: rest =>
          if Argument.ofText value = .plain then do
            let g ← g.add level f value
            readLevel level g rest
          else .error .usage
        | true, none, [] => .error .usage

/-! ### The whole command line -/

/-- The paths that the environment may set. -/
structure Environment where
  /-- The variable `HEADER_FILE_PATH`: the interface file. -/
  interfacePath : Option Text := none
  /-- The variable `FFI_TYPES_PATH`: the type declarations. -/
  typesPath : Option Text := none

/-- What the command line asks for. -/
structure Invocation where
  artifact : Artifact
  destination : Text
  interfacePath : Text
  typesPath : Text
  exportTypes : Bool
  asyncify : Bool
  /-- Are details reported? -/
  verbose : Bool
  /-- The settings file that is asked for. -/
  configPath : Option Text

/-- A path given by a flag, else by the environment, else the default.  The environment must not
    give an empty path. -/
def choosePath (given environment : Option Text) (default : Text) : Except Stop Text :=
  match given, environment with
  | some path, _ => .ok path
  | none, some path => if path.isEmpty then .error .usage else .ok path
  | none, none => .ok default

/-- The help that the arguments behind the word `help` ask for. -/
def helpStop : List Text → Stop
  | [] => .help none
  | [name] =>
    match Artifact.ofLabel? name with
    | some a => .help (some a)
    | none => if name = "help".toList then .help none else .usage
  | _ => .usage

/-- The default paths of a request. -/
def defaultRequest : Request := { destination := .stdout }

/-- The invocation that the arguments and the environment ask for. -/
def parse (env : Environment) (args : List Text) : Except Stop Invocation := do
  let (top, rest) ← readLevel topLevel {} args
  match rest with
  | [] => .error .usage
  | name :: rest =>
    match Artifact.ofLabel? name with
    | none => .error (if name = "help".toList then helpStop rest else .usage)
    | some a =>
      let (given, _) ← readLevel (artifactLevel a) {} rest
      let interfacePath ← choosePath (given.value? .interface) env.interfacePath
        defaultRequest.interfacePath
      let typesPath ← if a = .ffi then
          choosePath (given.value? .ffiTypes) env.typesPath defaultRequest.typesPath
        else pure defaultRequest.typesPath
      match given.plain with
      | none => .error .usage
      | some destination =>
        .ok
          { artifact := a
            destination := destination
            interfacePath := interfacePath
            typesPath := typesPath
            exportTypes := given.has .exportTypes
            asyncify := given.has .asyncify
            verbose := top.has .verbose || given.has .verbose
            configPath := (given.value? .config).or (top.value? .config) }

end CInterface.CommandLine
