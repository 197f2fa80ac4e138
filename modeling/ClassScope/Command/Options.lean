import ClassScope.Setting
import ClassScope.Text.Word

/-!
# Command-line options

Long options, with a value or without. A name may be cut short as long as it stays clear which
option is meant; a value follows as the next argument or behind an equals sign. Two hyphens alone
end the options; behind an equals sign they leave the option without a value. No operands are taken,
so every argument that belongs to no option is an error.
-/

namespace ClassScope.Command

/-- What an option takes. -/
inductive Takes where
  /-- Nothing. -/
  | nothing
  /-- Any value. -/
  | anyValue
  /-- One of some values. -/
  | oneOf (choices : List Text)
  /-- Nothing; the option asks for help. -/
  | help
  deriving DecidableEq, Repr

/-- An option. -/
structure Opt where
  /-- The name, which starts with two hyphens. -/
  name : Text
  /-- What the option takes. -/
  takes : Takes
  deriving DecidableEq, Repr

/-- The options of a command. -/
structure Options where
  /-- The options in the order they are listed in. -/
  all : List Opt
  /-- The names of those that have to be given. -/
  required : List Text

/-- The option that asks for help; it has a short name too. -/
def helpOption : Opt := ⟨Text.of "--help", .help⟩

/-- The short name of the option that asks for help. -/
def shortHelp : Text := ['-', 'h']

/-- What is wrong with some arguments. -/
inductive UsageError where
  /-- An option is cut so short that it may be any of several. -/
  | ambiguous (argument : Text) (candidates : List Text)
  /-- An option lacks its value. -/
  | noValue (name : Text)
  /-- An option that takes nothing is given a value. -/
  | extraValue (name value : Text)
  /-- An option is given a value that is none of its choices. -/
  | badChoice (name value : Text) (choices : List Text)
  /-- Some options are missing. -/
  | notGiven (names : List Text)
  /-- Some arguments belong to no option. -/
  | unknown (arguments : List Text)
  deriving DecidableEq, Repr

/-- The name of an option in messages. -/
def Opt.label (option : Opt) : Text :=
  if option.takes = .help then shortHelp ++ ['/'] ++ option.name else option.name

/-- The wording of an error. -/
def UsageError.text : UsageError → Text
  | .ambiguous argument candidates =>
    Text.of "ambiguous option: " ++ argument ++ Text.of " could match " ++
      Text.join (Text.of ", ") candidates
  | .noValue name => Text.of "argument " ++ name ++ Text.of ": expected one argument"
  | .extraValue name value =>
    Text.of "argument " ++ name ++ Text.of ": ignored explicit argument " ++ Text.quoted value
  | .badChoice name value choices =>
    Text.of "argument " ++ name ++ Text.of ": invalid choice: " ++ Text.quoted value ++
      Text.of " (choose from " ++ Text.join (Text.of ", ") (choices.map Text.quoted) ++ [')']
  | .notGiven names =>
    Text.of "the following arguments are required: " ++ Text.join (Text.of ", ") names
  | .unknown arguments => Text.of "unrecognized arguments: " ++ Text.join [' '] arguments

/-! ## Arguments one by one -/

/-- What an argument is. -/
inductive Word where
  /-- No option, but perhaps the value of one. -/
  | operand (s : Text)
  /-- The two hyphens that end the options. -/
  | separator
  /-- An option, with the value attached to it. -/
  | option (option : Opt) (attached : Option Text)
  /-- The short name of the option that asks for help, with what is attached to it. -/
  | shortHelp (attached : Text)
  /-- An option that does not exist. -/
  | unknownOption (s : Text)
  deriving DecidableEq, Repr

/-- A negative number, which is no option. -/
def isNegativeNumber (s : Text) : Bool :=
  let s := if s.getLast? = some '\n' then s.dropLast else s
  match s with
  | '-' :: s =>
    let fraction := s.dropWhile Text.isDecimal
    match fraction with
    | [] => !s.isEmpty
    | '.' :: t => !t.isEmpty && t.all Text.isDecimal
    | _ => false
  | _ => false

/-- An argument cut at its first equals sign. -/
def cutAtEquals (s : Text) : Text × Option Text :=
  match s.dropWhile (· ≠ '=') with
  | [] => (s, none)
  | _ :: value => (s.takeWhile (· ≠ '='), some value)

/-- The option with a full name. -/
def Options.named? (options : Options) (name : Text) : Option Opt :=
  if name = shortHelp then some helpOption
  else (helpOption :: options.all).find? (·.name = name)

/-- The options whose names start with `front`. -/
def Options.startingWith (options : Options) (front : Text) : List Opt :=
  (helpOption :: options.all).filter fun option => Text.startsWith front option.name

/-- What an argument that looks like no option of the command is. -/
def otherWord (s : Text) : Word :=
  if isNegativeNumber s ∨ ' ' ∈ s then .operand s else .unknownOption s

/-- What an argument is, if it does not end the options. -/
def Options.word (options : Options) (s : Text) : Except UsageError Word :=
  let (name, value) := cutAtEquals s
  if s.head? ≠ some '-' ∨ s = ['-'] then .ok (.operand s)
  else
    match options.named? s, options.named? name, value with
    | some option, _, _ => .ok (.option option none)
    | none, some option, some value =>
      .ok (if name = shortHelp then .shortHelp value else .option option (some value))
    | none, _, _ =>
      if Text.startsWith ['-', '-'] s then
        match options.startingWith name with
        | [] => .ok (otherWord s)
        | [option] => .ok (.option option value)
        | candidates => .error (.ambiguous s (candidates.map Opt.name))
      else
        match Text.after? shortHelp s with
        | some attached => .ok (.shortHelp attached)
        | none => .ok (otherWord s)

/-- What the arguments are; behind the two hyphens all are operands. -/
def Options.words (options : Options) : List Text → Except UsageError (List Word)
  | [] => .ok []
  | s :: arguments =>
    if s = ['-', '-'] then .ok (.separator :: arguments.map .operand)
    else do
      let word ← options.word s
      let rest ← options.words arguments
      return word :: rest

/-! ## All arguments -/

/-- What the arguments of a command give. -/
structure Given where
  /-- The options in the order they were given, with their values. -/
  options : List (Text × Option Setting)
  /-- The arguments that belong to no option. -/
  others : List Text
  /-- Help was asked for; nothing behind that was looked at. -/
  help : Bool
  deriving DecidableEq, Repr

/-- What is given without any argument. -/
def Given.none : Given := ⟨[], [], false⟩

/-- An option with its value in front of what is given. -/
def Given.add (name : Text) (value : Option Setting) (given : Given) : Given :=
  { given with options := (name, value) :: given.options }

/-- An argument that belongs to no option in front of what is given. -/
def Given.addOther (s : Text) (given : Given) : Given := { given with others := s :: given.others }

/-- The value, if an option may have it. -/
def Opt.check (option : Opt) (value : Text) : Except UsageError Setting :=
  match option.takes with
  | .oneOf choices =>
    if choices.contains value then .ok (.text value)
    else .error (.badChoice option.label value choices)
  | _ => .ok (.text value)

/-- The value that is attached to an option. Two hyphens are taken away, and no choice is missed. -/
def Opt.checkAttached (option : Opt) (value : Text) : Except UsageError Setting :=
  if value = ['-', '-'] then .ok .noValue else option.check value

/-- The option takes a value. -/
def Opt.takesValue (option : Opt) : Bool :=
  match option.takes with
  | .anyValue | .oneOf _ => true
  | .nothing | .help => false

/-- What some arguments give. Behind its short name the option that asks for help may be repeated by
its letter alone; nothing else may be attached there. -/
def gather : List Word → Except UsageError Given
  | [] => .ok .none
  | .operand s :: words => Given.addOther s <$> gather words
  | .separator :: words => Given.addOther ['-', '-'] <$> gather words
  | .unknownOption s :: words => Given.addOther s <$> gather words
  | .shortHelp attached :: _ =>
    let rest := attached.dropWhile (· = 'h')
    if attached ≠ [] ∧ rest = [] then .ok { Given.none with help := true }
    else .error (.extraValue helpOption.label rest)
  | .option option (some value) :: words =>
    if option.takesValue then do
      let value ← option.checkAttached value
      Given.add option.name (some value) <$> gather words
    else .error (.extraValue option.label value)
  | .option option none :: words =>
    if option.takesValue then
      match words with
      | .operand value :: words => do
        let value ← option.check value
        Given.add option.name (some value) <$> gather words
      | _ => .error (.noValue option.label)
    else if option.takes = .help then .ok { Given.none with help := true }
    else Given.add option.name none <$> gather words

/-- The option was given. -/
def Given.has (given : Given) (name : String) : Bool :=
  given.options.any (·.1 = Text.of name)

/-- The last value that an option was given. -/
def Given.value? (given : Given) (name : String) : Option Setting :=
  (given.options.reverse.find? (·.1 = Text.of name)).bind Prod.snd

/-- What the arguments of a command give. -/
def Options.read (options : Options) (arguments : List Text) : Except UsageError Given := do
  let words ← options.words arguments
  let given ← gather words
  let missing := options.required.filter fun name => !given.options.any (·.1 = name)
  if given.help then return given
  else if !missing.isEmpty then .error (.notGiven missing)
  else if !given.others.isEmpty then .error (.unknown given.others)
  else return given

end ClassScope.Command
