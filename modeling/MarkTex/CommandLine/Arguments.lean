import MarkTex.CommandLine.Grammar

/-!
# Reading command lines

First each argument is told apart as an option, a value or the mark after which all are values; an
option may be shortened as long as one option alone starts so. Then the arguments are read in order.
Values stand behind their option, or join it after an equals sign or, for options of one letter,
directly; options of one letter without values may share a hyphen.
-/

namespace MarkTex.CommandLine

/-- Why a command line is refused. -/
inductive ArgumentFault where
  /-- More than one option starts so. -/
  | ambiguous (argument : Text) (candidates : List String)
  | noValue (p : Parameter)
  /-- A value joins an option that takes none. -/
  | surplusValue (p : Parameter) (value : Text)
  | badValue (p : Parameter) (type : ValueType) (value : Text)
  | badChoice (p : Parameter) (choices : List String) (value : Text)
  | noInput
  | unrecognized (arguments : List Text)

/-- What is wrong with a command line. -/
def ArgumentFault.message : ArgumentFault → String
  | ambiguous argument candidates =>
    "ambiguous option: " ++ String.ofList argument ++ " could match " ++ ", ".intercalate candidates
  | noValue p => "argument " ++ p.label ++ ": expected one argument"
  | surplusValue p value =>
    "argument " ++ p.label ++ ": ignored explicit argument " ++ String.ofList (Text.quoted value)
  | badValue p type value =>
    "argument " ++ p.label ++ ": invalid " ++ type.name ++ " value: " ++
      String.ofList (Text.quoted value)
  | badChoice p choices value =>
    "argument " ++ p.label ++ ": invalid choice: " ++ String.ofList (Text.quoted value) ++
      " (choose from " ++ ", ".intercalate (choices.map quote) ++ ")"
  | noInput => "the following arguments are required: input"
  | unrecognized arguments =>
    "unrecognized arguments: " ++ " ".intercalate (arguments.map String.ofList)

/-- Why reading a command line ends before all of it is read. -/
inductive Stop where
  | help
  | version
  | fault (cause : ArgumentFault)

/-! ## Telling arguments apart -/

/-- An option as it was found: its parameter, its full name, and the value that joins it. -/
structure Found where
  parameter : Parameter
  name : Text
  joined : Option Text

/-- What an argument is. -/
inductive Piece where
  | option (found : Found)
  /-- An argument that looks like an option and is none. -/
  | unknown
  | value
  /-- The mark after which all arguments are values. -/
  | mark

/-- The parts of an argument before and after its first equals sign. -/
def cutSign (argument : Text) : Text × Option Text :=
  match Text.cutAt ['='] argument with
  | some (name, value) => (name, some value)
  | none => (argument, none)

/-- Whether a text is a negative number, with or without a point. A line feed may follow. -/
def isNegativeNumber (t : Text) : Bool :=
  let t := if t.getLast? = some '\n' then t.dropLast else t
  let digit (c : Char) : Bool := (Text.digitValue? c).isSome
  match t with
  | '-' :: r =>
    match r.span digit with
    | (whole, []) => !whole.isEmpty
    | (_, '.' :: part) => !part.isEmpty && part.all digit
    | _ => false
  | _ => false

/-- The options that a long argument can be short for. -/
def Grammar.longCandidates (g : Grammar) (argument : Text) : List Found :=
  let (start, joined) := cutSign argument
  g.parameters.flatMap fun p =>
    p.names.filterMap fun name =>
      if start.isPrefixOf name.toList then some ⟨p, name.toList, joined⟩ else none

/-- The options that an argument with one hyphen can be: one of one letter with a joined value, or
one that starts so. -/
def Grammar.shortCandidates (g : Grammar) (argument : Text) : List Found :=
  g.parameters.flatMap fun p =>
    p.names.filterMap fun name =>
      if name.toList = argument.take 2 then some ⟨p, name.toList, some (argument.drop 2)⟩
      else if argument.isPrefixOf name.toList then some ⟨p, name.toList, none⟩
      else none

/-- The options that an argument can be, where none has exactly its name. -/
def Grammar.candidates (g : Grammar) (argument : Text) : List Found :=
  if ['-', '-'].isPrefixOf argument then g.longCandidates argument else g.shortCandidates argument

/-- What an argument is that can be the given options: the only one of them, or none. -/
def pieceAmong (argument : Text) : List Found → Except ArgumentFault Piece
  | [found] => .ok (.option found)
  | [] => if isNegativeNumber argument || argument.contains ' ' then .ok .value else .ok .unknown
  | candidates => .error (.ambiguous argument (candidates.map fun c => String.ofList c.name))

/-- What an argument is that starts with a hyphen and goes on, where no option has exactly its
name. -/
def Grammar.classifyHyphened (g : Grammar) (argument : Text) : Except ArgumentFault Piece :=
  let (name, joined) := cutSign argument
  match joined, g.find? name with
  | some value, some p => .ok (.option ⟨p, name, some value⟩)
  | _, _ => pieceAmong argument (g.candidates argument)

/-- What an argument is. -/
def Grammar.classify (g : Grammar) (argument : Text) : Except ArgumentFault Piece :=
  match argument with
  | '-' :: rest =>
    match g.find? argument with
    | some p => .ok (.option ⟨p, argument, none⟩)
    | none => if rest.isEmpty then .ok .value else g.classifyHyphened argument
  | _ => .ok .value

/-- What each of some arguments is. -/
def Grammar.classifyAll (g : Grammar) : List Text → Except ArgumentFault (List (Text × Piece))
  | [] => .ok []
  | argument :: rest =>
    if argument = ['-', '-'] then .ok ((argument, .mark) :: rest.map fun value => (value, .value))
    else
      match g.classify argument with
      | .error fault => .error fault
      | .ok piece => (g.classifyAll rest).map ((argument, piece) :: ·)

/-! ## Reading options -/

/-- A use of an option, with its value if it takes one. -/
structure Use where
  parameter : Parameter
  value : Option Text

/-- The uses of options in one argument, and whether the last of them takes the argument behind as
its value. -/
structure Uses where
  uses : List Use
  takesNext : Bool

/-- The use of an option that nothing joins. -/
def useAlone (p : Parameter) (next : Option Text) : Except ArgumentFault Uses :=
  if p.takesValue then
    match next with
    | some value => .ok ⟨[⟨p, some value⟩], true⟩
    | none => .error (.noValue p)
  else .ok ⟨[⟨p, none⟩], false⟩

/-- Whether an option's name has one hyphen only. -/
def isShort (name : Text) : Bool :=
  !(['-', '-'].isPrefixOf name)

/-- The uses of options where a text joins one of them: as its value, or, if it takes none and has
one hyphen, as further options of one letter. `next` is the value behind. -/
def Grammar.useJoined (g : Grammar) (p : Parameter) (short : Bool) (next : Option Text) :
    Text → Except ArgumentFault Uses
  | [] => if p.takesValue then .ok ⟨[⟨p, some []⟩], false⟩ else .error (.surplusValue p [])
  | c :: rest =>
    if p.takesValue then .ok ⟨[⟨p, some (c :: rest)⟩], false⟩
    else
      match if short then g.find? ['-', c] else none with
      | none => .error (.surplusValue p (c :: rest))
      | some q =>
        let more := if rest.isEmpty then useAlone q next else g.useJoined q true next rest
        more.map fun more => { more with uses := ⟨p, none⟩ :: more.uses }

/-- The uses of options in one argument, where `next` is the value behind. -/
def Grammar.usesOf (g : Grammar) (found : Found) (next : Option Text) : Except ArgumentFault Uses :=
  match found.joined with
  | none => useAlone found.parameter next
  | some text => g.useJoined found.parameter (isShort found.name) next text

/-! ## Reading all -/

/-- What was read of a command line: settings in order, the input, and what was not recognised. -/
structure Arguments where
  settings : List (String × Value) := []
  input : Option Text := none
  extras : List Text := []

/-- What was read after one more setting. -/
def Arguments.set (read : Arguments) (dest : String) (value : Value) : Arguments :=
  { read with settings := read.settings ++ [(dest, value)] }

/-- What was read after one more argument that is not recognised. -/
def Arguments.leave (read : Arguments) (argument : Text) : Arguments :=
  { read with extras := read.extras ++ [argument] }

/-- The value of an option with its text. The mark after which all arguments are values leaves an
option with an empty list of them. -/
def storedValue (p : Parameter) (type : ValueType) (choices : List String) (t : Text) :
    Except ArgumentFault Value :=
  if t = ['-', '-'] then .ok (.list [])
  else
    match type.read t with
    | none => .error (.badValue p type t)
    | some value =>
      if choices.isEmpty || choices.any fun choice => choice.toList = t then .ok value
      else .error (.badChoice p choices t)

/-- What was read after the use of an option. -/
def Arguments.apply (read : Arguments) (use : Use) : Except Stop Arguments :=
  match use.parameter.action with
  | .help => .error .help
  | .version => .error .version
  | .flag value => .ok (read.set use.parameter.dest (.bool value))
  | .store type choices =>
    match storedValue use.parameter type choices (use.value.getD []) with
    | .ok value => .ok (read.set use.parameter.dest value)
    | .error fault => .error (.fault fault)

/-- What was read after some uses of options, in order. -/
def Arguments.applyAll (read : Arguments) : List Use → Except Stop Arguments
  | [] => .ok read
  | use :: uses =>
    match read.apply use with
    | .ok read => read.applyAll uses
    | .error stop => .error stop

/-- The value that comes first, if one does. -/
def firstValue : List (Text × Piece) → Option Text
  | (argument, .value) :: _ => some argument
  | _ => none

/-- What is read of some arguments after what was read before them. The mark next to the input
belongs to it. -/
def Grammar.readPieces (g : Grammar) (read : Arguments) :
    List (Text × Piece) → Except Stop Arguments
  | [] => .ok read
  | (argument, .value) :: rest =>
    if g.takesInput && read.input.isNone then
      let read := { read with input := some argument }
      match rest with
      | (_, .mark) :: rest => g.readPieces read rest
      | rest => g.readPieces read rest
    else g.readPieces (read.leave argument) rest
  | (argument, .mark) :: rest =>
    if g.takesInput && read.input.isNone then
      match rest with
      | (first, _) :: rest => g.readPieces { read with input := some first } rest
      | [] => .ok (read.leave argument)
    else g.readPieces (read.leave argument) rest
  | (argument, .unknown) :: rest => g.readPieces (read.leave argument) rest
  | (_, .option found) :: rest =>
    match g.usesOf found (firstValue rest) with
    | .error fault => .error (.fault fault)
    | .ok used =>
      match read.applyAll used.uses with
      | .error stop => .error stop
      | .ok read =>
        match rest, used.takesNext with
        | _ :: rest, true => g.readPieces read rest
        | rest, _ => g.readPieces read rest
termination_by pieces => pieces.length
decreasing_by all_goals (simp only [List.length_cons]; omega)

/-- What is read of a command line, recognised or not. -/
def Grammar.readKnown (g : Grammar) (arguments : List Text) : Except Stop Arguments :=
  match g.classifyAll arguments with
  | .error fault => .error (.fault fault)
  | .ok pieces => g.readPieces {} pieces

/-- The default value as a setting has it that no option sets: a text is read like the value of an
option, but need not be one of the choices. -/
def Parameter.readDefault (p : Parameter) : Except ArgumentFault Value :=
  match p.action, p.default with
  | .store type _, .str s =>
    match type.read s.toList with
    | some value => .ok value
    | none => .error (.badValue p type s.toList)
  | _, value => .ok value

/-- The value of a setting after what was read: that of the last option, or the default. -/
def Parameter.settled (p : Parameter) (read : Arguments) : Except ArgumentFault Value :=
  match read.settings.reverse.lookup p.dest with
  | some value => .ok value
  | none => p.readDefault

/-- The values of settings after what was read. -/
def settledAll (read : Arguments) : List Parameter → Except ArgumentFault Fields
  | [] => .ok []
  | p :: rest =>
    match p.settled read with
    | .error fault => .error fault
    | .ok value => (settledAll read rest).map ((p.dest, value) :: ·)

/-- The values of all settings after what was read. -/
def Grammar.settings (g : Grammar) (read : Arguments) : Except ArgumentFault Fields :=
  settledAll read (g.parameters.filter Parameter.isSetting)

/-- What is read of a command line, recognised or not, and the values of all settings. -/
def Grammar.readSettings (g : Grammar) (arguments : List Text) :
    Except Stop (Fields × Arguments) := do
  let read ← g.readKnown arguments
  match g.settings read with
  | .error fault => .error (.fault fault)
  | .ok settings => .ok (settings, read)

/-- The settings of a command line, all of which is recognised, and its input. -/
def Grammar.read (g : Grammar) (arguments : List Text) : Except Stop (Fields × Text) := do
  let (settings, read) ← g.readSettings arguments
  match read.input with
  | none => .error (.fault .noInput)
  | some input =>
    if read.extras.isEmpty then .ok (settings, input)
    else .error (.fault (.unrecognized read.extras))

end MarkTex.CommandLine
