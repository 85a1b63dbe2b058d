import TopicRouting.Number.Written

/-! The arguments of a command line: options for the whole program, a command, and options and
words for the command. Two dashes alone end the options. -/
namespace TopicRouting.CommandLine

inductive Format where
  | pretty
  | json
  deriving DecidableEq, Repr

def Format.all : List Format := [pretty, json]

def Format.name : Format → Text
  | pretty => "pretty"
  | json => "json"

def Format.ofName? (name : Text) : Option Format := all.find? fun f => f.name == name

inductive Command where
  | showTopic
  | matchTopic
  | buildTopic
  deriving DecidableEq, Repr

def Command.all : List Command := [showTopic, matchTopic, buildTopic]

def Command.name : Command → Text
  | showTopic => "topic"
  | matchTopic => "match"
  | buildTopic => "build"

def Command.ofName? (name : Text) : Option Command := all.find? fun c => c.name == name

inductive Flag where
  | help
  | format
  deriving DecidableEq, Repr

def Flag.longName : Flag → Text
  | help => "--help"
  | format => "--format"

inductive Item where
  | word
  | endOfOptions
  | unknown
  | option (flag : Flag) (value : Option Text)
  | short (more : Text)
  | ambiguous
  deriving DecidableEq, Repr

namespace Item

def cutValue (argument : Text) : Text × Option Text :=
  match Text.cut '=' argument with
  | some (name, value) => (name, some value)
  | none => (argument, none)

def isDigit (c : Char) : Bool := (Number.digit? c).isSome

def isNegativeNumber (argument : Text) : Bool :=
  let hasDigits (digits : Text) : Bool := !digits.isEmpty && digits.all isDigit
  match argument with
  | '-' :: rest =>
      let number := if rest.getLast? = some '\n' then rest.dropLast else rest
      match Text.cut '.' number with
      | some (whole, fraction) => whole.all isDigit && hasDigits fraction
      | none => hasDigits number
  | _ => false

def other (argument : Text) : Item :=
  if isNegativeNumber argument || argument.contains ' ' then word else unknown

def ofArgument (flags : List Flag) (argument : Text) : Item :=
  match argument with
  | ['-', '-'] => endOfOptions
  | '-' :: '-' :: _ =>
      let (name, value) := cutValue argument
      match flags.filter fun f => f.longName == argument with
      | [flag] => option flag none
      | _ =>
          match flags.filter fun f => name.isPrefixOf f.longName with
          | [flag] => option flag value
          | [] => other argument
          | _ => ambiguous
  | ['-'] => word
  | ['-', 'h'] => option .help none
  | ['-', 'h', '='] => option .help (some [])
  | '-' :: 'h' :: '=' :: more => short more
  | '-' :: 'h' :: more => short more
  | '-' :: _ => other argument
  | _ => word

def ofArguments (flags : List Flag) : List Text → List (Item × Text)
  | [] => []
  | argument :: rest =>
      match ofArgument flags argument with
      | endOfOptions => (endOfOptions, argument) :: rest.map (word, ·)
      | item => (item, argument) :: ofArguments flags rest

end Item

def staysHelp (more : Text) : Bool := more.all (· = 'h')

structure Invocation where
  format : Format
  command : Command
  pattern : Text
  words : List Text
  deriving DecidableEq, Repr

inductive Request where
  | run (invocation : Invocation)
  | help (command : Option Command)
  | noCommand
  | invalid
  deriving DecidableEq, Repr

/-- What the options say: the first that asks for help decides, and one that is not known or
not rightly used is an error. -/
def optionRequest (command : Option Command) : List Item → Option Request
  | [] => none
  | .option .help none :: _ => some (.help command)
  | .option .help (some _) :: _ => some .invalid
  | .short more :: _ => some (if staysHelp more then .help command else .invalid)
  | .unknown :: rest =>
      match optionRequest command rest with
      | some request => some request
      | none => some .invalid
  | _ :: rest => optionRequest command rest

def isMark (entry : Item × Text) : Bool := entry.1 = .endOfOptions

def cutWord (items : List (Item × Text)) : List Text × List (Item × Text) :=
  let before := items.takeWhile isMark
  match items.drop before.length with
  | [] => ([], items)
  | word :: rest =>
      let after := rest.takeWhile isMark
      ((before ++ word :: after).map (·.2), rest.drop after.length)

def withoutMark (group : List Text) : List Text := group.erase ['-', '-']

def groups : Nat → List (Item × Text) → List (List Text)
  | 0, rest => [rest.map (·.2)]
  | count + 1, items =>
      let (group, rest) := cutWord items
      group :: groups count rest

def Command.needs : Command → Nat
  | showTopic => 1
  | matchTopic => 2
  | buildTopic => 1

def Command.takesMore : Command → Bool
  | buildTopic => true
  | _ => false

def readWords (format : Format) (command : Command) (items : List (Item × Text)) : Request :=
  let count := (items.filter fun entry => entry.1 = .word).length
  if count < command.needs || (command.needs < count && !command.takesMore) then .invalid
  else
    match groups command.needs items with
    | first :: rest =>
        match withoutMark first with
        | [pattern] => .run ⟨format, command, pattern, rest.flatMap withoutMark⟩
        | _ => .invalid
    | [] => .invalid

def readCommand (format : Format) (command : Command) (arguments : List Text) : Request :=
  let items := Item.ofArguments [.help] arguments
  (optionRequest (some command) (items.map (·.1))).getD (readWords format command items)

def readProgram (format : Format) (hasUnknown : Bool) : List (Item × Text) → Request
  | [] => if hasUnknown then .invalid else .noCommand
  | (.word, name) :: rest =>
      match Command.ofName? name with
      | none => .invalid
      | some command =>
          match readCommand format command (rest.map (·.2)) with
          | .help command => .help command
          | request => if hasUnknown then .invalid else request
  | (.option .help none, _) :: _ => .help none
  | (.option .help (some _), _) :: _ => .invalid
  | (.short more, _) :: _ => if staysHelp more then .help none else .invalid
  | (.option .format (some name), _) :: rest | (.option .format none, _) :: (.word, name) :: rest =>
      -- The mark at the end of the options is no name, which is as good as the usual format.
      match if name = ['-', '-'] then some .pretty else Format.ofName? name with
      | some format => readProgram format hasUnknown rest
      | none => .invalid
  | (.unknown, _) :: rest => readProgram format true rest
  | _ => .invalid

def Request.read (arguments : List Text) : Request :=
  let items := Item.ofArguments [.help, .format] arguments
  if items.any fun entry => entry.1 = .ambiguous then .invalid
  else readProgram .pretty false items

end TopicRouting.CommandLine
