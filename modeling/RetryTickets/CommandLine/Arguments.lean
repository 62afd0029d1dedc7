-- Arguments: settings, then a command with its own options and names. They are
-- read from left to right, and the first thing that is wrong, or the first
-- request for help, ends the reading.
import RetryTickets.Call
import RetryTickets.Text.Numeral

namespace RetryTickets.CommandLine

/-- Why arguments name nothing to run. -/
inductive Refusal where
  /-- They are wrong. -/
  | usage
  /-- They ask for help. -/
  | help
  deriving DecidableEq

/-- The exit code of a refusal. -/
def Refusal.exitCode : Refusal → Nat
  | usage => 2
  | help => 0

/-- What the value of an option may be. -/
inductive ValueKind where
  | text
  | word64
  | word128
  deriving DecidableEq

/-- Whether a value is one of a kind. -/
def ValueKind.admits : ValueKind → String → Bool
  | text, _ => true
  | word64, value => (Text.word64? value).isSome
  | word128, value => (Text.word128? value).isSome

/-- An option that takes a value. -/
structure OptionSpec where
  long : String
  short : Option Char
  kind : ValueKind
  deriving DecidableEq

/-- What may stand at a level of the arguments. -/
structure Grammar where
  options : List OptionSpec
  /-- How many names there may be. -/
  names : Nat
  /-- Whether a command follows. -/
  hasCommand : Bool

/-- What was read of a level. The last option may still wait for its value, and a value in a
word of its own is not yet checked. -/
structure Reading where
  values : List (String × String)
  pending : Option (OptionSpec × Option String)
  names : List String
  deriving DecidableEq

/-- The command word of a level and all words behind it. -/
abbrev CommandWords := Option (String × List String)

/-- A word, by its form. -/
inductive Word where
  /-- Two dashes: all further words are names. -/
  | escape
  /-- An option by its long name, maybe with a value behind an equals sign. -/
  | long (name : String) (value : Option String)
  /-- An option by its letter, and what is behind it. -/
  | short (letter : Char) (rest : List Char)
  /-- Anything else; a single dash, too. -/
  | plain (text : String)
  deriving DecidableEq

namespace Word

/-- The form of a word. -/
def ofText (text : String) : Word :=
  match text.toList with
  | ['-', '-'] => escape
  | '-' :: '-' :: rest =>
    let name := String.ofList (rest.takeWhile (· ≠ '='))
    match rest.dropWhile (· ≠ '=') with
    | [] => long name none
    | _ :: value => long name (some (String.ofList value))
  | '-' :: letter :: rest => short letter rest
  | _ => plain text

end Word

namespace Reading

/-- Nothing read. -/
def start : Reading := ⟨[], none, []⟩

/-- Takes the value of an option, which must not have one. -/
def accept (option : OptionSpec) (value : String) (reading : Reading) : Except Refusal Reading :=
  if (reading.values.lookup option.long).isSome || ! option.kind.admits value then .error .usage
  else .ok { reading with values := reading.values ++ [(option.long, value)] }

/-- Checks the value of the last option. -/
def settle (reading : Reading) : Except Refusal Reading :=
  match reading.pending with
  | none => .ok reading
  | some (_, none) => .error .usage
  | some (option, some value) => { reading with pending := none }.accept option value

/-- Takes an option, whose value is there or still to come. -/
def takeOption (option : Option OptionSpec) (value : Option String) (reading : Reading) :
    Except Refusal Reading :=
  match option with
  | none => .error .usage
  | some option => do
    let reading ← reading.settle
    match value with
    | some value => reading.accept option value
    | none => return { reading with pending := some (option, none) }

/-- A request for help, once all before it is right. -/
def help (reading : Reading) : Except Refusal Reading := do
  let _ ← reading.settle
  throw .help

/-- Takes a name, if there may be one more. -/
def takeName (grammar : Grammar) (name : String) (reading : Reading) : Except Refusal Reading := do
  let reading ← reading.settle
  if reading.names.length < grammar.names then
    return { reading with names := reading.names ++ [name] }
  else
    throw .usage

/-- The value behind a letter, with or without an equals sign. -/
def valueBehind : List Char → Option String
  | [] => none
  | '=' :: value => some (String.ofList value)
  | value => some (String.ofList value)

/-- Takes an option word. -/
def takeFlag (grammar : Grammar) : Word → Reading → Except Refusal Reading
  | .long "help" none, reading => reading.help
  | .long name value, reading =>
    reading.takeOption (grammar.options.find? (·.long = name)) value
  | .short 'h' _, reading => reading.help
  | .short letter rest, reading =>
    reading.takeOption (grammar.options.find? (·.short = some letter)) (valueBehind rest)
  | .escape, reading => .ok reading
  | .plain _, reading => .ok reading

/-- Reads a level up to its command, if it has one, or to its end. -/
def words (grammar : Grammar) : List String → Reading → Except Refusal (Reading × CommandWords)
  | [], reading => .ok (reading, none)
  | word :: rest, reading =>
    match Word.ofText word with
    | .escape => do
      let reading ← rest.foldlM (fun reading name => reading.takeName grammar name) reading
      return (reading, none)
    | .plain text =>
      match reading.pending with
      | some (option, none) =>
        words grammar rest { reading with pending := some (option, some text) }
      | _ =>
        if grammar.hasCommand then .ok (reading, some (text, rest))
        else do words grammar rest (← reading.takeName grammar text)
    | flag => do words grammar rest (← reading.takeFlag grammar flag)

/-- The value of an option. -/
def value? (reading : Reading) (long : String) : Option String := reading.values.lookup long

/-- The value of an option that must be there. -/
def required (reading : Reading) (long : String) : Except Refusal String :=
  match reading.value? long with
  | some value => .ok value
  | none => .error .usage

/-- The name that must be there. -/
def name (reading : Reading) : Except Refusal String :=
  match reading.names with
  | name :: _ => .ok name
  | [] => .error .usage

end Reading

/-- The commands that make a call on a ticket. -/
inductive TicketCommand where
  | cancel
  | keepalive
  | redeem
  | beneficiary
  | timeout
  deriving DecidableEq

/-- The call of a command on a ticket. -/
def TicketCommand.call : TicketCommand → TicketId → Call
  | cancel, id => .cancel id
  | keepalive, id => .keepalive id
  | redeem, id => .redeem id
  | beneficiary, id => .getBeneficiary id
  | timeout, id => .getTimeout id

/-- A command with its values as they were written. -/
inductive Command where
  | init
  | create (beneficiary target : String) (value : BitVec 128) (calldata : String)
      (id : Option String)
  | onTicket (command : TicketCommand) (id : String)
  | complete (id : String)
  | lifetime
  | events (ticket : Option String)
  deriving DecidableEq

/-- All that the arguments say. -/
structure Invocation where
  format : Option String
  dataDirectory : Option String
  gas : Option UInt64
  now : Option UInt64
  caller : Option String
  command : Command
  deriving DecidableEq

/-- The settings before the command. -/
def settings : Grammar := {
  options := [
    ⟨"format", some 'f', .text⟩, ⟨"data-dir", some 'd', .text⟩, ⟨"gas", some 'g', .word64⟩,
    ⟨"now", none, .word64⟩, ⟨"caller", some 'c', .text⟩]
  names := 0
  hasCommand := true }

/-- A command with so many names and these options. -/
def plainCommand (names : Nat) (options : List OptionSpec) : Grammar := ⟨options, names, false⟩

/-- The options that describe a new ticket. -/
def createOptions : List OptionSpec := [
  ⟨"beneficiary", none, .text⟩, ⟨"to", none, .text⟩, ⟨"value", none, .word128⟩,
  ⟨"calldata", none, .text⟩, ⟨"id", none, .text⟩]

/-- The command that only prints help on others. -/
def helpWord : String := "help"

/-- What may follow each command word, and what the command is then. -/
def commands : List (String × Grammar × (Reading → Except Refusal Command)) :=
  let onTicket := fun command (reading : Reading) =>
    reading.name.map fun id => Command.onTicket command id
  [("init", plainCommand 0 [], fun _ => .ok .init),
   ("create", plainCommand 0 createOptions, fun reading => do
      let value := (reading.value? "value").bind Text.word128?
      return .create (← reading.required "beneficiary") (← reading.required "to")
        (value.getD 0) ((reading.value? "calldata").getD "") (reading.value? "id")),
   ("cancel", plainCommand 1 [], onTicket .cancel),
   ("keepalive", plainCommand 1 [], onTicket .keepalive),
   ("redeem", plainCommand 1 [], onTicket .redeem),
   ("complete", plainCommand 1 [], fun reading => reading.name.map .complete),
   ("beneficiary", plainCommand 1 [], onTicket .beneficiary),
   ("timeout", plainCommand 1 [], onTicket .timeout),
   ("lifetime", plainCommand 0 [], fun _ => .ok .lifetime),
   ("events", plainCommand 0 [⟨"ticket", none, .text⟩], fun reading =>
      .ok (.events (reading.value? "ticket")))]

/-- Reads the words of a command. -/
def readCommand (word : String) (rest : List String) : Except Refusal Command :=
  match commands.lookup word with
  | none => .error .usage
  | some (grammar, build) => do
    let (reading, _) ← Reading.words grammar rest .start
    build (← reading.settle)

/-- Help can be asked for as a whole, or on one command. -/
def readHelp : List String → Refusal
  | [] => .help
  | [word] => if word = helpWord || (commands.lookup word).isSome then .help else .usage
  | _ => .usage

/-- Reads all arguments. -/
def parse (arguments : List String) : Except Refusal Invocation := do
  let (reading, command) ← Reading.words settings arguments .start
  match command with
  | none => throw .usage
  | some (word, rest) =>
    if word = helpWord then throw (readHelp rest)
    let command ← readCommand word rest
    let reading ← reading.settle
    return {
      format := reading.value? "format"
      dataDirectory := reading.value? "data-dir"
      gas := (reading.value? "gas").bind Text.word64?
      now := (reading.value? "now").bind Text.word64?
      caller := reading.value? "caller"
      command := command }

end RetryTickets.CommandLine
