/-! The command line: which command is asked for, with its options and files. -/

namespace DriverHub.Command

inductive Subcommand where
  | checkConfig | validate | inventory
deriving DecidableEq

def Subcommand.ofName? : String → Option Subcommand
  | "check-config" => some checkConfig
  | "validate" => some validate
  | "inventory" => some inventory
  | _ => none

/-- Options; each takes a path. -/
inductive OptionName where
  | config | schema | value | store
deriving DecidableEq

def OptionName.long : OptionName → String
  | config => "config"
  | schema => "schema"
  | value => "value"
  | store => "store"

/-- The options that may be given before a subcommand, or after it. -/
def optionsOf : Option Subcommand → List OptionName
  | none => [.config]
  | some .checkConfig => [.config]
  | some .validate => [.config, .schema, .value]
  | some .inventory => [.config, .store]

/-- What a single argument is. -/
inductive Spelling where
  | word
  /-- An option with its value. -/
  | complete (name : OptionName) (value : String)
  /-- An option whose value is the next argument. -/
  | started (name : OptionName)
  | help
  /-- Two dashes: all further arguments are words. -/
  | dashes
  | unknown

def longSpelling (allowed : List OptionName) (body : List Char) : Spelling :=
  let name := String.ofList (body.takeWhile (· ≠ '='))
  match allowed.find? (·.long = name), body.dropWhile (· ≠ '=') with
  | some option, [] => .started option
  | some option, _ :: value => .complete option (String.ofList value)
  | none, [] => if name = "help" then .help else .unknown
  | none, _ => .unknown

def spelling (allowed : List OptionName) (arg : String) : Spelling :=
  match arg.toList with
  | ['-', '-'] => .dashes
  | '-' :: '-' :: body => longSpelling allowed body
  | ['-', 'c'] => .started .config
  | '-' :: 'c' :: '=' :: value => .complete .config (String.ofList value)
  | '-' :: 'c' :: value => .complete .config (String.ofList value)
  | '-' :: 'h' :: _ => .help
  | '-' :: _ :: _ => .unknown
  | _ => .word

/-- Whether an argument can be the value of an option. -/
def isValue (arg : String) : Bool :=
  match arg.toList with
  | [] => false
  | '-' :: _ :: _ => false
  | _ => true

inductive Item where
  | subcommand (name : Subcommand)
  | option (name : OptionName) (value : String)
  | word (text : String)
  | help

/-- The items of a command line, as far as they make sense; `sub` is the subcommand already seen. A
call for help ends the line. -/
def items (sub : Option Subcommand) : List String → Option (List Item)
  | [] => some []
  | arg :: rest =>
    match spelling (optionsOf sub) arg with
    | .word =>
      match sub, Subcommand.ofName? arg with
      | some _, _ => (items sub rest).map (.word arg :: ·)
      | none, some found => (items (some found) rest).map (.subcommand found :: ·)
      | none, none => if arg = "help" then some [.help] else none
    | .complete name value =>
      if value = "" then none else (items sub rest).map (.option name value :: ·)
    | .started name =>
      match rest with
      | value :: rest => if isValue value then (items sub rest).map (.option name value :: ·) else none
      | [] => none
    | .help => some [.help]
    | .dashes => if sub.isSome then some (rest.map .word) else none
    | .unknown => none

inductive Task where
  | checkConfig (files : List String)
  | validate (schema value : String)
  | inventory (store : Option String)

structure CommandLine where
  /-- The configuration files of the daemon. -/
  config : List String
  task : Task

inductive Request where
  | help
  | run (line : CommandLine)

def valuesOf (name : OptionName) (items : List Item) : List String :=
  items.filterMap fun
    | .option n value => if n = name then some value else none
    | _ => none

def wordsOf (items : List Item) : List String :=
  items.filterMap fun
    | .word text => some text
    | _ => none

/-- The task of a subcommand with the items after it. -/
def task? (sub : Subcommand) (items : List Item) : Option Task :=
  match sub, wordsOf items, valuesOf .schema items, valuesOf .value items, valuesOf .store items with
  | .checkConfig, [], _, _, _ => none
  | .checkConfig, files, _, _, _ => if files.all (· ≠ "") then some (.checkConfig files) else none
  | .validate, [], [schema], [value], _ => some (.validate schema value)
  | .inventory, [], _, _, [] => some (.inventory none)
  | .inventory, [], _, _, [store] => some (.inventory (some store))
  | _, _, _, _, _ => none

/-- What items ask for; `config` holds the configuration files named before the subcommand, which give
way to those named after it. -/
def request? (config : List String) : List Item → Option Request
  | [] => none
  | .option _ value :: rest => request? (config ++ [value]) rest
  | .subcommand sub :: rest =>
    if rest.any (· matches .help) then some .help
    else do
      let own := valuesOf .config rest
      return .run { config := if own.isEmpty then config else own, task := ← task? sub rest }
  | .help :: _ => some .help
  | .word _ :: _ => none

/-- What a command line asks for, if it is a right one. -/
def Request.ofArguments? (args : List String) : Option Request :=
  (items none args).bind (request? [])

end DriverHub.Command
