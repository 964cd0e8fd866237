import Gazette.Chars.Cut
import Gazette.Number.Digits

/-!
# Arguments

What the words of a command line ask for: `Arguments.ofWords`. A word is an option with two dashes and a value
behind `=` or in the next word (`ValueOption`), a switch with two dashes or, in short, with one (`Switch`), or
the address of a page. Behind `--` all words are addresses. Nothing may be given twice but addresses.
-/

namespace Gazette

/-- The options that take a value. -/
inductive ValueOption
  /-- A file with a page. -/
  | html
  /-- The address of that page. -/
  | url
  /-- An address whose identifier is wanted. -/
  | guid
  /-- A file with options. -/
  | config
  /-- The time limit in seconds. -/
  | timeout
  /-- How many pages may wait between two stages. -/
  | capacity
deriving DecidableEq, Repr

/-- The options that stand alone. -/
inductive Switch
  /-- The known domains are wanted. -/
  | listDomains
  /-- Records are written as JSON. -/
  | json
  /-- Requests to store records are written. -/
  | createRequest
  /-- The work is reported step by step. -/
  | verbose
deriving DecidableEq, Repr

namespace ValueOption

/-- The name of an option. -/
def name : ValueOption → String
  | html => "html"
  | url => "url"
  | guid => "guid"
  | config => "config"
  | timeout => "timeout"
  | capacity => "capacity"

/-- The option of a name. -/
def ofName? (s : String) : Option ValueOption :=
  [html, url, guid, config, timeout, capacity].find? (·.name == s)

end ValueOption

namespace Switch

/-- The name of a switch. -/
def name : Switch → String
  | listDomains => "list-domains"
  | json => "json"
  | createRequest => "create-request"
  | verbose => "verbose"

/-- The switch of a name. -/
def ofName? (s : String) : Option Switch :=
  [listDomains, json, createRequest, verbose].find? (·.name == s)

end Switch

/-- Why a command line is refused. -/
inductive ArgumentFault
  /-- A word that is no known option. -/
  | unknown (word : String)
  /-- An option without a value. -/
  | valueMissing (name : String)
  /-- A switch with a value. -/
  | valueUnwanted (name value : String)
  /-- A value that is none for its option. -/
  | valueRefused (name value : String)
  /-- An option that is given twice. -/
  | repeated (name : String)
deriving DecidableEq, Repr

/-- The wording of the fault of a command line. -/
def ArgumentFault.message : ArgumentFault → String
  | unknown word => "unexpected argument '" ++ word ++ "' found"
  | valueMissing name => "a value is required for '--" ++ name ++ "' but none was supplied"
  | valueUnwanted name value =>
    "unexpected value '" ++ value ++ "' for '--" ++ name ++ "' found; no more were expected"
  | valueRefused name value => "invalid value '" ++ value ++ "' for '--" ++ name ++ "'"
  | repeated name => "the argument '--" ++ name ++ "' cannot be used multiple times"

/-- What a command line asks for. -/
structure Arguments where
  /-- The file with a page. -/
  html : Option String := none
  /-- The address of that page. -/
  url : Option String := none
  /-- The address whose identifier is wanted. -/
  guid : Option String := none
  /-- The file with options. -/
  config : Option String := none
  /-- The time limit in seconds. -/
  timeout : Option Nat := none
  /-- How many pages may wait between two stages. -/
  capacity : Option Nat := none
  /-- The switches that are set. -/
  switches : List Switch := []
  /-- Whether an account of the command line is wanted, and nothing else. -/
  help : Bool := false
  /-- The addresses of pages. -/
  urls : List String := []
deriving DecidableEq, Repr

namespace Arguments

/-- Whether a switch is set. -/
def isSet (a : Arguments) (switch : Switch) : Bool := a.switches.contains switch

/-- Whether an option is given. -/
def has (a : Arguments) : ValueOption → Bool
  | .html => a.html.isSome
  | .url => a.url.isSome
  | .guid => a.guid.isSome
  | .config => a.config.isSome
  | .timeout => a.timeout.isSome
  | .capacity => a.capacity.isSome

/-- The path that a value is. An empty one counts as none. -/
def path (option : ValueOption) (value : String) : Except ArgumentFault String :=
  if value.isEmpty then .error (.valueMissing option.name) else .ok value

/-- The number of 64 bits that a value is. It may have a plus in front. -/
def count (option : ValueOption) (value : String) : Except ArgumentFault Nat :=
  let digits := Chars.dropLead ['+'] value.toList
  let n := Number.valueIn 10 digits
  if digits.isEmpty || !digits.all Char.isDigit || Nat.pow 2 64 ≤ n then
    .error (.valueRefused option.name value)
  else .ok n

/-- The arguments `a` with a value for an option. -/
def give (a : Arguments) (option : ValueOption) (value : String) : Except ArgumentFault Arguments :=
  if a.has option then .error (.repeated option.name)
  else
    match option with
    | .html => (path option value).map fun x ↦ { a with html := some x }
    | .url => .ok { a with url := some value }
    | .guid => .ok { a with guid := some value }
    | .config => (path option value).map fun x ↦ { a with config := some x }
    | .timeout => (count option value).map fun x ↦ { a with timeout := some x }
    | .capacity => (count option value).map fun x ↦ { a with capacity := some x }

/-- The arguments `a` with a switch set. -/
def turnOn (a : Arguments) (switch : Switch) : Except ArgumentFault Arguments :=
  if a.isSet switch then .error (.repeated switch.name)
  else .ok { a with switches := a.switches ++ [switch] }

/-- The arguments `a` with some switches in their short forms set, until an account is asked for. -/
def turnOnAll (a : Arguments) : List Char → Except ArgumentFault Arguments
  | [] => .ok a
  | 'h' :: _ => .ok { a with help := true }
  | 'v' :: letters => do turnOnAll (← a.turnOn .verbose) letters
  | c :: _ => .error (.unknown (String.ofList ['-', c]))

/-- What a word of a command line is. -/
inductive Word
  /-- The mark behind which there are addresses only. -/
  | mark
  /-- A name with two dashes, and a value behind `=`. -/
  | named (name : String) (value : Option String)
  /-- Letters with one dash. -/
  | letters (letters : List Char)
  /-- Any other word; a lone dash is one. -/
  | plain

/-- What a word is. -/
def Word.of (word : String) : Word :=
  match word.toList with
  | ['-', '-'] => .mark
  | '-' :: '-' :: text =>
    match Chars.cut? ['='] text with
    | some (name, value) => .named (String.ofList name) (some (String.ofList value))
    | none => .named (String.ofList text) none
  | '-' :: c :: rest => .letters (c :: rest)
  | _ => .plain

/-- The arguments `a` with what a name without a value asks for, unless that takes one. -/
def named (a : Arguments) (name : String) : Except ArgumentFault Arguments :=
  if name = "help" then .ok { a with help := true }
  else
    match Switch.ofName? name with
    | some switch => a.turnOn switch
    | none => .error (.unknown ("--" ++ name))

/-- The arguments `a` with what a name with a value asks for. -/
def namedWith (a : Arguments) (name value : String) : Except ArgumentFault Arguments :=
  match ValueOption.ofName? name with
  | some option => a.give option value
  | none =>
    if name = "help" ∨ (Switch.ofName? name).isSome then .error (.valueUnwanted name value)
    else .error (.unknown ("--" ++ name))

/-- The arguments `a` with what some words ask for, `pending` being the option whose value comes next. Nothing
that follows the wish for an account is looked at. -/
def readFrom (a : Arguments) (pending : Option ValueOption) :
    List String → Except ArgumentFault Arguments
  | [] =>
    match pending with
    | some option => .error (.valueMissing option.name)
    | none => .ok a
  | word :: words =>
    if a.help then .ok a
    else
      match Word.of word, pending with
      | .plain, some option => do readFrom (← a.give option word) none words
      | .plain, none => readFrom { a with urls := a.urls ++ [word] } none words
      | _, some option => .error (.valueMissing option.name)
      | .mark, none => .ok { a with urls := a.urls ++ words }
      | .letters letters, none => do readFrom (← a.turnOnAll letters) none words
      | .named name (some value), none => do readFrom (← a.namedWith name value) none words
      | .named name none, none =>
        match ValueOption.ofName? name with
        | some option => readFrom a (some option) words
        | none => do readFrom (← a.named name) none words

/-- What the words of a command line ask for, by `readFrom`. -/
def ofWords (words : List String) : Except ArgumentFault Arguments := readFrom {} none words

end Arguments

end Gazette
