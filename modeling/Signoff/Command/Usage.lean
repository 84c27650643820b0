/-
# `Signoff.Command.Usage` — the options of a command and how they are given

A command has options; an option may take a value and may have to be given.  Options are read from
the words of a command line up to the first word that is no option (`Usage.read`).  A long option is
given as `--name value` or `--name=value`, a short one as `-n value`, `-nvalue` or `-n=value`, and
short options without a value may share one dash.  No option is given twice.
-/

namespace Signoff.Command

/-- An option of a command. -/
structure OptionSpec where
  name : String
  short : Option Char := none
  /-- What its value is called; `none` if it takes none. -/
  value : Option String := none
  required : Bool := false
  fallback : Option String := none
  about : String
  deriving DecidableEq, Repr

/-- The options that were given, with their values; the value of an option without one is empty. -/
abbrev Given := List (String × String)

/-- Why reading a command line ends early. -/
inductive Interruption where
  /-- The help of the command is asked for. -/
  | help
  /-- The version is asked for. -/
  | version
  /-- The words cannot be understood. -/
  | misuse (message : String)
  deriving DecidableEq, Repr

namespace OptionSpec

def helpName : String := "help"

def versionName : String := "version"

def help : OptionSpec := { name := helpName, short := some 'h', about := "Print help" }

def version : OptionSpec := { name := versionName, short := some 'V', about := "Print version" }

/-- The option as it is shown in messages. -/
def display (o : OptionSpec) : String :=
  "--" ++ o.name ++ (match o.value with | some v => " <" ++ v ++ ">" | none => "")

end OptionSpec

namespace Usage

/-! ## Reading -/

def long? (os : List OptionSpec) (name : String) : Option OptionSpec := os.find? (·.name == name)

def short? (os : List OptionSpec) (c : Char) : Option OptionSpec := os.find? (·.short == some c)

/-- A word that is no option of the command. -/
def unexpected (word : String) : Interruption :=
  .misuse ("unexpected argument '" ++ word ++ "' found")

/-- The options after one more was given. -/
def give (o : OptionSpec) (value : String) (given : Given) : Except Interruption Given :=
  if o.name == OptionSpec.helpName then .error .help
  else if o.name == OptionSpec.versionName then .error .version
  else if (given.lookup o.name).isSome then
    .error (.misuse ("the argument '" ++ o.display ++ "' cannot be used multiple times"))
  else .ok (given ++ [(o.name, value)])

/-- What a word makes of the options: it may leave an option waiting for its value. -/
structure Progress where
  given : Given
  waiting : Option OptionSpec := none

/-- A long option; its value may be part of the word. -/
def readLong (os : List OptionSpec) (given : Given) (word : List Char) :
    Except Interruption Progress :=
  let name := String.ofList (word.takeWhile (· != '='))
  let attached := (word.dropWhile (· != '=')).tail?
  match long? os name with
  | none => .error (unexpected ("--" ++ name))
  | some o =>
    match o.value, attached with
    | none, none => (give o "" given).map fun g => ⟨g, none⟩
    | none, some v =>
      .error (.misuse ("unexpected value '" ++ String.ofList v ++ "' for '" ++ o.display ++
        "' found; no more were expected"))
    | some _, some v => (give o (String.ofList v) given).map fun g => ⟨g, none⟩
    | some _, none => .ok ⟨given, some o⟩

/-- The value that follows a short option in its word. -/
def attachedValue : List Char → Option (List Char)
  | [] => none
  | '=' :: cs => some cs
  | cs => some cs

/-- Short options that share one dash; the first that takes a value takes the rest of the word. -/
def readShort (os : List OptionSpec) (given : Given) : List Char → Except Interruption Progress
  | [] => .ok ⟨given, none⟩
  | c :: cs =>
    match short? os c with
    | none => .error (unexpected ("-" ++ String.singleton c))
    | some o =>
      match o.value, attachedValue cs with
      | none, _ => (give o "" given).bind fun g => readShort os g cs
      | some _, some v => (give o (String.ofList v) given).map fun g => ⟨g, none⟩
      | some _, none => .ok ⟨given, some o⟩

/-- Is the word an option, or the end of the options? -/
def isOptionWord (word : List Char) : Bool := word.head? == some '-' && word != ['-']

/-- Nothing may follow the end of the options. -/
def afterEnd (given : Given) : List String → Except Interruption (Given × List String)
  | [] => .ok (given, [])
  | word :: _ => .error (unexpected word)

/-- Reads options up to the first word that is none, while one may be waiting for its value. -/
def readFrom (os : List OptionSpec) : Progress → List String →
    Except Interruption (Given × List String)
  | ⟨given, none⟩, [] => .ok (given, [])
  | ⟨given, none⟩, word :: words =>
    match word.toList with
    | ['-', '-'] => afterEnd given words
    | '-' :: '-' :: cs => (readLong os given cs).bind fun p => readFrom os p words
    | '-' :: c :: cs => (readShort os given (c :: cs)).bind fun p => readFrom os p words
    | _ => .ok (given, word :: words)
  | ⟨_, some o⟩, [] => missingValue o
  | ⟨given, some o⟩, word :: words =>
    if isOptionWord word.toList then missingValue o
    else (give o word given).bind fun g => readFrom os ⟨g, none⟩ words
where
  /-- An option without the value it takes. -/
  missingValue (o : OptionSpec) : Except Interruption (Given × List String) :=
    .error (.misuse ("a value is required for '" ++ o.display ++ "' but none was supplied"))

/-- Reads options up to the first word that is none; gives the words from there on. -/
def read (os : List OptionSpec) (words : List String) : Except Interruption (Given × List String) :=
  readFrom os ⟨[], none⟩ words

/-- Everything that has to be given is. -/
def complete (os : List OptionSpec) (given : Given) : Except Interruption Unit :=
  match os.filter fun o => o.required && (given.lookup o.name).isNone with
  | [] => .ok ()
  | missing =>
    .error (.misuse ("the following required arguments were not provided:" ++
      String.join (missing.map fun o => "\n  " ++ o.display)))

/-- The options of a command line that has nothing else. -/
def readAll (os : List OptionSpec) (words : List String) : Except Interruption Given := do
  match ← read os words with
  | (given, []) =>
    complete os given
    return given
  | (_, word :: _) => .error (unexpected word)

/-! ## Help -/

def pad (width : Nat) (s : String) : String :=
  s ++ String.ofList (List.replicate (width - s.length) ' ')

/-- A table with two columns. -/
def columns (rows : List (String × String)) : List String :=
  let width := rows.foldl (fun w r => max w r.1.length) 0
  rows.map fun r => "  " ++ pad width r.1 ++ "  " ++ r.2

def row (o : OptionSpec) : String × String :=
  ((match o.short with | some c => "-" ++ String.singleton c ++ ", " | none => "    ") ++ o.display,
   o.about ++ (match o.fallback with | some d => " [default: " ++ d ++ "]" | none => ""))

def optionRows (os : List OptionSpec) : List String := columns (os.map row)

end Usage

end Signoff.Command
