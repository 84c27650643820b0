/-
# `Signoff.Disk` — files as the commands use them

A command reads whole files, writes whole files, and makes directories.  It is given these actions
(`Disk`), so the same command runs on real files and on a tree of files in memory (`Files`), where
what it leaves behind can be examined.
-/

namespace Signoff

/-- Why an action on a file fails. -/
inductive DiskFault where
  | notFound
  | notADirectory
  | isADirectory
  | alreadyExists
  | other (message : String)
  deriving DecidableEq, Repr

def DiskFault.message : DiskFault → String
  | notFound => "No such file or directory (os error 2)"
  | notADirectory => "Not a directory (os error 20)"
  | isADirectory => "Is a directory (os error 21)"
  | alreadyExists => "File exists (os error 17)"
  | other message => message

/-- The actions of a command on files, in some monad. -/
structure Disk (m : Type → Type) where
  /-- The text of a file. -/
  read : (path : String) → m (Except DiskFault String)
  /-- Sets the text of a file; its directory has to be there. -/
  write : (path text : String) → m (Except DiskFault Unit)
  /-- Makes a directory and those around it, where they are not there. -/
  makeDirs : (path : String) → m (Except DiskFault Unit)
  /-- Is there anything under the path? -/
  isThere : (path : String) → m Bool
  /-- The names of the directories in a directory. -/
  directories : (path : String) → m (Except DiskFault (List String))

/-! ## Paths -/

namespace PathText

def cut : List Char → List (List Char)
  | [] => [[]]
  | c :: cs =>
    if c = '/' then [] :: cut cs
    else match cut cs with
      | [] => [[c]]
      | p :: ps => (c :: p) :: ps

/-- The steps of a path, one for each name in it. -/
def steps (path : String) : List String :=
  ((cut path.toList).filter (· ≠ [])).map String.ofList

/-- Does the path start at the root of all files? -/
def isAbsolute (path : String) : Bool := path.toList.head? == some '/'

/-- Does the path end as only that of a directory may? -/
def endsOpen (path : String) : Bool := path.toList.getLast? == some '/'

/-- The letters of a path, last first, without what may follow the last name. -/
def trimBack : List Char → List Char
  | '/' :: cs => trimBack cs
  | '.' :: '/' :: cs => trimBack cs
  | cs => cs

/-- The last name of a path; empty if it has none. -/
def lastName (path : String) : String :=
  String.ofList ((trimBack path.toList.reverse).takeWhile (· != '/')).reverse

/-- The path without its last name; `none` if it has no name. -/
def parent? (path : String) : Option String :=
  match trimBack path.toList.reverse with
  | [] => none
  | cs =>
    match trimBack (cs.dropWhile (· != '/')) with
    | [] => some (if isAbsolute path then "/" else "")
    | rest => some (String.ofList rest.reverse)

/-- A name below a directory. -/
def join (directory name : String) : String :=
  if directory.isEmpty || endsOpen directory then directory ++ name
  else directory ++ "/" ++ name

end PathText

/-! ## Files in memory -/

/-- What stands under a path. -/
inductive Entry where
  | file (text : String)
  | directory
  deriving DecidableEq, Repr

/-- A tree of files: what stands under the names that lead to it from the root, which is always
there.  Paths that do not start at the root start at `here`. -/
structure Files where
  entries : List (List String × Entry) := []
  here : List String := []
  deriving DecidableEq, Repr

namespace Files

/-- What stands under the names. -/
def entry? (f : Files) (place : List String) : Option Entry :=
  if place = [] then some .directory else f.entries.lookup place

/-- Puts something under the names. -/
def put (f : Files) (place : List String) (e : Entry) : Files :=
  if (f.entries.lookup place).isSome then
    { f with entries := f.entries.map fun x => if x.1 == place then (place, e) else x }
  else { f with entries := f.entries ++ [(place, e)] }

def start (f : Files) (path : String) : List String :=
  if PathText.isAbsolute path then [] else f.here

/-- Where one step leads. -/
def step (place : List String) (name : String) : List String :=
  if name = "." then place else if name = ".." then place.dropLast else place ++ [name]

/-- Where the steps lead; every step has to start in a directory. -/
def walk (f : Files) (place : List String) : List String → Except DiskFault (List String)
  | [] => .ok place
  | name :: names =>
    match f.entry? place with
    | some .directory => f.walk (step place name) names
    | some (.file _) => .error .notADirectory
    | none => .error .notFound

/-- Where a path leads.  The empty path leads nowhere. -/
def locate (f : Files) (path : String) : Except DiskFault (List String) :=
  if path.isEmpty then .error .notFound else f.walk (f.start path) (PathText.steps path)

def find (f : Files) (path : String) : Except DiskFault (List String × Option Entry) := do
  let place ← f.locate path
  match f.entry? place with
  | some (.file text) =>
    if PathText.endsOpen path then .error .notADirectory else .ok (place, some (.file text))
  | e => .ok (place, e)

def read (f : Files) (path : String) : Except DiskFault String :=
  match f.find path with
  | .error e => .error e
  | .ok (_, some (.file text)) => .ok text
  | .ok (_, some .directory) => .error .isADirectory
  | .ok (_, none) => .error .notFound

def write (f : Files) (path text : String) : Except DiskFault Files :=
  match f.find path with
  | .error e => .error e
  | .ok (_, some .directory) => .error .isADirectory
  | .ok (place, some (.file _)) => .ok (f.put place (.file text))
  | .ok (place, none) =>
    if PathText.endsOpen path then .error .isADirectory else .ok (f.put place (.file text))

/-- The files after the directories along the steps were made. -/
def makeAlong (f : Files) (place : List String) : List String → Except DiskFault Files
  | [] => .ok f
  | name :: names =>
    let next := step place name
    match f.entry? next with
    | some .directory => f.makeAlong next names
    | none => (f.put next .directory).makeAlong next names
    | some (.file _) => .error (if names = [] then .alreadyExists else .notADirectory)

/-- The files after a directory and those around it were made.  Of a path that cannot be made
nothing is; on a real disk the directories before the obstacle stay, which is not modelled. -/
def makeDirs (f : Files) (path : String) : Except DiskFault Files :=
  f.makeAlong (f.start path) (PathText.steps path)

def isThere (f : Files) (path : String) : Bool :=
  match f.find path with
  | .ok (_, some _) => true
  | _ => false

/-- The names of the directories in a directory. -/
def directories (f : Files) (path : String) : Except DiskFault (List String) :=
  match f.find path with
  | .error e => .error e
  | .ok (place, some .directory) =>
    .ok (f.entries.filterMap fun x =>
      if x.2 = .directory ∧ x.1 ≠ [] ∧ x.1.dropLast = place then x.1.getLast? else none)
  | .ok (_, some (.file _)) => .error .notADirectory
  | .ok (_, none) => .error .notFound

/-- The files after a text was put under a path, with the directories around it. -/
def withFile (f : Files) (path text : String) : Except DiskFault Files := do
  let f ← match PathText.parent? path with
    | some directory => f.makeDirs directory
    | none => .ok f
  f.write path text

/-- A change that fails leaves the files as they are.  Files that are cut short because the disk is
full, and directories that were made before an obstacle was met, are not modelled. -/
def change (act : Files → Except DiskFault Files) : StateM Files (Except DiskFault Unit) := do
  match act (← get) with
  | .ok f =>
    set f
    return .ok ()
  | .error e => return .error e

/-- The actions on files in memory. -/
def disk : Disk (StateM Files) where
  read path := return (← get).read path
  write path text := change (·.write path text)
  makeDirs path := change (·.makeDirs path)
  isThere path := return (← get).isThere path
  directories path := return (← get).directories path

end Files

end Signoff
