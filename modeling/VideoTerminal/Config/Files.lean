import VideoTerminal.Config

namespace VideoTerminal

inductive FileError where
  | missing
  | throughFile
  | isDirectory
  | nameTooLong
  | nulInName
  | notText
  deriving DecidableEq, Repr, Inhabited

def FileError.message : FileError → String
  | .missing => "No such file or directory (os error 2)"
  | .throughFile => "Not a directory (os error 20)"
  | .isDirectory => "Is a directory (os error 21)"
  | .nameTooLong => "File name too long (os error 36)"
  | .nulInName => "file name contained an unexpected NUL byte"
  | .notText => "stream did not contain valid UTF-8"

-- A place is named from the working directory, or from one so many above it.
-- The names that lead back down from there are not known.
structure Place where
  above : Nat := 0
  names : List String := []
  deriving DecidableEq, Repr, Inhabited

def Place.enter (place : Place) (name : String) : Place :=
  if name == "" || name == "." then place
  else if name != ".." then { place with names := place.names ++ [name] }
  else if place.names.isEmpty then { place with above := place.above + 1 }
  else { place with names := place.names.dropLast }

-- Files and the directories made for them. Of two files in one place the later
-- stands first.
structure Files where
  directories : List Place := []
  entries : List (Place × List UInt8) := []
  deriving Repr

namespace Files

inductive Node where
  | file (content : List UInt8)
  | directory (place : Place)
  | root
  deriving DecidableEq, Repr

def names (path : String) : List String := path.splitOn "/"

def add (f : Files) (content : List UInt8) (place : Place) : List String → Files
  | [] => f
  | [name] => { f with entries := (place.enter name, content) :: f.entries }
  | name :: rest =>
    let next := place.enter name
    add { f with directories := next :: f.directories } content next rest

def ofPaths (files : List (String × List UInt8)) : Files :=
  files.foldl (fun f (path, content) => f.add content {} (names path)) {}

def node? (f : Files) (place : Place) : Option Node :=
  match f.entries.lookup place with
  | some content => some (.file content)
  | none =>
    if place.names.isEmpty || f.directories.contains place then some (.directory place)
    else none

def step (f : Files) (node : Node) (name : String) : Except FileError Node :=
  match node with
  | .file _ => .error .throughFile
  | .directory place =>
    if 255 < name.utf8ByteSize then .error .nameTooLong
    else
      match f.node? (place.enter name) with
      | some node => .ok node
      | none => .error .missing
  | .root =>
    if 255 < name.utf8ByteSize then .error .nameTooLong
    else if name == "" || name == "." || name == ".." then .ok .root
    else .error .missing

def find (f : Files) (path : String) : Except FileError Node :=
  if path.toList.contains '\x00' then .error .nulInName
  else if path == "" then .error .missing
  else if 4096 ≤ path.utf8ByteSize then .error .nameTooLong
  else
    let start : Node := if path.startsWith "/" then .root else .directory {}
    (names path).foldlM f.step start

def read (f : Files) (path : String) : Except FileError (List UInt8) :=
  match f.find path with
  | .error error => .error error
  | .ok (.file content) =>
    if (Utf8.decode? content).isSome then .ok content else .error .notText
  | .ok _ => .error .isDirectory

end Files

inductive ConfigError where
  | unreadable (path : String) (error : FileError)
  | invalid (path : String) (fault : Json.Fault)
  deriving DecidableEq, Repr, Inhabited

namespace Config

def unreadableMessage (path : String) (error : FileError) : String :=
  "Failed to read config file " ++ path ++ ": " ++ error.message

def ofFile (env : Environment) (files : Files) (path : String) : Except ConfigError Config :=
  match files.read path with
  | .error error => .error (.unreadable path error)
  | .ok content =>
    match ofJson env content with
    | .error fault => .error (.invalid path fault)
    | .ok config => .ok config

def join (path name : String) : String :=
  if path == "" || path.endsWith "/" then path ++ name else path ++ "/" ++ name

def defaultPath? (env : Environment) : Option String :=
  match env.configPath, env.configHome, env.home with
  | some path, _, _ => some path
  | none, some directory, _ => some (join (join directory "vtt") "config.json")
  | none, none, some directory =>
    some (join (join (join directory ".config") "vtt") "config.json")
  | none, none, none => none

def load (env : Environment) (files : Files) : Except ConfigError Config :=
  match defaultPath? env with
  | none => .ok (default env)
  | some path =>
    match files.find path with
    | .error _ => .ok (default env)
    | .ok _ => ofFile env files path

end Config

end VideoTerminal
