import NodeConsole.Text.Utf8
/-!
The files that a run can read: a working directory with everything below it. A path is walked name
by name from there; what lies outside is there only if it is listed under the very path.
-/

namespace NodeConsole

inductive Files.Entry where
  | file (content : List UInt8)
  | directory
deriving DecidableEq, Repr

/-- The entries below the working directory, by their paths. The directories on the way to an entry
need no entries of their own. -/
abbrev Files :=
  List (String × Files.Entry)

namespace Files

inductive Error where
  | notFound
  | notDirectory
  | isDirectory
  | nameTooLong
  | nulInName
  | notText
deriving DecidableEq, Repr

def Error.message : Error → String
  | .notFound => "No such file or directory (os error 2)"
  | .notDirectory => "Not a directory (os error 20)"
  | .isDirectory => "Is a directory (os error 21)"
  | .nameTooLong => "File name too long (os error 36)"
  | .nulInName => "file name contained an unexpected NUL byte"
  | .notText => "stream did not contain valid UTF-8"

def namesOf (path : String) : List (List Char) :=
  path.toList.foldr
    (fun c names =>
      match names with
      | [] => [[c]]
      | name :: rest => if c = '/' then [] :: name :: rest else (c :: name) :: rest)
    [[]]

def entryAt? (files : Files) (place : List (List Char)) : Option Entry :=
  match files.find? fun entry => namesOf entry.1 == place with
  | some (_, entry) => some entry
  | none =>
    if place.isEmpty || files.any fun entry => place.isPrefixOf (namesOf entry.1) then some .directory
    else none

def walk (files : Files) (place : List (List Char)) : List (List Char) → Except Error Entry
  | [] =>
    match files.entryAt? place with
    | some entry => .ok entry
    | none => .error .notFound
  | name :: rest =>
    match files.entryAt? place with
    | none => .error .notFound
    | some (.file _) => .error .notDirectory
    | some .directory =>
      if name = [] ∨ name = ['.'] then walk files place rest
      else if name = ['.', '.'] then
        if place = [] then .error (if rest.all (· == []) then .isDirectory else .notFound)
        else walk files place.dropLast rest
      else if 255 < (Utf8.encode name).length then .error .nameTooLong
      else walk files (place ++ [name]) rest

def listed? (files : Files) (path : String) : Option Entry :=
  (files.find? fun entry => entry.1 = path).map (·.2)

/-- The entry at a path. Places outside of the working directory are known only where they are
listed. -/
def locate (files : Files) (path : String) : Except Error Entry :=
  let found :=
    if path.toList.head? = some '/' then
      .error (if path.toList.all (· == '/') then .isDirectory else .notFound)
    else files.walk [] (namesOf path)
  match found, files.listed? path with
  | .error _, some entry => .ok entry
  | found, _ => found

def read (files : Files) (path : String) : Except Error (List UInt8) :=
  if path.toList.contains '\x00' then .error .nulInName
  else if path.toList = [] then .error .notFound
  else if 4096 ≤ (Utf8.bytes path).length then .error .nameTooLong
  else
    match files.locate path with
    | .error error => .error error
    | .ok .directory => .error .isDirectory
    | .ok (.file content) => .ok content

def readText (files : Files) (path : String) : Except Error String :=
  match files.read path with
  | .error error => .error error
  | .ok content =>
    match Utf8.decode? content with
    | none => .error .notText
    | some chars => .ok (String.ofList chars)

example : (readText [("a", .file [0x78]), ("d/b", .file [])] "./d/../a").toOption = some "x" := by
  decide +kernel

end Files

end NodeConsole
