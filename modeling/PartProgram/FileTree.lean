namespace PartProgram

/-- Files, as the tool sees them. -/
structure FileSystem (m : Type → Type) where
  read : String → m (Option (List UInt8))
  /-- The path of the user's own settings, and their content if it can be read; nothing if there is
  no such file. -/
  userSettings : m (Option (String × Option (List UInt8)))

/-- Files by the steps of their paths. The directories are those on the way to some file. -/
structure FileTree where
  files : List (List String × List UInt8) := []
deriving Repr

namespace FileTree

/-- Steps that are empty or a dot lead nowhere. -/
def isStep (step : String) : Bool :=
  step != "" && step != "."

def ofList (files : List (String × List UInt8)) : FileTree :=
  ⟨files.map fun (path, bytes) => ((path.splitOn "/").filter isStep, bytes)⟩

def isDirectory (t : FileTree) (path : List String) : Bool :=
  path.isEmpty || t.files.any fun (file, _) => path.isPrefixOf file && path != file

/-- Where the steps lead from a place in the tree. Each step starts from a directory. -/
def walk? (t : FileTree) (place : List String) : List String → Option (List String)
  | [] => some place
  | step :: rest =>
    if !t.isDirectory place then none
    else if step = ".." then if place.isEmpty then none else t.walk? place.dropLast rest
    else t.walk? (if isStep step then place ++ [step] else place) rest

/-- The content of a file by its path from the top of the tree. -/
def read? (t : FileTree) (path : String) : Option (List UInt8) :=
  if path.isEmpty || path.startsWith "/" then none
  else (t.walk? [] (path.splitOn "/")).bind fun place => t.files.lookup place

/-- The tree as a file system, with the place of the user's settings in it and the path by which
they are shown. -/
def fileSystem (t : FileTree) (place shown : String) : FileSystem Id where
  read path := pure (t.read? path)
  userSettings := pure ((t.read? place).map fun bytes => (shown, some bytes))

end FileTree

end PartProgram
