import SiteProbe.Rule.Source

/-!
# File trees

A tree of folders and files, in which paths lead from a working folder to sources of rules (`FileTree.source`).
-/

namespace SiteProbe

/-- A file or a folder. -/
inductive FileTree where
  | file (content : List UInt8)
  | folder (entries : List (String × FileTree))
  deriving Inhabited

namespace FileTree

/-- Why a path leads nowhere: nothing has its name. -/
def notFound : String := "No such file or directory (os error 2)"

/-- Why a path leads nowhere: it goes on behind a file. -/
def notAFolder : String := "Not a directory (os error 20)"

/-- Why a folder cannot be read as a file is. -/
def isAFolder : String := "Is a directory (os error 21)"

/-- Why a path leads nowhere: no name is that long. -/
def tooLong : String := "File name too long (os error 36)"

/-- Where a path leads from a folder, behind which stand the folders around it. -/
def walk (here : FileTree) (outer : List FileTree) : List String → Except String FileTree
  | [] => .ok here
  | name :: rest =>
    match here with
    | .file _ => .error notAFolder
    | .folder entries =>
      if name = "" || name = "." then walk here outer rest
      else if name = ".." then
        match outer with
        | [] => walk here [] rest
        | out :: outer => walk out outer rest
      else if name.utf8ByteSize > 255 then .error tooLong
      else
        match entries.find? (·.1 = name) with
        | some (_, next) => walk next (here :: outer) rest
        | none => .error notFound

/-- The names along a path. -/
def names (path : String) : List String := (Text.pieces (· = '/') path.toList).map String.ofList

/-- What can be read of an entry of a folder. -/
def content : FileTree → FileContent
  | .file bytes => .ok bytes
  | .folder _ => .error isAFolder

/-- What stands at a path that starts in a working folder. Nothing is known of what lies outside of it. -/
def source (working : FileTree) (path : String) : Source :=
  if path = "" then .missing notFound
  else if path.toList.contains '\x00' then .missing "file name contained an unexpected NUL byte"
  else
    let start := if path.toList.head? = some '/' then .folder [] else working
    match walk start [] (names path) with
    | .error reason => .missing reason
    | .ok (.file bytes) => .file (.ok bytes)
    | .ok (.folder entries) => .folder (.ok (entries.map fun e => (e.1, e.2.content)))

/-- Put an entry in the place of the one that has its name. -/
def place (name : String) (tree : FileTree) : List (String × FileTree) → List (String × FileTree)
  | [] => [(name, tree)]
  | e :: rest => if e.1 = name then (name, tree) :: rest else e :: place name tree rest

/-- Put a tree in at a path, with the folders that lead to it. -/
def put (tree : FileTree) : List String → FileTree → FileTree
  | [], _ => tree
  | name :: rest, .folder entries =>
    .folder (place name (put tree rest (((entries.find? (·.1 = name)).map (·.2)).getD (.folder []))) entries)
  | name :: rest, .file _ => .folder [(name, put tree rest (.folder []))]

/-- The tree of files that are written one after the other; a path that ends with a slash is a folder's. -/
def ofFiles (files : List (String × List UInt8)) : FileTree :=
  files.foldl (fun tree f =>
    let path := (names f.1).filter (· ≠ "")
    if f.1.toList.getLast? = some '/' then put (.folder []) path tree else put (.file f.2) path tree) (.folder [])

end FileTree
end SiteProbe
