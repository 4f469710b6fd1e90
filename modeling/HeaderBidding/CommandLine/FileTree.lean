import HeaderBidding.Settings.Loading
import HeaderBidding.Text.Segments

/-!
# Files

Files and directories, as far as they are known. A way to a file is walked name by name, and every
name but the last has to be that of a directory.
-/

namespace HeaderBidding.CommandLine

/-- The names on the way to a file, from the directory in which the program runs. A way from the
root has the name `/` first, and one that leads out of the directory the name `..`. -/
abbrev Path := List String

namespace Path

/-- Takes a step on a way whose names are in reverse order. -/
def step (before : Path) (name : String) : Path :=
  if name = "" ∨ name = "." then before
  else if name = ".." then
    match before with
    | [] => [".."]
    | last :: rest =>
      if last = "/" then before
      else if last = ".." then ".." :: before
      else rest
  else name :: before

/-- Where the way that a text describes begins. -/
def origin (text : String) : Path :=
  if text.toList.head? = some '/' then ["/"] else []

/-- The names in a text. -/
def names (text : String) : List String :=
  (Text.segments '/' text.toList).map String.ofList

/-- The way that a text describes. -/
def ofText (text : String) : Path :=
  ((names text).foldl step (origin text)).reverse

end Path

/-- Files and directories. What is in a file may be no text. -/
structure FileTree where
  files : List (Path × Option String) := []
  directories : List Path := []

namespace FileTree

/-- Whether there is a directory. The one in which the program runs, those above it and the root are
always there. -/
def isDirectory (tree : FileTree) (path : Path) : Bool :=
  path.all (fun name => name == ".." || name == "/") ||
    tree.directories.any (path.isPrefixOf ·) ||
    tree.files.any fun file => path.isPrefixOf file.1 && path != file.1

/-- Whether there is a file. -/
def isFile (tree : FileTree) (path : Path) : Bool :=
  tree.files.any (·.1 == path)

/-- Walks the rest of a way; `before` is what has been walked, in reverse order. -/
def walk (tree : FileTree) (before : Path) : List String → Except IoError Path
  | [] => .ok before.reverse
  | name :: rest =>
    if tree.isDirectory before.reverse then walk tree (before.step name) rest
    else .error (if tree.isFile before.reverse then .notDirectory else .notFound)

/-- Reads the file at the end of a way. -/
def readAt (tree : FileTree) (path : Path) : FileRead :=
  if tree.isDirectory path then .error .isDirectory
  else
    match tree.files.lookup path with
    | some (some content) => .ok content
    | some none => .error .invalidText
    | none => .error .notFound

/-- Reads a file. -/
def read (tree : FileTree) (text : String) : FileRead :=
  if text = "" then .error .notFound
  else
    match tree.walk (Path.origin text) (Path.names text) with
    | .ok path => tree.readAt path
    | .error e => .error e

/-- The tree with one more directory. -/
def withDirectory (tree : FileTree) (path : Path) : FileTree :=
  { tree with directories := path :: tree.directories }

/-- Makes the directories on the rest of a way, unless there is a file on it. -/
def makeOnWay? (tree : FileTree) (before : Path) : List String → Option FileTree
  | [] => if tree.isFile before.reverse then none else some (tree.withDirectory before.reverse)
  | name :: rest =>
    if tree.isFile before.reverse then none
    else makeOnWay? (tree.withDirectory before.reverse) (before.step name) rest

/-- Makes a directory and those on the way to it, if no file is in the way. -/
def makeDirectory? (tree : FileTree) (text : String) : Option FileTree :=
  tree.makeOnWay? (Path.origin text) (Path.names text)

end FileTree

end HeaderBidding.CommandLine
