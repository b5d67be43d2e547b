import JsxTemplate.Text.Basic

/-
  Files by their paths, and what reading and writing them does. A path leads from the root; a name
  is looked up from there if it begins with a slash, and else from a working directory.
-/

namespace JsxTemplate

/-- Why a file cannot be read or written. -/
inductive FileFault where
  | missing
  | notDirectory
  | isDirectory
  | notText
  | other (message : Text)
  deriving DecidableEq, Repr

def FileFault.message : FileFault → Text
  | missing => "No such file or directory (os error 2)".toList
  | notDirectory => "Not a directory (os error 20)".toList
  | isDirectory => "Is a directory (os error 21)".toList
  | notText => "stream did not contain valid UTF-8".toList
  | other message => message

inductive Entry where
  | text (content : Text)
  | bytes (content : List UInt8)
  | directory
  deriving DecidableEq, Repr

def Entry.read : Entry → Except FileFault Text
  | .text content => .ok content
  | .bytes content =>
    match String.fromUTF8? ⟨content.toArray⟩ with
    | some decoded => .ok decoded.toList
    | none => .error .notText
  | .directory => .error .isDirectory

/-- Cuts a text at its slashes. -/
def pathNames : Text → List Text
  | [] => [[]]
  | c :: rest =>
    match pathNames rest with
    | [] => [[c]]
    | name :: names => if c == '/' then [] :: name :: names else (c :: name) :: names

/-- The names on the way from the root to an entry. -/
abbrev Path := List Text

/-- Entries by their paths, none of them a link, and the path of the working directory. A directory
that holds something or that the working directory lies in need not be listed. -/
structure FileTree where
  entries : List (Path × Entry)
  working : Path
  deriving DecidableEq, Repr

namespace FileTree

/-- The files of a working directory, and nothing else. Its name is empty, so that no absolute path
leads there. -/
def ofFiles (files : List (Text × Entry)) : FileTree where
  entries := files.map fun (name, entry) => ([] :: (pathNames name).filter (!·.isEmpty), entry)
  working := [[]]

def find? (tree : FileTree) (path : Path) : Option Entry :=
  match tree.entries.lookup path with
  | some entry => some entry
  | none =>
    if path.isPrefixOf tree.working || tree.entries.any fun (other, _) => path.isPrefixOf other then
      some .directory
    else none

/-- Follows names from a path. Whatever a name is looked up in has to be a directory; above the
root is the root itself. -/
def follow (tree : FileTree) (path : Path) : List Text → Except FileFault Path
  | [] => .ok path
  | name :: names =>
    match tree.find? path with
    | none => .error .missing
    | some .directory =>
      if name == [] || name == ['.'] then tree.follow path names
      else if name == ['.', '.'] then tree.follow path.dropLast names
      else tree.follow (path ++ [name]) names
    | some _ => .error .notDirectory

/-- Where a name is looked up from. -/
def base (tree : FileTree) (name : Text) : Path :=
  if name.head? == some '/' then [] else tree.working

/-- The path that a name stands for. -/
def resolve (tree : FileTree) (name : Text) : Except FileFault Path :=
  if name.isEmpty then .error .missing else tree.follow (tree.base name) (pathNames name)

/-- The text of a file. -/
def read (tree : FileTree) (name : Text) : Except FileFault Text := do
  let path ← tree.resolve name
  match tree.find? path with
  | none => .error .missing
  | some entry => entry.read

/-- The tree with one entry replaced, or with a new one. -/
def overwrite (tree : FileTree) (path : Path) (entry : Entry) : FileTree :=
  { tree with entries := (path, entry) :: tree.entries.filter (·.1 != path) }

/-- The tree with a file's text replaced, or with a new file. A name that ends in a slash can
only be that of a directory. -/
def write (tree : FileTree) (name text : Text) : Except FileFault FileTree :=
  if name.isEmpty then .error .missing
  else do
    let names := (pathNames name).reverse.dropWhile (·.isEmpty)
    let path ← tree.follow (tree.base name) names.reverse
    if name.getLast? == some '/' || tree.find? path == some .directory then .error .isDirectory
    else .ok (tree.overwrite path (.text text))

/-- The files of the working directory itself that are new in `later` or hold another text
there. A file of bytes is not compared. -/
def changes (earlier later : FileTree) : List (Text × Text) :=
  later.entries.filterMap fun (path, entry) =>
    match path.dropLast == later.working, path.getLast?, entry with
    | true, some name, .text content =>
      match earlier.entries.lookup path with
      | none => some (name, content)
      | some (.text old) => if old == content then none else some (name, content)
      | some _ => none
    | _, _, _ => none

end FileTree

end JsxTemplate
