import SchemaCanvas.Settings.Basic
import SchemaCanvas.Toml.Reader

/-!
# Finding the settings of a file

The settings of a schema file are in the nearest settings file: in the directory of the schema file
or in one of the directories above it, up to where the path starts.
-/

namespace SchemaCanvas

/-- A path: the slashes of the root that it starts at, if it does, and its parts below where it
starts. -/
structure Path where
  root : String
  parts : List String
  deriving DecidableEq, Repr

namespace Path

/-- The root that a text starts with: two slashes name a root of their own, and more are as good as
one. -/
def rootOf (cs : List Char) : String :=
  match (cs.takeWhile (· = '/')).length with
  | 0 => ""
  | 2 => "//"
  | _ => "/"

/-- The path that a text writes; empty parts and single points say nothing. -/
def ofText (text : String) : Path :=
  let cs := text.toList
  let parts := (Text.splitOn '/' cs).map String.ofList
  ⟨rootOf cs, parts.filter fun part => part ≠ "" ∧ part ≠ "."⟩

/-- The text of a path. -/
def text (p : Path) : String :=
  if p.root = "" ∧ p.parts = [] then "." else p.root ++ "/".intercalate p.parts

/-- The directory that the path's last part is in. -/
def parent (p : Path) : Path :=
  { p with parts := p.parts.dropLast }

/-- The path of something in the directory. -/
def child (p : Path) (name : String) : Path :=
  { p with parts := p.parts ++ [name] }

/-- The path and all directories above it, the nearest first. -/
def ancestors (p : Path) : List Path :=
  (List.range (p.parts.length + 1)).map fun i =>
    { p with parts := p.parts.take (p.parts.length - i) }

end Path

/-- The files and directories that a program can see. -/
structure FileTree where
  files : List (Path × List UInt8)
  directories : List Path

namespace FileTree

/-- Whether there is a directory with the parts: the one where paths start, one that is listed, or
one that something lies in. -/
def hasDirectory (t : FileTree) (root : String) (parts : List String) : Bool :=
  parts.isEmpty ||
    t.directories.any (fun d => d.root = root && parts.isPrefixOf d.parts) ||
    t.files.any fun f => f.1.root = root && f.1.parts ≠ parts && parts.isPrefixOf f.1.parts

/-- The path without steps to the directory above, if it stays below where it starts and takes such
steps from directories only. -/
def resolve? (t : FileTree) (p : Path) : Option Path :=
  (p.parts.foldlM (fun (below : List String) part =>
    if part ≠ ".." then some (part :: below)
    else if t.hasDirectory p.root below.reverse then below.tail? else none) []).map fun below =>
      { p with parts := below.reverse }

/-- The path under which the tree would hold a file that a path leads to: the path itself if it
holds one there, or else the path without steps to the directory above. -/
def key? (t : FileTree) (p : Path) : Option Path :=
  if t.files.any (·.1 = p) then some p else t.resolve? p

/-- The greatest number of bytes of a name. -/
def nameLimit : Nat :=
  255

/-- The greatest number of bytes of a path. -/
def pathLimit : Nat :=
  4095

/-- Whether a path is too long to be looked up: as a whole, or because of a name that would have to
be in a directory that there is. -/
def isTooLong (t : FileTree) (p : Path) : Bool :=
  pathLimit < p.text.utf8ByteSize ||
    (List.range p.parts.length).any fun i =>
      nameLimit < (p.parts.getD i "").utf8ByteSize &&
        (t.resolve? { p with parts := p.parts.take i }).any fun d => t.hasDirectory d.root d.parts

/-- The content of the file at a path. -/
def content? (t : FileTree) (p : Path) : Option (List UInt8) :=
  (t.key? p).bind fun key => (t.files.find? fun file => file.1 = key).map Prod.snd

/-- Whether there is a file at the path. -/
def isFile (t : FileTree) (p : Path) : Bool :=
  (t.content? p).isSome

/-- Whether there may be a directory at the path: there is one below the directory where paths
start, or the path cannot be followed. -/
def isDirectory (t : FileTree) (p : Path) : Bool :=
  (t.resolve? p).all fun resolved => t.hasDirectory p.root resolved.parts

/-- The tree with a content at a path. -/
def write (t : FileTree) (p : Path) (content : List UInt8) : FileTree :=
  { t with files := t.files.map fun file =>
      if some file.1 = t.key? p then (file.1, content) else file }

end FileTree

namespace Settings

/-- The name of a settings file. -/
def fileName : String :=
  "erd-pets.toml"

/-- The directory where the search for the settings of a path starts. -/
def searchStart (t : FileTree) (p : Path) : Path :=
  if t.isDirectory p then p else p.parent

/-- The nearest settings file. -/
def find? (t : FileTree) (start : Path) : Option Path :=
  ((searchStart t start).ancestors.map (·.child fileName)).find? t.isFile

/-- The settings that bytes hold, and the keys that were ignored. -/
def ofBytes (bytes : List UInt8) : Except SettingsError (Settings × List String) :=
  match Text.decode bytes with
  | .error cause => .error (.undecodable cause)
  | .ok text =>
    match Toml.read text with
    | .error .malformed => .error .malformed
    | .error (.tooManyDigits count) => .error (.tooManyDigits count)
    | .ok document => ofItems document

/-- The settings of a path, and the keys that were ignored. -/
def load (t : FileTree) (start : Path) : Except SettingsError (Settings × List String) :=
  match (find? t start).bind t.content? with
  | none => .ok (standard, [])
  | some bytes => ofBytes bytes

end Settings

end SchemaCanvas
