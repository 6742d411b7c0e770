import Touchpad.AccessError
import Touchpad.Files.Path

/-!
# Files

What there is to read. `Files` tells what a path leads to, whatever stands behind it: whether there
is something, of what kind it is, and what comes of opening it, which may be refused. A `FileTree`
is given by a list of paths from its root, in which the directories on the way to a path exist too;
whatever is in it can be opened.
-/

namespace Touchpad

/-- What opening a path gives. -/
inductive Entry where
  | file (content : ByteArray)
  | directory
  /-- Something else that can be read, such as a device. -/
  | special (content : ByteArray)

/-- What there is at a path, opened or not. -/
inductive Entry.Kind where
  | file
  | directory
  | special
  deriving DecidableEq, Repr

def Entry.kind : Entry → Kind
  | file _ => .file
  | directory => .directory
  | special _ => .special

/-- What a path leads to. -/
inductive Found where
  /-- It is there and can be opened. -/
  | ok (entry : Entry)
  /-- It is there and cannot be opened, for example for want of a permission. -/
  | closed (kind : Entry.Kind) (cause : AccessError)
  /-- Nothing is found. -/
  | error (cause : AccessError)

namespace Found

/-- The kind of what is there, which is known without opening it. -/
def kind? : Found → Option Entry.Kind
  | ok entry => some entry.kind
  | closed kind _ => some kind
  | error _ => none

/-- What comes of opening it. -/
def opened : Found → Except AccessError Entry
  | ok entry => .ok entry
  | closed _ cause | error cause => .error cause

end Found

/-- What each path leads to. -/
structure Files where
  find : String → Found

namespace Files

def exists? (f : Files) (path : String) : Bool := (f.find path).kind?.isSome

def isFile (f : Files) (path : String) : Bool := (f.find path).kind? == some .file

def isDirectory (f : Files) (path : String) : Bool := (f.find path).kind? == some .directory

/-- Opens what is at a path. -/
def look (f : Files) (path : String) : Except AccessError Entry := (f.find path).opened

/-- The text of what is found at a path; a directory has none, and neither has invalid UTF-8. -/
def text? (f : Files) (path : String) : Except AccessError (Option String) :=
  match f.look path with
  | .ok (.file content) | .ok (.special content) => .ok (String.fromUTF8? content)
  | .ok .directory => .ok none
  | .error cause => .error cause

end Files

/-- Paths from the root, by their parts, with what is found there. -/
abbrev FileTree := List (List String × Entry)

namespace FileTree

/-- What is found at the given parts: something on the way to an entry is a directory. -/
def entry? (t : FileTree) (parts : List String) : Option Entry :=
  match t.lookup parts with
  | some e => some e
  | none => if parts.isEmpty || t.any fun e => parts.isPrefixOf e.1 then some .directory else none

/-- Follows parts of a path from the directory `here`. Only a directory has anything in it. -/
def walk (t : FileTree) (here : List String) : List String → Except AccessError (List String)
  | [] => .ok here
  | part :: rest =>
    match t.entry? here with
    | none => .error .notFound
    | some (.file _) | some (.special _) => .error .notDirectory
    | some .directory =>
      let next :=
        if part = "" ∨ part = "." then here
        else if part = ".." then here.dropLast
        else here ++ [part]
      walk t next rest

/-- What a path leads to as seen from the directory with the parts `here`. -/
def findFrom (t : FileTree) (here : List String) (path : String) : Found :=
  if path.isEmpty then .error .notFound
  else
    match walk t (if Path.isAbsolute path then [] else here) (Path.parts path) with
    | .error cause => .error cause
    | .ok parts =>
      match t.entry? parts with
      | some e => .ok e
      | none => .error .notFound

/-- The files of a tree as seen from one of its directories. -/
def files (t : FileTree) (here : List String) : Files := ⟨t.findFrom here⟩

end FileTree

end Touchpad
