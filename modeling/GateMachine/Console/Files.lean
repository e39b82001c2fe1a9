import GateMachine.Console.ReadError
import GateMachine.Text.Cut

/-!
Files in directories, and how a path leads to one of them. A path is followed
name by name, each of which needs a directory to be looked up in; so a slash
after the name of a file leads nowhere, and nothing is found below it.
-/

namespace GateMachine

namespace Console

/-- The names that lead from the root to where something stands. -/
abbrev Trail := List String

structure Files where
  /-- The directory that paths without a slash in front start from. -/
  home : Trail
  entries : List (Trail × ByteArray)

namespace Files

def content? (files : Files) (trail : Trail) : Option ByteArray :=
  (files.entries.find? fun entry => entry.1 == trail).map Prod.snd

/-- Directories are what stands above the home or a file. -/
def isDirectory (files : Files) (trail : Trail) : Bool :=
  trail.isPrefixOf files.home ||
    files.entries.any fun entry => trail.isPrefixOf entry.1.dropLast && !entry.1.isEmpty

/-- The most bytes that a name may have. -/
def nameLimit : Nat := 255

/-- A path has fewer bytes than this. -/
def pathLimit : Nat := 4096

/-- Follows one name of a path. -/
def follow (files : Files) (trail : Trail) (name : String) : Except ReadError Trail :=
  let below := trail ++ [name]
  if !files.isDirectory trail then .error .notDirectory
  else if name = "" ∨ name = "." then .ok trail
  else if name = ".." then .ok trail.dropLast
  else if nameLimit < name.utf8ByteSize then .error .nameTooLong
  else if files.isDirectory below || (files.content? below).isSome then .ok below
  else .error .missing

def names (path : String) : List String := (Text.split '/' path.toList).map String.ofList

/-- Adds a file, named from the home. -/
def put (files : Files) (path : String) (content : ByteArray) : Files :=
  { files with entries := (files.home ++ names path, content) :: files.entries }

def locate (files : Files) (path : String) : Except ReadError Trail :=
  if path = "" then .error .missing
  else if pathLimit ≤ path.utf8ByteSize then .error .nameTooLong
  else
    let start := if path.toList.head? = some '/' then [] else files.home
    (names path).foldlM files.follow start

def read (files : Files) (path : String) : Except ReadError ByteArray :=
  match files.locate path with
  | .error error => .error error
  | .ok trail =>
      if files.isDirectory trail then
        .error .isDirectory
      else
        match files.content? trail with
        | some content => .ok content
        | none => .error .missing

end Files

end Console

end GateMachine
