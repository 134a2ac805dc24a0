import Chip8.Bindings
import Chip8.Mistake
import Chip8.Text.Quoted

namespace Chip8

inductive FileError where
  | missing
  | notDirectory
  | isDirectory
  | nameTooLong
  | nullCharacter
  | notEncodable
  | notPath (kind : String)
deriving DecidableEq

namespace FileError

def message? (error : FileError) (shown : String) : Option String :=
  match error with
  | missing => some ("[Errno 2] No such file or directory: " ++ shown)
  | notDirectory => some ("[Errno 20] Not a directory: " ++ shown)
  | isDirectory => some ("[Errno 21] Is a directory: " ++ shown)
  | nameTooLong => some ("[Errno 36] File name too long: " ++ shown)
  | nullCharacter => some "embedded null byte"
  | notEncodable => none
  | notPath kind => some ("expected str, bytes or os.PathLike object, not " ++ kind)

def mistake : FileError → Mistake
  | missing => .noSuchFile
  | notDirectory => .notDirectory
  | isDirectory => .isDirectory
  | nameTooLong => .unusableFile
  | nullCharacter => .meaningless
  | notEncodable => .notEncodable
  | notPath _ => .wrongKind

end FileError

abbrev Folder := Bindings (List String) (List UInt8)

namespace Folder

inductive Place where
  | file (contents : List UInt8)
  | directory (names : List String)
  | above

def names (path : String) : List String := path.splitOn "/"

def single (path : String) (contents : List UInt8) : Folder :=
  [((names path).filter fun name => name ≠ "" ∧ name ≠ ".", contents)]

def longestName : Nat := 255

def longestPath : Nat := 4095

def enter (folder : Folder) (names : List String) : Except FileError Place :=
  match folder.lookup names with
  | some contents => .ok (.file contents)
  | none =>
      if folder.any fun entry => names.isPrefixOf entry.1 then .ok (.directory names)
      else .error .missing

def follow (folder : Folder) : Place → List String → Except FileError Place
  | place, [] => .ok place
  | .file _, _ :: _ => .error .notDirectory
  | place, "" :: rest => folder.follow place rest
  | place, "." :: rest => folder.follow place rest
  | .directory (name :: inner), ".." :: rest =>
      folder.follow (.directory (name :: inner).dropLast) rest
  | _, ".." :: rest => folder.follow .above rest
  | place, name :: rest =>
      if longestName < name.utf8ByteSize then .error .nameTooLong
      else
        match place with
        | .directory names => do folder.follow (← folder.enter (names ++ [name])) rest
        | _ => .error .missing

def startOf (path : String) : Place := if path.startsWith "/" then .above else .directory []

def check (path : String) : Except FileError Unit :=
  if path.toList.contains (Char.ofNat 0) then .error .nullCharacter
  else if path = "" then .error .missing
  else if longestPath < path.utf8ByteSize then .error .nameTooLong
  else .ok ()

def read (folder : Folder) (path : String) : Except FileError (List UInt8) := do
  check path
  match ← folder.follow (startOf path) (names path) with
  | .file contents => return contents
  | _ => throw .isDirectory

def checkNew (folder : Folder) (path : String) : Except FileError Unit := do
  check path
  match ← folder.follow (startOf path) (names path).dropLast with
  | .file _ => throw .notDirectory
  | _ =>
      if longestName < ((names path).getLastD "").utf8ByteSize then throw .nameTooLong
      else return ()

end Folder
end Chip8
