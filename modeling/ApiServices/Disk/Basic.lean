import ApiServices.Text.Basic

namespace ApiServices

/-!
# What a disk holds

A disk holds directories and files, and a file holds a text or bytes that are
none.  Requests to a disk fail for a small number of causes, each with the
wording that the system has for it.
-/

/-- Why a request to the disk failed. -/
inductive DiskError
  | notFound
  | notADirectory
  | isADirectory
  | alreadyExists
  | nameTooLong
  | notText
  | emptyPath
  | nulInPath
  /-- A cause that the system words itself. -/
  | other (wording : Text)
deriving DecidableEq

namespace DiskError

def message : DiskError -> Text
  | .notFound => "No such file or directory (os error 2)".toList
  | .notADirectory => "Not a directory (os error 20)".toList
  | .isADirectory => "Is a directory (os error 21)".toList
  | .alreadyExists => "File exists (os error 17)".toList
  | .nameTooLong => "File name too long (os error 36)".toList
  | .notText => "stream did not contain valid UTF-8".toList
  | .emptyPath => "cannot make an empty path absolute".toList
  | .nulInPath => "file name contained an unexpected NUL byte".toList
  | .other wording => wording

end DiskError

/-- What a file holds.  Bytes are kept as they are when they are no text. -/
inductive FileContent
  | text (t : Text)
  | binary (bytes : List UInt8)
deriving DecidableEq

namespace FileContent

/-- The text of a file. -/
def text? : FileContent -> Except DiskError Text
  | .text t => .ok t
  | .binary _ => .error .notText

end FileContent

/-- What is found at a place on the disk. -/
inductive DiskEntry
  | directory
  | file (content : FileContent)
deriving DecidableEq

end ApiServices
