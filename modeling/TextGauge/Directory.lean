import TextGauge.Fault
import TextGauge.Utf8

/-!
# A directory of files

Paths lead to files of one directory, which has no directories in it and is the only one that is
known. The components of a path are separated by slashes; empty ones and `.` stay where they
are, and `..` leaves for a place where nothing is known. Names and paths are limited in length.
-/

namespace TextGauge

/-- Files with their names and contents. -/
abbrev Directory := List (Bytes × Bytes)

namespace Directory

/-- The byte of the slash. -/
def slash : UInt8 := 0x2F

/-- The byte of the point. -/
def point : UInt8 := 0x2E

/-- The most bytes of a name. -/
def longestName : Nat := 255

/-- The most bytes of a path. -/
def longestPath : Nat := 4095

/-- The components of a path. -/
def components : Bytes → List Bytes
  | [] => [[]]
  | b :: rest =>
    if b = slash then [] :: components rest
    else
      match components rest with
      | [] => [[b]]
      | c :: cs => (b :: c) :: cs

/-- Whether a component stays where it is. -/
def stays (component : Bytes) : Bool :=
  component.isEmpty || component == [point]

/-- Follows components from the directory on; `above` is the number of steps that lead out of
it. -/
def follow (files : Directory) : Nat → List Bytes → Except FileFault Bytes
  | _, [] => .error .directory
  | above, c :: rest =>
    if stays c then follow files above rest
    else if c = [point, point] then follow files (above + 1) rest
    else if c.length > longestName then .error .nameTooLong
    else if above > 0 then .error .missing
    else
      match files.lookup c with
      | none => .error .missing
      | some content => if rest.isEmpty then .ok content else .error .notDirectory

/-- The content of the file at a path. -/
def read (files : Directory) (path : Bytes) : Except FileFault Bytes :=
  match path with
  | [] => .error .missing
  | b :: _ =>
    if path.length > longestPath then .error .nameTooLong
    else follow files (if b = slash then 1 else 0) (components path)

end Directory

end TextGauge
