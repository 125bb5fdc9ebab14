import CompilerDriver.Text.Utf8

/-!
Paths as byte strings. A slash separates segments; an empty segment and the segment `.` add nothing
to what a path names. This module reads and rewrites the spelling of paths only. What a path names
in a tree of files is decided elsewhere.
-/

namespace CompilerDriver

structure Path where
  bytes : Bytes
  deriving Repr, DecidableEq, Inhabited

namespace Path

def ofText (text : String) : Path :=
  ⟨Text.Utf8.encode text⟩

def display (path : Path) : String :=
  Text.Utf8.lossy path.bytes

def text? (path : Path) : Option String :=
  Text.Utf8.decode? path.bytes

def slash : UInt8 := 0x2F

def dot : UInt8 := 0x2E

def empty : Path := ⟨[]⟩

def isEmpty (path : Path) : Bool :=
  path.bytes.isEmpty

def isAbsolute (path : Path) : Bool :=
  path.bytes.head? == some slash

/-- The parts between separators; there is always at least one. -/
def splitAt (separator : UInt8) : Bytes → List Bytes
  | [] => [[]]
  | byte :: rest =>
      if byte = separator then [] :: splitAt separator rest
      else
        match splitAt separator rest with
        | [] => [[byte]]
        | first :: others => (byte :: first) :: others

def segments (path : Path) : List Bytes :=
  splitAt slash path.bytes

def joinWith (separator : UInt8) : List Bytes → Bytes
  | [] => []
  | [only] => only
  | first :: next :: rest => first ++ separator :: joinWith separator (next :: rest)

def ofSegments (segments : List Bytes) : Path :=
  ⟨joinWith slash segments⟩

def here : Bytes := [dot]

def up : Bytes := [dot, dot]

def isVacuous (segment : Bytes) : Bool :=
  segment.isEmpty || segment == here

def names (path : Path) : List Bytes :=
  path.segments.filter (fun segment => !isVacuous segment)

/-- An absolute right path stands alone; any other is put behind a separating slash. -/
def join (base path : Path) : Path :=
  if path.isAbsolute then path
  else if base.isEmpty || base.bytes.getLast? == some slash then ⟨base.bytes ++ path.bytes⟩
  else ⟨base.bytes ++ slash :: path.bytes⟩

/-- Takes the last segment that names something or climbs off a reversed list, with the vacuous
ones around it. -/
def dropLastName (reversed : List Bytes) : Option (List Bytes) :=
  match reversed.dropWhile isVacuous with
  | [] => none
  | _ :: rest => some (rest.dropWhile isVacuous)

/-- The path without its last part. A root and the empty path have none; the parent of a lone
relative part is the empty path. -/
def parent? (path : Path) : Option Path :=
  match path.segments with
  | [] => none
  | head :: body =>
      match dropLastName body.reverse with
      | some kept =>
          if head.isEmpty && kept.isEmpty then some ⟨[slash]⟩
          else some (ofSegments (head :: kept.reverse))
      | none => if head.isEmpty then none else some empty

def fileName? (path : Path) : Option Bytes :=
  match path.names.getLast? with
  | some name => if name = up then none else some name
  | none => none

/-- The part of a name before its last dot. A name with no dot past its first byte is kept whole. -/
def nameStem (name : Bytes) : Bytes :=
  match name.reverse.dropWhile (· ≠ dot) with
  | [] => name
  | _ :: before => if before.isEmpty then name else before.reverse

def stem? (path : Path) : Option Bytes :=
  path.fileName?.map nameStem

/-- One segment walked from the kept ones, last kept first. A climb takes back whatever was kept
last; with nothing kept it is dropped at a root and kept elsewhere. -/
def walk (rooted : Bool) (kept : List Bytes) (segment : Bytes) : List Bytes :=
  if isVacuous segment then kept
  else if segment = up then
    match kept with
    | _ :: rest => rest
    | [] => if rooted then [] else [up]
  else segment :: kept

def normal (path : Path) : Path :=
  let kept := (path.segments.foldl (walk path.isAbsolute) []).reverse
  ⟨(if path.isAbsolute then [slash] else []) ++ joinWith slash kept⟩

def anchor (base path : Path) : Path :=
  (base.join path).normal

end CompilerDriver.Path
