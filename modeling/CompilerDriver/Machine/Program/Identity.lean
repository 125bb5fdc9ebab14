import CompilerDriver.Machine.Kernel.Search
import CompilerDriver.Machine.Program.Basic
import CompilerDriver.Machine.Program.Input
import CompilerDriver.Text.Base64

/-!
Programs that say who and where one is, and where things are.
-/

namespace CompilerDriver.Machine.Program

open Kernel (Proc)

def noTerminal : Program := fun call =>
  let table : Options.Table :=
    { letters := Options.plain "s"
      names := [{ name := "silent", letter := 's' }, { name := "quiet", letter := 's' }] }
  Options.withOptions call table 2 fun given words =>
    match words with
    | extra :: _ => refuse call 2 (Bytes.ofText "extra operand " ++ Quoting.word extra)
    | [] =>
        if Options.has 's' given then return 1 else printAll call (Bytes.ofText "not a tty\n") 1

def userName : Bytes := Bytes.ofText "root"

def showUser : Program := fun call =>
  Options.withOptions call {} 1 fun _ words =>
    match words with
    | extra :: _ => refuse call 1 (Bytes.ofText "extra operand " ++ Quoting.word extra)
    | [] => printAll call (userName ++ [0x0A]) 0

def showIdentity : Program := fun call =>
  let table : Options.Table :=
    { letters := Options.plain "ugGnr"
      names := [{ name := "user", letter := 'u' }, { name := "group", letter := 'g' },
        { name := "groups", letter := 'G' }, { name := "name", letter := 'n' },
        { name := "real", letter := 'r' }] }
  Options.withOptions call table 1 fun given words => do
    let isShort := ['u', 'g', 'G'].any fun letter => Options.has letter given
    let unknown := words.filter (· != userName)
    let _ ← forEach
      (fun word => do
        complain call (Quoting.word word ++ Bytes.ofText ": no such user")
        return 1)
      unknown
    let status := if unknown.isEmpty then 0 else 1
    let line : Bytes :=
      if !isShort then Bytes.ofText "uid=0(root) gid=0(root) groups=0(root)\n"
      else if Options.has 'n' given then userName ++ [0x0A]
      else Bytes.ofText "0\n"
    let count := if words.isEmpty then 1 else words.length - unknown.length
    printAll call (List.replicate count line).flatten status

def showSystem : Program := fun call =>
  let table : Options.Table :=
    { letters := Options.plain "som"
      names := [{ name := "kernel-name", letter := 's' },
        { name := "operating-system", letter := 'o' }, { name := "machine", letter := 'm' }] }
  Options.withOptions call table 1 fun given words =>
    match words with
    | extra :: _ => refuse call 1 (Bytes.ofText "extra operand " ++ Quoting.word extra)
    | [] =>
        let has (letter : Char) := Options.has letter given
        let shown :=
          (if has 's' || given.isEmpty then ["Linux"] else []) ++
            (if has 'm' then ["x86_64"] else []) ++ if has 'o' then ["GNU/Linux"] else []
        printAll call (Bytes.ofText (String.intercalate " " shown ++ "\n")) 0

def foundIn (kernel : Kernel) (number : Nat) (list name : Bytes) : List Bytes :=
  let paths :=
    if name.contains Path.slash then [name]
    else (Path.splitAt 0x3A list).map fun base => Kernel.Search.below base name
  paths.filter fun path =>
    match kernel.look number path with
    | .ok (_, .file _ executable) => executable
    | _ => false

def locate : Program := fun call =>
  let table : Options.Table := { letters := Options.plain "as" }
  match Options.take table call.arguments with
  | .error _ => return 2
  | .ok (given, words) => do
      let list := (call.environment.lookup (Bytes.ofText "PATH")).getD Kernel.Search.usualPath
      let found ← Proc.ask fun number kernel => words.map (foundIn kernel number list)
      let shown := if Options.has 'a' given then found.flatten else found.filterMap List.head?
      let status := if words.isEmpty || found.any List.isEmpty then 1 else 0
      if Options.has 's' given then return status
      else printAll call (shown.flatMap fun path => path ++ [0x0A]) status

/-- A path in full. All of it but its last part has to be there. -/
def fullPath (kernel : Kernel) (number : Nat) (mustExist : Bool) (path : Bytes) :
    Except OsError Bytes :=
  match kernel.look number path with
  | .ok (place, _) => .ok (Kernel.pathOf place)
  | .error .noEntry =>
      if mustExist || path.isEmpty then .error .noEntry
      else
        match kernel.look number (frontPart path) with
        | .ok (place, .directory) => .ok (Kernel.pathOf (place ++ [lastPart path]))
        | .ok _ => .error .notDirectory
        | .error error => .error error
  | .error error => .error error

def showFull (call : Call) (mustExist isQuiet : Bool) (ending : Bytes) : List Bytes → Proc Nat :=
  forEach fun path => do
    match ← Proc.ask fun number kernel => fullPath kernel number mustExist path with
    | .ok full => printAll call (full ++ ending) 0
    | .error error =>
        unless isQuiet do
          complain call (Quoting.nameIfNeeded path ++ Bytes.ofText (": " ++ reason error))
        return 1

def realPath : Program := fun call =>
  let table : Options.Table :=
    { letters := Options.plain "emLPqsz"
      names := [{ name := "canonicalize-existing", letter := 'e' },
        { name := "canonicalize-missing", letter := 'm' }, { name := "logical", letter := 'L' },
        { name := "physical", letter := 'P' }, { name := "quiet", letter := 'q' },
        { name := "strip", letter := 's' }, { name := "zero", letter := 'z' }] }
  Options.withOptions call table 1 fun given words =>
    if words.isEmpty then refuseText call 1 "missing operand"
    else showFull call (Options.has 'e' given) (Options.has 'q' given) (endOf given) words

def readLink : Program := fun call =>
  let table : Options.Table :=
    { letters := Options.plain "efmnqsvz"
      names := [{ name := "canonicalize", letter := 'f' },
        { name := "canonicalize-existing", letter := 'e' },
        { name := "canonicalize-missing", letter := 'm' }, { name := "no-newline", letter := 'n' },
        { name := "quiet", letter := 'q' }, { name := "silent", letter := 's' },
        { name := "verbose", letter := 'v' }, { name := "zero", letter := 'z' }] }
  Options.withOptions call table 1 fun given words =>
    if words.isEmpty then refuseText call 1 "missing operand"
    else if ['e', 'f', 'm'].any fun letter => Options.has letter given then
      let ending := if Options.has 'n' given && words.length = 1 then [] else endOf given
      showFull call (Options.has 'e' given) (!Options.has 'v' given) ending words
    else return 1

def symbolValue? (byte : UInt8) : Option Nat :=
  (List.range 64).find? fun value => (Text.Base64.symbol value).toNat == byte.toNat

def decodeSymbols : (steps : Nat) → Bytes → Bytes × Bool
  | 0, _ => ([], true)
  | steps + 1, text =>
      let values := (text.take 4).map symbolValue?
      let byte (value : Nat) : UInt8 := UInt8.ofNat value
      match text.take 4, values with
      | [], _ => ([], true)
      | _, [some a, some b, some c, some d] =>
          let (rest, isWhole) := decodeSymbols steps (text.drop 4)
          (byte (4 * a + b / 16) :: byte (16 * b + c / 4) :: byte (64 * c + d) :: rest, isWhole)
      | [_, _, _, 0x3D], [some a, some b, some c, _] =>
          ([byte (4 * a + b / 16), byte (16 * b + c / 4)], (text.drop 4).isEmpty)
      | [_, _, 0x3D, 0x3D], [some a, some b, _, _] =>
          ([byte (4 * a + b / 16)], (text.drop 4).isEmpty)
      | _, some a :: some b :: some c :: _ =>
          ([byte (4 * a + b / 16), byte (16 * b + c / 4)], false)
      | _, some a :: some b :: _ => ([byte (4 * a + b / 16)], false)
      | _, _ => ([], false)

def inLines (width : Nat) : (steps : Nat) → List Char → List Char
  | 0, _ => []
  | steps + 1, text =>
      if text.isEmpty then []
      else if width = 0 then text
      else text.take width ++ '\n' :: inLines width steps (text.drop width)

def base64 : Program := fun call =>
  let table : Options.Table :=
    { letters := [('d', .none), ('i', .none), ('w', .required)]
      names := [{ name := "decode", letter := 'd' }, { name := "ignore-garbage", letter := 'i' },
        { name := "wrap", operand := .required, letter := 'w' }] }
  Options.withOptions call table 1 fun given words => do
    let width := ((Options.word? 'w' given).bind fun word => (shown word).toNat?).getD 76
    match words with
    | _ :: extra :: _ => refuse call 1 (Bytes.ofText "extra operand " ++ Quoting.word extra)
    | _ =>
        let file := words.headD [0x2D]
        match ← Input.all file with
        | .error error =>
            complainOf call file error
            return 1
        | .ok (_, some error) =>
            complainText call ("read error: " ++ reason error)
            return 1
        | .ok (text, none) =>
            if Options.has 'd' given then
              let symbols := text.filter fun byte =>
                byte != 0x0A &&
                  (!Options.has 'i' given || (symbolValue? byte).isSome || byte == 0x3D)
              let (bytes, isWhole) := decodeSymbols (symbols.length + 1) symbols
              let status ← printAll call bytes 0
              if isWhole then return status
              else
                complainText call "invalid input"
                return 1
            else
              let symbols := Text.Base64.encodeChars text
              printAll call
                (Bytes.ofText (String.ofList (inLines width (symbols.length + 1) symbols))) 0

end CompilerDriver.Machine.Program
