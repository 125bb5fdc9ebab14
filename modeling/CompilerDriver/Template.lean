import CompilerDriver.Path
import CompilerDriver.Json

/-!
Output templates. A template is a single dash, for standard output, or a text with a placeholder,
an empty pair of braces. The stem of the source takes the place of the first placeholder, letter for
letter. Paths are neither joined nor normalized here.
-/

namespace CompilerDriver

inductive Target where
  | file (path : Path)
  | standardOutput
  deriving Repr, DecidableEq, Inhabited

namespace Target

def isStandardOutput : Target → Bool
  | .file _ => false
  | .standardOutput => true

def dash : Path := ⟨[0x2D]⟩

def argument : Target → Path
  | .file path => path
  | .standardOutput => dash

def display : Target → String
  | .file path => path.display
  | .standardOutput => "<stdout>"

/-- A path that is not text has no document form. -/
def toJson? : Target → Option Json
  | .file path => path.text?.map fun text =>
      .object [("kind", .text "file"), ("path", .text text)]
  | .standardOutput => some (.object [("kind", .text "stdout")])

end Target

inductive TemplateError where
  | invalidTemplate (template : String)
  | invalidSource (path : Path)
  deriving Repr, DecidableEq, Inhabited

def TemplateError.message : TemplateError → String
  | .invalidTemplate template =>
      "invalid output template \x60" ++ template ++
        "\x60: must contain \"\x7b\x7d\" or be \"-\""
  | .invalidSource path =>
      "invalid source path \x60" ++ path.display ++
        "\x60: no file name to derive an output name from"

namespace Template

def standardOutput : String := "-"

def fallback : String := "./\x7b\x7d.wasm"

def cut? : List Char → Option (List Char × List Char)
  | [] => none
  | '\x7b' :: '\x7d' :: rest => some ([], rest)
  | char :: rest => (cut? rest).map fun (before, after) => (char :: before, after)

def fill? (template stem : List Char) : Option (List Char) :=
  (cut? template).map fun (before, after) => before ++ stem ++ after

def isValid (template : String) : Bool :=
  template == standardOutput || (cut? template.toList).isSome

def validate (template : String) : Except TemplateError Unit :=
  if isValid template then .ok () else .error (.invalidTemplate template)

def resolve (template stem : String) : Except TemplateError Target :=
  if template = standardOutput then .ok .standardOutput
  else
    match fill? template.toList stem.toList with
    | some name => .ok (.file ⟨Text.Utf8.encodeChars name⟩)
    | none => .error (.invalidTemplate template)

/-- The file name without directory and last extension, as text. An empty one would be no stem. -/
def stem (source : Path) : Except TemplateError String :=
  match (source.stem?.map Text.Utf8.lossy).filter fun name => !name.isEmpty with
  | some name => .ok name
  | none => .error (.invalidSource source)

/-- A source without a stem is refused before the template is looked at. -/
def outputFor (template : String) (source : Path) : Except TemplateError Target :=
  match stem source with
  | .ok name => resolve template name
  | .error error => .error error

end CompilerDriver.Template
