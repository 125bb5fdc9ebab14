import CompilerDriver.Report.Human

/-!
An error that ended a run before its first step, with the errors that caused it, nearest first. The
document form gives only the nearest cause; the form for a reader numbers all of them.
-/

namespace CompilerDriver.Report

structure Trouble where
  message : String
  causes : List String := []
  deriving Repr, DecidableEq

namespace Trouble

/-- Puts a new message in front; the old one becomes the nearest cause. -/
def within (trouble : Trouble) (context : String) : Trouble :=
  { message := context, causes := trouble.message :: trouble.causes }

def ofConfigError (error : ConfigError) : Trouble :=
  { message := error.message, causes := error.causes }

def numbered (first : Nat) : List String → List String
  | [] => []
  | cause :: rest => ("  " ++ toString first ++ ": " ++ cause ++ "\n") :: numbered (first + 1) rest

def human (coloured : Bool) (trouble : Trouble) : String :=
  let opening := paint coloured .red "error:" ++ " " ++ trouble.message ++ "\n"
  if trouble.causes.isEmpty then opening
  else opening ++ "Caused by:\n" ++ String.join (numbered 1 trouble.causes)

def document (trouble : Trouble) : String :=
  Json.pretty <| .object <|
    ("error", .text trouble.message) :: Json.field? "cause" (trouble.causes.head?.map .text)

end CompilerDriver.Report.Trouble
