import CompilerDriver.Text.Utf8

/-!
Signals by name and number, and what they do to a process that makes no arrangements for them.
-/

namespace CompilerDriver.Machine.Kernel.Signal

def interrupt : Nat := 2

def quit : Nat := 3

def arithmetic : Nat := 8

def kill : Nat := 9

def brokenPipe : Nat := 13

def terminate : Nat := 15

def child : Nat := 17

def resume : Nat := 18

def last : Nat := 64

def named : List (Nat × String) :=
  [(0, "EXIT"), (1, "HUP"), (2, "INT"), (3, "QUIT"), (4, "ILL"), (5, "TRAP"), (6, "ABRT"),
   (7, "BUS"), (8, "FPE"), (9, "KILL"), (10, "USR1"), (11, "SEGV"), (12, "USR2"), (13, "PIPE"),
   (14, "ALRM"), (15, "TERM"), (17, "CHLD"), (18, "CONT"), (19, "STOP"), (20, "TSTP"),
   (21, "TTIN"), (22, "TTOU"), (23, "URG"), (24, "XCPU"), (25, "XFSZ"), (26, "VTALRM"),
   (27, "PROF"), (28, "WINCH"), (29, "IO"), (30, "PWR"), (31, "SYS"), (34, "RTMIN"),
   (64, "RTMAX")]

/-- The name of a signal. Those in the upper range are counted from the nearer end of it, and one
without a name goes by its number. -/
def name (number : Nat) : String :=
  match named.lookup number with
  | some text => text
  | none =>
      if 34 < number && number < 50 then "RTMIN+" ++ toString (number - 34)
      else if 50 ≤ number && number < 64 then "RTMAX-" ++ toString (64 - number)
      else toString number

def all : List Nat :=
  (List.range last).map (· + 1)

/-- The signal that a word names, in large or small letters, or by number. Zero is the end of a
process, and names one only where `least` allows it. -/
def ofWord? (least : Nat) (word : Bytes) : Option Nat :=
  let text := Text.Utf8.lossy word
  if !text.isEmpty && text.toList.all Char.isDigit then
    text.toNat?.filter (· ≤ last)
  else (0 :: all).find? fun number => least ≤ number && name number == text.toUpper

inductive Effect where
  | none
  | ends
  | suspends
  | resumes
  deriving Repr, DecidableEq

def effect (number : Nat) : Effect :=
  if number = 0 || number = 17 || number = 23 || number = 28 then .none
  else if number = 18 then .resumes
  else if number = 19 || number = 20 || number = 21 || number = 22 then .suspends
  else .ends

def description (number : Nat) : String :=
  match number with
  | 1 => "Hangup"
  | 2 => "Interrupt"
  | 3 => "Quit"
  | 4 => "Illegal instruction"
  | 5 => "Trace/breakpoint trap"
  | 6 => "Aborted"
  | 7 => "Bus error"
  | 8 => "Floating point exception"
  | 9 => "Killed"
  | 10 => "User defined signal 1"
  | 11 => "Segmentation fault"
  | 12 => "User defined signal 2"
  | 13 => "Broken pipe"
  | 14 => "Alarm clock"
  | 15 => "Terminated"
  | 16 => "Stack fault"
  | 24 => "CPU time limit exceeded"
  | 25 => "File size limit exceeded"
  | 26 => "Virtual timer expired"
  | 27 => "Profiling timer expired"
  | 29 => "I/O possible"
  | 30 => "Power failure"
  | 31 => "Bad system call"
  | _ =>
      if 34 ≤ number then "Real-time signal " ++ toString (number - 34)
      else "Unknown signal " ++ toString number

def isCertain (number : Nat) : Bool :=
  number = 9 || number = 19

end CompilerDriver.Machine.Kernel.Signal
