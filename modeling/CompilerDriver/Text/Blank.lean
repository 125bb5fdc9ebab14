/-!
The characters with the Unicode property White_Space. They are the blanks that make an argument
need quotes when a command is shown, and the blanks dropped from the end of shown output.
-/

namespace CompilerDriver.Text

def blankCodes : List Nat :=
  [0x9, 0xA, 0xB, 0xC, 0xD, 0x20, 0x85, 0xA0, 0x1680,
   0x2000, 0x2001, 0x2002, 0x2003, 0x2004, 0x2005, 0x2006, 0x2007, 0x2008, 0x2009, 0x200A,
   0x2028, 0x2029, 0x202F, 0x205F, 0x3000]

def isBlank (char : Char) : Bool :=
  blankCodes.contains char.toNat

def trimEnd (text : String) : String :=
  String.ofList (text.toList.reverse.dropWhile isBlank).reverse

end CompilerDriver.Text
