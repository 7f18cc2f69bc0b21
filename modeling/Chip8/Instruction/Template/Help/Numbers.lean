import Chip8.Instruction.Template.Help.Slots

/-!
Help on the members of numbers.
-/

namespace Chip8.Template.Help

def numbers : List (String × Help) :=
  [("conjugate", ⟨none, some "Returns self, the complex conjugate of any int."⟩),
   ("bit_length",
     ⟨some "$self, /",
      some ("Number of bits necessary to represent self in binary.\n\n>>> bin(37)\n" ++
      "'0b100101'\n>>> (37).bit_length()\n6")⟩),
   ("bit_count",
     ⟨some "$self, /",
      some ("Number of ones in the binary representation of the absolute value of self.\n\n" ++
      "Also known as the population count.\n\n>>> bin(13)\n'0b1101'\n" ++
      ">>> (13).bit_count()\n3")⟩),
   ("to_bytes",
     ⟨some "$self, /, length=1, byteorder='big', *, signed=False",
      some ("Return an array of bytes representing an integer.\n\n  length\n" ++
      "    Length of bytes object to use.  An OverflowError is raised if the\n" ++
      "    integer is not representable with the given number of bytes.  Default\n" ++
      "    is length 1.\n  byteorder\n" ++
      "    The byte order used to represent the integer.  If byteorder is 'big',\n" ++
      "    the most significant byte is at the beginning of the byte array.  If\n" ++
      "    byteorder is 'little', the most significant byte is at the end of the\n" ++
      "    byte array.  To request the native byte order of the host system, use\n" ++
      "    `sys.byteorder' as the byte order value.  Default is to use 'big'.\n" ++
      "  signed\n" ++
      "    Determines whether two's complement is used to represent the integer.\n" ++
      "    If signed is False and a negative integer is given, an OverflowError\n" ++
      "    is raised.")⟩),
   ("from_bytes",
     ⟨some "$type, /, bytes, byteorder='big', *, signed=False",
      some ("Return the integer represented by the given array of bytes.\n\n  bytes\n" ++
      "    Holds the array of bytes to convert.  The argument must either\n" ++
      "    support the buffer protocol or be an iterable object producing bytes.\n" ++
      "    Bytes and bytearray are examples of built-in objects that support the\n" ++
      "    buffer protocol.\n  byteorder\n" ++
      "    The byte order used to represent the integer.  If byteorder is 'big',\n" ++
      "    the most significant byte is at the beginning of the byte array.  If\n" ++
      "    byteorder is 'little', the most significant byte is at the end of the\n" ++
      "    byte array.  To request the native byte order of the host system, use\n" ++
      "    `sys.byteorder' as the byte order value.  Default is to use 'big'.\n" ++
      "  signed\n" ++
      "    Indicates whether two's complement is used to represent the integer.")⟩),
   ("as_integer_ratio",
     ⟨some "$self, /",
      some ("Return integer ratio.\n\n" ++
      "Return a pair of integers, whose ratio is exactly equal to the original int\n" ++
      "and with a positive denominator.\n\n>>> (10).as_integer_ratio()\n(10, 1)\n" ++
      ">>> (-10).as_integer_ratio()\n(-10, 1)\n>>> (0).as_integer_ratio()\n(0, 1)")⟩),
   ("__trunc__", ⟨none, some "Truncating an Integral returns itself."⟩),
   ("__floor__", ⟨none, some "Flooring an Integral returns itself."⟩),
   ("__ceil__", ⟨none, some "Ceiling of an Integral returns itself."⟩),
   ("__round__",
     ⟨some "$self, ndigits=<unrepresentable>, /",
      some ("Rounding an Integral returns itself.\n\n" ++
      "Rounding with an ndigits argument also returns an integer.")⟩),
   ("__getnewargs__", ⟨some "$self, /", none⟩),
   ("__format__", ⟨some "$self, format_spec, /", none⟩),
   ("__sizeof__", ⟨some "$self, /", some "Returns size in memory, in bytes."⟩),
   ("real", ⟨none, some "the real part of a complex number"⟩),
   ("imag", ⟨none, some "the imaginary part of a complex number"⟩),
   ("numerator", ⟨none, some "the numerator of a rational number in lowest terms"⟩),
   ("denominator", ⟨none, some "the denominator of a rational number in lowest terms"⟩)]

end Chip8.Template.Help
