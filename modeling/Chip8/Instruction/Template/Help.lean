import Chip8.Instruction.Template.Help.Groups
import Chip8.Instruction.Template.Help.Kinds
import Chip8.Instruction.Template.Help.Numbers
import Chip8.Instruction.Template.Help.Texts
import Chip8.Instruction.Template.Names

/-!
The help texts of kinds and of their members, and how members are called.
-/

namespace Chip8.Template

namespace Kind

def signature? : Kind → Option String
  | .object => some "()"
  | .tuple => some "(iterable=(), /)"
  | _ => none

def help? : Kind → Option String
  | .number => some (
      "int([x]) -> integer\nint(x, base=10) -> integer\n\n" ++
      "Convert a number or string to an integer, or return 0 if no arguments\n" ++
      "are given.  If x is a number, return x.__int__().  For floating point\n" ++
      "numbers, this truncates towards zero.\n\n" ++
      "If x is not a number or if base is given, then x must be a string,\n" ++
      "bytes, or bytearray instance representing an integer literal in the\n" ++
      "given base.  The literal can be preceded by '+' or '-' and be surrounded\n" ++
      "by whitespace.  The base defaults to 10.  Valid bases are 0 and 2-36.\n" ++
      "Base 0 means to interpret the base from the string as an integer literal.\n" ++
      ">>> int('0b100', base=0)\n4")
  | .truth => some (
      "bool(x) -> bool\n\n" ++
      "Returns True when the argument x is true, False otherwise.\n" ++
      "The builtins True and False are the only two instances of the class bool.\n" ++
      "The class bool is a subclass of the class int, and cannot be subclassed.")
  | .object => some (
      "The base class of the class hierarchy.\n\n" ++
      "When called, it accepts no arguments and returns a new featureless\n" ++
      "instance that has no instance attributes and cannot be given any.\n")
  | .kind => some (
      "type(object) -> the object's type\n" ++
      "type(name, bases, dict, **kwds) -> a new type")
  | .text => some (
      "str(object='') -> str\n" ++
      "str(bytes_or_buffer[, encoding[, errors]]) -> str\n\n" ++
      "Create a new string object from the given object. If encoding or\n" ++
      "errors is specified, then the object must expose a data buffer\n" ++
      "that will be decoded using the given encoding and error handler.\n" ++
      "Otherwise, returns the result of object.__str__() (if defined)\n" ++
      "or repr(object).\nencoding defaults to sys.getdefaultencoding().\n" ++
      "errors defaults to 'strict'.")
  | .tuple => some (
      "Built-in immutable sequence.\n\n" ++
      "If no argument is given, the constructor returns an empty tuple.\n" ++
      "If iterable is specified the tuple is initialized from iterable's items.\n\n" ++
      "If the argument is a tuple, the return value is the same object.")
  | .table => some (
      "dict() -> new empty dictionary\n" ++
      "dict(mapping) -> new dictionary initialized from a mapping object's\n" ++
      "    (key, value) pairs\n" ++
      "dict(iterable) -> new dictionary initialized as if via:\n    d = \x7b\x7d\n" ++
      "    for k, v in iterable:\n        d[k] = v\n" ++
      "dict(**kwargs) -> new dictionary initialized with the name=value pairs\n" ++
      "    in the keyword argument list.  For example:  dict(one=1, two=2)")
  | .keyed => some (
      "Represent a PEP 585 generic type\n\n" ++
      "E.g. for t = list[int], t.__origin__ is list and t.__args__ is (int,).")
  | .free => some (
      "staticmethod(function) -> method\n\n" ++
      "Convert a function to be a static method.\n\n" ++
      "A static method does not receive an implicit first argument.\n" ++
      "To declare a static method, use this idiom:\n\n     class C:\n" ++
      "         @staticmethod\n         def f(arg1, arg2, argN):\n" ++
      "             ...\n\n" ++
      "It can be called either on the class (e.g. C.f()) or on an instance\n" ++
      "(e.g. C().f()). Both the class and the instance are ignored, and\n" ++
      "neither is passed implicitly as the first argument to the method.\n\n" ++
      "Static methods in Python are similar to those found in Java or C++.\n" ++
      "For a more advanced concept, see the classmethod builtin.")
  | _ => none

/-- Help on the members that are no slots. -/
def memberHelp : Kind → List (String × Help)
  | .number => Help.numbers
  | .text => Help.texts
  | .tuple => Help.tuples
  | .table => Help.tables
  | .members => Help.members
  | .keyed => Help.keyedKinds
  | .object => Help.objects
  | .kind => Help.kinds
  | _ => []

end Kind

namespace Member

def help (m : Member) : Help :=
  match m.role with
  | .slot => .ofSlot m.name
  | .maker => .ofMaker
  | _ => (m.owner.memberHelp.lookup m.name).getD .unknown

/-- The parameters in brackets. -/
def signature? (m : Member) : Option String := m.help.parameters.map fun s => "(" ++ s ++ ")"

/-- A plain member is a text or nothing. -/
def plainText? (m : Member) : Option String := if m.name = "__doc__" then m.owner.help? else none

end Member

end Chip8.Template
