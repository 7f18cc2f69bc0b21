import Chip8.Instruction.Template.Help.Slots

/-!
Help on the members of all objects, and of kinds.
-/

namespace Chip8.Template.Help

def objects : List (String × Help) :=
  [("__reduce_ex__", ⟨some "$self, protocol, /", some "Helper for pickle."⟩),
   ("__reduce__", ⟨some "$self, /", some "Helper for pickle."⟩),
   ("__getstate__", ⟨some "$self, /", some "Helper for pickle."⟩),
   ("__subclasshook__",
     ⟨none,
      some ("Abstract classes can override this to customize issubclass().\n\n" ++
      "This is invoked early on by abc.ABCMeta.__subclasscheck__().\n" ++
      "It should return True, False or NotImplemented.  If it returns\n" ++
      "NotImplemented, the normal algorithm is used.  Otherwise, it\n" ++
      "overrides the normal algorithm (and the outcome is cached).\n")⟩),
   ("__init_subclass__",
     ⟨none,
      some ("This method is called when a class is subclassed.\n\n" ++
      "The default implementation does nothing. It may be\n" ++
      "overridden to extend subclasses.\n")⟩),
   ("__format__", ⟨some "$self, format_spec, /", some "Default object formatter."⟩),
   ("__sizeof__", ⟨some "$self, /", some "Size of object in memory, in bytes."⟩),
   ("__dir__", ⟨some "$self, /", some "Default dir() implementation."⟩),
   ("__class__", ⟨none, some "the object's class"⟩)]

def kinds : List (String × Help) :=
  [("mro", ⟨some "$self, /", some "Return a type's method resolution order."⟩),
   ("__subclasses__", ⟨some "$self, /", some "Return a list of immediate subclasses."⟩),
   ("__prepare__",
     ⟨none,
      some ("__prepare__() -> dict\n" ++
      "used to create the namespace for the class statement")⟩),
   ("__instancecheck__", ⟨some "$self, instance, /", some "Check if an object is an instance."⟩),
   ("__subclasscheck__", ⟨some "$self, subclass, /", some "Check if a class is a subclass."⟩),
   ("__dir__", ⟨some "$self, /", some "Specialized __dir__ implementation for types."⟩),
   ("__sizeof__", ⟨some "$self, /", some "Return memory consumption of the type object."⟩)]

end Chip8.Template.Help
