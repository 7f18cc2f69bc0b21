/-!
Help on a member: its parameters and its purpose. Slots have texts of their own
form, by their sign or their word.
-/

namespace Chip8.Template

/-- The parameters of a member and its purpose; either may be unknown. -/
structure Help where
  parameters : Option String
  text : Option String

namespace Help

def unknown : Help := ⟨none, none⟩

/-- Operations on two values and their signs; each can also be turned round. -/
def signs : List (String × String) :=
  [("add", "+"), ("sub", "-"), ("mul", "*"), ("truediv", "/"), ("floordiv", "//"), ("mod", "%"),
   ("lshift", "<<"), ("rshift", ">>"), ("and", "&"), ("or", "|"), ("xor", "^")]

/-- Signs that stand behind the value alone. -/
def oneWaySigns : List (String × String) :=
  [("eq", "=="), ("ne", "!="), ("lt", "<"), ("le", "<="), ("gt", ">"), ("ge", ">="), ("ior", "|=")]

/-- What the operations with a sign give back. -/
def signTexts : List (String × String) :=
  (signs ++ oneWaySigns).map (fun s => ("__" ++ s.1 ++ "__", "Return self" ++ s.2 ++ "value.")) ++
    signs.map fun s => ("__r" ++ s.1 ++ "__", "Return value" ++ s.2 ++ "self.")

/-- Operations on one value. -/
def singleTexts : List (String × String) :=
  [("__abs__", "abs(self)"),
   ("__bool__", "True if self else False"),
   ("__float__", "float(self)"),
   ("__hash__", "Return hash(self)."),
   ("__index__",
     "Return self converted to an integer, if self is suitable for use as " ++
      "an index into a list."),
   ("__int__", "int(self)"),
   ("__invert__", "~self"),
   ("__iter__", "Implement iter(self)."),
   ("__len__", "Return len(self)."),
   ("__neg__", "-self"),
   ("__pos__", "+self"),
   ("__repr__", "Return repr(self)."),
   ("__str__", "Return str(self).")]

/-- Other operations, with their parameters. -/
def otherTexts : List (String × String × String) :=
  [("__call__", "$self, /, *args, **kwargs", "Call self as a function."),
   ("__contains__", "$self, key, /", "Return key in self."),
   ("__delattr__", "$self, name, /", "Implement delattr(self, name)."),
   ("__delete__", "$self, instance, /", "Delete an attribute of instance."),
   ("__delitem__", "$self, key, /", "Delete self[key]."),
   ("__divmod__", "$self, value, /", "Return divmod(self, value)."),
   ("__get__", "$self, instance, owner=None, /",
     "Return an attribute of instance, which is of type owner."),
   ("__getattribute__", "$self, name, /", "Return getattr(self, name)."),
   ("__getitem__", "$self, key, /", "Return self[key]."),
   ("__init__", "$self, /, *args, **kwargs",
     "Initialize self.  See help(type(self)) for accurate signature."),
   ("__pow__", "$self, value, mod=None, /", "Return pow(self, value, mod)."),
   ("__rdivmod__", "$self, value, /", "Return divmod(value, self)."),
   ("__rpow__", "$self, value, mod=None, /", "Return pow(value, self, mod)."),
   ("__set__", "$self, instance, value, /", "Set an attribute of instance to value."),
   ("__setattr__", "$self, name, value, /", "Implement setattr(self, name, value)."),
   ("__setitem__", "$self, key, value, /", "Set self[key] to value.")]

/-- Slots of one name have one text, whatever the kind. -/
def ofSlot (name : String) : Help :=
  match otherTexts.lookup name, singleTexts.lookup name, signTexts.lookup name with
  | some (parameters, text), _, _ => ⟨some parameters, some text⟩
  | none, some text, _ => ⟨some "$self, /", some text⟩
  | none, none, some text => ⟨some "$self, value, /", some text⟩
  | none, none, none => unknown

def ofMaker : Help :=
  ⟨some "$type, *args, **kwargs",
    some "Create and return a new object.  See help(type) for accurate signature."⟩

end Help

end Chip8.Template
