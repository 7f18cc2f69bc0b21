import Chip8.Instruction.Template.Help.Slots

/-!
Help on the members of values that hold others: tuples, tables, the members of a
kind, and kinds with a key.
-/

namespace Chip8.Template.Help

def tuples : List (String × Help) :=
  [("__getnewargs__", ⟨some "$self, /", none⟩),
   ("index",
     ⟨some "$self, value, start=0, stop=sys.maxsize, /",
      some ("Return first index of value.\n\n" ++
      "Raises ValueError if the value is not present.")⟩),
   ("count", ⟨some "$self, value, /", some "Return number of occurrences of value."⟩),
   ("__class_getitem__", ⟨none, some "See PEP 585"⟩)]

def tables : List (String × Help) :=
  [("__getitem__", ⟨none, some "x.__getitem__(y) <==> x[y]"⟩),
   ("__contains__",
     ⟨some "$self, key, /", some "True if the dictionary has the specified key, else False."⟩),
   ("__sizeof__", ⟨none, some "D.__sizeof__() -> size of D in memory, in bytes"⟩),
   ("get",
     ⟨some "$self, key, default=None, /",
      some "Return the value for key if key is in the dictionary, else default."⟩),
   ("setdefault",
     ⟨some "$self, key, default=None, /",
      some ("Insert key with a value of default if key is not in the dictionary.\n\n" ++
      "Return the value for key if key is in the dictionary, else default.")⟩),
   ("pop",
     ⟨some "$self, key, default=<unrepresentable>, /",
      some ("D.pop(k[,d]) -> v, remove specified key and return the corresponding value.\n\n" ++
      "If the key is not found, return the default if given; otherwise,\n" ++
      "raise a KeyError.")⟩),
   ("popitem",
     ⟨some "$self, /",
      some ("Remove and return a (key, value) pair as a 2-tuple.\n\n" ++
      "Pairs are returned in LIFO (last-in, first-out) order.\n" ++
      "Raises KeyError if the dict is empty.")⟩),
   ("keys", ⟨none, some "D.keys() -> a set-like object providing a view on D's keys"⟩),
   ("items", ⟨none, some "D.items() -> a set-like object providing a view on D's items"⟩),
   ("values", ⟨none, some "D.values() -> an object providing a view on D's values"⟩),
   ("update",
     ⟨none,
      some ("D.update([E, ]**F) -> None.  Update D from dict/iterable E and F.\n" ++
      "If E is present and has a .keys() method, then does:  for k in E: D[k] = E[k]\n" ++
      "If E is present and lacks a .keys() method, then does:  for k, v in " ++
      "E: D[k] = v\n" ++
      "In either case, this is followed by: for k in F:  D[k] = F[k]")⟩),
   ("fromkeys",
     ⟨some "$type, iterable, value=None, /",
      some "Create a new dictionary with keys from iterable and values set to value."⟩),
   ("clear", ⟨none, some "D.clear() -> None.  Remove all items from D."⟩),
   ("copy", ⟨none, some "D.copy() -> a shallow copy of D"⟩),
   ("__reversed__", ⟨some "$self, /", some "Return a reverse iterator over the dict keys."⟩),
   ("__class_getitem__", ⟨none, some "See PEP 585"⟩)]

def members : List (String × Help) :=
  [("get", ⟨none, some "D.get(k[,d]) -> D[k] if k in D, else d.  d defaults to None."⟩),
   ("keys", ⟨none, some "D.keys() -> a set-like object providing a view on D's keys"⟩),
   ("values", ⟨none, some "D.values() -> an object providing a view on D's values"⟩),
   ("items", ⟨none, some "D.items() -> a set-like object providing a view on D's items"⟩),
   ("copy", ⟨none, some "D.copy() -> a shallow copy of D"⟩),
   ("__class_getitem__", ⟨none, some "See PEP 585"⟩),
   ("__reversed__", ⟨none, some "D.__reversed__() -> reverse iterator"⟩)]

def keyedKinds : List (String × Help) :=
  [("__parameters__", ⟨none, some "Type variables in the GenericAlias."⟩)]

end Chip8.Template.Help
