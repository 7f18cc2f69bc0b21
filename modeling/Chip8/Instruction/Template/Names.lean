import Chip8.Instruction.Template.Kind
import Chip8.Text.Blank

/-!
The members of each kind, in their order.
-/

namespace Chip8.Template.Kind

/-- The names of the members of its own, by role and parted by blanks. -/
def names : Kind → List (Role × String)
  | .number =>
    [(.maker, "__new__"),
     (.slot, "__repr__ __hash__ __getattribute__ __lt__ __le__ __eq__ __ne__ __gt__ __ge__ " ++
      "__add__ __radd__ __sub__ __rsub__ __mul__ __rmul__ __mod__ __rmod__ " ++
      "__divmod__ __rdivmod__ __pow__ __rpow__ __neg__ __pos__ __abs__ __bool__ " ++
      "__invert__ __lshift__ __rlshift__ __rshift__ __rrshift__ __and__ __rand__ " ++
      "__xor__ __rxor__ __or__ __ror__ __int__ __float__ __floordiv__ __rfloordiv__ " ++
      "__truediv__ __rtruediv__ __index__"),
     (.method, "conjugate bit_length bit_count to_bytes"), (.shared, "from_bytes"),
     (.method, "as_integer_ratio __trunc__ __floor__ __ceil__ __round__ __getnewargs__ " ++
      "__format__ __sizeof__"),
     (.part, "real imag numerator denominator"), (.plain, "__doc__")]
  | .truth =>
    [(.maker, "__new__"), (.slot, "__repr__ __and__ __rand__ __xor__ __rxor__ __or__ __ror__"),
     (.plain, "__doc__")]
  | .object =>
    [(.maker, "__new__"),
     (.slot, "__repr__ __hash__ __str__ __getattribute__ __setattr__ __delattr__ __lt__ " ++
      "__le__ __eq__ __ne__ __gt__ __ge__ __init__"),
     (.method, "__reduce_ex__ __reduce__ __getstate__"),
     (.shared, "__subclasshook__ __init_subclass__"),
     (.method, "__format__ __sizeof__ __dir__"), (.part, "__class__"), (.plain, "__doc__")]
  | .kind =>
    [(.maker, "__new__"),
     (.slot, "__repr__ __call__ __getattribute__ __setattr__ __delattr__ __init__ __or__ " ++
      "__ror__"),
     (.method, "mro __subclasses__"), (.shared, "__prepare__"),
     (.method, "__instancecheck__ __subclasscheck__ __dir__ __sizeof__"),
     (.store, "__basicsize__ __itemsize__ __flags__ __weakrefoffset__ __base__ " ++
      "__dictoffset__ __mro__"),
     (.part, "__name__ __qualname__ __bases__ __module__ __abstractmethods__ __dict__ " ++
      "__doc__ __text_signature__ __annotations__")]
  | .text =>
    [(.maker, "__new__"),
     (.slot, "__repr__ __hash__ __str__ __getattribute__ __lt__ __le__ __eq__ __ne__ " ++
      "__gt__ __ge__ __iter__ __mod__ __rmod__ __len__ __getitem__ __add__ __mul__ " ++
      "__rmul__ __contains__"),
     (.method, "encode replace split rsplit join capitalize casefold title center count " ++
      "expandtabs find partition index ljust lower lstrip rfind rindex rjust rstrip " ++
      "rpartition splitlines strip swapcase translate upper startswith endswith " ++
      "removeprefix removesuffix isascii islower isupper istitle isspace isdecimal " ++
      "isdigit isnumeric isalpha isalnum isidentifier isprintable zfill format " ++
      "format_map __format__"),
     (.free, "maketrans"), (.method, "__sizeof__ __getnewargs__"), (.plain, "__doc__")]
  | .tuple =>
    [(.maker, "__new__"),
     (.slot, "__repr__ __hash__ __getattribute__ __lt__ __le__ __eq__ __ne__ __gt__ __ge__ " ++
      "__iter__ __len__ __getitem__ __add__ __mul__ __rmul__ __contains__"),
     (.method, "__getnewargs__ index count"), (.shared, "__class_getitem__"),
     (.plain, "__doc__")]
  | .nothing =>
    [(.maker, "__new__"), (.slot, "__repr__ __bool__"), (.plain, "__doc__")]
  | .table =>
    [(.maker, "__new__"), (.slot, "__repr__"), (.plain, "__hash__"),
     (.slot, "__getattribute__ __lt__ __le__ __eq__ __ne__ __gt__ __ge__ __iter__ __init__ " ++
      "__or__ __ror__ __ior__ __len__"),
     (.method, "__getitem__"), (.slot, "__setitem__ __delitem__"),
     (.method, "__contains__ __sizeof__ get setdefault pop popitem keys items values update"),
     (.shared, "fromkeys"), (.method, "clear copy __reversed__"),
     (.shared, "__class_getitem__"), (.plain, "__doc__")]
  | .keyed =>
    [(.maker, "__new__"),
     (.slot, "__repr__ __hash__ __call__ __getattribute__ __lt__ __le__ __eq__ __ne__ " ++
      "__gt__ __ge__ __iter__ __or__ __ror__ __getitem__"),
     (.method, "__mro_entries__ __instancecheck__ __subclasscheck__ __reduce__ __dir__"),
     (.store, "__origin__ __args__ __unpacked__"),
     (.part, "__parameters__ __typing_unpacked_tuple_args__"), (.plain, "__doc__")]
  | .bound =>
    [(.slot, "__repr__ __hash__ __call__ __getattribute__ __lt__ __le__ __eq__ __ne__ " ++
      "__gt__ __ge__"),
     (.method, "__reduce__"), (.store, "__module__"),
     (.part, "__doc__ __name__ __qualname__ __self__ __text_signature__")]
  | .boundSlot =>
    [(.slot, "__repr__ __hash__ __call__ __getattribute__ __lt__ __le__ __eq__ __ne__ " ++
      "__gt__ __ge__"),
     (.method, "__reduce__"), (.store, "__self__"),
     (.part, "__objclass__ __name__ __qualname__ __doc__ __text_signature__")]
  | .slot =>
    [(.slot, "__repr__ __call__ __getattribute__ __get__"), (.method, "__reduce__"),
     (.store, "__objclass__ __name__"), (.part, "__doc__ __qualname__ __text_signature__")]
  | .method =>
    [(.slot, "__repr__ __call__ __getattribute__ __get__"), (.method, "__reduce__"),
     (.store, "__objclass__ __name__"), (.part, "__doc__ __qualname__ __text_signature__")]
  | .part =>
    [(.slot, "__repr__ __getattribute__ __get__ __set__ __delete__"),
     (.store, "__objclass__ __name__"), (.part, "__doc__ __qualname__")]
  | .store =>
    [(.slot, "__repr__ __getattribute__ __get__ __set__ __delete__"), (.method, "__reduce__"),
     (.store, "__objclass__ __name__"), (.part, "__doc__ __qualname__")]
  | .shared =>
    [(.slot, "__repr__ __call__ __getattribute__ __get__"), (.store, "__objclass__ __name__"),
     (.part, "__doc__ __qualname__ __text_signature__")]
  | .free =>
    [(.maker, "__new__"), (.slot, "__repr__ __call__ __get__ __init__"),
     (.store, "__func__ __wrapped__"), (.part, "__isabstractmethod__ __dict__"),
     (.plain, "__doc__")]
  | .members =>
    [(.maker, "__new__"),
     (.slot, "__repr__ __str__ __getattribute__ __lt__ __le__ __eq__ __ne__ __gt__ __ge__ " ++
      "__iter__ __or__ __ror__ __ior__ __len__ __getitem__ __contains__"),
     (.method, "get keys values items copy"), (.shared, "__class_getitem__"),
     (.method, "__reversed__"), (.plain, "__doc__ __hash__")]

/-- The members of its own. -/
def own (k : Kind) : List Member :=
  k.names.flatMap fun names => (Text.words names.2).map (⟨k, names.1, ·⟩)

def own? (k : Kind) (name : String) : Option Member := k.own.find? (·.name = name)

/-- A member of its own comes before one of an ancestor. -/
def member? (k : Kind) (name : String) : Option Member := k.ancestry.findSome? (·.own? name)

end Chip8.Template.Kind
