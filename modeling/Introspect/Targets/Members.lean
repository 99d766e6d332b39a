import Introspect.Hierarchy.Builtin

/-!
# The members of the classes that are always there

* `Members`          the members that a class defines: methods, operators, and methods of the class
                     itself;
* `builtinMembers`   the members by class;
* `membersOf`        the members that one class defines.
-/

namespace Introspect

structure Members where
  methods : List String
  operators : List String
  classMethods : List String

/-- the words between blanks -/
def words (text : String) : List String := text.splitOn " "

open ClassId in
def builtinMembers : List (ClassId × List String × List String × List String) := [
  (.object,
    words "__dir__ __format__ __getstate__ __reduce__ __reduce_ex__ __sizeof__",
    words ("__delattr__ __eq__ __ge__ __getattribute__ __gt__ __hash__ __init__ __le__ " ++
      "__lt__ __ne__ __repr__ __setattr__ __str__"),
    words "__init_subclass__ __subclasshook__"),
  (.type,
    words "__dir__ __instancecheck__ __sizeof__ __subclasscheck__ __subclasses__ mro",
    words ("__call__ __delattr__ __getattribute__ __init__ __or__ __repr__ __ror__ " ++
      "__setattr__"),
    words "__prepare__"),
  (.int,
    words ("__ceil__ __floor__ __format__ __getnewargs__ __round__ __sizeof__ __trunc__ " ++
      "as_integer_ratio bit_count bit_length conjugate to_bytes"),
    words ("__abs__ __add__ __and__ __bool__ __divmod__ __eq__ __float__ __floordiv__ __ge__ " ++
      "__getattribute__ __gt__ __hash__ __index__ __int__ __invert__ __le__ __lshift__ " ++
      "__lt__ __mod__ __mul__ __ne__ __neg__ __or__ __pos__ __pow__ __radd__ __rand__ " ++
      "__rdivmod__ __repr__ __rfloordiv__ __rlshift__ __rmod__ __rmul__ __ror__ " ++
      "__rpow__ __rrshift__ __rshift__ __rsub__ __rtruediv__ __rxor__ __sub__ " ++
      "__truediv__ __xor__"),
    words "from_bytes"),
  (.bool,
    [],
    words "__and__ __or__ __rand__ __repr__ __ror__ __rxor__ __xor__",
    []),
  (.float,
    words ("__ceil__ __floor__ __format__ __getnewargs__ __round__ __trunc__ " ++
      "as_integer_ratio conjugate hex is_integer"),
    words ("__abs__ __add__ __bool__ __divmod__ __eq__ __float__ __floordiv__ __ge__ " ++
      "__getattribute__ __gt__ __hash__ __int__ __le__ __lt__ __mod__ __mul__ __ne__ " ++
      "__neg__ __pos__ __pow__ __radd__ __rdivmod__ __repr__ __rfloordiv__ __rmod__ " ++
      "__rmul__ __rpow__ __rsub__ __rtruediv__ __sub__ __truediv__"),
    words "__getformat__ fromhex"),
  (.complex,
    words "__complex__ __format__ __getnewargs__ conjugate",
    words ("__abs__ __add__ __bool__ __eq__ __ge__ __getattribute__ __gt__ __hash__ __le__ " ++
      "__lt__ __mul__ __ne__ __neg__ __pos__ __pow__ __radd__ __repr__ __rmul__ " ++
      "__rpow__ __rsub__ __rtruediv__ __sub__ __truediv__"),
    []),
  (.str,
    words ("__format__ __getnewargs__ __sizeof__ capitalize casefold center count encode " ++
      "endswith expandtabs find format format_map index isalnum isalpha isascii " ++
      "isdecimal isdigit isidentifier islower isnumeric isprintable isspace istitle " ++
      "isupper join ljust lower lstrip partition removeprefix removesuffix replace " ++
      "rfind rindex rjust rpartition rsplit rstrip split splitlines startswith strip " ++
      "swapcase title translate upper zfill"),
    words ("__add__ __contains__ __eq__ __ge__ __getattribute__ __getitem__ __gt__ __hash__ " ++
      "__iter__ __le__ __len__ __lt__ __mod__ __mul__ __ne__ __repr__ __rmod__ __rmul__ " ++
      "__str__"),
    []),
  (.bytes,
    words ("__bytes__ __getnewargs__ capitalize center count decode endswith expandtabs find " ++
      "hex index isalnum isalpha isascii isdigit islower isspace istitle isupper join " ++
      "ljust lower lstrip partition removeprefix removesuffix replace rfind rindex " ++
      "rjust rpartition rsplit rstrip split splitlines startswith strip swapcase title " ++
      "translate upper zfill"),
    words ("__add__ __contains__ __eq__ __ge__ __getattribute__ __getitem__ __gt__ __hash__ " ++
      "__iter__ __le__ __len__ __lt__ __mod__ __mul__ __ne__ __repr__ __rmod__ __rmul__ " ++
      "__str__"),
    words "fromhex"),
  (.bytearray,
    words ("__alloc__ __reduce__ __reduce_ex__ __sizeof__ append capitalize center clear " ++
      "copy count decode endswith expandtabs extend find hex index insert isalnum " ++
      "isalpha isascii isdigit islower isspace istitle isupper join ljust lower lstrip " ++
      "partition pop remove removeprefix removesuffix replace reverse rfind rindex " ++
      "rjust rpartition rsplit rstrip split splitlines startswith strip swapcase title " ++
      "translate upper zfill"),
    words ("__add__ __contains__ __delitem__ __eq__ __ge__ __getattribute__ __getitem__ " ++
      "__gt__ __iadd__ __imul__ __init__ __iter__ __le__ __len__ __lt__ __mod__ __mul__ " ++
      "__ne__ __repr__ __rmod__ __rmul__ __setitem__ __str__"),
    words "fromhex"),
  (.list,
    words ("__getitem__ __reversed__ __sizeof__ append clear copy count extend index insert " ++
      "pop remove reverse sort"),
    words ("__add__ __contains__ __delitem__ __eq__ __ge__ __getattribute__ __gt__ __iadd__ " ++
      "__imul__ __init__ __iter__ __le__ __len__ __lt__ __mul__ __ne__ __repr__ " ++
      "__rmul__ __setitem__"),
    words "__class_getitem__"),
  (.dict,
    words ("__contains__ __getitem__ __reversed__ __sizeof__ clear copy get items keys pop " ++
      "popitem setdefault update values"),
    words ("__delitem__ __eq__ __ge__ __getattribute__ __gt__ __init__ __ior__ __iter__ " ++
      "__le__ __len__ __lt__ __ne__ __or__ __repr__ __ror__ __setitem__"),
    words "__class_getitem__ fromkeys"),
  (.tuple,
    words "__getnewargs__ count index",
    words ("__add__ __contains__ __eq__ __ge__ __getattribute__ __getitem__ __gt__ __hash__ " ++
      "__iter__ __le__ __len__ __lt__ __mul__ __ne__ __repr__ __rmul__"),
    words "__class_getitem__"),
  (.set,
    words ("__contains__ __reduce__ __sizeof__ add clear copy difference difference_update " ++
      "discard intersection intersection_update isdisjoint issubset issuperset pop " ++
      "remove symmetric_difference symmetric_difference_update union update"),
    words ("__and__ __eq__ __ge__ __getattribute__ __gt__ __iand__ __init__ __ior__ __isub__ " ++
      "__iter__ __ixor__ __le__ __len__ __lt__ __ne__ __or__ __rand__ __repr__ __ror__ " ++
      "__rsub__ __rxor__ __sub__ __xor__"),
    words "__class_getitem__"),
  (.frozenset,
    words ("__contains__ __reduce__ __sizeof__ copy difference intersection isdisjoint " ++
      "issubset issuperset symmetric_difference union"),
    words ("__and__ __eq__ __ge__ __getattribute__ __gt__ __hash__ __iter__ __le__ __len__ " ++
      "__lt__ __ne__ __or__ __rand__ __repr__ __ror__ __rsub__ __rxor__ __sub__ __xor__"),
    words "__class_getitem__"),
  (.range,
    words "__reduce__ __reversed__ count index",
    words ("__bool__ __contains__ __eq__ __ge__ __getattribute__ __getitem__ __gt__ __hash__ " ++
      "__iter__ __le__ __len__ __lt__ __ne__ __repr__"),
    []),
  (.noneType,
    [],
    words "__bool__ __repr__",
    []),
  (.decimal,
    words ("__ceil__ __complex__ __copy__ __deepcopy__ __floor__ __format__ __reduce__ " ++
      "__round__ __sizeof__ __trunc__ adjusted as_integer_ratio as_tuple canonical " ++
      "compare compare_signal compare_total compare_total_mag conjugate copy_abs " ++
      "copy_negate copy_sign exp fma is_canonical is_finite is_infinite is_nan " ++
      "is_normal is_qnan is_signed is_snan is_subnormal is_zero ln log10 logb " ++
      "logical_and logical_invert logical_or logical_xor max max_mag min min_mag " ++
      "next_minus next_plus next_toward normalize number_class quantize radix " ++
      "remainder_near rotate same_quantum scaleb shift sqrt to_eng_string to_integral " ++
      "to_integral_exact to_integral_value"),
    words ("__abs__ __add__ __bool__ __divmod__ __eq__ __float__ __floordiv__ __ge__ " ++
      "__getattribute__ __gt__ __hash__ __int__ __le__ __lt__ __mod__ __mul__ __ne__ " ++
      "__neg__ __pos__ __pow__ __radd__ __rdivmod__ __repr__ __rfloordiv__ __rmod__ " ++
      "__rmul__ __rpow__ __rsub__ __rtruediv__ __str__ __sub__ __truediv__"),
    words "from_float"),
  (.moduleType,
    words "__dir__",
    words "__delattr__ __getattribute__ __init__ __repr__ __setattr__",
    []),
  (.builtinFunction,
    words "__reduce__",
    words ("__call__ __eq__ __ge__ __getattribute__ __gt__ __hash__ __le__ __lt__ __ne__ " ++
      "__repr__"),
    []),
  (.function,
    [],
    words "__call__ __get__ __repr__",
    [])]

def membersOf (c : ClassId) : Members :=
  match builtinMembers.find? fun e => e.1 == c with
  | some (_, methods, operators, classMethods) => ⟨methods, operators, classMethods⟩
  | none => ⟨[], [], []⟩

end Introspect
