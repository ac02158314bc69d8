import Forwarding.Script.Machine.Kind

/-! The attributes of the classes of the scripting language. -/

set_option autoImplicit false

namespace Forwarding.Script

open Text

namespace Kind

def members : List (Text × List Text) := rows [
  ("object",
    "__class__ __delattr__ __dir__ __doc__ __eq__ __format__ __ge__ __getattribute__ " ++
    "__getstate__ __gt__ __hash__ __init__ __init_subclass__ __le__ __lt__ __ne__ __new__ " ++
    "__reduce__ __reduce_ex__ __repr__ __setattr__ __sizeof__ __str__ __subclasshook__"),
  ("int",
    "__abs__ __add__ __and__ __bool__ __ceil__ __divmod__ __doc__ __eq__ __float__ __floor__ " ++
    "__floordiv__ __format__ __ge__ __getattribute__ __getnewargs__ __gt__ __hash__ " ++
    "__index__ __int__ __invert__ __le__ __lshift__ __lt__ __mod__ __mul__ __ne__ __neg__ " ++
    "__new__ __or__ __pos__ __pow__ __radd__ __rand__ __rdivmod__ __repr__ __rfloordiv__ " ++
    "__rlshift__ __rmod__ __rmul__ __ror__ __round__ __rpow__ __rrshift__ __rshift__ " ++
    "__rsub__ __rtruediv__ __rxor__ __sizeof__ __sub__ __truediv__ __trunc__ __xor__ " ++
    "as_integer_ratio bit_count bit_length conjugate denominator from_bytes imag numerator " ++
    "real to_bytes"),
  ("float",
    "__abs__ __add__ __bool__ __ceil__ __divmod__ __doc__ __eq__ __float__ __floor__ " ++
    "__floordiv__ __format__ __ge__ __getattribute__ __getformat__ __getnewargs__ __gt__ " ++
    "__hash__ __int__ __le__ __lt__ __mod__ __mul__ __ne__ __neg__ __new__ __pos__ __pow__ " ++
    "__radd__ __rdivmod__ __repr__ __rfloordiv__ __rmod__ __rmul__ __round__ __rpow__ " ++
    "__rsub__ __rtruediv__ __sub__ __truediv__ __trunc__ as_integer_ratio conjugate fromhex " ++
    "hex imag is_integer real"),
  ("complex",
    "__abs__ __add__ __bool__ __complex__ __doc__ __eq__ __format__ __ge__ __getattribute__ " ++
    "__getnewargs__ __gt__ __hash__ __le__ __lt__ __mul__ __ne__ __neg__ __new__ __pos__ " ++
    "__pow__ __radd__ __repr__ __rmul__ __rpow__ __rsub__ __rtruediv__ __sub__ __truediv__ " ++
    "conjugate imag real"),
  ("str",
    "__add__ __contains__ __doc__ __eq__ __format__ __ge__ __getattribute__ __getitem__ " ++
    "__getnewargs__ __gt__ __hash__ __iter__ __le__ __len__ __lt__ __mod__ __mul__ __ne__ " ++
    "__new__ __repr__ __rmod__ __rmul__ __sizeof__ __str__ capitalize casefold center count " ++
    "encode endswith expandtabs find format format_map index isalnum isalpha isascii " ++
    "isdecimal isdigit isidentifier islower isnumeric isprintable isspace istitle isupper " ++
    "join ljust lower lstrip maketrans partition removeprefix removesuffix replace rfind " ++
    "rindex rjust rpartition rsplit rstrip split splitlines startswith strip swapcase title " ++
    "translate upper zfill"),
  ("bytes",
    "__add__ __bytes__ __contains__ __doc__ __eq__ __ge__ __getattribute__ __getitem__ " ++
    "__getnewargs__ __gt__ __hash__ __iter__ __le__ __len__ __lt__ __mod__ __mul__ __ne__ " ++
    "__new__ __repr__ __rmod__ __rmul__ __str__ capitalize center count decode endswith " ++
    "expandtabs find fromhex hex index isalnum isalpha isascii isdigit islower isspace " ++
    "istitle isupper join ljust lower lstrip maketrans partition removeprefix removesuffix " ++
    "replace rfind rindex rjust rpartition rsplit rstrip split splitlines startswith strip " ++
    "swapcase title translate upper zfill"),
  ("bytearray",
    "__add__ __alloc__ __contains__ __delitem__ __doc__ __eq__ __ge__ __getattribute__ " ++
    "__getitem__ __gt__ __hash__ __iadd__ __imul__ __init__ __iter__ __le__ __len__ __lt__ " ++
    "__mod__ __mul__ __ne__ __new__ __reduce__ __reduce_ex__ __repr__ __rmod__ __rmul__ " ++
    "__setitem__ __sizeof__ __str__ append capitalize center clear copy count decode " ++
    "endswith expandtabs extend find fromhex hex index insert isalnum isalpha isascii " ++
    "isdigit islower isspace istitle isupper join ljust lower lstrip maketrans partition pop " ++
    "remove removeprefix removesuffix replace reverse rfind rindex rjust rpartition rsplit " ++
    "rstrip split splitlines startswith strip swapcase title translate upper zfill"),
  ("list",
    "__add__ __class_getitem__ __contains__ __delitem__ __doc__ __eq__ __ge__ " ++
    "__getattribute__ __getitem__ __gt__ __hash__ __iadd__ __imul__ __init__ __iter__ __le__ " ++
    "__len__ __lt__ __mul__ __ne__ __new__ __repr__ __reversed__ __rmul__ __setitem__ " ++
    "__sizeof__ append clear copy count extend index insert pop remove reverse sort"),
  ("tuple",
    "__add__ __class_getitem__ __contains__ __doc__ __eq__ __ge__ __getattribute__ " ++
    "__getitem__ __getnewargs__ __gt__ __hash__ __iter__ __le__ __len__ __lt__ __mul__ " ++
    "__ne__ __new__ __repr__ __rmul__ count index"),
  ("dict",
    "__class_getitem__ __contains__ __delitem__ __doc__ __eq__ __ge__ __getattribute__ " ++
    "__getitem__ __gt__ __hash__ __init__ __ior__ __iter__ __le__ __len__ __lt__ __ne__ " ++
    "__new__ __or__ __repr__ __reversed__ __ror__ __setitem__ __sizeof__ clear copy fromkeys " ++
    "get items keys pop popitem setdefault update values"),
  ("set",
    "__and__ __class_getitem__ __contains__ __doc__ __eq__ __ge__ __getattribute__ __gt__ " ++
    "__hash__ __iand__ __init__ __ior__ __isub__ __iter__ __ixor__ __le__ __len__ __lt__ " ++
    "__ne__ __new__ __or__ __rand__ __reduce__ __repr__ __ror__ __rsub__ __rxor__ __sizeof__ " ++
    "__sub__ __xor__ add clear copy difference difference_update discard intersection " ++
    "intersection_update isdisjoint issubset issuperset pop remove symmetric_difference " ++
    "symmetric_difference_update union update"),
  ("frozenset",
    "__and__ __class_getitem__ __contains__ __doc__ __eq__ __ge__ __getattribute__ __gt__ " ++
    "__hash__ __iter__ __le__ __len__ __lt__ __ne__ __new__ __or__ __rand__ __reduce__ " ++
    "__repr__ __ror__ __rsub__ __rxor__ __sizeof__ __sub__ __xor__ copy difference " ++
    "intersection isdisjoint issubset issuperset symmetric_difference union"),
  ("range",
    "__bool__ __contains__ __doc__ __eq__ __ge__ __getattribute__ __getitem__ __gt__ " ++
    "__hash__ __iter__ __le__ __len__ __lt__ __ne__ __new__ __reduce__ __repr__ __reversed__ " ++
    "count index start step stop"),
  ("slice",
    "__doc__ __eq__ __ge__ __getattribute__ __gt__ __hash__ __le__ __lt__ __ne__ __new__ " ++
    "__reduce__ __repr__ indices start step stop"),
  ("function",
    "__annotations__ __builtins__ __call__ __closure__ __code__ __defaults__ __dict__ " ++
    "__doc__ __get__ __globals__ __kwdefaults__ __module__ __name__ __new__ __qualname__ " ++
    "__repr__"),
  ("builtin_function_or_method",
    "__call__ __doc__ __eq__ __ge__ __getattribute__ __gt__ __hash__ __le__ __lt__ " ++
    "__module__ __name__ __ne__ __qualname__ __reduce__ __repr__ __self__ __text_signature__"),
  ("method",
    "__call__ __delattr__ __doc__ __eq__ __func__ __ge__ __getattribute__ __gt__ __hash__ " ++
    "__le__ __lt__ __ne__ __new__ __reduce__ __repr__ __self__ __setattr__"),
  ("method_descriptor",
    "__call__ __doc__ __get__ __getattribute__ __name__ __objclass__ __qualname__ __reduce__ " ++
    "__repr__ __text_signature__"),
  ("type",
    "__abstractmethods__ __annotations__ __base__ __bases__ __basicsize__ __call__ " ++
    "__delattr__ __dict__ __dictoffset__ __dir__ __doc__ __flags__ __getattribute__ __init__ " ++
    "__instancecheck__ __itemsize__ __module__ __mro__ __name__ __new__ __or__ __prepare__ " ++
    "__qualname__ __repr__ __ror__ __setattr__ __sizeof__ __subclasscheck__ __subclasses__ " ++
    "__text_signature__ __weakrefoffset__ mro"),
  ("module",
    "__annotations__ __delattr__ __dict__ __dir__ __doc__ __getattribute__ __init__ __new__ " ++
    "__repr__ __setattr__"),
  ("generator",
    "__del__ __doc__ __getattribute__ __iter__ __name__ __next__ __qualname__ __repr__ " ++
    "__sizeof__ close gi_code gi_frame gi_running gi_suspended gi_yieldfrom send throw"),
  ("coroutine",
    "__await__ __del__ __doc__ __getattribute__ __name__ __qualname__ __repr__ __sizeof__ " ++
    "close cr_await cr_code cr_frame cr_origin cr_running cr_suspended send throw"),
  ("async_generator",
    "__aiter__ __anext__ __class_getitem__ __del__ __doc__ __getattribute__ __name__ " ++
    "__qualname__ __repr__ aclose ag_await ag_code ag_frame ag_running asend athrow"),
  ("async_generator_asend",
    "__await__ __doc__ __getattribute__ __iter__ __next__ close send throw"),
  ("async_generator_athrow",
    "__await__ __doc__ __getattribute__ __iter__ __next__ close send throw"),
  ("property",
    "__delete__ __doc__ __get__ __getattribute__ __init__ __isabstractmethod__ __new__ " ++
    "__set__ __set_name__ deleter fdel fget fset getter setter"),
  ("staticmethod",
    "__call__ __dict__ __doc__ __func__ __get__ __init__ __isabstractmethod__ __new__ " ++
    "__repr__ __wrapped__"),
  ("classmethod",
    "__dict__ __doc__ __func__ __get__ __init__ __isabstractmethod__ __new__ __repr__ " ++
    "__wrapped__"),
  ("super",
    "__doc__ __get__ __getattribute__ __init__ __new__ __repr__ __self__ __self_class__ " ++
    "__thisclass__"),
  ("enumerate",
    "__class_getitem__ __doc__ __getattribute__ __iter__ __new__ __next__ __reduce__"),
  ("zip",
    "__doc__ __getattribute__ __iter__ __new__ __next__ __reduce__ __setstate__"),
  ("map",
    "__doc__ __getattribute__ __iter__ __new__ __next__ __reduce__"),
  ("filter",
    "__doc__ __getattribute__ __iter__ __new__ __next__ __reduce__"),
  ("reversed",
    "__doc__ __getattribute__ __iter__ __length_hint__ __new__ __next__ __reduce__ " ++
    "__setstate__"),
  ("dict_keys",
    "__and__ __contains__ __doc__ __eq__ __ge__ __getattribute__ __gt__ __hash__ __iter__ " ++
    "__le__ __len__ __lt__ __ne__ __or__ __rand__ __repr__ __reversed__ __ror__ __rsub__ " ++
    "__rxor__ __sub__ __xor__ isdisjoint mapping"),
  ("dict_values",
    "__doc__ __getattribute__ __iter__ __len__ __repr__ __reversed__ mapping"),
  ("dict_items",
    "__and__ __contains__ __doc__ __eq__ __ge__ __getattribute__ __gt__ __hash__ __iter__ " ++
    "__le__ __len__ __lt__ __ne__ __or__ __rand__ __repr__ __reversed__ __ror__ __rsub__ " ++
    "__rxor__ __sub__ __xor__ isdisjoint mapping"),
  ("list_iterator",
    "__doc__ __getattribute__ __iter__ __length_hint__ __next__ __reduce__ __setstate__"),
  ("NoneType",
    "__bool__ __doc__ __new__ __repr__"),
  ("cell",
    "__doc__ __eq__ __ge__ __getattribute__ __gt__ __le__ __lt__ __ne__ __new__ __repr__ cell_contents"),
  ("code",
    "__doc__ __eq__ __ge__ __getattribute__ __gt__ __hash__ __le__ __lt__ __ne__ __new__ " ++
    "__repr__ __sizeof__ _co_code_adaptive _varname_from_oparg co_argcount co_cellvars " ++
    "co_code co_consts co_exceptiontable co_filename co_firstlineno co_flags co_freevars " ++
    "co_kwonlyargcount co_lines co_linetable co_lnotab co_name co_names co_nlocals " ++
    "co_positions co_posonlyargcount co_qualname co_stacksize co_varnames replace"),
  ("BaseException",
    "__cause__ __context__ __delattr__ __dict__ __doc__ __getattribute__ __init__ __new__ " ++
    "__reduce__ __repr__ __setattr__ __setstate__ __str__ __suppress_context__ __traceback__ " ++
    "add_note args with_traceback"),
  ("StopIteration",
    "__doc__ __init__ value"),
  ("ImportError",
    "__doc__ __init__ __reduce__ __str__ msg name path"),
  ("AttributeError",
    "__doc__ __init__ __str__ name obj"),
  ("NameError",
    "__doc__ __init__ __str__ name"),
  ("OSError",
    "__doc__ __init__ __new__ __reduce__ __str__ characters_written errno filename filename2 " ++
    "strerror"),
  ("SyntaxError",
    "__doc__ __init__ __str__ end_lineno end_offset filename lineno msg offset " ++
    "print_file_and_line text"),
  ("SystemExit",
    "__doc__ __init__ code"),
  ("UnicodeDecodeError",
    "__doc__ __init__ __new__ __str__ encoding end object reason start"),
  ("UnicodeEncodeError",
    "__doc__ __init__ __new__ __str__ encoding end object reason start"),
  ("UnicodeTranslateError",
    "__doc__ __init__ __new__ __str__ encoding end object reason start"),
  ("BaseExceptionGroup",
    "__class_getitem__ __doc__ __init__ __new__ __str__ derive exceptions message split " ++
    "subgroup"),
  ("ellipsis",
    "__doc__ __getattribute__ __new__ __reduce__ __repr__"),
  ("mappingproxy",
    "__class_getitem__ __contains__ __doc__ __eq__ __ge__ __getattribute__ __getitem__ " ++
    "__gt__ __hash__ __ior__ __iter__ __le__ __len__ __lt__ __ne__ __new__ __or__ __repr__ " ++
    "__reversed__ __ror__ __str__ copy get items keys values"),
  ("memoryview",
    "__delitem__ __doc__ __enter__ __eq__ __exit__ __ge__ __getattribute__ __getitem__ " ++
    "__gt__ __hash__ __iter__ __le__ __len__ __lt__ __ne__ __new__ __repr__ __setitem__ " ++
    "c_contiguous cast contiguous f_contiguous format hex itemsize nbytes ndim obj readonly " ++
    "release shape strides suboffsets tobytes tolist toreadonly")]

/-- Attributes of what only gives one value after the other. -/
def iteratorMembers : List Text := words "__iter__ __next__ __length_hint__ __reduce__"

/-- The attributes of a class, without those of the classes that it belongs to. -/
def membersOf (name : Text) : List Text :=
  let row : Text :=
    if name == "wrapper_descriptor" || name == "method-wrapper" then "method_descriptor" else name
  match members.lookup row with
  | some names => names
  | none =>
    if "iterator".toList.isSuffixOf name then iteratorMembers
    else if isError name then ["__init__", "__new__", "__doc__"].map String.toList
    else []

def hasMember (kind name : Text) : Bool := (membersOf kind).contains name

def classMethods : List (Text × List Text) := rows [
  ("dict", "fromkeys __class_getitem__"), ("int", "from_bytes"), ("float", "fromhex __getformat__"),
  ("bytes", "fromhex"), ("bytearray", "fromhex"), ("list", "__class_getitem__"),
  ("tuple", "__class_getitem__"), ("set", "__class_getitem__"), ("frozenset", "__class_getitem__"),
  ("object", "__init_subclass__ __subclasshook__"), ("type", "__prepare__")]

def freeMethods : List (Text × List Text) := rows [
  ("str", "maketrans"), ("bytes", "maketrans"), ("bytearray", "maketrans"), ("object", "__new__")]

def isClassMethod (kind name : Text) : Bool := ((classMethods.lookup kind).getD []).contains name

def isFreeMethod (kind name : Text) : Bool :=
  ((freeMethods.lookup kind).getD []).contains name || name == "__new__"

end Kind

end Forwarding.Script
