import Forwarding.Script.Machine.Value

/-! The classes of the scripting language, and which of them a class belongs to. -/

set_option autoImplicit false

namespace Forwarding.Script

open Text

namespace Kind

def rows (t : List (String × String)) : List (Text × List Text) :=
  t.map fun (name, more) => (name.toList, words more.toList)

def errors : List (Text × List Text) := rows [
  ("ArithmeticError", "FloatingPointError OverflowError ZeroDivisionError"),
  ("BaseException", "BaseExceptionGroup Exception GeneratorExit KeyboardInterrupt SystemExit"),
  ("BaseExceptionGroup", "ExceptionGroup"),
  ("ConnectionError",
    "BrokenPipeError ConnectionAbortedError ConnectionRefusedError ConnectionResetError"),
  ("Exception",
    "ArithmeticError AssertionError AttributeError BufferError EOFError ImportError LookupError " ++
    "MemoryError NameError OSError ReferenceError RuntimeError StopAsyncIteration StopIteration " ++
    "SyntaxError SystemError TypeError ValueError Warning"),
  ("ImportError", "ModuleNotFoundError"),
  ("IndentationError", "TabError"),
  ("LookupError", "IndexError KeyError"),
  ("NameError", "UnboundLocalError"),
  ("OSError",
    "BlockingIOError ChildProcessError ConnectionError FileExistsError FileNotFoundError " ++
    "InterruptedError IsADirectoryError NotADirectoryError PermissionError ProcessLookupError " ++
    "TimeoutError"),
  ("RuntimeError", "NotImplementedError RecursionError"),
  ("SyntaxError", "IndentationError"),
  ("UnicodeError", "UnicodeDecodeError UnicodeEncodeError UnicodeTranslateError"),
  ("ValueError", "UnicodeError"),
  ("Warning",
    "BytesWarning DeprecationWarning EncodingWarning FutureWarning ImportWarning " ++
    "PendingDeprecationWarning ResourceWarning RuntimeWarning SyntaxWarning UnicodeWarning " ++
    "UserWarning"),
  ("int", "bool")]

def aliases : List (Text × Text) := [("EnvironmentError", "OSError"), ("IOError", "OSError")]

def named : List Text := words <|
    "bool bytearray bytes classmethod complex dict enumerate filter float frozenset int list " ++
    "map memoryview object property range reversed set slice staticmethod str super tuple type " ++
    "zip"

def isError (name : Text) : Bool :=
  name == "BaseException" ||
    errors.any fun row => row.1 != "int" && row.2.contains name

/-- The class that a class belongs to; `object` belongs to none. -/
def above? (name : Text) : Option Text :=
  match errors.find? fun row => row.2.contains name with
  | some row => some row.1
  | none => if name == "object" then none else some "object"

/-- The class and those that it belongs to. The number bounds how many. -/
def lineOf : Nat → Text → List Text
  | 0, _ => []
  | count + 1, name =>
    name :: match above? name with
      | some above => lineOf count above
      | none => []

/-- The class and those that it belongs to, in the order in which attributes are looked for. -/
def line (name : Text) : List Text :=
  if name == "ExceptionGroup" then
    ["ExceptionGroup", "BaseExceptionGroup", "Exception", "BaseException", "object"].map String.toList
  else lineOf 8 name

def ofName? (name : Text) : Option Text :=
  let name := (aliases.lookup name).getD name
  if named.contains name || isError name then some name else none

def closed : List Text := words <|
    "bool range slice NoneType ellipsis NotImplementedType function generator " ++
    "builtin_function_or_method method memoryview"

def plainSpecials : List Text := words <|
    "__alloc__ __bytes__ __ceil__ __complex__ __dir__ __enter__ __exit__ __floor__ __format__ " ++
    "__getnewargs__ __getstate__ __instancecheck__ __length_hint__ __reduce__ __reduce_ex__ " ++
    "__reversed__ __round__ __set_name__ __setstate__ __sizeof__ __subclasscheck__ " ++
    "__subclasses__ __trunc__ __init_subclass__ __class_getitem__ __subclasshook__ __getformat__ " ++
    "__prepare__ __new__"

/-- Whether a method of a class stands for an operation of the language. -/
def isOperation (kind name : Text) : Bool :=
  name.take 2 == ['_', '_'] && !plainSpecials.contains name &&
    !(name == "__contains__" && (words "set frozenset dict").contains kind) &&
    !(name == "__getitem__" && (words "list dict").contains kind)

def isUnhashable (kind : Text) : Bool :=
  (words "list dict set bytearray slice dict_keys dict_items").contains kind

end Kind

def Value.kindName : Value → Text
  | .nothing => "NoneType"
  | .ellipsis => "ellipsis"
  | .inapplicable => "NotImplementedType"
  | .truth _ => "bool"
  | .integer _ => "int"
  | .real _ => "float"
  | .complex _ _ => "complex"
  | .text _ => "str"
  | .bytes _ => "bytes"
  | .tuple _ => "tuple"
  | .range _ _ _ => "range"
  | .slice _ _ _ => "slice"
  | .subject => "Subject"
  | .forwarding _ => "function"
  | .kind _ => "type"
  | .builtin _ => "builtin_function_or_method"
  | .method .subject _ => "function"
  | .method _ name =>
    if Kind.isOperation [] name then "method-wrapper" else "builtin_function_or_method"
  | .unbound k name =>
    if Kind.isOperation k name then "wrapper_descriptor" else "method_descriptor"
  | .object _ => "object"

end Forwarding.Script
