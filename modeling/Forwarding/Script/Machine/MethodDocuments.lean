/-! The documents of the methods of the classes of the scripting language. -/

set_option autoImplicit false

namespace Forwarding.Script.Documents

def shared : List (String × String) := [
  ("__abs__", "abs(self)"),
  ("__add__", "Return self+value."),
  ("__and__", "Return self&value."),
  ("__await__", "Return an iterator to be used in await expression."),
  ("__bool__", "True if self else False"),
  ("__call__", "Call self as a function."),
  ("__class_getitem__", "See PEP 585"),
  ("__contains__", "Return key in self."),
  ("__delattr__", "Implement delattr(self, name)."),
  ("__delete__", "Delete an attribute of instance."),
  ("__delitem__", "Delete self[key]."),
  ("__divmod__", "Return divmod(self, value)."),
  ("__eq__", "Return self==value."),
  ("__float__", "float(self)"),
  ("__floordiv__", "Return self//value."),
  ("__ge__", "Return self>=value."),
  ("__get__", "Return an attribute of instance, which is of type owner."),
  ("__getattribute__", "Return getattr(self, name)."),
  ("__getitem__", "Return self[key]."),
  ("__gt__", "Return self>value."),
  ("__hash__", "Return hash(self)."),
  ("__iadd__", "Implement self+=value."),
  ("__imul__", "Implement self*=value."),
  ("__init__", "Initialize self.  See help(type(self)) for accurate signature."),
  ("__int__", "int(self)"),
  ("__ior__", "Return self|=value."),
  ("__iter__", "Implement iter(self)."),
  ("__le__", "Return self<=value."),
  ("__len__", "Return len(self)."),
  ("__length_hint__", "Private method returning an estimate of len(list(it))."),
  ("__lt__", "Return self<value."),
  ("__mod__", "Return self%value."),
  ("__mul__", "Return self*value."),
  ("__ne__", "Return self!=value."),
  ("__neg__", "-self"),
  ("__new__", "Create and return a new object.  See help(type) for accurate signature."),
  ("__next__", "Implement next(self)."),
  ("__or__", "Return self|value."),
  ("__pos__", "+self"),
  ("__pow__", "Return pow(self, value, mod)."),
  ("__radd__", "Return value+self."),
  ("__rand__", "Return value&self."),
  ("__rdivmod__", "Return divmod(value, self)."),
  ("__reduce__", "Return state information for pickling."),
  ("__repr__", "Return repr(self)."),
  ("__reversed__", "Return a reverse iterator over the dict keys."),
  ("__rfloordiv__", "Return value//self."),
  ("__rmod__", "Return value%self."),
  ("__rmul__", "Return value*self."),
  ("__ror__", "Return value|self."),
  ("__rpow__", "Return pow(value, self, mod)."),
  ("__rsub__", "Return value-self."),
  ("__rtruediv__", "Return value/self."),
  ("__rxor__", "Return value^self."),
  ("__set__", "Set an attribute of instance to value."),
  ("__setattr__", "Implement setattr(self, name, value)."),
  ("__setitem__", "Set self[key] to value."),
  ("__setstate__", "Set state information for unpickling."),
  ("__sizeof__", "gen.__sizeof__() -> size of gen in memory, in bytes"),
  ("__str__", "Return str(self)."),
  ("__sub__", "Return self-value."),
  ("__truediv__", "Return self/value."),
  ("__xor__", "Return self^value.")]

def methods : List (String × String) := [
  ("BaseException.add_note", "Exception.add_note(note) --\n    add a note to the exception"),
  ("BaseException.with_traceback",
    "Exception.with_traceback(tb) --\n    set self.__traceback__ to tb and return self."),
  ("async_generator.__aiter__", "Return an awaitable, that resolves in asynchronous iterator."),
  ("async_generator.__anext__", "Return a value or raise StopAsyncIteration."),
  ("async_generator.aclose", "aclose() -> raise GeneratorExit inside generator."),
  ("async_generator.asend", "asend(v) -> send 'v' in generator."),
  ("async_generator.athrow", "athrow(typ[,val[,tb]]) -> raise exception in generator."),
  ("async_generator_asend.close", "close() -> raise GeneratorExit inside generator."),
  ("async_generator_asend.send",
    "send(arg) -> send 'arg' into generator,\nreturn next yielded value or raise " ++
      "StopIteration."),
  ("async_generator_asend.throw",
    "throw(value)\nthrow(type[,value[,tb]])\n\nRaise exception in generator, return next " ++
      "yielded value or raise\nStopIteration."),
  ("async_generator_athrow.close", "close() -> raise GeneratorExit inside generator."),
  ("async_generator_athrow.send",
    "send(arg) -> send 'arg' into generator,\nreturn next yielded value or raise " ++
      "StopIteration."),
  ("async_generator_athrow.throw",
    "throw(value)\nthrow(type[,value[,tb]])\n\nRaise exception in generator, return next " ++
      "yielded value or raise\nStopIteration."),
  ("bytearray.__alloc__",
    "B.__alloc__() -> int\n\nReturn the number of bytes actually allocated."),
  ("bytearray.__reduce_ex__", "Return state information for pickling."),
  ("bytearray.__sizeof__", "Returns the size of the bytearray object in memory, in bytes."),
  ("bytearray.append",
    "Append a single item to the end of the bytearray.\n\n  item\n    The item to be " ++
      "appended."),
  ("bytearray.capitalize",
    "B.capitalize() -> copy of B\n\nReturn a copy of B with only its first character " ++
      "capitalized (ASCII)\nand the rest lower-cased."),
  ("bytearray.center",
    "Return a centered string of length width.\n\nPadding is done using the specified fill " ++
      "character."),
  ("bytearray.clear", "Remove all items from the bytearray."),
  ("bytearray.copy", "Return a copy of B."),
  ("bytearray.count",
    "B.count(sub[, start[, end]]) -> int\n\nReturn the number of non-overlapping occurrences " ++
      "of subsection sub in\nbytes B[start:end].  Optional arguments start and end are " ++
      "interpreted\nas in slice notation."),
  ("bytearray.decode",
    "Decode the bytearray using the codec registered for encoding.\n\n  encoding\n    The " ++
      "encoding with which to decode the bytearray.\n  errors\n    The error handling scheme " ++
      "to use for the handling of decoding errors.\n    The default is 'strict' meaning that " ++
      "decoding errors raise a\n    UnicodeDecodeError. Other possible values are 'ignore' and " ++
      "'replace'\n    as well as any other name registered with codecs.register_error " ++
      "that\n    can handle UnicodeDecodeErrors."),
  ("bytearray.endswith",
    "B.endswith(suffix[, start[, end]]) -> bool\n\nReturn True if B ends with the specified " ++
      "suffix, False otherwise.\nWith optional start, test B beginning at that position.\nWith " ++
      "optional end, stop comparing B at that position.\nsuffix can also be a tuple of bytes " ++
      "to try."),
  ("bytearray.expandtabs",
    "Return a copy where all tab characters are expanded using spaces.\n\nIf tabsize is not " ++
      "given, a tab size of 8 characters is assumed."),
  ("bytearray.extend",
    "Append all the items from the iterator or sequence to the end of the bytearray.\n\n  " ++
      "iterable_of_ints\n    The iterable of items to append."),
  ("bytearray.find",
    "B.find(sub[, start[, end]]) -> int\n\nReturn the lowest index in B where subsection sub " ++
      "is found,\nsuch that sub is contained within B[start,end].  Optional\narguments start " ++
      "and end are interpreted as in slice notation.\n\nReturn -1 on failure."),
  ("bytearray.fromhex",
    "Create a bytearray object from a string of hexadecimal numbers.\n\nSpaces between two " ++
      "numbers are accepted.\nExample: bytearray.fromhex('B9 01EF') -> " ++
      "bytearray(b'\\\\xb9\\\\x01\\\\xef')"),
  ("bytearray.hex",
    "Create a string of hexadecimal numbers from a bytearray object.\n\n  sep\n    An " ++
      "optional single character or byte to separate hex bytes.\n  bytes_per_sep\n    How many " ++
      "bytes between separators.  Positive values count from the\n    right, negative values " ++
      "count from the left.\n\nExample:\n>>> value = bytearray([0xb9, 0x01, 0xef])\n>>> " ++
      "value.hex()\n'b901ef'\n>>> value.hex(':')\n'b9:01:ef'\n>>> value.hex(':', 2)\n" ++
      "'b9:01ef'\n>>> value.hex(':', -2)\n'b901:ef'"),
  ("bytearray.index",
    "B.index(sub[, start[, end]]) -> int\n\nReturn the lowest index in B where subsection " ++
      "sub is found,\nsuch that sub is contained within B[start,end].  Optional\narguments " ++
      "start and end are interpreted as in slice notation.\n\nRaises ValueError when the " ++
      "subsection is not found."),
  ("bytearray.insert",
    "Insert a single item into the bytearray before the given index.\n\n  index\n    The " ++
      "index where the value is to be inserted.\n  item\n    The item to be inserted."),
  ("bytearray.isalnum",
    "B.isalnum() -> bool\n\nReturn True if all characters in B are alphanumeric\nand there " ++
      "is at least one character in B, False otherwise."),
  ("bytearray.isalpha",
    "B.isalpha() -> bool\n\nReturn True if all characters in B are alphabetic\nand there is " ++
      "at least one character in B, False otherwise."),
  ("bytearray.isascii",
    "B.isascii() -> bool\n\nReturn True if B is empty or all characters in B are ASCII,\n" ++
      "False otherwise."),
  ("bytearray.isdigit",
    "B.isdigit() -> bool\n\nReturn True if all characters in B are digits\nand there is at " ++
      "least one character in B, False otherwise."),
  ("bytearray.islower",
    "B.islower() -> bool\n\nReturn True if all cased characters in B are lowercase and there " ++
      "is\nat least one cased character in B, False otherwise."),
  ("bytearray.isspace",
    "B.isspace() -> bool\n\nReturn True if all characters in B are whitespace\nand there is " ++
      "at least one character in B, False otherwise."),
  ("bytearray.istitle",
    "B.istitle() -> bool\n\nReturn True if B is a titlecased string and there is at least " ++
      "one\ncharacter in B, i.e. uppercase characters may only follow uncased\ncharacters and " ++
      "lowercase characters only cased ones. Return False\notherwise."),
  ("bytearray.isupper",
    "B.isupper() -> bool\n\nReturn True if all cased characters in B are uppercase and there " ++
      "is\nat least one cased character in B, False otherwise."),
  ("bytearray.join",
    "Concatenate any number of bytes/bytearray objects.\n\nThe bytearray whose method is " ++
      "called is inserted in between each pair.\n\nThe result is returned as a new bytearray " ++
      "object."),
  ("bytearray.ljust",
    "Return a left-justified string of length width.\n\nPadding is done using the specified " ++
      "fill character."),
  ("bytearray.lower",
    "B.lower() -> copy of B\n\nReturn a copy of B with all ASCII characters converted to " ++
      "lowercase."),
  ("bytearray.lstrip",
    "Strip leading bytes contained in the argument.\n\nIf the argument is omitted or None, " ++
      "strip leading ASCII whitespace."),
  ("bytearray.maketrans",
    "Return a translation table useable for the bytes or bytearray translate method.\n\nThe " ++
      "returned table will be one where each byte in frm is mapped to the byte at\nthe same " ++
      "position in to.\n\nThe bytes objects frm and to must be of the same length."),
  ("bytearray.partition",
    "Partition the bytearray into three parts using the given separator.\n\nThis will search " ++
      "for the separator sep in the bytearray. If the separator is\nfound, returns a 3-tuple " ++
      "containing the part before the separator, the\nseparator itself, and the part after it " ++
      "as new bytearray objects.\n\nIf the separator is not found, returns a 3-tuple " ++
      "containing the copy of the\noriginal bytearray object and two empty bytearray objects."),
  ("bytearray.pop",
    "Remove and return a single item from B.\n\n  index\n    The index from where to remove " ++
      "the item.\n    -1 (the default value) means remove the last item.\n\nIf no index " ++
      "argument is given, will pop the last item."),
  ("bytearray.remove",
    "Remove the first occurrence of a value in the bytearray.\n\n  value\n    The value to " ++
      "remove."),
  ("bytearray.removeprefix",
    "Return a bytearray with the given prefix string removed if present.\n\nIf the bytearray " ++
      "starts with the prefix string, return\nbytearray[len(prefix):].  Otherwise, return a " ++
      "copy of the original\nbytearray."),
  ("bytearray.removesuffix",
    "Return a bytearray with the given suffix string removed if present.\n\nIf the bytearray " ++
      "ends with the suffix string and that suffix is not\nempty, return " ++
      "bytearray[:-len(suffix)].  Otherwise, return a copy of\nthe original bytearray."),
  ("bytearray.replace",
    "Return a copy with all occurrences of substring old replaced by new.\n\n  count\n    " ++
      "Maximum number of occurrences to replace.\n    -1 (the default value) means replace all " ++
      "occurrences.\n\nIf the optional argument count is given, only the first count " ++
      "occurrences are\nreplaced."),
  ("bytearray.reverse", "Reverse the order of the values in B in place."),
  ("bytearray.rfind",
    "B.rfind(sub[, start[, end]]) -> int\n\nReturn the highest index in B where subsection " ++
      "sub is found,\nsuch that sub is contained within B[start,end].  Optional\narguments " ++
      "start and end are interpreted as in slice notation.\n\nReturn -1 on failure."),
  ("bytearray.rindex",
    "B.rindex(sub[, start[, end]]) -> int\n\nReturn the highest index in B where subsection " ++
      "sub is found,\nsuch that sub is contained within B[start,end].  Optional\narguments " ++
      "start and end are interpreted as in slice notation.\n\nRaise ValueError when the " ++
      "subsection is not found."),
  ("bytearray.rjust",
    "Return a right-justified string of length width.\n\nPadding is done using the specified " ++
      "fill character."),
  ("bytearray.rpartition",
    "Partition the bytearray into three parts using the given separator.\n\nThis will search " ++
      "for the separator sep in the bytearray, starting at the end.\nIf the separator is " ++
      "found, returns a 3-tuple containing the part before the\nseparator, the separator " ++
      "itself, and the part after it as new bytearray\nobjects.\n\nIf the separator is not " ++
      "found, returns a 3-tuple containing two empty bytearray\nobjects and the copy of the " ++
      "original bytearray object."),
  ("bytearray.rsplit",
    "Return a list of the sections in the bytearray, using sep as the delimiter.\n\n  " ++
      "sep\n    The delimiter according which to split the bytearray.\n    None (the default " ++
      "value) means split on ASCII whitespace characters\n    (space, tab, return, newline, " ++
      "formfeed, vertical tab).\n  maxsplit\n    Maximum number of splits to do.\n    -1 (the " ++
      "default value) means no limit.\n\nSplitting is done starting at the end of the " ++
      "bytearray and working to the front."),
  ("bytearray.rstrip",
    "Strip trailing bytes contained in the argument.\n\nIf the argument is omitted or None, " ++
      "strip trailing ASCII whitespace."),
  ("bytearray.split",
    "Return a list of the sections in the bytearray, using sep as the delimiter.\n\n  " ++
      "sep\n    The delimiter according which to split the bytearray.\n    None (the default " ++
      "value) means split on ASCII whitespace characters\n    (space, tab, return, newline, " ++
      "formfeed, vertical tab).\n  maxsplit\n    Maximum number of splits to do.\n    -1 (the " ++
      "default value) means no limit."),
  ("bytearray.splitlines",
    "Return a list of the lines in the bytearray, breaking at line boundaries.\n\nLine " ++
      "breaks are not included in the resulting list unless keepends is given and\ntrue."),
  ("bytearray.startswith",
    "B.startswith(prefix[, start[, end]]) -> bool\n\nReturn True if B starts with the " ++
      "specified prefix, False otherwise.\nWith optional start, test B beginning at that " ++
      "position.\nWith optional end, stop comparing B at that position.\nprefix can also be a " ++
      "tuple of bytes to try."),
  ("bytearray.strip",
    "Strip leading and trailing bytes contained in the argument.\n\nIf the argument is " ++
      "omitted or None, strip leading and trailing ASCII whitespace."),
  ("bytearray.swapcase",
    "B.swapcase() -> copy of B\n\nReturn a copy of B with uppercase ASCII characters " ++
      "converted\nto lowercase ASCII and vice versa."),
  ("bytearray.title",
    "B.title() -> copy of B\n\nReturn a titlecased version of B, i.e. ASCII words start with " ++
      "uppercase\ncharacters, all remaining cased characters have lowercase."),
  ("bytearray.translate",
    "Return a copy with each character mapped by the given translation table.\n\n  " ++
      "table\n    Translation table, which must be a bytes object of length 256.\n\nAll " ++
      "characters occurring in the optional argument delete are removed.\nThe remaining " ++
      "characters are mapped through the given translation table."),
  ("bytearray.upper",
    "B.upper() -> copy of B\n\nReturn a copy of B with all ASCII characters converted to " ++
      "uppercase."),
  ("bytearray.zfill",
    "Pad a numeric string with zeros on the left, to fill a field of the given width.\n\nThe " ++
      "original string is never truncated."),
  ("bytes.__bytes__", "Convert this value to exact type bytes."),
  ("bytes.capitalize",
    "B.capitalize() -> copy of B\n\nReturn a copy of B with only its first character " ++
      "capitalized (ASCII)\nand the rest lower-cased."),
  ("bytes.center",
    "Return a centered string of length width.\n\nPadding is done using the specified fill " ++
      "character."),
  ("bytes.count",
    "B.count(sub[, start[, end]]) -> int\n\nReturn the number of non-overlapping occurrences " ++
      "of subsection sub in\nbytes B[start:end].  Optional arguments start and end are " ++
      "interpreted\nas in slice notation."),
  ("bytes.decode",
    "Decode the bytes using the codec registered for encoding.\n\n  encoding\n    The " ++
      "encoding with which to decode the bytes.\n  errors\n    The error handling scheme to " ++
      "use for the handling of decoding errors.\n    The default is 'strict' meaning that " ++
      "decoding errors raise a\n    UnicodeDecodeError. Other possible values are 'ignore' and " ++
      "'replace'\n    as well as any other name registered with codecs.register_error " ++
      "that\n    can handle UnicodeDecodeErrors."),
  ("bytes.endswith",
    "B.endswith(suffix[, start[, end]]) -> bool\n\nReturn True if B ends with the specified " ++
      "suffix, False otherwise.\nWith optional start, test B beginning at that position.\nWith " ++
      "optional end, stop comparing B at that position.\nsuffix can also be a tuple of bytes " ++
      "to try."),
  ("bytes.expandtabs",
    "Return a copy where all tab characters are expanded using spaces.\n\nIf tabsize is not " ++
      "given, a tab size of 8 characters is assumed."),
  ("bytes.find",
    "B.find(sub[, start[, end]]) -> int\n\nReturn the lowest index in B where subsection sub " ++
      "is found,\nsuch that sub is contained within B[start,end].  Optional\narguments start " ++
      "and end are interpreted as in slice notation.\n\nReturn -1 on failure."),
  ("bytes.fromhex",
    "Create a bytes object from a string of hexadecimal numbers.\n\nSpaces between two " ++
      "numbers are accepted.\nExample: bytes.fromhex('B9 01EF') -> b'\\\\xb9\\\\x01\\\\xef'."),
  ("bytes.hex",
    "Create a string of hexadecimal numbers from a bytes object.\n\n  sep\n    An optional " ++
      "single character or byte to separate hex bytes.\n  bytes_per_sep\n    How many bytes " ++
      "between separators.  Positive values count from the\n    right, negative values count " ++
      "from the left.\n\nExample:\n>>> value = b'\\xb9\\x01\\xef'\n>>> value.hex()\n'b901ef'\n" ++
      ">>> value.hex(':')\n'b9:01:ef'\n>>> value.hex(':', 2)\n'b9:01ef'\n>>> value.hex(':', " ++
      "-2)\n'b901:ef'"),
  ("bytes.index",
    "B.index(sub[, start[, end]]) -> int\n\nReturn the lowest index in B where subsection " ++
      "sub is found,\nsuch that sub is contained within B[start,end].  Optional\narguments " ++
      "start and end are interpreted as in slice notation.\n\nRaises ValueError when the " ++
      "subsection is not found."),
  ("bytes.isalnum",
    "B.isalnum() -> bool\n\nReturn True if all characters in B are alphanumeric\nand there " ++
      "is at least one character in B, False otherwise."),
  ("bytes.isalpha",
    "B.isalpha() -> bool\n\nReturn True if all characters in B are alphabetic\nand there is " ++
      "at least one character in B, False otherwise."),
  ("bytes.isascii",
    "B.isascii() -> bool\n\nReturn True if B is empty or all characters in B are ASCII,\n" ++
      "False otherwise."),
  ("bytes.isdigit",
    "B.isdigit() -> bool\n\nReturn True if all characters in B are digits\nand there is at " ++
      "least one character in B, False otherwise."),
  ("bytes.islower",
    "B.islower() -> bool\n\nReturn True if all cased characters in B are lowercase and there " ++
      "is\nat least one cased character in B, False otherwise."),
  ("bytes.isspace",
    "B.isspace() -> bool\n\nReturn True if all characters in B are whitespace\nand there is " ++
      "at least one character in B, False otherwise."),
  ("bytes.istitle",
    "B.istitle() -> bool\n\nReturn True if B is a titlecased string and there is at least " ++
      "one\ncharacter in B, i.e. uppercase characters may only follow uncased\ncharacters and " ++
      "lowercase characters only cased ones. Return False\notherwise."),
  ("bytes.isupper",
    "B.isupper() -> bool\n\nReturn True if all cased characters in B are uppercase and there " ++
      "is\nat least one cased character in B, False otherwise."),
  ("bytes.join",
    "Concatenate any number of bytes objects.\n\nThe bytes whose method is called is " ++
      "inserted in between each pair.\n\nThe result is returned as a new bytes object.\n\n" ++
      "Example: b'.'.join([b'ab', b'pq', b'rs']) -> b'ab.pq.rs'."),
  ("bytes.ljust",
    "Return a left-justified string of length width.\n\nPadding is done using the specified " ++
      "fill character."),
  ("bytes.lower",
    "B.lower() -> copy of B\n\nReturn a copy of B with all ASCII characters converted to " ++
      "lowercase."),
  ("bytes.lstrip",
    "Strip leading bytes contained in the argument.\n\nIf the argument is omitted or None, " ++
      "strip leading  ASCII whitespace."),
  ("bytes.maketrans",
    "Return a translation table useable for the bytes or bytearray translate method.\n\nThe " ++
      "returned table will be one where each byte in frm is mapped to the byte at\nthe same " ++
      "position in to.\n\nThe bytes objects frm and to must be of the same length."),
  ("bytes.partition",
    "Partition the bytes into three parts using the given separator.\n\nThis will search for " ++
      "the separator sep in the bytes. If the separator is found,\nreturns a 3-tuple " ++
      "containing the part before the separator, the separator\nitself, and the part after " ++
      "it.\n\nIf the separator is not found, returns a 3-tuple containing the original bytes\n" ++
      "object and two empty bytes objects."),
  ("bytes.removeprefix",
    "Return a bytes object with the given prefix string removed if present.\n\nIf the bytes " ++
      "starts with the prefix string, return bytes[len(prefix):].\nOtherwise, return a copy of " ++
      "the original bytes."),
  ("bytes.removesuffix",
    "Return a bytes object with the given suffix string removed if present.\n\nIf the bytes " ++
      "ends with the suffix string and that suffix is not empty,\nreturn " ++
      "bytes[:-len(prefix)].  Otherwise, return a copy of the original\nbytes."),
  ("bytes.replace",
    "Return a copy with all occurrences of substring old replaced by new.\n\n  count\n    " ++
      "Maximum number of occurrences to replace.\n    -1 (the default value) means replace all " ++
      "occurrences.\n\nIf the optional argument count is given, only the first count " ++
      "occurrences are\nreplaced."),
  ("bytes.rfind",
    "B.rfind(sub[, start[, end]]) -> int\n\nReturn the highest index in B where subsection " ++
      "sub is found,\nsuch that sub is contained within B[start,end].  Optional\narguments " ++
      "start and end are interpreted as in slice notation.\n\nReturn -1 on failure."),
  ("bytes.rindex",
    "B.rindex(sub[, start[, end]]) -> int\n\nReturn the highest index in B where subsection " ++
      "sub is found,\nsuch that sub is contained within B[start,end].  Optional\narguments " ++
      "start and end are interpreted as in slice notation.\n\nRaise ValueError when the " ++
      "subsection is not found."),
  ("bytes.rjust",
    "Return a right-justified string of length width.\n\nPadding is done using the specified " ++
      "fill character."),
  ("bytes.rpartition",
    "Partition the bytes into three parts using the given separator.\n\nThis will search for " ++
      "the separator sep in the bytes, starting at the end. If\nthe separator is found, " ++
      "returns a 3-tuple containing the part before the\nseparator, the separator itself, and " ++
      "the part after it.\n\nIf the separator is not found, returns a 3-tuple containing two " ++
      "empty bytes\nobjects and the original bytes object."),
  ("bytes.rsplit",
    "Return a list of the sections in the bytes, using sep as the delimiter.\n\n  sep\n    " ++
      "The delimiter according which to split the bytes.\n    None (the default value) means " ++
      "split on ASCII whitespace characters\n    (space, tab, return, newline, formfeed, " ++
      "vertical tab).\n  maxsplit\n    Maximum number of splits to do.\n    -1 (the default " ++
      "value) means no limit.\n\nSplitting is done starting at the end of the bytes and " ++
      "working to the front."),
  ("bytes.rstrip",
    "Strip trailing bytes contained in the argument.\n\nIf the argument is omitted or None, " ++
      "strip trailing ASCII whitespace."),
  ("bytes.split",
    "Return a list of the sections in the bytes, using sep as the delimiter.\n\n  sep\n    " ++
      "The delimiter according which to split the bytes.\n    None (the default value) means " ++
      "split on ASCII whitespace characters\n    (space, tab, return, newline, formfeed, " ++
      "vertical tab).\n  maxsplit\n    Maximum number of splits to do.\n    -1 (the default " ++
      "value) means no limit."),
  ("bytes.splitlines",
    "Return a list of the lines in the bytes, breaking at line boundaries.\n\nLine breaks " ++
      "are not included in the resulting list unless keepends is given and\ntrue."),
  ("bytes.startswith",
    "B.startswith(prefix[, start[, end]]) -> bool\n\nReturn True if B starts with the " ++
      "specified prefix, False otherwise.\nWith optional start, test B beginning at that " ++
      "position.\nWith optional end, stop comparing B at that position.\nprefix can also be a " ++
      "tuple of bytes to try."),
  ("bytes.strip",
    "Strip leading and trailing bytes contained in the argument.\n\nIf the argument is " ++
      "omitted or None, strip leading and trailing ASCII whitespace."),
  ("bytes.swapcase",
    "B.swapcase() -> copy of B\n\nReturn a copy of B with uppercase ASCII characters " ++
      "converted\nto lowercase ASCII and vice versa."),
  ("bytes.title",
    "B.title() -> copy of B\n\nReturn a titlecased version of B, i.e. ASCII words start with " ++
      "uppercase\ncharacters, all remaining cased characters have lowercase."),
  ("bytes.translate",
    "Return a copy with each character mapped by the given translation table.\n\n  " ++
      "table\n    Translation table, which must be a bytes object of length 256.\n\nAll " ++
      "characters occurring in the optional argument delete are removed.\nThe remaining " ++
      "characters are mapped through the given translation table."),
  ("bytes.upper",
    "B.upper() -> copy of B\n\nReturn a copy of B with all ASCII characters converted to " ++
      "uppercase."),
  ("bytes.zfill",
    "Pad a numeric string with zeros on the left, to fill a field of the given width.\n\nThe " ++
      "original string is never truncated."),
  ("code._varname_from_oparg",
    "(internal-only) Return the local variable name for the given oparg.\n\nWARNING: this " ++
      "method is for internal use only and may change or go away."),
  ("code.replace", "Return a copy of the code object with new values for the specified fields."),
  ("complex.__complex__", "Convert this value to exact type complex."),
  ("complex.__format__", "Convert to a string according to format_spec."),
  ("complex.conjugate",
    "Return the complex conjugate of its argument. (3-4j).conjugate() == 3+4j."),
  ("coroutine.close", "close() -> raise GeneratorExit inside coroutine."),
  ("coroutine.send",
    "send(arg) -> send 'arg' into coroutine,\nreturn next iterated value or raise " ++
      "StopIteration."),
  ("coroutine.throw",
    "throw(value)\nthrow(type[,value[,traceback]])\n\nRaise exception in coroutine, return " ++
      "next iterated value or raise\nStopIteration."),
  ("dict.__contains__", "True if the dictionary has the specified key, else False."),
  ("dict.__getitem__", "x.__getitem__(y) <==> x[y]"),
  ("dict.__sizeof__", "D.__sizeof__() -> size of D in memory, in bytes"),
  ("dict.clear", "D.clear() -> None.  Remove all items from D."),
  ("dict.copy", "D.copy() -> a shallow copy of D"),
  ("dict.fromkeys", "Create a new dictionary with keys from iterable and values set to value."),
  ("dict.get", "Return the value for key if key is in the dictionary, else default."),
  ("dict.items", "D.items() -> a set-like object providing a view on D's items"),
  ("dict.keys", "D.keys() -> a set-like object providing a view on D's keys"),
  ("dict.pop",
    "D.pop(k[,d]) -> v, remove specified key and return the corresponding value.\n\nIf the " ++
      "key is not found, return the default if given; otherwise,\nraise a KeyError."),
  ("dict.popitem",
    "Remove and return a (key, value) pair as a 2-tuple.\n\nPairs are returned in LIFO " ++
      "(last-in, first-out) order.\nRaises KeyError if the dict is empty."),
  ("dict.setdefault",
    "Insert key with a value of default if key is not in the dictionary.\n\nReturn the value " ++
      "for key if key is in the dictionary, else default."),
  ("dict.update",
    "D.update([E, ]**F) -> None.  Update D from dict/iterable E and F.\nIf E is present and " ++
      "has a .keys() method, then does:  for k in E: D[k] = E[k]\nIf E is present and lacks a " ++
      ".keys() method, then does:  for k, v in E: D[k] = v\nIn either case, this is followed " ++
      "by: for k in F:  D[k] = F[k]"),
  ("dict.values", "D.values() -> an object providing a view on D's values"),
  ("dict_items.__reversed__", "Return a reverse iterator over the dict items."),
  ("dict_items.isdisjoint",
    "Return True if the view and the given iterable have a null intersection."),
  ("dict_keys.isdisjoint",
    "Return True if the view and the given iterable have a null intersection."),
  ("dict_values.__reversed__", "Return a reverse iterator over the dict values."),
  ("float.__ceil__", "Return the ceiling as an Integral."),
  ("float.__floor__", "Return the floor as an Integral."),
  ("float.__format__", "Formats the float according to format_spec."),
  ("float.__getformat__",
    "You probably don't want to use this function.\n\n  typestr\n    Must be 'double' or " ++
      "'float'.\n\nIt exists mainly to be used in Python's test suite.\n\nThis function " ++
      "returns whichever of 'unknown', 'IEEE, big-endian' or 'IEEE,\nlittle-endian' best " ++
      "describes the format of floating point numbers used by the\nC type named by typestr."),
  ("float.__round__",
    "Return the Integral closest to x, rounding half toward even.\n\nWhen an argument is " ++
      "passed, work like built-in round(x, ndigits)."),
  ("float.__trunc__", "Return the Integral closest to x between 0 and x."),
  ("float.as_integer_ratio",
    "Return integer ratio.\n\nReturn a pair of integers, whose ratio is exactly equal to the " ++
      "original float\nand with a positive denominator.\n\nRaise OverflowError on infinities " ++
      "and a ValueError on NaNs.\n\n>>> (10.0).as_integer_ratio()\n(10, 1)\n>>> " ++
      "(0.0).as_integer_ratio()\n(0, 1)\n>>> (-.25).as_integer_ratio()\n(-1, 4)"),
  ("float.conjugate", "Return self, the complex conjugate of any float."),
  ("float.fromhex",
    "Create a floating-point number from a hexadecimal string.\n\n>>> " ++
      "float.fromhex('0x1.ffffp10')\n2047.984375\n>>> float.fromhex('-0x1p-1074')\n-5e-324"),
  ("float.hex",
    "Return a hexadecimal representation of a floating-point number.\n\n>>> (-0.1).hex()\n" ++
      "'-0x1.999999999999ap-4'\n>>> 3.14159.hex()\n'0x1.921f9f01b866ep+1'"),
  ("float.is_integer", "Return True if the float is an integer."),
  ("frozenset.__contains__", "x.__contains__(y) <==> y in x."),
  ("frozenset.__sizeof__", "S.__sizeof__() -> size of S in memory, in bytes"),
  ("frozenset.copy", "Return a shallow copy of a set."),
  ("frozenset.difference",
    "Return the difference of two or more sets as a new set.\n\n(i.e. all elements that are " ++
      "in this set but not the others.)"),
  ("frozenset.intersection",
    "Return the intersection of two sets as a new set.\n\n(i.e. all elements that are in " ++
      "both sets.)"),
  ("frozenset.isdisjoint", "Return True if two sets have a null intersection."),
  ("frozenset.issubset", "Test whether every element in the set is in other."),
  ("frozenset.issuperset", "Test whether every element in other is in the set."),
  ("frozenset.symmetric_difference",
    "Return the symmetric difference of two sets as a new set.\n\n(i.e. all elements that " ++
      "are in exactly one of the sets.)"),
  ("frozenset.union",
    "Return the union of sets as a new set.\n\n(i.e. all elements that are in either set.)"),
  ("generator.close", "close() -> raise GeneratorExit inside generator."),
  ("generator.send",
    "send(arg) -> send 'arg' into generator,\nreturn next yielded value or raise " ++
      "StopIteration."),
  ("generator.throw",
    "throw(value)\nthrow(type[,value[,tb]])\n\nRaise exception in generator, return next " ++
      "yielded value or raise\nStopIteration."),
  ("int.__ceil__", "Ceiling of an Integral returns itself."),
  ("int.__floor__", "Flooring an Integral returns itself."),
  ("int.__index__",
    "Return self converted to an integer, if self is suitable for use as an index into a " ++
      "list."),
  ("int.__invert__", "~self"),
  ("int.__lshift__", "Return self<<value."),
  ("int.__rlshift__", "Return value<<self."),
  ("int.__round__",
    "Rounding an Integral returns itself.\n\nRounding with an ndigits argument also returns " ++
      "an integer."),
  ("int.__rrshift__", "Return value>>self."),
  ("int.__rshift__", "Return self>>value."),
  ("int.__sizeof__", "Returns size in memory, in bytes."),
  ("int.__trunc__", "Truncating an Integral returns itself."),
  ("int.as_integer_ratio",
    "Return integer ratio.\n\nReturn a pair of integers, whose ratio is exactly equal to the " ++
      "original int\nand with a positive denominator.\n\n>>> (10).as_integer_ratio()\n(10, 1)\n" ++
      ">>> (-10).as_integer_ratio()\n(-10, 1)\n>>> (0).as_integer_ratio()\n(0, 1)"),
  ("int.bit_count",
    "Number of ones in the binary representation of the absolute value of self.\n\nAlso " ++
      "known as the population count.\n\n>>> bin(13)\n'0b1101'\n>>> (13).bit_count()\n3"),
  ("int.bit_length",
    "Number of bits necessary to represent self in binary.\n\n>>> bin(37)\n'0b100101'\n>>> " ++
      "(37).bit_length()\n6"),
  ("int.conjugate", "Returns self, the complex conjugate of any int."),
  ("int.from_bytes",
    "Return the integer represented by the given array of bytes.\n\n  bytes\n    Holds the " ++
      "array of bytes to convert.  The argument must either\n    support the buffer protocol " ++
      "or be an iterable object producing bytes.\n    Bytes and bytearray are examples of " ++
      "built-in objects that support the\n    buffer protocol.\n  byteorder\n    The byte " ++
      "order used to represent the integer.  If byteorder is 'big',\n    the most significant " ++
      "byte is at the beginning of the byte array.  If\n    byteorder is 'little', the most " ++
      "significant byte is at the end of the\n    byte array.  To request the native byte " ++
      "order of the host system, use\n    `sys.byteorder' as the byte order value.  Default is " ++
      "to use 'big'.\n  signed\n    Indicates whether two's complement is used to represent " ++
      "the integer."),
  ("int.to_bytes",
    "Return an array of bytes representing an integer.\n\n  length\n    Length of bytes " ++
      "object to use.  An OverflowError is raised if the\n    integer is not representable " ++
      "with the given number of bytes.  Default\n    is length 1.\n  byteorder\n    The byte " ++
      "order used to represent the integer.  If byteorder is 'big',\n    the most significant " ++
      "byte is at the beginning of the byte array.  If\n    byteorder is 'little', the most " ++
      "significant byte is at the end of the\n    byte array.  To request the native byte " ++
      "order of the host system, use\n    `sys.byteorder' as the byte order value.  Default is " ++
      "to use 'big'.\n  signed\n    Determines whether two's complement is used to represent " ++
      "the integer.\n    If signed is False and a negative integer is given, an " ++
      "OverflowError\n    is raised."),
  ("list.__getitem__", "x.__getitem__(y) <==> x[y]"),
  ("list.__reversed__", "Return a reverse iterator over the list."),
  ("list.__sizeof__", "Return the size of the list in memory, in bytes."),
  ("list.append", "Append object to the end of the list."),
  ("list.clear", "Remove all items from list."),
  ("list.copy", "Return a shallow copy of the list."),
  ("list.count", "Return number of occurrences of value."),
  ("list.extend", "Extend list by appending elements from the iterable."),
  ("list.index", "Return first index of value.\n\nRaises ValueError if the value is not present."),
  ("list.insert", "Insert object before index."),
  ("list.pop",
    "Remove and return item at index (default last).\n\nRaises IndexError if list is empty " ++
      "or index is out of range."),
  ("list.remove",
    "Remove first occurrence of value.\n\nRaises ValueError if the value is not present."),
  ("list.reverse", "Reverse *IN PLACE*."),
  ("list.sort",
    "Sort the list in ascending order and return None.\n\nThe sort is in-place (i.e. the " ++
      "list itself is modified) and stable (i.e. the\norder of two equal elements is " ++
      "maintained).\n\nIf a key function is given, apply it once to each list item and sort " ++
      "them,\nascending or descending, according to their function values.\n\nThe reverse flag " ++
      "can be set to sort in descending order."),
  ("mappingproxy.__reversed__", "D.__reversed__() -> reverse iterator"),
  ("mappingproxy.copy", "D.copy() -> a shallow copy of D"),
  ("mappingproxy.get", "D.get(k[,d]) -> D[k] if k in D, else d.  d defaults to None."),
  ("mappingproxy.items", "D.items() -> a set-like object providing a view on D's items"),
  ("mappingproxy.keys", "D.keys() -> a set-like object providing a view on D's keys"),
  ("mappingproxy.values", "D.values() -> an object providing a view on D's values"),
  ("memoryview.cast", "Cast a memoryview to a new format or shape."),
  ("memoryview.hex",
    "Return the data in the buffer as a str of hexadecimal numbers.\n\n  sep\n    An " ++
      "optional single character or byte to separate hex bytes.\n  bytes_per_sep\n    How many " ++
      "bytes between separators.  Positive values count from the\n    right, negative values " ++
      "count from the left.\n\nExample:\n>>> value = memoryview(b'\\xb9\\x01\\xef')\n>>> " ++
      "value.hex()\n'b901ef'\n>>> value.hex(':')\n'b9:01:ef'\n>>> value.hex(':', 2)\n" ++
      "'b9:01ef'\n>>> value.hex(':', -2)\n'b901:ef'"),
  ("memoryview.release", "Release the underlying buffer exposed by the memoryview object."),
  ("memoryview.tobytes",
    "Return the data in the buffer as a byte string.\n\nOrder can be \x7b'C', 'F', 'A'\x7d. " ++
      "When order is 'C' or 'F', the data of the\noriginal array is converted to C or Fortran " ++
      "order. For contiguous views,\n'A' returns an exact copy of the physical memory. In " ++
      "particular, in-memory\nFortran order is preserved. For non-contiguous views, the data " ++
      "is converted\nto C first. order=None is the same as order='C'."),
  ("memoryview.tolist", "Return the data in the buffer as a list of elements."),
  ("memoryview.toreadonly", "Return a readonly version of the memoryview."),
  ("module.__dir__", "__dir__() -> list\nspecialized dir() implementation"),
  ("object.__class__", "the object's class"),
  ("object.__dir__", "Default dir() implementation."),
  ("object.__format__", "Default object formatter."),
  ("object.__getstate__", "Helper for pickle."),
  ("object.__init_subclass__",
    "This method is called when a class is subclassed.\n\nThe default implementation does " ++
      "nothing. It may be\noverridden to extend subclasses.\n"),
  ("object.__reduce__", "Helper for pickle."),
  ("object.__reduce_ex__", "Helper for pickle."),
  ("object.__sizeof__", "Size of object in memory, in bytes."),
  ("object.__subclasshook__",
    "Abstract classes can override this to customize issubclass().\n\nThis is invoked early " ++
      "on by abc.ABCMeta.__subclasscheck__().\nIt should return True, False or " ++
      "NotImplemented.  If it returns\nNotImplemented, the normal algorithm is used.  " ++
      "Otherwise, it\noverrides the normal algorithm (and the outcome is cached).\n"),
  ("property.__set_name__", "Method to set name of a property."),
  ("property.deleter", "Descriptor to obtain a copy of the property with a different deleter."),
  ("property.getter", "Descriptor to obtain a copy of the property with a different getter."),
  ("property.setter", "Descriptor to obtain a copy of the property with a different setter."),
  ("range.__reversed__", "Return a reverse iterator."),
  ("range.count", "rangeobject.count(value) -> integer -- return number of occurrences of value"),
  ("range.index",
    "rangeobject.index(value) -> integer -- return index of value.\nRaise ValueError if the " ++
      "value is not present."),
  ("set.__contains__", "x.__contains__(y) <==> y in x."),
  ("set.__iand__", "Return self&=value."),
  ("set.__isub__", "Return self-=value."),
  ("set.__ixor__", "Return self^=value."),
  ("set.__sizeof__", "S.__sizeof__() -> size of S in memory, in bytes"),
  ("set.add", "Add an element to a set.\n\nThis has no effect if the element is already present."),
  ("set.clear", "Remove all elements from this set."),
  ("set.copy", "Return a shallow copy of a set."),
  ("set.difference",
    "Return the difference of two or more sets as a new set.\n\n(i.e. all elements that are " ++
      "in this set but not the others.)"),
  ("set.difference_update", "Remove all elements of another set from this set."),
  ("set.discard",
    "Remove an element from a set if it is a member.\n\nUnlike set.remove(), the discard() " ++
      "method does not raise\nan exception when an element is missing from the set."),
  ("set.intersection",
    "Return the intersection of two sets as a new set.\n\n(i.e. all elements that are in " ++
      "both sets.)"),
  ("set.intersection_update", "Update a set with the intersection of itself and another."),
  ("set.isdisjoint", "Return True if two sets have a null intersection."),
  ("set.issubset", "Test whether every element in the set is in other."),
  ("set.issuperset", "Test whether every element in other is in the set."),
  ("set.pop", "Remove and return an arbitrary set element.\nRaises KeyError if the set is empty."),
  ("set.remove",
    "Remove an element from a set; it must be a member.\n\nIf the element is not a member, " ++
      "raise a KeyError."),
  ("set.symmetric_difference",
    "Return the symmetric difference of two sets as a new set.\n\n(i.e. all elements that " ++
      "are in exactly one of the sets.)"),
  ("set.symmetric_difference_update",
    "Update a set with the symmetric difference of itself and another."),
  ("set.union",
    "Return the union of sets as a new set.\n\n(i.e. all elements that are in either set.)"),
  ("set.update", "Update a set with the union of itself and others."),
  ("slice.indices",
    "S.indices(len) -> (start, stop, stride)\n\nAssuming a sequence of length len, calculate " ++
      "the start and stop\nindices, and the stride length of the extended slice described by\n" ++
      "S. Out of bounds indices are clipped in a manner consistent with the\nhandling of " ++
      "normal slices."),
  ("str.__format__", "Return a formatted version of the string as described by format_spec."),
  ("str.__sizeof__", "Return the size of the string in memory, in bytes."),
  ("str.capitalize",
    "Return a capitalized version of the string.\n\nMore specifically, make the first " ++
      "character have upper case and the rest lower\ncase."),
  ("str.casefold", "Return a version of the string suitable for caseless comparisons."),
  ("str.center",
    "Return a centered string of length width.\n\nPadding is done using the specified fill " ++
      "character (default is a space)."),
  ("str.count",
    "S.count(sub[, start[, end]]) -> int\n\nReturn the number of non-overlapping occurrences " ++
      "of substring sub in\nstring S[start:end].  Optional arguments start and end are\n" ++
      "interpreted as in slice notation."),
  ("str.encode",
    "Encode the string using the codec registered for encoding.\n\n  encoding\n    The " ++
      "encoding in which to encode the string.\n  errors\n    The error handling scheme to use " ++
      "for encoding errors.\n    The default is 'strict' meaning that encoding errors raise " ++
      "a\n    UnicodeEncodeError.  Other possible values are 'ignore', 'replace' and\n    " ++
      "'xmlcharrefreplace' as well as any other name registered with\n    " ++
      "codecs.register_error that can handle UnicodeEncodeErrors."),
  ("str.endswith",
    "S.endswith(suffix[, start[, end]]) -> bool\n\nReturn True if S ends with the specified " ++
      "suffix, False otherwise.\nWith optional start, test S beginning at that position.\nWith " ++
      "optional end, stop comparing S at that position.\nsuffix can also be a tuple of strings " ++
      "to try."),
  ("str.expandtabs",
    "Return a copy where all tab characters are expanded using spaces.\n\nIf tabsize is not " ++
      "given, a tab size of 8 characters is assumed."),
  ("str.find",
    "S.find(sub[, start[, end]]) -> int\n\nReturn the lowest index in S where substring sub " ++
      "is found,\nsuch that sub is contained within S[start:end].  Optional\narguments start " ++
      "and end are interpreted as in slice notation.\n\nReturn -1 on failure."),
  ("str.format",
    "S.format(*args, **kwargs) -> str\n\nReturn a formatted version of S, using " ++
      "substitutions from args and kwargs.\nThe substitutions are identified by braces ('\x7b' " ++
      "and '\x7d')."),
  ("str.format_map",
    "S.format_map(mapping) -> str\n\nReturn a formatted version of S, using substitutions " ++
      "from mapping.\nThe substitutions are identified by braces ('\x7b' and '\x7d')."),
  ("str.index",
    "S.index(sub[, start[, end]]) -> int\n\nReturn the lowest index in S where substring sub " ++
      "is found,\nsuch that sub is contained within S[start:end].  Optional\narguments start " ++
      "and end are interpreted as in slice notation.\n\nRaises ValueError when the substring " ++
      "is not found."),
  ("str.isalnum",
    "Return True if the string is an alpha-numeric string, False otherwise.\n\nA string is " ++
      "alpha-numeric if all characters in the string are alpha-numeric and\nthere is at least " ++
      "one character in the string."),
  ("str.isalpha",
    "Return True if the string is an alphabetic string, False otherwise.\n\nA string is " ++
      "alphabetic if all characters in the string are alphabetic and there\nis at least one " ++
      "character in the string."),
  ("str.isascii",
    "Return True if all characters in the string are ASCII, False otherwise.\n\nASCII " ++
      "characters have code points in the range U+0000-U+007F.\nEmpty string is ASCII too."),
  ("str.isdecimal",
    "Return True if the string is a decimal string, False otherwise.\n\nA string is a " ++
      "decimal string if all characters in the string are decimal and\nthere is at least one " ++
      "character in the string."),
  ("str.isdigit",
    "Return True if the string is a digit string, False otherwise.\n\nA string is a digit " ++
      "string if all characters in the string are digits and there\nis at least one character " ++
      "in the string."),
  ("str.isidentifier",
    "Return True if the string is a valid Python identifier, False otherwise.\n\nCall " ++
      "keyword.iskeyword(s) to test whether string s is a reserved identifier,\nsuch as " ++
      "\"def\" or \"class\"."),
  ("str.islower",
    "Return True if the string is a lowercase string, False otherwise.\n\nA string is " ++
      "lowercase if all cased characters in the string are lowercase and\nthere is at least " ++
      "one cased character in the string."),
  ("str.isnumeric",
    "Return True if the string is a numeric string, False otherwise.\n\nA string is numeric " ++
      "if all characters in the string are numeric and there is at\nleast one character in the " ++
      "string."),
  ("str.isprintable",
    "Return True if the string is printable, False otherwise.\n\nA string is printable if " ++
      "all of its characters are considered printable in\nrepr() or if it is empty."),
  ("str.isspace",
    "Return True if the string is a whitespace string, False otherwise.\n\nA string is " ++
      "whitespace if all characters in the string are whitespace and there\nis at least one " ++
      "character in the string."),
  ("str.istitle",
    "Return True if the string is a title-cased string, False otherwise.\n\nIn a title-cased " ++
      "string, upper- and title-case characters may only\nfollow uncased characters and " ++
      "lowercase characters only cased ones."),
  ("str.isupper",
    "Return True if the string is an uppercase string, False otherwise.\n\nA string is " ++
      "uppercase if all cased characters in the string are uppercase and\nthere is at least " ++
      "one cased character in the string."),
  ("str.join",
    "Concatenate any number of strings.\n\nThe string whose method is called is inserted in " ++
      "between each given string.\nThe result is returned as a new string.\n\nExample: " ++
      "'.'.join(['ab', 'pq', 'rs']) -> 'ab.pq.rs'"),
  ("str.ljust",
    "Return a left-justified string of length width.\n\nPadding is done using the specified " ++
      "fill character (default is a space)."),
  ("str.lower", "Return a copy of the string converted to lowercase."),
  ("str.lstrip",
    "Return a copy of the string with leading whitespace removed.\n\nIf chars is given and " ++
      "not None, remove characters in chars instead."),
  ("str.maketrans",
    "Return a translation table usable for str.translate().\n\nIf there is only one " ++
      "argument, it must be a dictionary mapping Unicode\nordinals (integers) or characters to " ++
      "Unicode ordinals, strings or None.\nCharacter keys will be then converted to ordinals.\n" ++
      "If there are two arguments, they must be strings of equal length, and\nin the resulting " ++
      "dictionary, each character in x will be mapped to the\ncharacter at the same position " ++
      "in y. If there is a third argument, it\nmust be a string, whose characters will be " ++
      "mapped to None in the result."),
  ("str.partition",
    "Partition the string into three parts using the given separator.\n\nThis will search " ++
      "for the separator in the string.  If the separator is found,\nreturns a 3-tuple " ++
      "containing the part before the separator, the separator\nitself, and the part after " ++
      "it.\n\nIf the separator is not found, returns a 3-tuple containing the original string\n" ++
      "and two empty strings."),
  ("str.removeprefix",
    "Return a str with the given prefix string removed if present.\n\nIf the string starts " ++
      "with the prefix string, return string[len(prefix):].\nOtherwise, return a copy of the " ++
      "original string."),
  ("str.removesuffix",
    "Return a str with the given suffix string removed if present.\n\nIf the string ends " ++
      "with the suffix string and that suffix is not empty,\nreturn string[:-len(suffix)]. " ++
      "Otherwise, return a copy of the original\nstring."),
  ("str.replace",
    "Return a copy with all occurrences of substring old replaced by new.\n\n  count\n    " ++
      "Maximum number of occurrences to replace.\n    -1 (the default value) means replace all " ++
      "occurrences.\n\nIf the optional argument count is given, only the first count " ++
      "occurrences are\nreplaced."),
  ("str.rfind",
    "S.rfind(sub[, start[, end]]) -> int\n\nReturn the highest index in S where substring " ++
      "sub is found,\nsuch that sub is contained within S[start:end].  Optional\narguments " ++
      "start and end are interpreted as in slice notation.\n\nReturn -1 on failure."),
  ("str.rindex",
    "S.rindex(sub[, start[, end]]) -> int\n\nReturn the highest index in S where substring " ++
      "sub is found,\nsuch that sub is contained within S[start:end].  Optional\narguments " ++
      "start and end are interpreted as in slice notation.\n\nRaises ValueError when the " ++
      "substring is not found."),
  ("str.rjust",
    "Return a right-justified string of length width.\n\nPadding is done using the specified " ++
      "fill character (default is a space)."),
  ("str.rpartition",
    "Partition the string into three parts using the given separator.\n\nThis will search " ++
      "for the separator in the string, starting at the end. If\nthe separator is found, " ++
      "returns a 3-tuple containing the part before the\nseparator, the separator itself, and " ++
      "the part after it.\n\nIf the separator is not found, returns a 3-tuple containing two " ++
      "empty strings\nand the original string."),
  ("str.rsplit",
    "Return a list of the substrings in the string, using sep as the separator string.\n\n  " ++
      "sep\n    The separator used to split the string.\n\n    When set to None (the default " ++
      "value), will split on any whitespace\n    character (including \\n \\r \\t \\f and " ++
      "spaces) and will discard\n    empty strings from the result.\n  maxsplit\n    Maximum " ++
      "number of splits.\n    -1 (the default value) means no limit.\n\nSplitting starts at " ++
      "the end of the string and works to the front."),
  ("str.rstrip",
    "Return a copy of the string with trailing whitespace removed.\n\nIf chars is given and " ++
      "not None, remove characters in chars instead."),
  ("str.split",
    "Return a list of the substrings in the string, using sep as the separator string.\n\n  " ++
      "sep\n    The separator used to split the string.\n\n    When set to None (the default " ++
      "value), will split on any whitespace\n    character (including \\n \\r \\t \\f and " ++
      "spaces) and will discard\n    empty strings from the result.\n  maxsplit\n    Maximum " ++
      "number of splits.\n    -1 (the default value) means no limit.\n\nSplitting starts at " ++
      "the front of the string and works to the end.\n\nNote, str.split() is mainly useful for " ++
      "data that has been intentionally\ndelimited.  With natural text that includes " ++
      "punctuation, consider using\nthe regular expression module."),
  ("str.splitlines",
    "Return a list of the lines in the string, breaking at line boundaries.\n\nLine breaks " ++
      "are not included in the resulting list unless keepends is given and\ntrue."),
  ("str.startswith",
    "S.startswith(prefix[, start[, end]]) -> bool\n\nReturn True if S starts with the " ++
      "specified prefix, False otherwise.\nWith optional start, test S beginning at that " ++
      "position.\nWith optional end, stop comparing S at that position.\nprefix can also be a " ++
      "tuple of strings to try."),
  ("str.strip",
    "Return a copy of the string with leading and trailing whitespace removed.\n\nIf chars " ++
      "is given and not None, remove characters in chars instead."),
  ("str.swapcase",
    "Convert uppercase characters to lowercase and lowercase characters to uppercase."),
  ("str.title",
    "Return a version of the string where each word is titlecased.\n\nMore specifically, " ++
      "words start with uppercased characters and all remaining\ncased characters have lower " ++
      "case."),
  ("str.translate",
    "Replace each character in the string using the given translation table.\n\n  table\n    " ++
      "Translation table, which must be a mapping of Unicode ordinals to\n    Unicode " ++
      "ordinals, strings, or None.\n\nThe table must implement lookup/indexing via " ++
      "__getitem__, for instance a\ndictionary or list.  If this operation raises LookupError, " ++
      "the character is\nleft untouched.  Characters mapped to None are deleted."),
  ("str.upper", "Return a copy of the string converted to uppercase."),
  ("str.zfill",
    "Pad a numeric string with zeros on the left, to fill a field of the given width.\n\nThe " ++
      "string is never truncated."),
  ("tuple.count", "Return number of occurrences of value."),
  ("tuple.index",
    "Return first index of value.\n\nRaises ValueError if the value is not present."),
  ("type.__dir__", "Specialized __dir__ implementation for types."),
  ("type.__instancecheck__", "Check if an object is an instance."),
  ("type.__prepare__",
    "__prepare__() -> dict\nused to create the namespace for the class statement"),
  ("type.__sizeof__", "Return memory consumption of the type object."),
  ("type.__subclasscheck__", "Check if a class is a subclass."),
  ("type.__subclasses__", "Return a list of immediate subclasses."),
  ("type.mro", "Return a type's method resolution order.")]

end Forwarding.Script.Documents
