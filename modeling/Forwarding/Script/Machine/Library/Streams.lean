/-! Files that are kept in memory, and facts about the machine. -/

set_option autoImplicit false

namespace Forwarding.Script.Library

/-- Texts and bytes that are read and written like files. -/
def streams : String := r#"
class UnsupportedOperation(OSError, ValueError):
    pass

class _Kept:
    def __init__(self, initial, newline):
        self._content = initial
        self._at = 0
        self.closed = False

    def _check(self):
        if self.closed:
            raise ValueError('I/O operation on closed file')

    def getvalue(self):
        self._check()
        return self._content

    def read(self, size=-1, /):
        self._check()
        if size is None or size < 0:
            end = len(self._content)
        else:
            end = min(len(self._content), self._at + size)
        found = self._content[self._at:end]
        self._at = max(self._at, end)
        return found

    def readline(self, size=-1, /):
        self._check()
        end = self._content.find(self._line, self._at)
        end = len(self._content) if end < 0 else end + 1
        if size is not None and size >= 0:
            end = min(end, self._at + size)
        found = self._content[self._at:end]
        self._at = max(self._at, end)
        return found

    def readlines(self, hint=-1, /):
        return list(self)

    def __iter__(self):
        return self

    def __next__(self):
        line = self.readline()
        if not line:
            raise StopIteration
        return line

    def _put(self, piece):
        self._check()
        before = self._content[:self._at]
        before += self._zero * (self._at - len(before))
        self._content = before + piece + self._content[self._at + len(piece):]
        self._at += len(piece)
        return len(piece)

    def writelines(self, lines, /):
        for line in lines:
            self.write(line)

    def tell(self):
        self._check()
        return self._at

    def seek(self, pos, whence=0, /):
        self._check()
        if whence == 1:
            pos += self._at
        elif whence == 2:
            pos += len(self._content)
        if pos < 0:
            raise ValueError('Negative seek position %d' % pos)
        self._at = pos
        return pos

    def truncate(self, size=None, /):
        size = self._at if size is None else size
        self._content = self._content[:size]
        return size

    def flush(self):
        self._check()

    def close(self):
        self.closed = True

    def readable(self):
        return True

    writable = seekable = readable

    def isatty(self):
        return False

    def __enter__(self):
        self._check()
        return self

    def __exit__(self, *reason):
        self.close()

class StringIO(_Kept):
    _line, _zero = '\n', '\0'

    def __init__(self, initial_value='', newline='\n'):
        if initial_value is not None and not isinstance(initial_value, str):
            raise TypeError('initial_value must be str or None, not ' + type(initial_value).__name__)
        super().__init__(initial_value or '', newline)

    def write(self, s, /):
        if not isinstance(s, str):
            raise TypeError('string argument expected, got ' + repr(type(s).__name__))
        return self._put(s)

class BytesIO(_Kept):
    _line, _zero = b'\n', b'\0'

    def __init__(self, initial_bytes=b''):
        super().__init__(bytes(initial_bytes), None)

    def write(self, b, /):
        if isinstance(b, str):
            raise TypeError("a bytes-like object is required, not 'str'")
        return self._put(bytes(b))

for _kind in (StringIO, BytesIO):
    _kind.__name__ = '_io.' + _kind.__name__
    _kind.__module__ = '_io'
"#

def limits : String := r#"
maxsize = 9223372036854775807
maxunicode = 1114111
byteorder = 'little'
platform = 'linux'
copyright = ''
api_version = 1013
argv = ['proxies']
path = []
modules = dict()
flags = ()
float_repr_style = 'short'
dont_write_bytecode = False

class _Record(tuple):
    def __new__(cls, name, pairs):
        made = super().__new__(cls, [value for _, value in pairs])
        made._name = name
        made._pairs = pairs
        return made

    def __getattr__(self, name):
        for key, value in self._pairs:
            if key == name:
                return value
        raise AttributeError("'sys.%s' object has no attribute %r" % (self._name, name))

    def __repr__(self):
        return 'sys.' + self._name + '(' + ', '.join(['%s=%r' % pair for pair in self._pairs]) + ')'

version_info = _Record('version_info', [('major', 3), ('minor', 11), ('micro', 10),
    ('releaselevel', 'final'), ('serial', 0)])
hexversion = 51055344
version = '3.11.10'
float_info = _Record('float_info', [('max', 1.7976931348623157e+308), ('max_exp', 1024),
    ('max_10_exp', 308), ('min', 2.2250738585072014e-308), ('min_exp', -1021), ('min_10_exp', -307),
    ('dig', 15), ('mant_dig', 53), ('epsilon', 2.220446049250313e-16), ('radix', 2), ('rounds', 1)])
int_info = _Record('int_info', [('bits_per_digit', 30), ('sizeof_digit', 4),
    ('default_max_str_digits', 4300), ('str_digits_check_threshold', 640)])
hash_info = _Record('hash_info', [('width', 64), ('modulus', 2305843009213693951), ('inf', 314159),
    ('nan', 0), ('imag', 1000003), ('algorithm', 'siphash13'), ('hash_bits', 64), ('seed_bits', 128),
    ('cutoff', 0)])

class _Stream:
    def write(self, text):
        if not isinstance(text, str):
            raise TypeError('write() argument must be str, not ' + type(text).__name__)
        return len(text)

    def writelines(self, lines):
        for line in lines:
            self.write(line)

    def flush(self):
        pass

    def isatty(self):
        return False

    def read(self, size=-1):
        return ''

    readline = read
    encoding = 'utf-8'

stdout = stderr = __stdout__ = __stderr__ = stdin = _Stream()

def getrecursionlimit():
    return 1000

def setrecursionlimit(limit, /):
    pass

def intern(string, /):
    if not isinstance(string, str):
        raise TypeError('intern() argument must be str, not ' + type(string).__name__)
    return string

def getdefaultencoding():
    return 'utf-8'

def getfilesystemencoding():
    return 'utf-8'

def get_int_max_str_digits():
    return 4300

def exit(status=None, /):
    raise SystemExit(*(() if status is None else (status,)))

def is_finalizing():
    return False

def getrefcount(object, /):
    return 2
"#

end Forwarding.Script.Library
