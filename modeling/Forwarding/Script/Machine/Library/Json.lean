/-! Values written as JSON, and read from it. -/

set_option autoImplicit false

namespace Forwarding.Script.Library

def json : String := r#"
_opening, _closing = chr(123), chr(125)
_escapes = dict([('\\', '\\\\'), ('"', '\\"'), ('\n', '\\n'), ('\r', '\\r'), ('\t', '\\t'), ('\f', '\\f'), ('\b', '\\b')])

def _unit(code):
    return '\\u%04x' % code

def _quoted(text, ascii):
    parts = []
    for c in text:
        if c in _escapes:
            parts.append(_escapes[c])
        elif c < ' ' or ascii and c > '~':
            code = ord(c)
            if code < 0x10000:
                parts.append(_unit(code))
            else:
                code -= 0x10000
                parts.append(_unit(0xd800 | code >> 10) + _unit(0xdc00 | code & 0x3ff))
        else:
            parts.append(c)
    return '"' + ''.join(parts) + '"'

def _real(number, allowed):
    if number != number:
        shown = 'NaN'
    elif number in (float('inf'), -float('inf')):
        shown = 'Infinity' if number > 0 else '-Infinity'
    else:
        return float.__repr__(number)
    if not allowed:
        raise ValueError('Out of range float values are not JSON compliant')
    return shown

class JSONDecodeError(ValueError):
    __module__ = 'json.decoder'

    def __init__(self, msg, doc, pos):
        line = doc.count('\n', 0, pos) + 1
        column = pos - doc.rfind('\n', 0, pos)
        ValueError.__init__(self, '%s: line %d column %d (char %d)' % (msg, line, column, pos))
        self.msg = msg
        self.doc = doc
        self.pos = pos
        self.lineno = line
        self.colno = column

class JSONEncoder:
    item_separator = ', '
    key_separator = ': '

    def __init__(self, *, skipkeys=False, ensure_ascii=True, check_circular=True, allow_nan=True,
                 sort_keys=False, indent=None, separators=None, default=None):
        self.skipkeys = skipkeys
        self.ensure_ascii = ensure_ascii
        self.check_circular = check_circular
        self.allow_nan = allow_nan
        self.sort_keys = sort_keys
        self.indent = indent
        if separators is not None:
            self.item_separator, self.key_separator = separators
        elif indent is not None:
            self.item_separator = ','
        if default is not None:
            self.default = default

    def default(self, o):
        raise TypeError('Object of type ' + o.__class__.__name__ + ' is not JSON serializable')

    def _key(self, key):
        if isinstance(key, str):
            return key
        if isinstance(key, float):
            return _real(key, self.allow_nan)
        if key is True:
            return 'true'
        if key is False:
            return 'false'
        if key is None:
            return 'null'
        if isinstance(key, int):
            return int.__repr__(key)
        if self.skipkeys:
            return None
        raise TypeError('keys must be str, int, float, bool or None, not ' + key.__class__.__name__)

    def _rows(self, opening, closing, rows, depth):
        indent = self.indent
        if indent is None:
            return opening + self.item_separator.join(rows) + closing
        if not isinstance(indent, str):
            indent = ' ' * indent
        start = '\n' + indent * (depth + 1)
        return opening + start + (self.item_separator + start).join(rows) + '\n' + indent * depth + closing

    def _written(self, o, depth, around):
        if isinstance(o, str):
            return _quoted(o, self.ensure_ascii)
        if o is None:
            return 'null'
        if o is True:
            return 'true'
        if o is False:
            return 'false'
        if isinstance(o, int):
            return int.__repr__(o)
        if isinstance(o, float):
            return _real(o, self.allow_nan)
        if self.check_circular:
            if any(o is outer for outer in around):
                raise ValueError('Circular reference detected')
            around = around + (o,)
        if isinstance(o, (list, tuple)):
            if not o:
                return '[]'
            return self._rows('[', ']', [self._written(item, depth + 1, around) for item in o], depth)
        if isinstance(o, dict):
            if not o:
                return _opening + _closing
            rows = []
            for key, value in sorted(o.items()) if self.sort_keys else o.items():
                key = self._key(key)
                if key is not None:
                    key = _quoted(key, self.ensure_ascii)
                    rows.append(key + self.key_separator + self._written(value, depth + 1, around))
            if not rows and self.indent is None:
                return _opening + _closing
            return self._rows(_opening, _closing, rows, depth)
        return self._written(self.default(o), depth, around)

    def encode(self, o):
        return self._written(o, 0, ())

    def iterencode(self, o):
        yield self.encode(o)

def dumps(obj, *, skipkeys=False, ensure_ascii=True, check_circular=True, allow_nan=True, cls=None,
          indent=None, separators=None, default=None, sort_keys=False, **kw):
    return (cls or JSONEncoder)(skipkeys=skipkeys, ensure_ascii=ensure_ascii,
        check_circular=check_circular, allow_nan=allow_nan, indent=indent, separators=separators,
        default=default, sort_keys=sort_keys, **kw).encode(obj)

def dump(obj, fp, **kw):
    fp.write(dumps(obj, **kw))

_simple = dict([('"', '"'), ('\\', '\\'), ('/', '/'), ('b', '\b'), ('f', '\f'), ('n', '\n'), ('r', '\r'), ('t', '\t')])

class JSONDecoder:
    def __init__(self, *, object_hook=None, parse_float=None, parse_int=None, parse_constant=None,
                 strict=True, object_pairs_hook=None):
        self.object_hook = object_hook
        self.parse_float = parse_float or float
        self.parse_int = parse_int or int
        self.parse_constant = parse_constant or float
        self.strict = strict
        self.object_pairs_hook = object_pairs_hook

    def _blank(self, s, at):
        while s[at:at + 1] in (' ', '\t', '\n', '\r'):
            at += 1
        return at

    def _hex(self, s, at):
        digits = s[at + 1:at + 5]
        if len(digits) == 4 and all(c in '0123456789abcdefABCDEF' for c in digits):
            return int(digits, 16)
        raise JSONDecodeError('Invalid \\uXXXX escape', s, at)

    def _string(self, s, at):
        start = at - 1
        parts = []
        while True:
            c = s[at:at + 1]
            if not c:
                raise JSONDecodeError('Unterminated string starting at', s, start)
            if c == '"':
                return ''.join(parts), at + 1
            if c != '\\':
                if c < ' ' and self.strict:
                    raise JSONDecodeError('Invalid control character at', s, at)
                parts.append(c)
                at += 1
                continue
            at += 1
            e = s[at:at + 1]
            if not e:
                raise JSONDecodeError('Unterminated string starting at', s, start)
            if e != 'u':
                if e not in _simple:
                    raise JSONDecodeError('Invalid \\escape', s, at - 1)
                parts.append(_simple[e])
                at += 1
                continue
            code = self._hex(s, at)
            at += 5
            if code >> 10 == 54 and s[at:at + 2] == '\\u':
                low = self._hex(s, at + 1)
                if low >> 10 == 55:
                    code = 0x10000 + ((code - 0xd800) << 10 | low - 0xdc00)
                    at += 6
            parts.append(chr(code))

    def _number(self, s, at):
        end = at
        if s[end:end + 1] == '-':
            end += 1
        first = end
        while s[end:end + 1] and s[end] in '0123456789' and (end == first or s[first] != '0'):
            end += 1
        if end == first:
            return None
        real = False
        if s[end:end + 1] == '.' and s[end + 1:end + 2] and s[end + 1] in '0123456789':
            real = True
            end += 2
            while s[end:end + 1] and s[end] in '0123456789':
                end += 1
        if s[end:end + 1] in ('e', 'E'):
            last = end + 1
            if s[last:last + 1] in ('+', '-'):
                last += 1
            if s[last:last + 1] and s[last] in '0123456789':
                real = True
                while s[last:last + 1] and s[last] in '0123456789':
                    last += 1
                end = last
        return (self.parse_float if real else self.parse_int)(s[at:end]), end

    def _value(self, s, at):
        c = s[at:at + 1]
        if c == '"':
            return self._string(s, at + 1)
        if c == _opening:
            return self._record(s, at + 1)
        if c == '[':
            return self._list(s, at + 1)
        for word, value in (('null', None), ('true', True), ('false', False)):
            if s[at:at + len(word)] == word:
                return value, at + len(word)
        found = self._number(s, at) if c else None
        if found is not None:
            return found
        for word in ('NaN', 'Infinity', '-Infinity'):
            if s[at:at + len(word)] == word:
                return self.parse_constant(word), at + len(word)
        raise JSONDecodeError('Expecting value', s, at)

    def _list(self, s, at):
        items = []
        at = self._blank(s, at)
        if s[at:at + 1] == ']':
            return items, at + 1
        while True:
            value, at = self._value(s, at)
            items.append(value)
            at = self._blank(s, at)
            c = s[at:at + 1]
            if c == ']':
                return items, at + 1
            if c != ',':
                raise JSONDecodeError("Expecting ',' delimiter", s, at)
            at = self._blank(s, at + 1)

    def _record(self, s, at):
        pairs = []
        at = self._blank(s, at)
        if s[at:at + 1] != _closing:
            if s[at:at + 1] != '"':
                raise JSONDecodeError('Expecting property name enclosed in double quotes', s, at)
            while True:
                key, at = self._string(s, at + 1)
                at = self._blank(s, at)
                if s[at:at + 1] != ':':
                    raise JSONDecodeError("Expecting ':' delimiter", s, at)
                value, at = self._value(s, self._blank(s, at + 1))
                pairs.append((key, value))
                at = self._blank(s, at)
                c = s[at:at + 1]
                if c == _closing:
                    break
                if c != ',':
                    raise JSONDecodeError("Expecting ',' delimiter", s, at)
                at = self._blank(s, at + 1)
                if s[at:at + 1] != '"':
                    raise JSONDecodeError('Expecting property name enclosed in double quotes', s, at)
        if self.object_pairs_hook is not None:
            return self.object_pairs_hook(pairs), at + 1
        made = dict(pairs)
        return made if self.object_hook is None else self.object_hook(made), at + 1

    def raw_decode(self, s, idx=0):
        return self._value(s, idx)

    def decode(self, s):
        value, end = self._value(s, self._blank(s, 0))
        end = self._blank(s, end)
        if end != len(s):
            raise JSONDecodeError('Extra data', s, end)
        return value

def loads(s, *, cls=None, object_hook=None, parse_float=None, parse_int=None, parse_constant=None,
          object_pairs_hook=None, **kw):
    if isinstance(s, str):
        if s.startswith('\ufeff'):
            raise JSONDecodeError('Unexpected UTF-8 BOM (decode using utf-8-sig)', s, 0)
    elif isinstance(s, (bytes, bytearray)):
        s = bytes(s).decode('utf-8')
    else:
        raise TypeError('the JSON object must be str, bytes or bytearray, not ' + s.__class__.__name__)
    return (cls or JSONDecoder)(object_hook=object_hook, parse_float=parse_float, parse_int=parse_int,
        parse_constant=parse_constant, object_pairs_hook=object_pairs_hook, **kw).decode(s)

def load(fp, **kw):
    return loads(fp.read(), **kw)
"#

end Forwarding.Script.Library
