import Forwarding.Script.Machine.Builtin
import Forwarding.Text.Pattern.Reading

/-! What the library of regular expressions leaves to the language: reading a pattern, and finding where
it matches. -/

set_option autoImplicit false

namespace Forwarding.Script.Act

open Text

def patternMode (isBytes : Bool) (bits : Int) : Text.Pattern.Mode :=
  let isOn (place : Nat) : Bool := bits / 2 ^ place % 2 == 1
  { ignoresCase := isOn 1, isByLine := isOn 3, dotIsAll := isOn 4, isVerbose := isOn 6,
    isAscii := isBytes || isOn 8, isBytes }

def patternOf (v switches : Value) :
    Act (Except Text.Pattern.Mistake (Text.Pattern × Text.Pattern.Reader)) := do
  let bits ← index switches
  match ← plain v with
  | .bytes t => return Text.Pattern.read (patternMode true bits) t
  | .text t => return Text.Pattern.read (patternMode false bits) t
  | _ => return Text.Pattern.read (patternMode false bits) []

/-- The switches that a pattern names, the number of its groups, and their names; or what is wrong with it,
and where. -/
def readPattern (v switches : Value) : Act Value := do
  match ← patternOf v switches with
  | .ok (_, r) =>
    let names := r.names.map fun (name, number) => .tuple [.text name, .integer number]
    return .tuple [.text r.switches, .integer r.opened, .tuple names]
  | .error m =>
    if m.isTooLarge then overflow m.words
    else return .tuple [.text m.words, Value.ofOption (m.place.map fun place => .integer place)]

/-- A match as the number of the last group and the stretches of the groups, of which the whole match is
the first. -/
def matchValue (groups start : Nat) (f : Text.Pattern.Found) : Value :=
  let stretch (number : Nat) : Value :=
    match f.groups.lookup number with
    | some (first, last) => .tuple [.integer first, .integer last]
    | none => .tuple [.integer (-1), .integer (-1)]
  .tuple [Value.ofOption (f.last.map fun number => .integer number),
    .tuple (.tuple [.integer start, .integer f.place] ::
      (List.range groups).map fun number => stretch (number + 1))]

/-- Finds where a pattern matches a text. The arguments are the pattern, its switches, the text, the place
where to start, the place where the text ends, the way to match, how many matches are wanted, and whether the
first has to be new. -/
def findPattern (arguments : List Value) : Act Value := do
  let argument := argument arguments
  let whole : Text ← match ← plain (argument 2) with
    | .text t | .bytes t => pure t
    | _ => pure []
  let start := (← index (argument 3)).toNat
  let s : Text.Pattern.Scene := ⟨whole.toArray, (← index (argument 4)).toNat⟩
  let wanted := (← index (argument 6)).toNat
  let isNew ← truth (argument 7)
  match ← patternOf (argument 0) (argument 1) with
  | .error _ => return .tuple []
  | .ok (p, r) =>
    let accepts (f : Text.Pattern.Found) : Bool := !isNew || f.place != start
    let found : List (Nat × Text.Pattern.Found) := match argument 5 with
      | .text ['m', 'a', 't', 'c', 'h'] => ((p.matchAt? s start accepts).map (start, ·)).toList
      | .text ['s', 'e', 'a', 'r', 'c', 'h'] => p.all s wanted start isNew
      | _ => ((p.matchAt? s start fun f => f.place == s.finish).map (start, ·)).toList
    return .tuple (found.map fun (first, f) => matchValue r.opened first f)

end Forwarding.Script.Act

/-! Regular expressions as values. -/

namespace Forwarding.Script.Library

def expressions : String := r#"
from enum import IntFlag as _IntFlag

__all__ = ['match', 'fullmatch', 'search', 'sub', 'subn', 'split', 'findall', 'finditer', 'compile', 'purge',
    'template', 'escape', 'error', 'Pattern', 'Match', 'A', 'I', 'L', 'M', 'S', 'X', 'U', 'ASCII', 'IGNORECASE',
    'LOCALE', 'MULTILINE', 'DOTALL', 'VERBOSE', 'UNICODE', 'NOFLAG', 'RegexFlag']

class RegexFlag(_IntFlag):
    NOFLAG = 0
    TEMPLATE = T = 1
    IGNORECASE = I = 2
    LOCALE = L = 4
    MULTILINE = M = 8
    DOTALL = S = 16
    UNICODE = U = 32
    VERBOSE = X = 64
    DEBUG = 128
    ASCII = A = 256

    def __repr__(self):
        value = self._value_
        if value == 0:
            return 're.NOFLAG'
        names = []
        for flag in (256, 2, 4, 32, 8, 16, 64, 1, 128):
            if value & flag:
                names.append('re.' + RegexFlag(flag)._name_)
        rest = value & ~511
        if rest and names:
            names.append(hex(rest))
        elif rest:
            return 're.RegexFlag(%d)' % rest
        return '|'.join(names)

    __str__ = __repr__

for _name, _flag in RegexFlag.__members__.items():
    globals()[_name] = _flag

class error(Exception):
    def __init__(self, msg, pattern=None, pos=None):
        self.msg = msg
        self.pattern = pattern
        self.pos = pos
        self.lineno = self.colno = None
        if pattern is not None and pos is not None:
            msg = '%s at position %d' % (msg, pos)
            feed = '\n' if isinstance(pattern, str) else b'\n'
            self.lineno = pattern.count(feed, 0, pos) + 1
            self.colno = pos - pattern.rfind(feed, 0, pos)
            if feed in pattern:
                msg = '%s (line %d, column %d)' % (msg, self.lineno, self.colno)
        super().__init__(msg)

class Pattern:
    __slots__ = ('pattern', 'flags', 'groups', '_mode', '_named')

    def __new__(cls, *arguments, **named):
        raise TypeError("cannot create 're.Pattern' instances")

    @property
    def groupindex(self):
        return dict(self._named)

    def __repr__(self):
        names = []
        flags = self.flags
        if isinstance(self.pattern, str) and flags & 292 == 32:
            flags &= ~32
        for flag in (1, 2, 4, 8, 16, 32, 64, 128, 256):
            if flags & flag:
                names.append('re.' + RegexFlag(flag)._name_)
        if flags & ~511:
            names.append(hex(flags & ~511))
        shown = repr(self.pattern)[:200]
        return 're.compile(' + (shown + ', ' + '|'.join(names) if names else shown) + ')'

    def __eq__(self, other):
        if not isinstance(other, Pattern):
            return NotImplemented
        return self.flags == other.flags and type(self.pattern) is type(other.pattern) and self.pattern == other.pattern

    def __hash__(self):
        return hash((self.flags, self.pattern))

    def __copy__(self):
        return self

    def __deepcopy__(self, memo):
        return self

    def _found(self, string, how, pos=0, endpos=None, count=0, after=False):
        if not isinstance(string, (str, bytes, bytearray, memoryview)):
            raise TypeError('expected string or bytes-like object, got %r' % type(string).__name__)
        if isinstance(string, str) != isinstance(self.pattern, str):
            if isinstance(string, str):
                raise TypeError('cannot use a bytes pattern on a string-like object')
            raise TypeError('cannot use a string pattern on a bytes-like object')
        size = len(string)
        last = size if endpos is None else min(max(endpos, 0), size)
        pos = min(max(pos, 0), last)
        text = string if isinstance(string, (str, bytes)) else bytes(string)
        found = []
        for index, spans in _find(self.pattern, self._mode, text, pos, last, how, count, after):
            made = object.__new__(Match)
            made.string = string
            made.re = self
            made.pos = pos
            made.endpos = last
            made.lastindex = index
            made.regs = spans
            found.append(made)
        return found

    def _first(self, string, how, pos, endpos):
        found = self._found(string, how, pos, endpos, 1)
        return found[0] if found else None

    def match(self, string, pos=0, endpos=None):
        return self._first(string, 'match', pos, endpos)

    def fullmatch(self, string, pos=0, endpos=None):
        return self._first(string, 'fullmatch', pos, endpos)

    def search(self, string, pos=0, endpos=None):
        return self._first(string, 'search', pos, endpos)

    def findall(self, string, pos=0, endpos=None):
        empty = string[:0] if isinstance(string, (str, bytes)) else b''
        found = []
        for match in self._found(string, 'search', pos, endpos):
            if self.groups == 0:
                found.append(match.group())
            elif self.groups == 1:
                found.append(match._part(1, empty))
            else:
                found.append(match.groups(empty))
        return found

    def finditer(self, string, pos=0, endpos=None):
        return iter(self._found(string, 'search', pos, endpos))

    def split(self, string, maxsplit=0):
        parts = []
        last = 0
        for match in self._found(string, 'search', 0, None, maxsplit) if maxsplit >= 0 else ():
            parts.append(_cut(string, last, match.start()))
            parts.extend(match.groups())
            last = match.end()
        parts.append(_cut(string, last, len(string)))
        return parts

    def subn(self, repl, string, count=0):
        made = repl
        if not callable(repl):
            literal = repl
            if not isinstance(repl, (str, bytes)) or (b'\\' if isinstance(repl, bytes) else '\\') in repl:
                parts = _template(repl, self)
                literal = None
                if len(parts) < 2 and not isinstance(parts[0] if parts else '', int):
                    literal = parts[0] if parts else repl[:0]
            made = (lambda match: literal) if literal is not None else lambda match: match._filled(parts)
        parts_made = []
        last = number = 0
        for match in self._found(string, 'search', 0, None, count) if count >= 0 else ():
            if last < match.start():
                parts_made.append(_cut(string, last, match.start()))
            item = made(match)
            if item is not None:
                parts_made.append(item)
            last = match.end()
            number += 1
        if last < len(string):
            parts_made.append(_cut(string, last, len(string)))
        return ('' if isinstance(string, str) else b'').join(parts_made), number

    def sub(self, repl, string, count=0):
        return self.subn(repl, string, count)[0]

    def scanner(self, string, pos=0, endpos=None):
        return _Walk(self, string, pos, endpos)

def _cut(string, first, last):
    part = string[first:last]
    return part if isinstance(part, (str, bytes)) else bytes(part)

class _Walk:
    def __init__(self, pattern, string, pos, endpos):
        self.pattern = pattern
        self._string = string
        self._place = pos
        self._last = endpos
        self._after = False

    def _next(self, how):
        if self._place is None:
            return None
        for match in self.pattern._found(self._string, how, self._place, self._last, 1, self._after):
            self._after = match.start() == match.end()
            self._place = match.end()
            return match
        self._place = None

    def match(self):
        return self._next('match')

    def search(self):
        return self._next('search')

class Match:
    __slots__ = ('string', 're', 'pos', 'endpos', 'lastindex', 'regs')

    def __new__(cls, *arguments, **named):
        raise TypeError("cannot create 're.Match' instances")

    @property
    def lastgroup(self):
        for name, index in self.re._named:
            if index == self.lastindex:
                return name

    def _place(self, group):
        if hasattr(group, '__index__'):
            index = group.__index__()
            if 0 <= index <= self.re.groups:
                return index
        else:
            for name, index in self.re._named:
                if name == group:
                    return index
        raise IndexError('no such group')

    def _part(self, index, default=None):
        first, last = self.regs[index]
        return default if first < 0 else _cut(self.string, first, last)

    def __getitem__(self, group):
        return self._part(self._place(group))

    def group(self, *groups):
        if len(groups) < 2:
            return self._part(self._place(groups[0] if groups else 0))
        return tuple([self._part(self._place(group)) for group in groups])

    def groups(self, default=None):
        return tuple([self._part(index, default) for index in range(1, self.re.groups + 1)])

    def groupdict(self, default=None):
        return dict([(name, self._part(index, default)) for name, index in self.re._named])

    def span(self, group=0, /):
        return self.regs[self._place(group)]

    def start(self, group=0, /):
        return self.regs[self._place(group)][0]

    def end(self, group=0, /):
        return self.regs[self._place(group)][1]

    def _filled(self, parts):
        empty = self.string[:0] if isinstance(self.string, (str, bytes)) else b''
        return empty.join([self._part(part, empty) if isinstance(part, int) else part for part in parts])

    def expand(self, template):
        return self._filled(_read_template(template, self.re))

    def __repr__(self):
        return '<re.Match object; span=%r, match=%s>' % (self.regs[0], repr(self.group())[:50])

    def __copy__(self):
        return self

    def __deepcopy__(self, memo):
        return self

for _kind in (Pattern, Match):
    _kind.__name__ = 're.' + _kind.__name__

_escapes = dict(a='\a', b='\b', f='\f', n='\n', r='\r', t='\t', v='\v')
_escapes['\\'] = '\\'
_letters = 'abcdefghijklmnopqrstuvwxyzABCDEFGHIJKLMNOPQRSTUVWXYZ'

def _read_template(template, pattern):
    text = template if isinstance(template, str) else str(template, 'latin1')
    size = len(text)
    parts = []
    literal = []

    def wrong(words, place):
        return error(words, template, place)

    def add_group(index, place):
        if index > pattern.groups:
            raise wrong('invalid group reference %d' % index, place)
        if literal:
            parts.append(''.join(literal))
            literal.clear()
        parts.append(index)

    def check(place):
        if place + 1 == size and text[place] == '\\':
            raise wrong('bad escape (end of pattern)', place)

    def is_digit(place, digits='0123456789'):
        return place < size and text[place] in digits

    check(0)
    at = 0
    while at < size:
        c = text[at]
        if c != '\\':
            literal.append(c)
            at += 1
            check(at)
            continue
        start = at
        c = text[at + 1]
        at += 2
        check(at)
        if c == 'g':
            if text[at:at + 1] != '<':
                raise wrong('missing <', at)
            at += 1
            check(at)
            first = at
            while text[at:at + 1] != '>':
                if at >= size:
                    if at == first:
                        raise wrong('missing group name', at)
                    raise wrong('missing >, unterminated name', first)
                at += 2 if text[at] == '\\' else 1
                check(at)
            name = text[first:at]
            if not name:
                raise wrong('missing group name', at)
            at += 1
            check(at)
            if name.isidentifier():
                for known, index in pattern._named:
                    if known == name:
                        break
                else:
                    raise IndexError('unknown group name %r' % name)
            else:
                try:
                    index = int(name)
                except ValueError:
                    index = -1
                if index < 0:
                    raise wrong('bad character in group name %r' % name, first)
                if index >= 1073741823:
                    raise wrong('invalid group reference %d' % index, first)
            add_group(index, first)
        elif c == '0':
            while at < start + 4 and is_digit(at, '01234567'):
                at += 1
                check(at)
            literal.append(chr(int(text[start + 1:at], 8) & 255))
        elif c in '123456789':
            if is_digit(at):
                at += 1
                check(at)
                if c in '01234567' and text[at - 1] in '01234567' and is_digit(at, '01234567'):
                    at += 1
                    check(at)
                    code = int(text[start + 1:at], 8)
                    if code > 255:
                        raise wrong('octal escape value %s outside of range 0-0o377' % text[start:at], start)
                    literal.append(chr(code))
                    continue
            add_group(int(text[start + 1:at]), start + 1)
        elif c in _escapes:
            literal.append(_escapes[c])
        elif c in _letters:
            raise wrong('bad escape ' + text[start:at], start)
        else:
            literal.append(text[start:at])
    if literal:
        parts.append(''.join(literal))
    if not isinstance(template, str):
        parts = [part if isinstance(part, int) else part.encode('latin-1') for part in parts]
    return parts

_kept = dict()
_templates = dict()

def _template(template, pattern):
    key = template, pattern
    if key not in _templates:
        _templates[key] = _read_template(template, pattern)
    return _templates[key]

def _compile(pattern, flags):
    if isinstance(flags, RegexFlag):
        flags = flags._value_
    key = type(pattern), pattern, flags
    if key in _kept:
        return _kept[key]
    if isinstance(pattern, Pattern):
        if flags:
            raise ValueError('cannot process flags argument with a compiled pattern')
        return pattern
    if not isinstance(pattern, (str, bytes)):
        raise TypeError('first argument must be string or compiled pattern')
    outcome = _read(pattern, flags)
    if len(outcome) == 2:
        words, place = outcome
        raise error(words) if place is None else error(words, pattern, place)
    switches, groups, named = outcome
    whole = flags
    for switch in switches:
        whole |= dict(i=2, L=4, m=8, s=16, x=64, a=256, t=1, u=32)[switch]
    if isinstance(pattern, str):
        if whole & 4:
            raise ValueError('cannot use LOCALE flag with a str pattern')
        if not whole & 256:
            whole |= 32
        elif whole & 32:
            raise ValueError('ASCII and UNICODE flags are incompatible')
    elif whole & 32:
        raise ValueError('cannot use UNICODE flag with a bytes pattern')
    elif whole & 4 and whole & 256:
        raise ValueError('ASCII and LOCALE flags are incompatible')
    made = object.__new__(Pattern)
    made.pattern = pattern
    made.flags = whole
    made.groups = groups
    made._mode = flags
    made._named = named
    _kept[key] = made
    return made

def compile(pattern, flags=0):
    return _compile(pattern, flags)

def template(pattern, flags=0):
    return _compile(pattern, flags | 1)

def match(pattern, string, flags=0):
    return _compile(pattern, flags).match(string)

def fullmatch(pattern, string, flags=0):
    return _compile(pattern, flags).fullmatch(string)

def search(pattern, string, flags=0):
    return _compile(pattern, flags).search(string)

def sub(pattern, repl, string, count=0, flags=0):
    return _compile(pattern, flags).sub(repl, string, count)

def subn(pattern, repl, string, count=0, flags=0):
    return _compile(pattern, flags).subn(repl, string, count)

def split(pattern, string, maxsplit=0, flags=0):
    return _compile(pattern, flags).split(string, maxsplit)

def findall(pattern, string, flags=0):
    return _compile(pattern, flags).findall(string)

def finditer(pattern, string, flags=0):
    return _compile(pattern, flags).finditer(string)

def purge():
    _kept.clear()
    _templates.clear()

_special = [9, 10, 11, 12, 13, 32, 35, 36, 38, *range(40, 44), 45, 46, 63, *range(91, 95), *range(123, 127)]

def escape(pattern):
    marks = dict([(code, '\\' + chr(code)) for code in _special])
    if isinstance(pattern, str):
        return pattern.translate(marks)
    return str(pattern, 'latin1').translate(marks).encode('latin1')

class Scanner:
    def __init__(self, lexicon, flags=0):
        self.lexicon = lexicon
        self.scanner = _compile('|'.join(['(' + phrase + ')' for phrase, action in lexicon]), flags)

    def scan(self, string):
        found = []
        match = self.scanner.scanner(string).match
        place = 0
        while True:
            made = match()
            if not made or made.end() == place:
                return found, string[place:]
            action = self.lexicon[made.lastindex - 1][1]
            if callable(action):
                self.match = made
                action = action(self, made.group())
            if action is not None:
                found.append(action)
            place = made.end()
"#

end Forwarding.Script.Library
