/-! Sets of characters, templates, lines of some width, and reserved words. -/

set_option autoImplicit false

namespace Forwarding.Script.Library

def letters : String := r#"
whitespace = ' \t\n\r\v\f'
ascii_lowercase = 'abcdefghijklmnopqrstuvwxyz'
ascii_uppercase = 'ABCDEFGHIJKLMNOPQRSTUVWXYZ'
ascii_letters = ascii_lowercase + ascii_uppercase
digits = '0123456789'
hexdigits = digits + 'abcdef' + 'ABCDEF'
octdigits = '01234567'
punctuation = ''.join(map(chr, [*range(33, 48), *range(58, 65), *range(91, 97), *range(123, 127)]))
printable = digits + ascii_letters + punctuation + whitespace
__all__ = ['ascii_letters', 'ascii_lowercase', 'ascii_uppercase', 'capwords', 'digits', 'hexdigits',
    'octdigits', 'printable', 'punctuation', 'whitespace', 'Formatter', 'Template']

def capwords(s, sep=None):
    return (sep or ' ').join(map(str.capitalize, s.split(sep)))

class Template:
    delimiter = '$'

    def __init__(self, template):
        self.template = template

    def _filled(self, mapping, safe):
        text = self.template
        parts = []
        at = 0
        while at < len(text):
            c = text[at]
            at += 1
            if c != '$':
                parts.append(c)
                continue
            if text[at:at + 1] == '$':
                parts.append('$')
                at += 1
                continue
            held = text[at:at + 1] == chr(123)
            start = at + 1 if held else at
            end = start
            while text[end:end + 1] and text[end].isascii() and (text[end].isalnum() or text[end] == '_'):
                end += 1
            name = text[start:end]
            if not name or name[0].isdigit() or held and text[end:end + 1] != chr(125):
                if safe:
                    parts.append('$')
                    continue
                before = text[:at - 1]
                line = before.count('\n') + 1
                column = at - 1 - (before.rfind('\n') + 1) + 1
                raise ValueError('Invalid placeholder in string: line %d, col %d' % (line, column))
            after = end + 1 if held else end
            if safe:
                try:
                    parts.append(str(mapping[name]))
                except KeyError:
                    parts.append(text[at - 1:after])
            else:
                parts.append(str(mapping[name]))
            at = after
        return ''.join(parts)

    def substitute(self, mapping=(), /, **kws):
        return self._filled(dict(mapping, **kws) if kws or not mapping else mapping, False)

    def safe_substitute(self, mapping=(), /, **kws):
        return self._filled(dict(mapping, **kws) if kws or not mapping else mapping, True)

class Formatter:
    def format(self, format_string, /, *args, **kwargs):
        return format_string.format(*args, **kwargs)

    def vformat(self, format_string, args, kwargs):
        return format_string.format(*args, **kwargs)
"#

def wrapping : String := r#"
def dedent(text):
    lines = text.split('\n')
    margin = None
    for place, line in enumerate(lines):
        if line.strip(' \t') == '':
            lines[place] = ''
            continue
        lead = line[:len(line) - len(line.lstrip(' \t'))]
        if margin is None or margin.startswith(lead):
            margin = lead
        elif not lead.startswith(margin):
            for count, (a, b) in enumerate(zip(margin, lead)):
                if a != b:
                    margin = margin[:count]
                    break
    if margin:
        lines = [line[len(margin):] if line.startswith(margin) else line for line in lines]
    return '\n'.join(lines)

def indent(text, prefix, predicate=None):
    if predicate is None:
        predicate = str.strip
    return ''.join([prefix + line if predicate(line) else line for line in text.splitlines(True)])

def wrap(text, width=70, **named):
    lead = named.get('initial_indent', '')
    rest = named.get('subsequent_indent', '')
    lines = []
    current = []
    size = 0
    for word in text.expandtabs(8).split():
        while True:
            room = width - len(rest if lines else lead)
            needed = len(word) + (size + 1 if current else 0)
            if needed <= room:
                size = needed
                current.append(word)
                break
            if not current:
                current = [word[:max(room, 1)]]
                word = word[max(room, 1):]
            lines.append((rest if lines else lead) + ' '.join(current))
            current = []
            size = 0
            if not word:
                break
    if current:
        lines.append((rest if lines else lead) + ' '.join(current))
    return lines

def fill(text, width=70, **named):
    return '\n'.join(wrap(text, width, **named))

def shorten(text, width, placeholder=' [...]', **named):
    words = text.split()
    if len(' '.join(words)) <= width:
        return ' '.join(words)
    while words and len(' '.join(words)) + len(placeholder) > width:
        words.pop()
    return (' '.join(words) + placeholder) if words else placeholder.lstrip()
"#

def keywords : String := r#"
kwlist = ('False None True and as assert async await break class continue def del elif else except '
    'finally for from global if import in is lambda nonlocal not or pass raise return try while '
    'with yield').split()
softkwlist = ['_', 'case', 'match', 'type'][:3]
iskeyword = frozenset(kwlist).__contains__
issoftkeyword = frozenset(softkwlist).__contains__
"#

end Forwarding.Script.Library
