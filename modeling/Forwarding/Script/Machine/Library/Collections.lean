/-! Kinds of collections beside lists, dictionaries and sets. -/

set_option autoImplicit false

namespace Forwarding.Script.Library

/-- Counters, queues, tuples with names, and dictionaries with a rule of their own. -/
def collections : String := r#"
from itertools import chain as _chain, repeat as _repeat, starmap as _starmap
from operator import itemgetter as _itemgetter
from keyword import iskeyword as _iskeyword

_absent = object()

class defaultdict(dict):
    def __init__(self, default_factory=None, /, *arguments, **named):
        if default_factory is not None and not callable(default_factory):
            raise TypeError('first argument must be callable or None')
        super().__init__(*arguments, **named)
        self.default_factory = default_factory

    def __missing__(self, key):
        if self.default_factory is None:
            raise KeyError(key)
        self[key] = value = self.default_factory()
        return value

    def __repr__(self):
        return 'defaultdict(%r, %s)' % (self.default_factory, dict.__repr__(self))

    def copy(self):
        return type(self)(self.default_factory, self)

    __copy__ = copy

    def __or__(self, other):
        if not isinstance(other, dict):
            return NotImplemented
        made = self.copy()
        made.update(other)
        return made

class OrderedDict(dict):
    def popitem(self, last=True):
        if not self:
            raise KeyError('dictionary is empty')
        key = next(reversed(self) if last else iter(self))
        return key, self.pop(key)

    def move_to_end(self, key, last=True):
        value = self[key]
        if last:
            del self[key]
            self[key] = value
        else:
            others = [pair for pair in self.items() if pair[0] != key]
            self.clear()
            self[key] = value
            self.update(others)

    def __repr__(self):
        if not self:
            return self.__class__.__name__ + '()'
        return '%s(%r)' % (self.__class__.__name__, list(self.items()))

    def __eq__(self, other):
        if isinstance(other, OrderedDict):
            return dict.__eq__(self, other) and list(self) == list(other)
        return dict.__eq__(self, other)

    def __ne__(self, other):
        return not self == other

    __hash__ = None

    def copy(self):
        return self.__class__(self)

    __copy__ = copy

    @classmethod
    def fromkeys(cls, iterable, value=None):
        made = cls()
        for key in iterable:
            made[key] = value
        return made

    def __or__(self, other):
        if not isinstance(other, dict):
            return NotImplemented
        made = self.__class__(self)
        made.update(other)
        return made

    def __ror__(self, other):
        if not isinstance(other, dict):
            return NotImplemented
        made = self.__class__(other)
        made.update(self)
        return made

def _count(mapping, iterable):
    for item in iterable:
        mapping[item] = mapping.get(item, 0) + 1

class Counter(dict):
    def __init__(self, iterable=None, /, **named):
        super().__init__()
        self.update(iterable, **named)

    def __missing__(self, key):
        return 0

    def total(self):
        return sum(self.values())

    def most_common(self, n=None):
        if n is None:
            return sorted(self.items(), key=_itemgetter(1), reverse=True)
        return sorted(self.items(), key=_itemgetter(1), reverse=True)[:max(n, 0)]

    def elements(self):
        return _chain.from_iterable(_starmap(_repeat, self.items()))

    @classmethod
    def fromkeys(cls, iterable, v=None):
        raise NotImplementedError('Counter.fromkeys() is undefined.  Use Counter(iterable) instead.')

    def update(self, iterable=None, /, **named):
        if iterable is not None:
            if hasattr(iterable, 'keys') and hasattr(iterable, '__getitem__'):
                if self:
                    for item, count in iterable.items():
                        self[item] = count + self.get(item, 0)
                else:
                    super().update(iterable)
            else:
                _count(self, iterable)
        if named:
            self.update(named)

    def subtract(self, iterable=None, /, **named):
        if iterable is not None:
            if hasattr(iterable, 'keys') and hasattr(iterable, '__getitem__'):
                for item, count in iterable.items():
                    self[item] = self[item] - count
            else:
                for item in iterable:
                    self[item] = self[item] - 1
        if named:
            self.subtract(named)

    def copy(self):
        return self.__class__(self)

    __copy__ = copy

    def __delitem__(self, item):
        if item in self:
            super().__delitem__(item)

    def __repr__(self):
        if not self:
            return self.__class__.__name__ + '()'
        try:
            shown = dict(self.most_common())
        except TypeError:
            shown = dict(self)
        return '%s(%r)' % (self.__class__.__name__, shown)

    def __eq__(self, other):
        if not isinstance(other, Counter):
            return NotImplemented
        return all(self[item] == other[item] for counter in (self, other) for item in counter)

    def __ne__(self, other):
        if not isinstance(other, Counter):
            return NotImplemented
        return not self == other

    __hash__ = None

    def __le__(self, other):
        if not isinstance(other, Counter):
            return NotImplemented
        return all(self[item] <= other[item] for counter in (self, other) for item in counter)

    def __lt__(self, other):
        if not isinstance(other, Counter):
            return NotImplemented
        return self <= other and self != other

    def __ge__(self, other):
        if not isinstance(other, Counter):
            return NotImplemented
        return all(self[item] >= other[item] for counter in (self, other) for item in counter)

    def __gt__(self, other):
        if not isinstance(other, Counter):
            return NotImplemented
        return self >= other and self != other

    def _joined(self, other, combine):
        made = Counter()
        for item in _chain(self, other):
            if item not in made:
                count = combine(self[item], other[item])
                if count > 0:
                    made[item] = count
        return made

    def __add__(self, other):
        if not isinstance(other, Counter):
            return NotImplemented
        return self._joined(other, lambda a, b: a + b)

    def __sub__(self, other):
        if not isinstance(other, Counter):
            return NotImplemented
        return self._joined(other, lambda a, b: a - b)

    def __or__(self, other):
        if not isinstance(other, Counter):
            return NotImplemented
        return self._joined(other, max)

    def __and__(self, other):
        if not isinstance(other, Counter):
            return NotImplemented
        return self._joined(other, min)

    def __pos__(self):
        return self._joined(Counter(), lambda a, b: a)

    def __neg__(self):
        return self._joined(Counter(), lambda a, b: -a)

    def _keep(self):
        for item in [item for item, count in self.items() if not count > 0]:
            del self[item]
        return self

    def __iadd__(self, other):
        for item, count in other.items():
            self[item] += count
        return self._keep()

    def __isub__(self, other):
        for item, count in other.items():
            self[item] -= count
        return self._keep()

    def __ior__(self, other):
        for item, count in other.items():
            self[item] = max(count, self[item])
        return self._keep()

    def __iand__(self, other):
        for item, count in self.items():
            self[item] = min(count, other[item])
        return self._keep()

class deque:
    __hash__ = None

    def __init__(self, iterable=(), maxlen=None):
        if maxlen is not None:
            if not isinstance(maxlen, int):
                raise TypeError('an integer is required')
            if maxlen < 0:
                raise ValueError('maxlen must be non-negative')
        self._items = []
        self._most = maxlen
        self.extend(iterable)

    maxlen = property(lambda self: self._most)

    def _cut(self, front):
        if self._most is not None:
            more = len(self._items) - self._most
            if more > 0:
                if front:
                    del self._items[:more]
                else:
                    del self._items[self._most:]

    def append(self, item, /):
        self._items.append(item)
        self._cut(True)

    def appendleft(self, item, /):
        self._items.insert(0, item)
        self._cut(False)

    def extend(self, iterable, /):
        for item in list(iterable):
            self.append(item)

    def extendleft(self, iterable, /):
        for item in list(iterable):
            self.appendleft(item)

    def pop(self):
        if not self._items:
            raise IndexError('pop from an empty deque')
        return self._items.pop()

    def popleft(self):
        if not self._items:
            raise IndexError('pop from an empty deque')
        return self._items.pop(0)

    def clear(self):
        self._items.clear()

    def copy(self):
        return type(self)(self._items, self._most)

    __copy__ = copy

    def count(self, item, /):
        return self._items.count(item)

    def index(self, item, *bounds):
        try:
            return self._items.index(item, *bounds)
        except ValueError:
            raise ValueError('%r is not in deque' % (item,)) from None

    def insert(self, place, item, /):
        if self._most is not None and len(self._items) >= self._most:
            raise IndexError('deque already at its maximum size')
        self._items.insert(place, item)

    def remove(self, item, /):
        try:
            self._items.remove(item)
        except ValueError:
            raise ValueError('%r is not in deque' % (item,)) from None

    def reverse(self):
        self._items.reverse()

    def rotate(self, n=1, /):
        if self._items:
            n %= len(self._items)
            self._items[:] = self._items[-n:] + self._items[:-n] if n else self._items

    def __len__(self):
        return len(self._items)

    def __iter__(self):
        size = len(self._items)
        for item in self._items:
            yield item
            if len(self._items) != size:
                raise RuntimeError('deque mutated during iteration')

    def __reversed__(self):
        return reversed(self._items)

    def __contains__(self, item):
        return item in self._items

    def _place(self, index):
        if not hasattr(type(index), '__index__'):
            raise TypeError('sequence index must be integer, not ' + repr(type(index).__name__))
        if index not in range(-len(self._items), len(self._items)):
            raise IndexError('deque index out of range')
        return index

    def __getitem__(self, index):
        return self._items[self._place(index)]

    def __setitem__(self, index, item):
        self._items[self._place(index)] = item

    def __delitem__(self, index):
        del self._items[self._place(index)]

    def __repr__(self):
        end = ')' if self._most is None else ', maxlen=%d)' % self._most
        return type(self).__name__ + '(' + repr([self if item is self else item for item in self._items]) + end

    def _compared(name):
        def compare(self, other):
            if not isinstance(other, deque):
                return NotImplemented
            return getattr(self._items, name)(other._items)
        return compare

    __eq__ = _compared('__eq__')
    __ne__ = _compared('__ne__')
    __lt__ = _compared('__lt__')
    __le__ = _compared('__le__')
    __gt__ = _compared('__gt__')
    __ge__ = _compared('__ge__')

    def __add__(self, other):
        if not isinstance(other, deque):
            raise TypeError('can only concatenate deque (not "%s") to deque' % type(other).__name__)
        return type(self)(self._items + other._items, self._most)

    def __iadd__(self, iterable):
        self.extend(iterable)
        return self

    def __mul__(self, count):
        return type(self)(self._items * count, self._most)

    __rmul__ = __mul__

    def __imul__(self, count):
        self._items *= count
        self._cut(True)
        return self

    def __bool__(self):
        return bool(self._items)

def namedtuple(typename, field_names, *, rename=False, defaults=None, module=None):
    if isinstance(field_names, str):
        field_names = field_names.replace(',', ' ').split()
    field_names = [str(name) for name in field_names]
    typename = str(typename)
    if rename:
        seen = set()
        for index, name in enumerate(field_names):
            if not name.isidentifier() or _iskeyword(name) or name.startswith('_') or name in seen:
                field_names[index] = '_%d' % index
            seen.add(name)
    for name in [typename] + field_names:
        if not name.isidentifier():
            raise ValueError('Type names and field names must be valid identifiers: %r' % name)
        if _iskeyword(name):
            raise ValueError('Type names and field names cannot be a keyword: %r' % name)
    seen = set()
    for name in field_names:
        if name.startswith('_') and not rename:
            raise ValueError('Field names cannot start with an underscore: %r' % name)
        if name in seen:
            raise ValueError('Encountered duplicate field name: %r' % name)
        seen.add(name)
    field_defaults = dict()
    if defaults is not None:
        defaults = tuple(defaults)
        if len(defaults) > len(field_names):
            raise TypeError('Got more default values than field names')
        field_defaults = dict(zip(field_names[len(field_names) - len(defaults):], defaults))
    names = tuple(field_names)
    space = dict(_tuple_new=tuple.__new__, __name__='namedtuple_' + typename)
    taken = ''.join(name + ', ' for name in names)
    exec('def __new__(_cls, ' + taken + '): return _tuple_new(_cls, (' + taken + '))', space)
    __new__ = space['__new__']
    __new__.__doc__ = 'Create new instance of %s(%s)' % (typename, ', '.join(names))
    if defaults is not None:
        __new__.__defaults__ = defaults

    def _make(cls, iterable):
        made = tuple.__new__(cls, iterable)
        if len(made) != len(names):
            raise TypeError('Expected %d arguments, got %d' % (len(names), len(made)))
        return made

    def _replace(self, /, **named):
        made = self._make(map(named.pop, names, self))
        if named:
            raise ValueError('Got unexpected field names: %r' % list(named))
        return made

    def __repr__(self):
        shown = ', '.join(['%s=%r' % pair for pair in zip(names, self)])
        return self.__class__.__name__ + '(' + shown + ')'

    def _asdict(self):
        return dict(zip(names, self))

    def __getnewargs__(self):
        return tuple(self)
    parts = dict(__doc__='%s(%s)' % (typename, ', '.join(names)), __slots__=(), _fields=names)
    parts.update(_field_defaults=field_defaults, __new__=__new__, _make=classmethod(_make))
    parts.update(_replace=_replace, __repr__=__repr__, _asdict=_asdict, __getnewargs__=__getnewargs__)
    parts.update(__match_args__=names)
    for function in (_make, _replace, __repr__, _asdict, __getnewargs__, __new__):
        function.__qualname__ = typename + '.' + function.__name__
    for index, name in enumerate(names):
        parts[name] = property(_itemgetter(index), doc='Alias for field number %d' % index)
    made = type(typename, (tuple,), parts)
    made.__module__ = 'proxies' if module is None else module
    return made

class ChainMap:
    __hash__ = None

    def __init__(self, *maps):
        self.maps = list(maps) or [dict()]

    def __missing__(self, key):
        raise KeyError(key)

    def __getitem__(self, key):
        for mapping in self.maps:
            try:
                return mapping[key]
            except KeyError:
                pass
        return self.__missing__(key)

    def get(self, key, default=None):
        return self[key] if key in self else default

    def _all(self):
        seen = dict()
        for mapping in reversed(self.maps):
            seen.update(dict.fromkeys(mapping))
        return seen

    def __len__(self):
        return len(self._all())

    def __iter__(self):
        return iter(self._all())

    def __contains__(self, key):
        return any(key in mapping for mapping in self.maps)

    def __bool__(self):
        return any(self.maps)

    def __repr__(self):
        return '%s(%s)' % (self.__class__.__name__, ', '.join(map(repr, self.maps)))

    def __eq__(self, other):
        return dict(self.items()) == dict(other.items())

    def keys(self):
        return dict([(key, self[key]) for key in self]).keys()

    def values(self):
        return dict([(key, self[key]) for key in self]).values()

    def items(self):
        return dict([(key, self[key]) for key in self]).items()

    def new_child(self, m=None, **named):
        if m is None:
            m = named
        elif named:
            m.update(named)
        return self.__class__(m, *self.maps)

    parents = property(lambda self: self.__class__(*self.maps[1:]))

    def __setitem__(self, key, value):
        self.maps[0][key] = value

    def __delitem__(self, key):
        try:
            del self.maps[0][key]
        except KeyError:
            raise KeyError('Key not found in the first mapping: %r' % (key,))

    def pop(self, key, *arguments):
        try:
            return self.maps[0].pop(key, *arguments)
        except KeyError:
            raise KeyError('Key not found in the first mapping: %r' % (key,))

    def popitem(self):
        try:
            return self.maps[0].popitem()
        except KeyError:
            raise KeyError('No keys found in the first mapping.')

    def clear(self):
        self.maps[0].clear()

    def update(self, *arguments, **named):
        self.maps[0].update(*arguments, **named)

    def setdefault(self, key, default=None):
        if key not in self:
            self[key] = default
        return self[key]

    def copy(self):
        return self.__class__(self.maps[0].copy(), *self.maps[1:])

    __copy__ = copy

class _Held:
    __hash__ = None

    def __len__(self):
        return len(self.data)

    def __iter__(self):
        return iter(self.data)

    def __contains__(self, item):
        return item in self.data

    def __getitem__(self, key):
        if isinstance(self, UserDict) and key not in self.data and hasattr(type(self), '__missing__'):
            return type(self).__missing__(self, key)
        found = self.data[key]
        return self.__class__(found) if isinstance(key, slice) else found

    def __setitem__(self, key, item):
        self.data[key] = item

    def __delitem__(self, key):
        del self.data[key]

    def __repr__(self):
        return repr(self.data)

    def __eq__(self, other):
        return self.data == getattr(other, 'data', other)

    def __lt__(self, other):
        return self.data < getattr(other, 'data', other)

    def __le__(self, other):
        return self.data <= getattr(other, 'data', other)

    def __gt__(self, other):
        return self.data > getattr(other, 'data', other)

    def __ge__(self, other):
        return self.data >= getattr(other, 'data', other)

    def copy(self):
        return self.__class__(self.data)

    __copy__ = copy

class UserDict(_Held):
    def __init__(self, dict=None, /, **named):
        self.data = type(named)()
        if dict is not None:
            self.update(dict)
        if named:
            self.update(named)

    def __setitem__(self, key, item):
        self.data[key] = item

    def get(self, key, default=None):
        return self[key] if key in self else default

    def keys(self):
        return self.data.keys()

    def values(self):
        return self.data.values()

    def items(self):
        return self.data.items()

    def pop(self, key, default=_absent):
        try:
            value = self[key]
        except KeyError:
            if default is _absent:
                raise
            return default
        del self[key]
        return value

    def popitem(self):
        if not self.data:
            raise KeyError
        key = next(iter(self))
        value = self[key]
        del self[key]
        return key, value

    def clear(self):
        while self.data:
            self.popitem()

    def setdefault(self, key, default=None):
        try:
            return self[key]
        except KeyError:
            self[key] = default
        return default

    def update(self, other=(), /, **named):
        if hasattr(other, 'keys'):
            for key in other.keys():
                self[key] = other[key]
        else:
            for key, value in other:
                self[key] = value
        for key, value in named.items():
            self[key] = value

class UserList(_Held):
    def __init__(self, initlist=None):
        self.data = [] if initlist is None else list(getattr(initlist, 'data', initlist))

    def __add__(self, other):
        return self.__class__(self.data + list(getattr(other, 'data', other)))

    def __mul__(self, n):
        return self.__class__(self.data * n)

    __rmul__ = __mul__

    def append(self, item):
        self.data.append(item)

    def insert(self, i, item):
        self.data.insert(i, item)

    def pop(self, i=-1):
        return self.data.pop(i)

    def remove(self, item):
        self.data.remove(item)

    def clear(self):
        self.data.clear()

    def count(self, item):
        return self.data.count(item)

    def index(self, item, *bounds):
        return self.data.index(item, *bounds)

    def reverse(self):
        self.data.reverse()

    def sort(self, /, *arguments, **named):
        self.data.sort(*arguments, **named)

    def extend(self, other):
        self.data.extend(getattr(other, 'data', other))

class UserString(_Held):
    def __init__(self, seq):
        self.data = str(getattr(seq, 'data', seq))

    def __str__(self):
        return self.data

    def __hash__(self):
        return hash(self.data)

    def __getattr__(self, name):
        if name == 'data':
            raise AttributeError(name)
        return getattr(self.data, name)

    def __getitem__(self, index):
        return self.__class__(self.data[index])

    def __add__(self, other):
        return self.__class__(self.data + str(other))

    def __radd__(self, other):
        return self.__class__(str(other) + self.data)

    def __mul__(self, n):
        return self.__class__(self.data * n)

    __rmul__ = __mul__

for _kind in (defaultdict, OrderedDict, deque):
    _kind.__name__ = 'collections.' + _kind.__name__
defaultdict.__slots__ = ('default_factory',)
deque.__slots__ = ('_items', '_most')
"#

/-! Sorted lists and heaps. -/

def bisection : String := r#"
def _place(a, x, lo, hi, key, goes):
    if lo < 0:
        raise ValueError('lo must be non-negative')
    if hi is None:
        hi = len(a)
    while lo < hi:
        middle = (lo + hi) // 2
        value = a[middle] if key is None else key(a[middle])
        if goes(value):
            lo = middle + 1
        else:
            hi = middle
    return lo

def bisect_left(a, x, lo=0, hi=None, *, key=None):
    return _place(a, x, lo, hi, key, lambda value: value < x)

def bisect_right(a, x, lo=0, hi=None, *, key=None):
    return _place(a, x, lo, hi, key, lambda value: not x < value)

def insort_left(a, x, lo=0, hi=None, *, key=None):
    a.insert(bisect_left(a, x if key is None else key(x), lo, hi, key=key), x)

def insort_right(a, x, lo=0, hi=None, *, key=None):
    a.insert(bisect_right(a, x if key is None else key(x), lo, hi, key=key), x)

bisect = bisect_right
insort = insort_right
"#

def heaps : String := r#"
def _sift_down(heap, start, place):
    item = heap[place]
    while place > start:
        above = (place - 1) >> 1
        if not item < heap[above]:
            break
        heap[place] = heap[above]
        place = above
    heap[place] = item

def _sift_up(heap, place):
    end = len(heap)
    start = place
    item = heap[place]
    child = 2 * place + 1
    while child < end:
        other = child + 1
        if other < end and not heap[child] < heap[other]:
            child = other
        heap[place] = heap[child]
        place = child
        child = 2 * place + 1
    heap[place] = item
    _sift_down(heap, start, place)

def _check(heap):
    if not isinstance(heap, list):
        raise TypeError('heap argument must be a list')

def heappush(heap, item, /):
    _check(heap)
    heap.append(item)
    _sift_down(heap, 0, len(heap) - 1)

def heappop(heap, /):
    _check(heap)
    if not heap:
        raise IndexError('index out of range')
    last = heap.pop()
    if not heap:
        return last
    first = heap[0]
    heap[0] = last
    _sift_up(heap, 0)
    return first

def heapreplace(heap, item, /):
    _check(heap)
    if not heap:
        raise IndexError('index out of range')
    first = heap[0]
    heap[0] = item
    _sift_up(heap, 0)
    return first

def heappushpop(heap, item, /):
    _check(heap)
    if heap and heap[0] < item:
        item, heap[0] = heap[0], item
        _sift_up(heap, 0)
    return item

def heapify(x, /):
    _check(x)
    for place in reversed(range(len(x) // 2)):
        _sift_up(x, place)

def merge(*iterables, key=None, reverse=False):
    items = []
    for inner in iterables:
        items.extend(inner)
    yield from sorted(items, key=key, reverse=reverse)

def nsmallest(n, iterable, key=None):
    return sorted(iterable, key=key)[:max(n, 0)]

def nlargest(n, iterable, key=None):
    return sorted(iterable, key=key, reverse=True)[:max(n, 0)]
"#

end Forwarding.Script.Library
