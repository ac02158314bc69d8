/-! Iterators that are made from others. -/

set_option autoImplicit false

namespace Forwarding.Script.Library

def iterators : String := r#"
from operator import add as _add, index as _index

class _Steps:
    def __iter__(self):
        return self

    def __next__(self):
        return next(self._steps)

def _chained(iterables):
    for inner in iterables:
        yield from inner

class chain(_Steps):
    def __init__(self, *iterables):
        self._steps = _chained(iter(iterables))

    @classmethod
    def from_iterable(cls, iterable, /):
        made = cls()
        made._steps = _chained(iter(iterable))
        return made

class count:
    def __init__(self, start=0, step=1):
        for number in (start, step):
            if not any(hasattr(number, name) for name in ('__index__', '__int__', '__float__', '__complex__')):
                raise TypeError('a number is required')
        self._next = start
        self._step = step

    def __iter__(self):
        return self

    def __next__(self):
        now = self._next
        self._next = now + self._step
        return now

    def __repr__(self):
        if isinstance(self._step, int) and self._step == 1:
            return 'count(%r)' % (self._next,)
        return 'count(%r, %r)' % (self._next, self._step)

def _cycled(items):
    seen = []
    for item in items:
        seen.append(item)
        yield item
    while seen:
        yield from seen

class cycle(_Steps):
    def __init__(self, iterable, /):
        self._steps = _cycled(iter(iterable))

class repeat:
    def __init__(self, object, times=None):
        self._object = object
        self._times = None if times is None else max(0, _index(times))

    def __iter__(self):
        return self

    def __next__(self):
        if self._times is not None:
            if self._times == 0:
                raise StopIteration
            self._times -= 1
        return self._object

    def __length_hint__(self):
        if self._times is None:
            raise TypeError('len() of unsized object')
        return self._times

    def __repr__(self):
        if self._times is None:
            return 'repeat(%r)' % (self._object,)
        return 'repeat(%r, %d)' % (self._object, self._times)

def _accumulated(items, func, initial):
    total = initial
    if initial is None:
        try:
            total = next(items)
        except StopIteration:
            return
    yield total
    for item in items:
        total = func(total, item)
        yield total

class accumulate(_Steps):
    def __init__(self, iterable, func=None, *, initial=None):
        self._steps = _accumulated(iter(iterable), _add if func is None else func, initial)

def _taken(predicate, items):
    for item in items:
        if not predicate(item):
            return
        yield item

class takewhile(_Steps):
    def __init__(self, predicate, iterable, /):
        self._steps = _taken(predicate, iter(iterable))

def _dropped(predicate, items):
    for item in items:
        if not predicate(item):
            yield item
            break
    yield from items

class dropwhile(_Steps):
    def __init__(self, predicate, iterable, /):
        self._steps = _dropped(predicate, iter(iterable))

def _refused(function, items):
    for item in items:
        if not (item if function is None or function is bool else function(item)):
            yield item

class filterfalse(_Steps):
    def __init__(self, function, iterable, /):
        self._steps = _refused(function, iter(iterable))

def _selected(data, selectors):
    for item, chosen in zip(data, selectors):
        if chosen:
            yield item

class compress(_Steps):
    def __init__(self, data, selectors):
        self._steps = _selected(iter(data), iter(selectors))

def _spread(function, items):
    for item in items:
        yield function(*item)

class starmap(_Steps):
    def __init__(self, function, iterable, /):
        self._steps = _spread(function, iter(iterable))

_most = 9223372036854775807

def _bound(value, words):
    if value is None:
        return None
    if hasattr(type(value), '__index__'):
        number = _index(value)
        if number in range(_most + 1):
            return number
    raise ValueError(words)

def _sliced(items, start, stop, step):
    place = 0
    wanted = start
    while stop is None or wanted in range(stop):
        for item in items:
            place += 1
            if place == wanted + 1:
                yield item
                wanted += step
                break
        else:
            return
    while stop is not None and place in range(stop):
        place += 1
        for item in items:
            break
        else:
            return

class islice(_Steps):
    def __init__(self, iterable, *bounds):
        if len(bounds) not in (1, 2, 3):
            words = 'islice expected at least 2 arguments, got %d' if not bounds else 'islice expected at most 4 arguments, got %d'
            raise TypeError(words % (len(bounds) + 1))
        words = 'Indices for islice() must be None or an integer: 0 <= x <= sys.maxsize.'
        if len(bounds) == 1:
            start, step = 0, 1
            stop = _bound(bounds[0], words.replace('Indices', 'Stop argument'))
        else:
            stop = _bound(bounds[1], words.replace('Indices', 'Stop argument'))
            start = _bound(bounds[0], words) or 0
            step = 1
            if len(bounds) == 3 and bounds[2] is not None:
                wrong = 'Step for islice() must be a positive integer or None.'
                step = _bound(bounds[2], wrong)
                if step == 0:
                    raise ValueError(wrong)
        self._steps = _sliced(iter(iterable), start, stop, step)

def _paired(items):
    for before in items:
        for item in items:
            yield before, item
            before = item

class pairwise(_Steps):
    def __init__(self, iterable, /):
        self._steps = _paired(iter(iterable))

def _filled(sources, fill):
    sources = list(sources)
    left = len(sources)
    while left:
        row = []
        for place, source in enumerate(sources):
            if source is None:
                row.append(fill)
                continue
            try:
                row.append(next(source))
            except StopIteration:
                left -= 1
                if not left:
                    return
                sources[place] = None
                row.append(fill)
        yield tuple(row)

class zip_longest(_Steps):
    def __init__(self, *iterables, fillvalue=None):
        self._steps = _filled([iter(inner) for inner in iterables], fillvalue)

def _multiplied(pools):
    if not pools:
        yield ()
        return
    for start in _multiplied(pools[:-1]):
        for item in pools[-1]:
            yield start + (item,)

class product(_Steps):
    def __init__(self, *iterables, repeat=1):
        count = _index(repeat)
        if count not in range(_most):
            raise ValueError('repeat argument cannot be negative')
        self._steps = _multiplied([tuple(inner) for inner in iterables] * count)

def _number(r, fewest=None):
    number = _index(r)
    if number not in range(_most):
        raise ValueError('r must be non-negative')
    return number

def _chosen(count, places, start, repeats):
    if places == 0:
        yield ()
        return
    for place in range(start, count):
        for rest in _chosen(count, places - 1, place if repeats else place + 1, repeats):
            yield (place,) + rest

def _picked(pool, choices):
    for choice in choices:
        yield tuple([pool[place] for place in choice])

class combinations(_Steps):
    def __init__(self, iterable, r):
        pool = tuple(iterable)
        self._steps = _picked(pool, _chosen(len(pool), _number(r), 0, False))

class combinations_with_replacement(_Steps):
    def __init__(self, iterable, r):
        pool = tuple(iterable)
        self._steps = _picked(pool, _chosen(len(pool), _number(r), 0, True))

def _arranged(places, count):
    if count == 0:
        yield ()
        return
    for index, place in enumerate(places):
        for rest in _arranged(places[:index] + places[index + 1:], count - 1):
            yield (place,) + rest

class permutations(_Steps):
    def __init__(self, iterable, r=None):
        pool = tuple(iterable)
        if r is not None and not isinstance(r, int):
            raise TypeError('Expected int as r')
        count = len(pool) if r is None else _number(r)
        fits = count in range(len(pool) + 1)
        self._steps = _picked(pool, _arranged(tuple(range(len(pool))), count) if fits else ())

class _grouper(_Steps):
    def __init__(self, owner, key):
        self._owner = owner
        self._steps = owner._members(self, key)

class groupby:
    def __init__(self, iterable, key=None):
        self._source = iter(iterable)
        self._function = key
        self._has = False
        self._done = False
        self._group = None

    def __iter__(self):
        return self

    def _advance(self):
        item = next(self._source)
        self._key = item if self._function is None else self._function(item)
        self._item = item
        self._has = True

    def __next__(self):
        if self._group is not None:
            self._group = None
            while True:
                if not self._has:
                    self._advance()
                if not (self._target == self._key):
                    break
                self._has = False
        elif not self._has:
            self._advance()
        self._target = self._key
        self._group = _grouper(self, self._key)
        return self._key, self._group

    def _members(self, group, key):
        while self._group is group:
            if not self._has:
                try:
                    self._advance()
                except StopIteration:
                    return
            if not (key == self._key):
                return
            self._has = False
            yield self._item

class _tee:
    def __init__(self, source, link):
        self._source = source
        self._link = link

    def __iter__(self):
        return self

    def __next__(self):
        if not self._link:
            self._link.extend([next(self._source), []])
        item, self._link = self._link
        return item

    def __copy__(self):
        return _tee(self._source, self._link)

def tee(iterable, n=2, /):
    count = _index(n)
    if count not in range(_most):
        raise ValueError('n must be >= 0')
    if isinstance(iterable, _tee):
        return tuple([_tee(iterable._source, iterable._link) for _ in range(count)])
    source, link = iter(iterable), []
    return tuple([_tee(source, link) for _ in range(count)])

for _kind in (chain, count, cycle, repeat, accumulate, takewhile, dropwhile, filterfalse, compress, starmap,
        islice, pairwise, zip_longest, product, combinations, combinations_with_replacement, permutations,
        groupby, _grouper, _tee):
    _kind.__name__ = 'itertools.' + _kind.__name__
    _kind.__slots__ = ('_steps', '_source', '_function', '_next', '_step', '_object', '_times', '_link', '_owner',
        '_group', '_has', '_item', '_key', '_done', '_target')
_Steps.__slots__ = ()
"#

end Forwarding.Script.Library
