import Forwarding.Script.Machine.Builtin

/-! Operators as functions, and functions on functions. -/

set_option autoImplicit false

namespace Forwarding.Script.Act

open Text

def operatorNames : List (String × Operator) := [
  ("add", .add), ("sub", .subtract), ("mul", .multiply), ("matmul", .multiplyMatrix),
  ("truediv", .divide), ("floordiv", .divideDown), ("mod", .remainder), ("pow", .power),
  ("lshift", .shiftLeft), ("rshift", .shiftRight), ("and_", .conjoin), ("or_", .disjoin),
  ("xor", .exclude), ("concat", .add)]

def relationNames : List (String × Order) := [
  ("eq", .equal), ("ne", .unequal), ("lt", .less), ("le", .atMost), ("gt", .greater),
  ("ge", .atLeast)]

def signNames : List (String × Sign) := [
  ("pos", .plus), ("neg", .minus), ("inv", .complement), ("invert", .complement)]

def operatorFunctions : List (List Text × Nat) := [
  ((operatorNames.map fun row => row.1.toList) ++ (relationNames.map fun row => row.1.toList) ++
    (operatorNames.map fun row => 'i' :: (row.1.toList.filter (· != '_'))) ++
    words "getitem delitem contains is_ is_not countOf indexOf", 2),
  ((signNames.map fun row => row.1.toList) ++ words "not_ truth abs index", 1),
  (words "setitem", 3), (words "length_hint call", 1)]

def operatorFunction (name : Text) (arguments : List Value) (named : Named) : Act Value := do
  let full : Text := "operator." ++ name
  refuseNames full named
  match operatorFunctions.find? fun row => row.1.contains name with
  | some (_, 1) => if name != "call" && name != "length_hint" then checkCount .single full name arguments.length
  | some (_, count) => checkCount (.between count count) full name arguments.length
  | none => pure ()
  let a := argument arguments 0
  let b := argument arguments 1
  let spelled := String.ofList name
  match operatorNames.lookup spelled, relationNames.lookup spelled, signNames.lookup spelled with
  | some o, _, _ => operate o a b
  | _, some o, _ => compareBy o a b
  | _, _, some s => sign s a
  | _, _, _ =>
    match operatorNames.find? fun row => 'i' :: (row.1.toList.filter (· != '_')) == name with
    | some (_, o) => augment o a b
    | none =>
      match spelled with
      | "getitem" => item a b
      | "setitem" => do
        storeItem a b (argument arguments 2)
        return .nothing
      | "delitem" => do
        eraseItem a b
        return .nothing
      | "contains" => return .truth (← contains a b)
      | "is_" => return .truth (a.isSame b)
      | "is_not" => return .truth !(a.isSame b)
      | "not_" => return .truth !(← truth a)
      | "truth" => return .truth (← truth a)
      | "abs" => absolute a
      | "index" => return .integer (← index a)
      | "countOf" => do
        let items ← itemsOf a
        return .integer (← items.filterM fun v => isEqual v b).length
      | "indexOf" => do
        let items ← itemsOf a
        match ← placeOfValue items [b] with
        | some place => return .integer place
        | none => valueError "sequence.index(x): x not in sequence"
      | "length_hint" => return .integer ((← size? a).getD 0)
      | "call" => call a (arguments.drop 1)
      | _ => return .nothing

end Forwarding.Script.Act

/-! Functions on functions, functions that get something from a value, contexts and copies. -/

namespace Forwarding.Script.Library

def combinators : String := r#"
WRAPPER_ASSIGNMENTS = ('__module__', '__name__', '__qualname__', '__doc__', '__annotations__')
WRAPPER_UPDATES = ('__dict__',)

_absent = object()

def reduce(function, iterable, initial=_absent, /):
    try:
        items = iter(iterable)
    except TypeError:
        raise TypeError('reduce() arg 2 must support iteration') from None
    if initial is _absent:
        for initial in items:
            break
        else:
            raise TypeError('reduce() of empty iterable with no initial value')
    for item in items:
        initial = function(initial, item)
    return initial

def update_wrapper(wrapper, wrapped, assigned=WRAPPER_ASSIGNMENTS, updated=WRAPPER_UPDATES):
    for name in assigned:
        try:
            value = getattr(wrapped, name)
        except AttributeError:
            pass
        else:
            setattr(wrapper, name, value)
    for name in updated:
        getattr(wrapper, name).update(getattr(wrapped, name, dict()))
    wrapper.__wrapped__ = wrapped
    return wrapper

def wraps(wrapped, assigned=WRAPPER_ASSIGNMENTS, updated=WRAPPER_UPDATES):
    return partial(update_wrapper, wrapped=wrapped, assigned=assigned, updated=updated)

class partial:
    def __new__(cls, *arguments, **named):
        if not arguments:
            raise TypeError("type 'partial' takes at least one argument")
        func, *placed = arguments
        if not callable(func):
            raise TypeError('the first argument must be callable')
        if isinstance(func, partial):
            placed = [*func.args, *placed]
            named = dict(func.keywords, **named)
            func = func.func
        made = super().__new__(cls)
        made.func = func
        made.args = tuple(placed)
        made.keywords = named
        return made

    def __call__(self, /, *arguments, **named):
        return self.func(*self.args, *arguments, **dict(self.keywords, **named))

    def __repr__(self):
        parts = [repr(self.func)]
        parts.extend([repr(argument) for argument in self.args])
        parts.extend(['%s=%r' % pair for pair in self.keywords.items()])
        return 'functools.partial(' + ', '.join(parts) + ')'

class partialmethod:
    def __init__(self, func, /, *arguments, **named):
        if not callable(func) and not hasattr(func, '__get__'):
            raise TypeError('%r is not callable or a descriptor' % (func,))
        self.func = func
        self.args = arguments
        self.keywords = named

    def __get__(self, owner, cls=None):
        def method(instance, /, *arguments, **named):
            return self.func(instance, *self.args, *arguments, **dict(self.keywords, **named))
        return method if owner is None else method.__get__(owner, cls)

class _CacheInfo(tuple):
    hits = property(lambda self: self[0])
    misses = property(lambda self: self[1])
    maxsize = property(lambda self: self[2])
    currsize = property(lambda self: self[3])

    def __repr__(self):
        return 'CacheInfo(hits=%r, misses=%r, maxsize=%r, currsize=%r)' % tuple(self)

class _lru_cache_wrapper:
    def __init__(self, function, maxsize, typed):
        self._function = function
        self._maxsize = maxsize
        self._typed = typed
        self._kept = dict()
        self._hits = self._misses = 0
        update_wrapper(self, function)

    def __call__(self, /, *arguments, **named):
        key = arguments
        if named:
            key += (_absent, *named.items())
        if self._typed:
            key += tuple([type(value) for value in arguments])
            key += tuple([type(value) for value in named.values()])
        elif len(key) == 1 and type(key[0]) in (int, str):
            key = key[0]
        kept = self._kept
        if key in kept:
            self._hits += 1
            value = kept.pop(key)
            kept[key] = value
            return value
        value = self._function(*arguments, **named)
        self._misses += 1
        if self._maxsize != 0:
            if self._maxsize is not None and key not in kept and len(kept) >= self._maxsize:
                del kept[next(iter(kept))]
            kept[key] = value
        return value

    def __get__(self, owner, cls=None):
        if owner is None:
            return self
        return lambda *arguments, **named: self(owner, *arguments, **named)

    def cache_info(self):
        return _CacheInfo((self._hits, self._misses, self._maxsize, len(self._kept)))

    def cache_clear(self):
        self._kept.clear()
        self._hits = self._misses = 0

    def cache_parameters(self):
        return dict(maxsize=self._maxsize, typed=self._typed)

def lru_cache(maxsize=128, typed=False):
    if isinstance(maxsize, int):
        maxsize = max(maxsize, 0)
    elif callable(maxsize) and isinstance(typed, bool):
        return _lru_cache_wrapper(maxsize, 128, typed)
    elif maxsize is not None:
        raise TypeError('Expected first argument to be an integer, a callable, or None')
    return lambda function: _lru_cache_wrapper(function, maxsize, typed)

def cache(user_function, /):
    return lru_cache(maxsize=None)(user_function)

def cmp_to_key(mycmp):
    class K:
        __slots__ = ['obj']
        __hash__ = None

        def __init__(self, obj):
            self.obj = obj

        def __lt__(self, other):
            return mycmp(self.obj, other.obj) < 0

        def __gt__(self, other):
            return mycmp(self.obj, other.obj) > 0

        def __eq__(self, other):
            return mycmp(self.obj, other.obj) == 0

        def __le__(self, other):
            return mycmp(self.obj, other.obj) <= 0

        def __ge__(self, other):
            return mycmp(self.obj, other.obj) >= 0

    K.__name__ = 'functools.KeyWrapper'
    K.__qualname__ = 'KeyWrapper'
    return K

def _ordering(root, name):
    def compare(self, other):
        first = getattr(type(self), root)(self, other)
        if first is NotImplemented:
            return first
        if root in ('__lt__', '__gt__'):
            if name == '__ge__' and root == '__lt__' or name == '__le__' and root == '__gt__':
                return not first
            if name in ('__le__', '__ge__'):
                return first or self == other
            return not first and self != other
        if name == '__gt__' and root == '__le__' or name == '__lt__' and root == '__ge__':
            return not first
        if name in ('__lt__', '__gt__'):
            return first and self != other
        return not first or self == other
    compare.__name__ = name
    return compare

def total_ordering(cls):
    names = ('__lt__', '__le__', '__gt__', '__ge__')
    roots = [name for name in names if getattr(cls, name, None) is not getattr(object, name, None)]
    if not roots:
        raise ValueError('must define at least one ordering operation: < > <= >=')
    root = [name for name in ('__lt__', '__gt__', '__le__', '__ge__') if name in roots]
    root = max(roots)
    for name in names:
        if name not in roots:
            setattr(cls, name, _ordering(root, name))
    return cls

class cached_property:
    def __init__(self, func):
        self.func = func
        self.attrname = None
        self.__doc__ = func.__doc__

    def __set_name__(self, owner, name):
        if self.attrname is None:
            self.attrname = name

    def __get__(self, instance, owner=None):
        if instance is None:
            return self
        if self.attrname is None:
            raise TypeError('Cannot use cached_property instance without calling __set_name__ on it.')
        kept = instance.__dict__
        value = kept.get(self.attrname, _absent)
        if value is _absent:
            value = self.func(instance)
            kept[self.attrname] = value
        return value

def singledispatch(func):
    known = dict()

    def dispatch(cls):
        for above in cls.__mro__:
            if above in known:
                return known[above]
        return func

    def register(cls, func=None):
        if func is None:
            if isinstance(cls, type):
                return lambda f: register(cls, f)
            func = cls
            cls = next(iter(func.__annotations__.values()))
        known[cls] = func
        return func

    def wrapper(*arguments, **named):
        if not arguments:
            raise TypeError(func.__name__ + ' requires at least 1 positional argument')
        return dispatch(arguments[0].__class__)(*arguments, **named)
    known[object] = func
    wrapper.register = register
    wrapper.dispatch = dispatch
    wrapper.registry = known
    update_wrapper(wrapper, func)
    return wrapper

for _kind in (partial, _lru_cache_wrapper):
    _kind.__name__ = 'functools.' + _kind.__name__
"#

def getters : String := r#"
class attrgetter:
    def __init__(self, attr, /, *attrs):
        for name in (attr, *attrs):
            if not isinstance(name, str):
                raise TypeError('attribute name must be a string')
        self._names = (attr, *attrs)

    def __call__(self, obj, /):
        found = []
        for name in self._names:
            value = obj
            for part in name.split('.'):
                value = getattr(value, part)
            found.append(value)
        return found[0] if len(found) == 1 else tuple(found)

    def __repr__(self):
        return 'operator.attrgetter(' + ', '.join(map(repr, self._names)) + ')'

class itemgetter:
    def __init__(self, item, /, *items):
        self._items = (item, *items)

    def __call__(self, obj, /):
        if len(self._items) == 1:
            return obj[self._items[0]]
        return tuple([obj[item] for item in self._items])

    def __repr__(self):
        return 'operator.itemgetter(' + ', '.join(map(repr, self._items)) + ')'

class methodcaller:
    def __init__(self, name, /, *arguments, **named):
        if not isinstance(name, str):
            raise TypeError('method name must be a string')
        self._name = name
        self._arguments = arguments
        self._named = named

    def __call__(self, obj, /):
        return getattr(obj, self._name)(*self._arguments, **self._named)

    def __repr__(self):
        parts = [repr(self._name)]
        parts.extend(map(repr, self._arguments))
        parts.extend(['%s=%r' % pair for pair in self._named.items()])
        return 'operator.methodcaller(' + ', '.join(parts) + ')'

for _kind in (attrgetter, itemgetter, methodcaller):
    _kind.__name__ = 'operator.' + _kind.__name__
    _kind.__slots__ = ('_names', '_items', '_name', '_arguments', '_named')
"#

def contexts : String := r#"
from functools import wraps as _wraps

class ContextDecorator:
    def _recreate_cm(self):
        return self

    def __call__(self, func):
        @_wraps(func)
        def inner(*arguments, **named):
            with self._recreate_cm():
                return func(*arguments, **named)
        return inner

class AbstractContextManager:
    def __enter__(self):
        return self

class _GeneratorContextManager(ContextDecorator):
    def __init__(self, func, arguments, named):
        self.gen = func(*arguments, **named)
        self.func, self.args, self.kwds = func, arguments, named

    def _recreate_cm(self):
        return self.__class__(self.func, self.args, self.kwds)

    def __enter__(self):
        try:
            return next(self.gen)
        except StopIteration:
            raise RuntimeError("generator didn't yield") from None

    def __exit__(self, typ, value, traceback):
        if typ is None:
            try:
                next(self.gen)
            except StopIteration:
                return False
            raise RuntimeError("generator didn't stop")
        if value is None:
            value = typ()
        try:
            self.gen.throw(value)
        except StopIteration as error:
            return error is not value
        except RuntimeError as error:
            if error is value:
                return False
            if isinstance(value, StopIteration) and error.__cause__ is value:
                return False
            raise
        except BaseException as error:
            if error is not value:
                raise
            return False
        raise RuntimeError("generator didn't stop after throw()")

def contextmanager(func):
    @_wraps(func)
    def helper(*arguments, **named):
        return _GeneratorContextManager(func, arguments, named)
    return helper

class closing(AbstractContextManager):
    def __init__(self, thing):
        self.thing = thing

    def __enter__(self):
        return self.thing

    def __exit__(self, *reason):
        self.thing.close()

class suppress(AbstractContextManager):
    def __init__(self, *exceptions):
        self._exceptions = exceptions

    def __enter__(self):
        pass

    def __exit__(self, typ, value, traceback):
        return typ is not None and issubclass(typ, self._exceptions)

class nullcontext(AbstractContextManager):
    def __init__(self, enter_result=None):
        self.enter_result = enter_result

    def __enter__(self):
        return self.enter_result

    def __exit__(self, *reason):
        pass

class redirect_stdout(AbstractContextManager):
    def __init__(self, new_target):
        self._new_target = new_target

    def __enter__(self):
        return self._new_target

    def __exit__(self, *reason):
        pass

class redirect_stderr(redirect_stdout):
    pass

class ExitStack(AbstractContextManager):
    def __init__(self):
        self._callbacks = []

    def enter_context(self, cm):
        cls = type(cm)
        try:
            enter, leave = cls.__enter__, cls.__exit__
        except AttributeError:
            raise TypeError("'%s.%s' object does not support the context manager protocol"
                % (cls.__module__, cls.__qualname__)) from None
        result = enter(cm)
        self._callbacks.append(lambda *reason: leave(cm, *reason))
        return result

    def push(self, exit):
        leave = getattr(type(exit), '__exit__', None)
        self._callbacks.append(exit if leave is None else lambda *reason: leave(exit, *reason))
        return exit

    def callback(self, callback, /, *arguments, **named):
        def leave(*reason):
            callback(*arguments, **named)
        self._callbacks.append(leave)
        return callback

    def pop_all(self):
        made = type(self)()
        made._callbacks, self._callbacks = self._callbacks, []
        return made

    def close(self):
        self.__exit__(None, None, None)

    def __exit__(self, *reason):
        received = reason[0] is not None
        suppressed = pending = False
        while self._callbacks:
            leave = self._callbacks.pop()
            try:
                if leave(*reason):
                    suppressed = True
                    pending = False
                    reason = (None, None, None)
            except BaseException as error:
                reason = (type(error), error, None)
                pending = True
        if pending:
            raise reason[1]
        return received and suppressed
"#

def copies : String := r#"
class Error(Exception):
    pass

error = Error

_fixed = (type(None), int, float, bool, complex, str, bytes, type, range, slice, type(...),
    type(NotImplemented), type(len), type(lambda: 0))

def _rebuilt(x, way):
    made = object.__new__(type(x))
    fields = getattr(x, '__dict__', None)
    if fields is not None:
        made.__dict__.update(way(fields))
    return made

def copy(x):
    cls = type(x)
    if cls in _fixed or cls in (tuple, frozenset) or isinstance(x, type):
        return x
    if cls in (list, dict, set, bytearray):
        return x.copy()
    copier = getattr(cls, '__copy__', None)
    if copier is not None:
        return copier(x)
    if isinstance(x, BaseException):
        return cls(*x.args)
    if isinstance(x, (list, tuple, set, frozenset, str, int, float)):
        made = cls.__new__(cls, x)
        if isinstance(x, list):
            made.extend(x)
        if isinstance(x, set):
            made.update(x)
        made.__dict__.update(x.__dict__)
        return made
    if isinstance(x, dict):
        made = cls.__new__(cls)
        made.__dict__.update(x.__dict__)
        for key, value in dict.items(x):
            dict.__setitem__(made, key, value)
        return made
    return _rebuilt(x, lambda fields: fields)

def deepcopy(x, memo=None):
    if memo is None:
        memo = dict()
    cls = type(x)
    if cls in _fixed or isinstance(x, type):
        return x
    if id(x) in memo:
        return memo[id(x)]
    if cls is tuple:
        items = [deepcopy(item, memo) for item in x]
        if id(x) in memo:
            return memo[id(x)]
        same = all(a is b for a, b in zip(items, x))
        made = x if same else tuple(items)
    elif cls is frozenset:
        made = frozenset([deepcopy(item, memo) for item in x])
    elif cls is list:
        made = memo[id(x)] = []
        for item in x:
            made.append(deepcopy(item, memo))
    elif cls is dict:
        made = memo[id(x)] = dict()
        for key, value in x.items():
            made[deepcopy(key, memo)] = deepcopy(value, memo)
    elif cls is set:
        made = set([deepcopy(item, memo) for item in x])
    elif cls is bytearray:
        made = bytearray(x)
    elif hasattr(cls, '__deepcopy__'):
        made = x.__deepcopy__(memo)
    elif isinstance(x, BaseException):
        made = cls(*[deepcopy(argument, memo) for argument in x.args])
    elif isinstance(x, dict):
        made = memo[id(x)] = cls.__new__(cls)
        made.__dict__.update(deepcopy(x.__dict__, memo))
        for key, value in dict.items(x):
            dict.__setitem__(made, deepcopy(key, memo), deepcopy(value, memo))
    elif isinstance(x, (list, tuple, set, frozenset)):
        made = cls.__new__(cls, [deepcopy(item, memo) for item in x])
        if isinstance(x, list):
            made.extend([deepcopy(item, memo) for item in x])
        if isinstance(x, set):
            made.update([deepcopy(item, memo) for item in x])
        if hasattr(x, '__dict__'):
            made.__dict__.update(deepcopy(x.__dict__, memo))
    else:
        made = object.__new__(cls)
        memo[id(x)] = made
        fields = getattr(x, '__dict__', None)
        if fields is not None:
            made.__dict__.update(deepcopy(fields, memo))
    memo[id(x)] = made
    return made
"#

end Forwarding.Script.Library
