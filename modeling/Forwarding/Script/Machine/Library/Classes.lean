/-! Classes of classes, and forms that stand for classes. -/

set_option autoImplicit false

namespace Forwarding.Script.Library

def abstract : String := r#"
class ABCMeta(type):
    def __new__(mcls, name, bases, namespace, /, **named):
        cls = super().__new__(mcls, name, bases, namespace, **named)
        wanted = set([key for key, value in namespace.items() if getattr(value, '__isabstractmethod__', False)])
        for base in bases:
            for key in getattr(base, '__abstractmethods__', ()):
                if getattr(getattr(cls, key, None), '__isabstractmethod__', False):
                    wanted.add(key)
        cls.__abstractmethods__ = frozenset(wanted)
        return cls

    def __call__(cls, *arguments, **named):
        wanted = sorted(cls.__abstractmethods__)
        if wanted:
            words = ', '.join(wanted)
            raise TypeError("Can't instantiate abstract class %s with abstract method%s %s"
                % (cls.__name__, '' if len(wanted) == 1 else 's', words))
        return super().__call__(*arguments, **named)

    def register(cls, subclass):
        return subclass

class ABC(metaclass=ABCMeta):
    __slots__ = ()

def abstractmethod(funcobj):
    funcobj.__isabstractmethod__ = True
    return funcobj

class abstractproperty(property):
    __isabstractmethod__ = True

class abstractclassmethod(classmethod):
    __isabstractmethod__ = True

class abstractstaticmethod(staticmethod):
    __isabstractmethod__ = True
"#

def kinds : String := r#"
FunctionType = LambdaType = type(lambda: None)
BuiltinFunctionType = BuiltinMethodType = type(len)
NoneType = type(None)
EllipsisType = type(...)
NotImplementedType = type(NotImplemented)
CodeType = type((lambda: None).__code__)
GenericAlias = type(list[int])
GeneratorType = type((item for item in ()))
MethodDescriptorType = type(str.join)
WrapperDescriptorType = type(object.__init__)
ModuleType = type(__import__('operator'))
MappingProxyType = dict
CoroutineType = type('coroutine', (), dict())

class _Bound:
    def method(self):
        pass

MethodType = type(_Bound().method)
UnionType = type(int | str)

class SimpleNamespace:
    __hash__ = None

    def __init__(self, /, **named):
        self.__dict__.update(named)

    def __repr__(self):
        name = 'namespace' if type(self) is SimpleNamespace else type(self).__name__
        return name + '(' + ', '.join(['%s=%r' % pair for pair in self.__dict__.items()]) + ')'

    def __eq__(self, other):
        if isinstance(self, SimpleNamespace) and isinstance(other, SimpleNamespace):
            return self.__dict__ == other.__dict__
        return NotImplemented

SimpleNamespace.__name__ = 'types.SimpleNamespace'

class DynamicClassAttribute(property):
    pass

def new_class(name, bases=(), kwds=None, exec_body=None):
    parts = dict()
    if exec_body is not None:
        exec_body(parts)
    return type(name, tuple(bases), parts)
"#

def annotations : String := r#"
class _Form:
    def __init__(self, name):
        self._name = name

    def __repr__(self):
        return 'typing.' + self._name

    def __getitem__(self, parameters):
        return _Applied(self, parameters if isinstance(parameters, tuple) else (parameters,))

    def __or__(self, other):
        return Union[self, other]

    def __ror__(self, other):
        return Union[other, self]

    def __call__(self, *arguments, **named):
        if self._name in _plain:
            return _plain[self._name](*arguments, **named)
        raise TypeError('Cannot instantiate ' + repr(self))

def _shown(parameter):
    if parameter is ...:
        return '...'
    if isinstance(parameter, list):
        return '[' + ', '.join(map(_shown, parameter)) + ']'
    if isinstance(parameter, type) and not hasattr(parameter, '__args__'):
        if parameter.__module__ == 'builtins':
            return parameter.__qualname__
        return parameter.__module__ + '.' + parameter.__qualname__
    return repr(parameter)

class _Applied:
    def __init__(self, origin, parameters):
        self._form = origin
        self.__origin__ = _plain.get(origin._name, origin)
        self.__args__ = tuple([type(None) if p is None else p for p in parameters])

    def __repr__(self):
        return repr(self._form) + '[' + ', '.join(map(_shown, self.__args__)) + ']'

    def __eq__(self, other):
        return isinstance(other, _Applied) and self._form is other._form and self.__args__ == other.__args__

    def __hash__(self):
        return hash(self.__args__)

    def __or__(self, other):
        return Union[self, other]

    def __ror__(self, other):
        return Union[other, self]

    def __getitem__(self, parameters):
        return self

    def __call__(self, *arguments, **named):
        return self._form(*arguments, **named)

class _UnionForm(_Form):
    def __getitem__(self, parameters):
        flat = []
        for p in parameters if isinstance(parameters, tuple) else (parameters,):
            p = type(None) if p is None else p
            for inner in p.__args__ if isinstance(p, _Applied) and p._form is self else (p,):
                if inner not in flat:
                    flat.append(inner)
        return flat[0] if len(flat) == 1 else _Joined(self, flat)

class _Joined(_Applied):
    def __repr__(self):
        others = [p for p in self.__args__ if p is not type(None)]
        if len(others) == 1 and len(self.__args__) == 2:
            return 'typing.Optional[' + _shown(others[0]) + ']'
        return 'typing.Union[' + ', '.join(map(_shown, self.__args__)) + ']'

class _OptionalForm(_Form):
    def __getitem__(self, parameter):
        return Union[parameter, None]

_plain = dict(List=list, Dict=dict, Set=set, FrozenSet=frozenset, Tuple=tuple, Type=type)

Union = _UnionForm('Union')
Optional = _OptionalForm('Optional')
for _name in ('Any List Dict Set FrozenSet Tuple Type Callable Iterable Iterator Sequence Mapping '
        'MutableMapping MutableSequence MutableSet Generator Hashable Sized Collection Container '
        'Literal Final ClassVar NoReturn Never Annotated AnyStr Awaitable Coroutine Deque DefaultDict '
        'Counter OrderedDict ChainMap Text Self Concatenate TypeGuard Required NotRequired Unpack '
        'LiteralString TypeAlias AsyncIterator AsyncIterable ByteString Reversible SupportsInt').split():
    globals()[_name] = _Form(_name)
Text = str
TYPE_CHECKING = False

class TypeVar:
    def __init__(self, name, *constraints, bound=None, covariant=False, contravariant=False):
        self.__name__ = name
        self.__constraints__ = constraints
        self.__bound__ = bound

    def __repr__(self):
        return '~' + self.__name__

class ParamSpec(TypeVar):
    pass

class Generic:
    def __class_getitem__(cls, parameters):
        return cls

class Protocol(Generic):
    pass

def NamedTuple(typename, fields=(), /, **named):
    from collections import namedtuple
    return namedtuple(typename, [name for name, _ in (list(fields) or named.items())])

def NewType(name, tp):
    def make(value):
        return value
    make.__name__ = name
    make.__supertype__ = tp
    return make

def cast(typ, val):
    return val

def overload(func):
    return func

def final(f):
    return f

def no_type_check(arg):
    return arg

def runtime_checkable(cls):
    return cls

def get_type_hints(obj, globalns=None, localns=None, include_extras=False):
    return dict(getattr(obj, '__annotations__', ()))

def get_origin(tp):
    return getattr(tp, '__origin__', None)

def get_args(tp):
    return getattr(tp, '__args__', ())

def reveal_type(obj, /):
    return obj

def assert_type(val, typ, /):
    return val
"#

/-! Classes whose methods are made from their fields. -/

def records : String := r#"
class _Missing:
    def __repr__(self):
        return '<dataclasses._MISSING_TYPE object>'

MISSING = _Missing()
KW_ONLY = _Missing()

class FrozenInstanceError(AttributeError):
    pass

class Field:
    def __init__(self, default, default_factory, init, repr, hash, compare, metadata, kw_only):
        self.name = self.type = None
        self.default = default
        self.default_factory = default_factory
        self.init = init
        self.repr = repr
        self.hash = hash
        self.compare = compare
        self.metadata = dict() if metadata is None else metadata
        self.kw_only = kw_only

def field(*, default=MISSING, default_factory=MISSING, init=True, repr=True, hash=None, compare=True,
          metadata=None, kw_only=MISSING):
    if default is not MISSING and default_factory is not MISSING:
        raise ValueError('cannot specify both default and default_factory')
    return Field(default, default_factory, init, repr, hash, compare, metadata, kw_only)

class InitVar:
    def __class_getitem__(cls, type):
        return cls

def _is_word(annotation, word):
    if isinstance(annotation, str):
        return annotation.split('[')[0] in (word, 'typing.' + word, 'dataclasses.' + word)
    shown = repr(annotation)
    return shown.startswith('typing.' + word) or word == 'InitVar' and annotation is InitVar

def _collected(cls, kw_only):
    found = dict()
    for above in reversed(cls.__mro__[1:]):
        for name, known in getattr(above, '__dataclass_fields__', dict()).items():
            found[name] = known
    only = kw_only
    for name, annotation in cls.__dict__.get('__annotations__', dict()).items():
        if annotation is KW_ONLY or annotation == 'KW_ONLY':
            only = True
            continue
        if _is_word(annotation, 'ClassVar'):
            continue
        default = getattr(cls, name, MISSING)
        if isinstance(default, Field):
            known = default
        else:
            known = field(default=default)
        known.name = name
        known.type = annotation
        known._transient = _is_word(annotation, 'InitVar')
        if known.kw_only is MISSING:
            known.kw_only = only
        if known.default.__class__.__hash__ is None:
            raise ValueError('mutable default %s for field %s is not allowed: use default_factory'
                % (known.default.__class__, name))
        if isinstance(cls.__dict__.get(name), Field):
            if known.default is MISSING:
                delattr(cls, name)
            else:
                setattr(cls, name, known.default)
        found[name] = known
    return found

def _initialiser(cls, known, frozen):
    placed = [f for f in known if f.init and not f.kw_only]
    named = [f for f in known if f.init and f.kw_only]
    seen = None
    for f in placed:
        if f.default is not MISSING or f.default_factory is not MISSING:
            seen = f
        elif seen is not None:
            raise TypeError('non-default argument %r follows default argument' % f.name)
    def parameter(f):
        if f.default is not MISSING or f.default_factory is not MISSING:
            return f.name + '=_absent'
        return f.name
    parts = ['self'] + [parameter(f) for f in placed]
    if named:
        parts += ['*'] + [parameter(f) for f in named]
    names = ', '.join(['(%r, %s)' % (f.name, f.name) for f in placed + named])
    space = dict(_absent=MISSING, _fill=_fill, __name__=cls.__module__)
    exec('def __init__(' + ', '.join(parts) + '):\n    _fill(self, [' + names + '])', space)
    function = space['__init__']
    function.__qualname__ = cls.__qualname__ + '.__init__'
    return function

def _fill(self, pairs):
    given = dict(pairs)
    transient = []
    for f in type(self).__dataclass_fields__.values():
        value = given.get(f.name, MISSING)
        if value is MISSING:
            if f.default_factory is not MISSING:
                value = f.default_factory()
            elif f.default is not MISSING:
                value = f.default
            else:
                continue
        if f._transient:
            transient.append(value)
        elif f.init or f.default_factory is not MISSING:
            object.__setattr__(self, f.name, value)
    if hasattr(self, '__post_init__'):
        self.__post_init__(*transient)

def _values(self):
    return tuple([getattr(self, f.name) for f in fields(self) if f.compare])

def _compared(name):
    def compare(self, other):
        if other.__class__ is self.__class__:
            return getattr(_values(self), name)(_values(other))
        return NotImplemented
    compare.__name__ = name
    return compare

def _repr(self):
    shown = ', '.join(['%s=%r' % (f.name, getattr(self, f.name)) for f in fields(self) if f.repr])
    return self.__class__.__qualname__ + '(' + shown + ')'

def _hash(self):
    return hash(tuple([getattr(self, f.name) for f in fields(self)
        if (f.compare if f.hash is None else f.hash)]))

def _refuse_set(self, name, value):
    if type(self).__dataclass_params__['frozen']:
        raise FrozenInstanceError('cannot assign to field %r' % name)
    object.__setattr__(self, name, value)

def _refuse_delete(self, name):
    raise FrozenInstanceError('cannot delete field %r' % name)

def _process(cls, init, repr, eq, order, unsafe_hash, frozen, match_args, kw_only, slots):
    for above in cls.__mro__[1:]:
        known = getattr(above, '__dataclass_params__', None)
        if known is not None:
            if known['frozen'] and not frozen:
                raise TypeError('cannot inherit non-frozen dataclass from a frozen one')
            if frozen and not known['frozen']:
                raise TypeError('cannot inherit frozen dataclass from a non-frozen one')
    if order and not eq:
        raise ValueError('eq must be true if order is true')
    known = _collected(cls, kw_only)
    cls.__dataclass_fields__ = known
    cls.__dataclass_params__ = dict(frozen=frozen)
    own = set(cls.__dict__)
    if init:
        cls.__init__ = _initialiser(cls, list(known.values()), frozen)
    if repr and '__repr__' not in own:
        cls.__repr__ = _repr
    if eq and '__eq__' not in own:
        cls.__eq__ = _compared('__eq__')
    if order:
        for name in ('__lt__', '__le__', '__gt__', '__ge__'):
            if name in own:
                raise TypeError('Cannot overwrite attribute %s in class %s. Consider using functools.total_ordering'
                    % (name, cls.__name__))
            setattr(cls, name, _compared(name))
    if frozen:
        cls.__setattr__ = _refuse_set
        cls.__delattr__ = _refuse_delete
    if unsafe_hash or eq and frozen:
        if '__hash__' not in own or cls.__dict__['__hash__'] is None:
            cls.__hash__ = _hash
    elif eq and '__hash__' not in own:
        cls.__hash__ = None
    if match_args and '__match_args__' not in own:
        cls.__match_args__ = tuple([f.name for f in known.values() if f.init and not f.kw_only])
    if cls.__dict__.get('__doc__') is None:
        cls.__doc__ = cls.__name__ + '(' + ', '.join([f.name for f in known.values()]) + ')'
    return cls

def dataclass(cls=None, /, *, init=True, repr=True, eq=True, order=False, unsafe_hash=False,
              frozen=False, match_args=True, kw_only=False, slots=False, weakref_slot=False):
    def wrap(cls):
        return _process(cls, init, repr, eq, order, unsafe_hash, frozen, match_args, kw_only, slots)
    return wrap if cls is None else wrap(cls)

def fields(class_or_instance):
    try:
        known = class_or_instance.__dataclass_fields__
    except AttributeError:
        raise TypeError('must be called with a dataclass type or instance') from None
    return tuple([f for f in known.values() if not f._transient])

def is_dataclass(obj):
    cls = obj if isinstance(obj, type) else type(obj)
    return hasattr(cls, '__dataclass_fields__')

def _is_instance(obj):
    return not isinstance(obj, type) and hasattr(type(obj), '__dataclass_fields__')

def _inner(obj, made, tuples):
    if _is_instance(obj):
        pairs = [(f.name, _inner(getattr(obj, f.name), made, tuples)) for f in fields(obj)]
        return tuple([value for _, value in pairs]) if tuples else made(pairs)
    if isinstance(obj, tuple) and hasattr(obj, '_fields'):
        return type(obj)(*[_inner(item, made, tuples) for item in obj])
    if isinstance(obj, (list, tuple)):
        return type(obj)([_inner(item, made, tuples) for item in obj])
    if isinstance(obj, dict):
        return type(obj)([(_inner(k, made, tuples), _inner(v, made, tuples)) for k, v in obj.items()])
    from copy import deepcopy
    return deepcopy(obj)

def asdict(obj, *, dict_factory=dict):
    if not _is_instance(obj):
        raise TypeError('asdict() should be called on dataclass instances')
    return _inner(obj, dict_factory, False)

def astuple(obj, *, tuple_factory=tuple):
    if not _is_instance(obj):
        raise TypeError('astuple() should be called on dataclass instances')
    return tuple_factory(_inner(obj, None, True))

def replace(obj, /, **changes):
    if not _is_instance(obj):
        raise TypeError('replace() should be called on dataclass instances')
    for f in obj.__dataclass_fields__.values():
        if not f.init:
            if f.name in changes:
                raise ValueError('field %s is declared with init=False, it cannot be specified with replace()'
                    % f.name)
            continue
        if f.name not in changes:
            changes[f.name] = getattr(obj, f.name)
    return obj.__class__(**changes)

def make_dataclass(cls_name, fields, *, bases=(), namespace=None, **named):
    parts = dict(namespace or dict())
    annotations = dict()
    for item in fields:
        if isinstance(item, str):
            annotations[item] = 'typing.Any'
        else:
            annotations[item[0]] = item[1]
            if len(item) == 3:
                parts[item[0]] = item[2]
    parts['__annotations__'] = annotations
    return dataclass(type(cls_name, bases, parts), **named)
"#

/-! Classes of named values. -/

def enumerations : String := r#"
class auto:
    value = None

_absent = object()

class _Space(dict):
    def __init__(self):
        super().__init__()
        self._members = []
        self._last = []

    def __setitem__(self, key, value):
        plain = not hasattr(value, '__get__') and not (key.startswith('__') and key.endswith('__'))
        if plain and not key.startswith('_'):
            if key in self._members:
                raise TypeError('%r already defined as %r' % (key, self[key]))
            if isinstance(value, auto):
                make = self.get('_generate_next_value_', self._make)
                make = getattr(make, '__func__', make)
                value = make(key, 1, len(self._members), self._last[:])
            self._members.append(key)
            self._last.append(value)
        elif key in self._members:
            raise TypeError('%r already defined as %r' % (key, self[key]))
        super().__setitem__(key, value)

def _next(name, start, count, last_values):
    if not last_values:
        return start
    try:
        return sorted(last_values)[-1] + 1
    except TypeError:
        return last_values[-1] + 1

def _next_flag(name, start, count, last_values):
    if not last_values:
        return start
    return 1 << max(last_values).bit_length()

class EnumType(type):
    @classmethod
    def __prepare__(metacls, cls, bases, **named):
        space = _Space()
        space._make = _next
        for base in bases:
            for above in base.__mro__:
                if '_generate_next_value_' in above.__dict__:
                    make = above.__dict__['_generate_next_value_']
                    space._make = getattr(make, '__func__', make)
                    break
            if getattr(base, '_member_map_', None):
                raise TypeError('%s cannot extend %r' % (cls, base))
        return space

    def __new__(metacls, cls, bases, space, *, boundary=None, **named):
        members = getattr(space, '_members', [])
        if isinstance(space.get('_generate_next_value_'), type(_next)):
            space['_generate_next_value_'] = staticmethod(space['_generate_next_value_'])
        values = [(name, dict.__getitem__(space, name)) for name in members]
        parts = dict([(key, value) for key, value in space.items() if key not in members])
        made_by = parts.pop('__new__', None)
        made = super().__new__(metacls, cls, bases, parts)
        made._member_map_ = dict()
        made._member_names_ = []
        made._value2member_map_ = dict()
        data = None
        for above in made.__mro__:
            if above in (int, str, float, bytes, tuple):
                data = above
                break
        if made_by is None:
            for above in made.__mro__[1:]:
                if '_made_by' in above.__dict__:
                    made_by = above._made_by
                    break
        made._made_by = made_by
        for name, value in values:
            arguments = value if isinstance(value, tuple) else (value,)
            if made_by is not None:
                member = made_by(made, *arguments)
            elif data is not None:
                member = data.__new__(made, *arguments)
            else:
                member = object.__new__(made)
            if '_value_' not in member.__dict__:
                member._value_ = value if data is None else data(*arguments)
            if '__init__' in parts:
                member.__init__(*arguments)
            for other in made._member_map_.values():
                if other._value_ == member._value_:
                    made._member_map_[name] = other
                    break
            else:
                member._name_ = name
                member._sort_order_ = len(made._member_names_)
                made._member_map_[name] = member
                made._member_names_.append(name)
                try:
                    made._value2member_map_[member._value_] = member
                except TypeError:
                    pass
            type.__setattr__(made, name, made._member_map_[name])
        return made

    def __call__(cls, value, names=None, *, module=None, qualname=None, type=None, start=1, boundary=None):
        if names is None:
            return cls._found(value)
        metacls = cls.__class__
        bases = (cls,) if type is None else (type, cls)
        space = metacls.__prepare__(value, bases)
        if isinstance(names, str):
            names = names.replace(',', ' ').split()
        if isinstance(names, dict):
            names = names.items()
        last = []
        for place, item in enumerate(names):
            if isinstance(item, str):
                next_value = space._make(item, start, place, last[:])
                last.append(next_value)
                space[item] = next_value
            else:
                space[item[0]] = item[1]
        space['__module__'] = 'proxies'
        return metacls.__new__(metacls, value, bases, space)

    def _found(cls, value):
        if type(value) is cls:
            return value
        for member in cls._member_map_.values():
            if member._value_ == value:
                return member
        try:
            found = cls._missing_(value)
        except Exception as error:
            error.__context__ = ValueError('%r is not a valid %s' % (value, cls.__qualname__))
            raise
        if isinstance(found, cls):
            return found
        if found is None:
            raise ValueError('%r is not a valid %s' % (value, cls.__qualname__))
        raise TypeError('error in %s._missing_: returned %r instead of None or a valid member'
            % (cls.__name__, found))

    def __getattr__(cls, name):
        raise AttributeError(name)

    def __getitem__(cls, name):
        return cls._member_map_[name]

    def __iter__(cls):
        return iter([cls._member_map_[name] for name in cls._member_names_])

    def __reversed__(cls):
        return reversed([cls._member_map_[name] for name in cls._member_names_])

    def __len__(cls):
        return len(cls._member_names_)

    def __bool__(cls):
        return True

    def __contains__(cls, member):
        if isinstance(member, cls):
            return member._name_ in cls._member_map_
        raise TypeError("unsupported operand type(s) for 'in': %r and %r"
            % (type(member).__qualname__, cls.__class__.__qualname__))

    def __repr__(cls):
        kind = 'flag' if Flag is not None and issubclass(cls, Flag) else 'enum'
        return '<%s %r>' % (kind, cls.__name__)

    def __setattr__(cls, name, value):
        if name in cls.__dict__.get('_member_map_', ()):
            raise AttributeError('cannot reassign member %r' % name)
        super().__setattr__(name, value)

    def __delattr__(cls, name):
        if name in cls._member_map_:
            raise AttributeError('%r cannot delete member %r.' % (cls.__name__, name))
        super().__delattr__(name)

    @property
    def __members__(cls):
        return dict(cls._member_map_)

EnumMeta = EnumType
Flag = None

class Enum(metaclass=EnumType):
    @property
    def name(self):
        return self._name_

    @property
    def value(self):
        return self._value_

    @classmethod
    def _missing_(cls, value):
        return None

    def __repr__(self):
        return '<%s.%s: %r>' % (self.__class__.__name__, self._name_, self._value_)

    def __str__(self):
        return '%s.%s' % (self.__class__.__name__, self._name_)

    def __format__(self, spec):
        return str.__format__(str(self), spec)

    def __hash__(self):
        return hash(self._name_)

    def __copy__(self):
        return self

    def __deepcopy__(self, memo):
        return self

    def __dir__(self):
        return ['__class__', '__doc__', '__eq__', '__hash__', '__module__', 'name', 'value']

class ReprEnum(Enum):
    pass

class IntEnum(int, ReprEnum):
    __repr__ = Enum.__repr__

    def __str__(self):
        return int.__repr__(self)

    def __format__(self, spec):
        return int.__format__(self, spec)

class StrEnum(str, ReprEnum):
    __repr__ = Enum.__repr__

    def __new__(cls, *values):
        for value in values[:1]:
            if not isinstance(value, str):
                raise TypeError('%r is not a string' % (value,))
        member = str.__new__(cls, *values)
        member._value_ = str(*values)
        return member

    def __str__(self):
        return str.__str__(self)

    def __format__(self, spec):
        return str.__format__(self, spec)

    @staticmethod
    def _generate_next_value_(name, start, count, last_values):
        return name.lower()

class Flag(Enum):
    @staticmethod
    def _generate_next_value_(name, start, count, last_values):
        return _next_flag(name, start, count, last_values)

    @classmethod
    def _all(cls):
        bits = 0
        for member in cls._member_map_.values():
            bits |= member._value_
        return bits

    @classmethod
    def _missing_(cls, value):
        if not isinstance(value, int):
            raise ValueError('%r is not a valid %s' % (value, cls.__qualname__))
        bits = cls._all()
        if value < 0:
            value = max(bits + 1, 1 << value.bit_length()) + value
        if value & ~bits and not issubclass(cls, int):
            size = max(value.bit_length(), bits.bit_length())
            raise ValueError('%r invalid value %r\n    given %s\n  allowed %s' % (cls, value,
                '0b0 ' + format(value, '0%db' % size), '0b0 ' + format(bits, '0%db' % size)))
        for member in cls._member_map_.values():
            if member._value_ == value:
                return member
        made = int.__new__(cls, value) if issubclass(cls, int) else object.__new__(cls)
        made._value_ = value
        names = [member._name_ for member in made]
        made._name_ = '|'.join(names) or None
        rest = value & ~bits
        if rest and names:
            made._name_ += '|%d' % rest
        if not names:
            made._name_ = None
        return made

    def __iter__(self):
        for member in type(self):
            if member._value_ & self._value_ and not member._value_ & (member._value_ - 1):
                yield member

    def __len__(self):
        return bin(self._value_).count('1')

    def __repr__(self):
        if self._name_ is None:
            return '<%s: %r>' % (self.__class__.__name__, self._value_)
        return '<%s.%s: %r>' % (self.__class__.__name__, self._name_, self._value_)

    def __str__(self):
        if self._name_ is None:
            return '%s(%r)' % (self.__class__.__name__, self._value_)
        return '%s.%s' % (self.__class__.__name__, self._name_)

    def __contains__(self, other):
        if not isinstance(other, self.__class__):
            raise TypeError("unsupported operand type(s) for 'in': %r and %r"
                % (type(other).__qualname__, self.__class__.__qualname__))
        return other._value_ & self._value_ == other._value_

    def __bool__(self):
        return bool(self._value_)

    def _bits(self, other):
        if isinstance(other, self.__class__):
            return other._value_
        if isinstance(self, int) and isinstance(other, int):
            return other
        return None

    def __or__(self, other):
        bits = self._bits(other)
        return NotImplemented if bits is None else self.__class__(self._value_ | bits)

    def __and__(self, other):
        bits = self._bits(other)
        return NotImplemented if bits is None else self.__class__(self._value_ & bits)

    def __xor__(self, other):
        bits = self._bits(other)
        return NotImplemented if bits is None else self.__class__(self._value_ ^ bits)

    __ror__ = __or__
    __rand__ = __and__
    __rxor__ = __xor__

    def __invert__(self):
        return self.__class__(self._all() & ~self._value_)

class IntFlag(int, Flag):
    __repr__ = Flag.__repr__

    def __str__(self):
        return int.__repr__(self)

    def __format__(self, spec):
        return int.__format__(self, spec)

    __or__ = __ror__ = Flag.__or__
    __and__ = __rand__ = Flag.__and__
    __xor__ = __rxor__ = Flag.__xor__
    __invert__ = Flag.__invert__

def unique(enumeration):
    pairs = [(name, member.name) for name, member in enumeration.__members__.items() if name != member.name]
    if pairs:
        words = ', '.join(['%s -> %s' % pair for pair in pairs])
        raise ValueError('duplicate values found in %r: %s' % (enumeration, words))
    return enumeration
"#

end Forwarding.Script.Library
