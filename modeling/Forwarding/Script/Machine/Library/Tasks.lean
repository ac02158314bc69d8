/-! Tasks that take turns. -/

set_option autoImplicit false

namespace Forwarding.Script.Library

/-- A loop that runs coroutines in turns, with a clock of its own, and what they wait for. -/
def tasks : String := r#"
from collections import deque as _deque
from heapq import heappush as _push
from heapq import heappop as _pop

class CancelledError(BaseException):
    pass

class InvalidStateError(Exception):
    pass

class QueueEmpty(Exception):
    pass

class QueueFull(Exception):
    pass

for _kind in (CancelledError, InvalidStateError):
    _kind.__module__ = 'asyncio.exceptions'
for _kind in (QueueEmpty, QueueFull):
    _kind.__module__ = 'asyncio.queues'

TimeoutError = TimeoutError
FIRST_COMPLETED, FIRST_EXCEPTION, ALL_COMPLETED = 'FIRST_COMPLETED', 'FIRST_EXCEPTION', 'ALL_COMPLETED'

def iscoroutine(obj):
    return type(obj).__name__ in ('coroutine', 'generator')

def iscoroutinefunction(func):
    return hasattr(func, '__code__') and bool(func.__code__.co_flags & 128)

def isfuture(obj):
    return isinstance(obj, Future)

class _Handle:
    def __init__(self, call, arguments, when=0):
        self.call, self.arguments, self._when, self._cancelled = call, arguments, when, False

    def cancel(self):
        self._cancelled = True

    def cancelled(self):
        return self._cancelled

    def when(self):
        return self._when

class _Loop:
    def __init__(self):
        self._ready, self._timers, self._count, self._now = _deque(), [], 0, 0.0
        self._closed, self._running, self._current, self._tasks = False, False, None, []

    def time(self):
        return self._now

    def call_soon(self, callback, *args, context=None):
        handle = _Handle(callback, args)
        self._ready.append(handle)
        return handle

    call_soon_threadsafe = call_soon

    def call_at(self, when, callback, *args, context=None):
        handle = _Handle(callback, args, when)
        self._count += 1
        _push(self._timers, (when, self._count, handle))
        return handle

    def call_later(self, delay, callback, *args, context=None):
        return self.call_at(self._now + delay, callback, *args)

    def create_task(self, coro, *, name=None, context=None):
        return Task(coro, loop=self, name=name)

    def create_future(self):
        return Future(loop=self)

    def is_running(self):
        return self._running

    def is_closed(self):
        return self._closed

    def close(self):
        self._closed = True

    def stop(self):
        self._ready.append(None)

    def _turn(self):
        if not self._ready and self._timers:
            self._now = max(self._now, self._timers[0][0])
        while self._timers and self._timers[0][0] <= self._now:
            self._ready.append(_pop(self._timers)[2])
        if not self._ready:
            raise RuntimeError('Event loop stopped before Future completed.')
        for _ in range(len(self._ready)):
            handle = self._ready.popleft()
            if handle is not None and not handle._cancelled:
                handle.call(*handle.arguments)

    def run_until_complete(self, future):
        if self._running:
            raise RuntimeError('This event loop is already running')
        future = ensure_future(future, loop=self)
        before, _state.loop = _state.loop, self
        self._running = True
        try:
            while not future.done():
                self._turn()
        finally:
            self._running, _state.loop = False, before
        return future.result()

class _State:
    loop = None
    spare = None

_state = _State()

def get_running_loop():
    if _state.loop is None:
        raise RuntimeError('no running event loop')
    return _state.loop

def get_event_loop():
    if _state.loop is not None:
        return _state.loop
    if _state.spare is None:
        _state.spare = _Loop()
    return _state.spare

def new_event_loop():
    return _Loop()

def set_event_loop(loop):
    _state.spare = loop

class Future:
    def __init__(self, *, loop=None):
        self._loop = get_event_loop() if loop is None else loop
        self._state, self._result, self._exception, self._callbacks = 'PENDING', None, None, []
        self._message = None

    def get_loop(self):
        return self._loop

    def done(self):
        return self._state != 'PENDING'

    def cancelled(self):
        return self._state == 'CANCELLED'

    def result(self):
        if self._state == 'CANCELLED':
            raise self._cancellation()
        if self._state == 'PENDING':
            raise InvalidStateError('Result is not ready.')
        if self._exception is not None:
            raise self._exception
        return self._result

    def exception(self):
        if self._state == 'CANCELLED':
            raise self._cancellation()
        if self._state == 'PENDING':
            raise InvalidStateError('Exception is not set.')
        return self._exception

    def _cancellation(self):
        return CancelledError() if self._message is None else CancelledError(self._message)

    def _finish(self, state):
        self._state = state
        for callback in self._callbacks:
            self._loop.call_soon(callback, self)
        self._callbacks = []

    def set_result(self, result):
        if self.done():
            raise InvalidStateError('invalid state')
        self._result = result
        self._finish('FINISHED')

    def set_exception(self, exception):
        if self.done():
            raise InvalidStateError('invalid state')
        if isinstance(exception, type):
            exception = exception()
        if type(exception) is StopIteration:
            raise TypeError('StopIteration interacts badly with generators and cannot be raised into a Future')
        self._exception = exception
        self._finish('FINISHED')

    def cancel(self, msg=None):
        if self.done():
            return False
        self._message = msg
        self._finish('CANCELLED')
        return True

    def add_done_callback(self, callback, *, context=None):
        if self.done():
            self._loop.call_soon(callback, self)
        else:
            self._callbacks.append(callback)

    def remove_done_callback(self, callback):
        kept = [c for c in self._callbacks if c != callback]
        removed = len(self._callbacks) - len(kept)
        self._callbacks = kept
        return removed

    def __await__(self):
        if not self.done():
            yield self
        if not self.done():
            raise RuntimeError("await wasn't used with future")
        return self.result()

    __iter__ = __await__

Future.__module__ = '_asyncio'

class Task(Future):
    _counter = 0

    def __init__(self, coro, *, loop=None, name=None, context=None):
        super().__init__(loop=loop)
        if not iscoroutine(coro):
            raise TypeError('a coroutine was expected, got ' + repr(coro))
        Task._counter += 1
        self._name = 'Task-' + str(Task._counter) if name is None else str(name)
        self._coro, self._waits, self._must_cancel, self._requests = coro, None, False, 0
        self._loop._tasks.append(self)
        self._loop.call_soon(self._step)

    def get_name(self):
        return self._name

    def set_name(self, value):
        self._name = str(value)

    def get_coro(self):
        return self._coro

    def cancelling(self):
        return self._requests

    def uncancel(self):
        if self._requests > 0:
            self._requests -= 1
        return self._requests

    def set_result(self, result):
        raise RuntimeError('Task does not support set_result operation')

    def set_exception(self, exception):
        raise RuntimeError('Task does not support set_exception operation')

    def cancel(self, msg=None):
        if self.done():
            return False
        self._requests += 1
        if self._waits is not None and self._waits.cancel(msg=msg):
            return True
        self._must_cancel = True
        self._message = msg
        return True

    def _wakeup(self, future):
        try:
            future.result()
        except BaseException as error:
            self._step(error)
        else:
            self._step()

    def _step(self, error=None):
        if self.done():
            return
        if self._must_cancel:
            if not isinstance(error, CancelledError):
                error = self._cancellation()
            self._must_cancel = False
        self._waits = None
        before, self._loop._current = self._loop._current, self
        try:
            if error is None:
                found = self._coro.send(None)
            else:
                found = self._coro.throw(error)
        except StopIteration as stop:
            if self._must_cancel:
                self._must_cancel = False
                super().cancel(msg=self._message)
            else:
                super().set_result(stop.value)
        except CancelledError as stop:
            self._message = stop.args[0] if stop.args else None
            super().cancel(msg=self._message)
        except (KeyboardInterrupt, SystemExit) as stop:
            super().set_exception(stop)
            raise
        except BaseException as stop:
            super().set_exception(stop)
        else:
            if isinstance(found, Future):
                found.add_done_callback(self._wakeup)
                self._waits = found
                if self._must_cancel and found.cancel(msg=self._message):
                    self._must_cancel = False
            elif found is None:
                self._loop.call_soon(self._step)
            else:
                self._loop.call_soon(self._step, RuntimeError('Task got bad yield: ' + repr(found)))
        finally:
            self._loop._current = before

Task.__module__ = '_asyncio'

def current_task(loop=None):
    return (get_running_loop() if loop is None else loop)._current

def all_tasks(loop=None):
    loop = get_running_loop() if loop is None else loop
    return set(t for t in loop._tasks if not t.done())

def ensure_future(coro_or_future, *, loop=None):
    if isinstance(coro_or_future, Future):
        return coro_or_future
    if iscoroutine(coro_or_future):
        return Task(coro_or_future, loop=loop)
    if hasattr(type(coro_or_future), '__await__'):
        async def wrap():
            return await coro_or_future
        return Task(wrap(), loop=loop)
    raise TypeError('An asyncio.Future, a coroutine or an awaitable is required')

def create_task(coro, *, name=None, context=None):
    return get_running_loop().create_task(coro, name=name)

def run(main, *, debug=None):
    if _state.loop is not None:
        raise RuntimeError('asyncio.run() cannot be called from a running event loop')
    if not iscoroutine(main):
        raise ValueError('a coroutine was expected, got ' + repr(main))
    loop = _Loop()
    try:
        return loop.run_until_complete(main)
    finally:
        left = [t for t in loop._tasks if not t.done()]
        for task in left:
            task.cancel()
        if left:
            loop.run_until_complete(gather(*left, return_exceptions=True))
        loop.close()

class Runner:
    def __init__(self, *, debug=None, loop_factory=None):
        self._loop = _Loop()

    def __enter__(self):
        return self

    def __exit__(self, *details):
        self._loop.close()

    def get_loop(self):
        return self._loop

    def run(self, coro, *, context=None):
        if not iscoroutine(coro):
            raise ValueError('a coroutine was expected, got ' + repr(coro))
        return self._loop.run_until_complete(coro)

class _Bare:
    def __await__(self):
        yield

async def sleep(delay, result=None):
    if delay <= 0:
        await _Bare()
        return result
    loop = get_running_loop()
    future = loop.create_future()
    handle = loop.call_later(delay, _set_unless_done, future, result)
    try:
        return await future
    finally:
        handle.cancel()

def _set_unless_done(future, result):
    if not future.done():
        future.set_result(result)

class _GatheringFuture(Future):
    def __init__(self, children, *, loop):
        super().__init__(loop=loop)
        self._children, self._cancel_requested = children, False

    def cancel(self, msg=None):
        if self.done():
            return False
        found = False
        for child in self._children:
            if child.cancel(msg=msg):
                found = True
        if found:
            self._cancel_requested = True
        return found

def gather(*coros_or_futures, return_exceptions=False):
    loop = get_event_loop()
    if not coros_or_futures:
        outer = loop.create_future()
        outer.set_result([])
        return outer
    seen, children, finished = [], [], 0
    def done(future):
        nonlocal finished
        finished += 1
        if outer.done():
            return
        if not return_exceptions:
            if future.cancelled():
                outer.set_exception(future._cancellation())
                return
            if future.exception() is not None:
                outer.set_exception(future.exception())
                return
        if finished == count:
            results = []
            for child in children:
                if child.cancelled():
                    results.append(CancelledError('' if child._message is None else child._message))
                elif child.exception() is not None:
                    results.append(child.exception())
                else:
                    results.append(child.result())
            if outer._cancel_requested:
                outer.set_exception(future._cancellation())
            else:
                outer.set_result(results)
    unique = []
    for arg in coros_or_futures:
        known = [f for a, f in seen if a is arg]
        if known:
            children.append(known[0])
        else:
            future = ensure_future(arg, loop=loop)
            seen.append((arg, future))
            unique.append(future)
            children.append(future)
    count = len(unique)
    outer = _GatheringFuture(children, loop=loop)
    for future in unique:
        future.add_done_callback(done)
    return outer

async def wait_for(fut, timeout):
    loop = get_running_loop()
    if timeout is None:
        return await fut
    if timeout <= 0:
        fut = ensure_future(fut, loop=loop)
        if fut.done():
            return fut.result()
        fut.cancel()
        try:
            await wait([fut])
            return fut.result()
        except CancelledError as error:
            raise TimeoutError() from error
    fut = ensure_future(fut, loop=loop)
    waiter = loop.create_future()
    handle = loop.call_later(timeout, _set_unless_done, waiter, None)
    release = lambda future: _set_unless_done(waiter, None)
    fut.add_done_callback(release)
    try:
        try:
            await waiter
        except CancelledError:
            if fut.done():
                return fut.result()
            fut.remove_done_callback(release)
            fut.cancel()
            raise
        if fut.done():
            return fut.result()
        fut.remove_done_callback(release)
        fut.cancel()
        await wait([fut])
        try:
            return fut.result()
        except CancelledError as error:
            raise TimeoutError() from error
    finally:
        handle.cancel()

async def wait(fs, *, timeout=None, return_when=ALL_COMPLETED):
    if isinstance(fs, Future) or iscoroutine(fs):
        raise TypeError("expect a list of futures, not " + str(type(fs).__name__))
    if not fs:
        raise ValueError('Set of Tasks/Futures is empty.')
    if return_when not in (FIRST_COMPLETED, FIRST_EXCEPTION, ALL_COMPLETED):
        raise ValueError('Invalid return_when value: ' + str(return_when))
    fs = list(fs)
    if any(iscoroutine(f) for f in fs):
        raise TypeError("Passing coroutines is forbidden, use tasks explicitly.")
    loop = get_running_loop()
    waiter = loop.create_future()
    left = sum(1 for f in fs if not f.done())
    def over(f):
        return return_when == FIRST_COMPLETED or (
            return_when == FIRST_EXCEPTION and not f.cancelled() and f.exception() is not None)
    def done(f):
        nonlocal left
        left -= 1
        if left <= 0 or over(f):
            _set_unless_done(waiter, None)
    if left and not any(f.done() and over(f) for f in fs):
        handle = None if timeout is None else loop.call_later(timeout, _set_unless_done, waiter, None)
        for f in fs:
            if not f.done():
                f.add_done_callback(done)
        try:
            await waiter
        finally:
            if handle is not None:
                handle.cancel()
            for f in fs:
                f.remove_done_callback(done)
    return set(f for f in fs if f.done()), set(f for f in fs if not f.done())

def as_completed(fs, *, timeout=None):
    loop = get_event_loop()
    queue = Queue()
    todo = [ensure_future(f, loop=loop) for f in fs]
    for f in todo:
        f.add_done_callback(queue.put_nowait)
    async def one():
        return (await queue.get()).result()
    for _ in todo:
        yield one()

async def shield(arg):
    return await ensure_future(arg)

async def to_thread(func, /, *args, **kwargs):
    return func(*args, **kwargs)

class TaskGroup:
    def __init__(self):
        self._entered, self._errors, self._tasks, self._parent, self._aborting = False, [], [], None, False

    async def __aenter__(self):
        self._entered, self._parent = True, current_task()
        return self

    def create_task(self, coro, *, name=None, context=None):
        task = create_task(coro, name=name)
        self._tasks.append(task)
        task.add_done_callback(self._done)
        return task

    def _done(self, task):
        if task.cancelled() or task.exception() is None:
            return
        self._errors.append(task.exception())
        if not self._aborting:
            self._abort()

    def _abort(self):
        self._aborting = True
        for task in self._tasks:
            task.cancel()

    async def __aexit__(self, kind, error, traceback):
        if error is not None and not isinstance(error, CancelledError):
            self._errors.append(error)
        if kind is not None and not self._aborting:
            self._abort()
        while True:
            left = [t for t in self._tasks if not t.done()]
            if not left:
                break
            await wait(left)
        await _Bare()
        if self._errors:
            raise BaseExceptionGroup('unhandled errors in a TaskGroup', self._errors)
        return False

class _Mixin:
    async def __aenter__(self):
        await self.acquire()
        return None

    async def __aexit__(self, kind, error, traceback):
        self.release()

class Lock(_Mixin):
    def __init__(self):
        self._locked, self._waiters = False, _deque()

    def locked(self):
        return self._locked

    async def acquire(self):
        if not self._locked and not self._waiters:
            self._locked = True
            return True
        future = get_running_loop().create_future()
        self._waiters.append(future)
        try:
            await future
        finally:
            self._waiters.remove(future)
        self._locked = True
        return True

    def release(self):
        if not self._locked:
            raise RuntimeError('Lock is not acquired.')
        self._locked = False
        for future in self._waiters:
            if not future.done():
                future.set_result(True)
                break

class Event:
    def __init__(self):
        self._value, self._waiters = False, _deque()

    def is_set(self):
        return self._value

    def set(self):
        if not self._value:
            self._value = True
            for future in self._waiters:
                if not future.done():
                    future.set_result(True)

    def clear(self):
        self._value = False

    async def wait(self):
        if self._value:
            return True
        future = get_running_loop().create_future()
        self._waiters.append(future)
        try:
            await future
            return True
        finally:
            self._waiters.remove(future)

class Semaphore(_Mixin):
    def __init__(self, value=1):
        if value < 0:
            raise ValueError("Semaphore initial value must be >= 0")
        self._value, self._waiters = value, _deque()

    def locked(self):
        return self._value == 0

    async def acquire(self):
        if self._value > 0 and not self._waiters:
            self._value -= 1
            return True
        future = get_running_loop().create_future()
        self._waiters.append(future)
        await future
        return True

    def release(self):
        while self._waiters:
            future = self._waiters.popleft()
            if not future.done():
                future.set_result(True)
                return
        self._value += 1

class BoundedSemaphore(Semaphore):
    def __init__(self, value=1):
        self._bound = value
        super().__init__(value)

    def release(self):
        if self._value >= self._bound:
            raise ValueError('BoundedSemaphore released too many times')
        super().release()

class Queue:
    def __init__(self, maxsize=0):
        self._maxsize, self._getters, self._putters, self._unfinished = maxsize, _deque(), _deque(), 0
        self._finished = Event()
        self._finished.set()
        self._init(maxsize)

    def _init(self, maxsize):
        self._queue = _deque()

    def _get(self):
        return self._queue.popleft()

    def _put(self, item):
        self._queue.append(item)

    def _wake(self, waiters):
        while waiters:
            waiter = waiters.popleft()
            if not waiter.done():
                waiter.set_result(None)
                break

    @property
    def maxsize(self):
        return self._maxsize

    def qsize(self):
        return len(self._queue)

    def empty(self):
        return not self._queue

    def full(self):
        return 0 < self._maxsize <= self.qsize()

    async def put(self, item):
        while self.full():
            putter = get_running_loop().create_future()
            self._putters.append(putter)
            await putter
        return self.put_nowait(item)

    def put_nowait(self, item):
        if self.full():
            raise QueueFull
        self._put(item)
        self._unfinished += 1
        self._finished.clear()
        self._wake(self._getters)

    async def get(self):
        while self.empty():
            getter = get_running_loop().create_future()
            self._getters.append(getter)
            await getter
        return self.get_nowait()

    def get_nowait(self):
        if self.empty():
            raise QueueEmpty
        item = self._get()
        self._wake(self._putters)
        return item

    def task_done(self):
        if self._unfinished <= 0:
            raise ValueError('task_done() called too many times')
        self._unfinished -= 1
        if self._unfinished == 0:
            self._finished.set()

    async def join(self):
        if self._unfinished > 0:
            await self._finished.wait()

class PriorityQueue(Queue):
    def _init(self, maxsize):
        self._queue = []

    def _put(self, item):
        _push(self._queue, item)

    def _get(self):
        return _pop(self._queue)

class LifoQueue(Queue):
    def _init(self, maxsize):
        self._queue = []

    def _get(self):
        return self._queue.pop()

class timeout:
    def __init__(self, delay):
        self._delay, self._expired, self._handle = delay, False, None

    def expired(self):
        return self._expired

    def _expire(self):
        self._expired = True
        self._task.cancel()

    async def __aenter__(self):
        self._task = current_task()
        if self._delay is not None:
            self._handle = get_running_loop().call_later(self._delay, self._expire)
        return self

    async def __aexit__(self, kind, error, traceback):
        if self._handle is not None:
            self._handle.cancel()
        if self._expired and self._task.uncancel() <= 0 and kind is CancelledError:
            raise TimeoutError from error
"#

end Forwarding.Script.Library
