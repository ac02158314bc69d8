import Forwarding.Script.Machine.Library.Classes
import Forwarding.Script.Machine.Library.Collections
import Forwarding.Script.Machine.Library.Combinators
import Forwarding.Script.Machine.Library.Expressions
import Forwarding.Script.Machine.Library.Iterators
import Forwarding.Script.Machine.Library.Json
import Forwarding.Script.Machine.Library.Mathematics
import Forwarding.Script.Machine.Library.Streams
import Forwarding.Script.Machine.Library.Tasks
import Forwarding.Script.Machine.Library.Texts

/-! The libraries that a script can import. -/

set_option autoImplicit false

namespace Forwarding.Script

open Text

/-- A library: functions of the language, other values, and a script that defines the rest. -/
structure Library where
  functions : List Text := []
  values : List (Text × Value) := []
  script : String := ""

namespace Library

/-- The libraries whose names can be imported, though little or nothing is known of them. -/
def names : List Text := words <|
    "__future__ abc aifc argparse array ast asynchat asyncio asyncore atexit audioop base64 bdb binascii " ++
    "bisect builtins bz2 cProfile calendar cgi cgitb chunk cmath cmd code codecs codeop " ++
    "collections colorsys compileall concurrent configparser contextlib contextvars copy " ++
    "copyreg crypt csv ctypes curses dataclasses datetime dbm decimal difflib dis distutils " ++
    "doctest email encodings ensurepip enum errno faulthandler fcntl filecmp fileinput fnmatch " ++
    "fractions ftplib functools gc genericpath getopt getpass gettext glob graphlib grp gzip " ++
    "hashlib heapq hmac html http imaplib imghdr imp importlib inspect io ipaddress itertools " ++
    "json keyword lib2to3 linecache locale logging lzma mailbox mailcap marshal math mimetypes " ++
    "mmap modulefinder multiprocessing netrc nis nntplib ntpath nturl2path numbers opcode " ++
    "operator optparse os pathlib pdb pickle pickletools pipes pkgutil platform plistlib poplib " ++
    "posix posixpath pprint profile pstats pty pwd py_compile pyclbr pydoc pydoc_data pyexpat " ++
    "queue quopri random re readline reprlib resource rlcompleter runpy sched secrets select " ++
    "selectors shelve shlex shutil signal site smtpd smtplib sndhdr socket socketserver spwd " ++
    "sqlite3 sre_compile sre_constants sre_parse ssl stat statistics string stringprep struct " ++
    "subprocess sunau symtable sys sysconfig syslog tabnanny tarfile telnetlib tempfile termios " ++
    "textwrap threading time timeit token tokenize tomllib trace traceback tracemalloc tty " ++
    "types typing unicodedata unittest urllib uu uuid venv warnings wave weakref webbrowser " ++
    "wsgiref xdrlib xml xmlrpc zipapp zipfile zipimport zlib zoneinfo collections.abc importlib.util " ++
    "concurrent.futures os.path"

def packages : List Text := words <|
  "asyncio collections concurrent ctypes curses dbm distutils email encodings ensurepip html http " ++
  "importlib json lib2to3 logging multiprocessing pydoc_data sqlite3 tomllib unittest urllib venv " ++
  "wsgiref xml xmlrpc zoneinfo"

def known : List (String × Library) := [
  ("abc", { script := abstract }),
  ("asyncio", { script := tasks }),
  ("bisect", { script := bisection }),
  ("collections", { script := collections }),
  ("contextlib", { script := contexts }),
  ("copy", { script := copies }),
  ("dataclasses", { script := records }),
  ("enum", { script := enumerations }),
  ("functools", { script := combinators }),
  ("heapq", { script := heaps }),
  ("importlib", { functions := ["import_module"] }),
  ("io", { script := streams }),
  ("itertools", { script := iterators }),
  ("json", { script := json }),
  ("keyword", { script := keywords }),
  ("math", { functions := Act.mathFunctions, values := Act.mathValues }),
  ("operator", { functions := (Act.operatorFunctions.map Prod.fst).flatten, script := getters }),
  ("re", { functions := words "_read _find", script := expressions }),
  ("string", { script := letters }),
  ("sys", { script := limits }),
  ("textwrap", { script := wrapping }),
  ("types", { script := kinds }),
  ("typing", { script := annotations })]

def ofName? (name : Text) : Option Library :=
  match known.lookup (String.ofList name) with
  | some l => some l
  | none => if names.contains name then some {} else none

end Library

namespace Act

def makeLibrary (path : Text) (l : Library) : Act Nat := do
  let fields := (← get).heap.size
  let first : List (Text × Value) :=
    [("__name__", .text path), ("__doc__", .nothing), ("__package__", .text []),
      ("__loader__", .nothing), ("__spec__", .nothing)]
  let functions := l.functions.map fun name => (name, Value.builtin (path ++ '.' :: name))
  let _ ← newDictionary (Dictionary.ofTexts (first ++ functions ++ l.values))
  let place := (← get).heap.size
  let _ ← allocate ⟨.kind "module", some fields, .module⟩
  modify fun s => { s with libraries := (path, place) :: s.libraries }
  if !l.script.isEmpty then
    let t := Template.ofScript false (← treeOf l.script.toList)
    let scope := (← get).heap.size
    let _ ← make "scope" (.scope #[] [] none)
    let _ ← perform (.block { code := t.code, scope, shared := fields, template := t })
  return place

/-- The place of the library with a path, of which some part has been found already. -/
def libraryAt (around : Option (Text × Nat)) : List Text → Act (List Nat)
  | [] => return []
  | name :: more => do
    let path : Text := match around with
      | some (before, _) => before ++ '.' :: name
      | none => name
    let place ← match (← get).libraries.lookup path with
      | some place => pure place
      | none =>
        match Library.ofName? path, around with
        | some l, _ => do
          let place ← makeLibrary path l
          match around with
          | some (_, outer) => setField outer name (.object place)
          | none => pure ()
          pure place
        | none, none => missing path ("No module named '" ++ path ++ ['\x27'])
        | none, some (before, _) =>
          let reason : Text := "; '" ++ before ++ "' is not a package"
          missing path ("No module named '" ++ path ++ ['\x27'] ++
            (if Library.packages.contains before then [] else reason))
    return place :: (← libraryAt (some (path, place)) more)
where
  missing (path words : Text) : Act Nat := do
    let e ← make "ModuleNotFoundError" (.error [.text words] .nothing .nothing false)
    match e with
    | .object place => setField place "name" (.text path)
    | _ => pure ()
    throw (.raised e)

/-- Imports a library: the whole path, or only its first part. -/
def importLibrary (path : List Text) (isWhole : Bool) : Act Value := do
  if path.head? == some ['.'] then
    fail "ImportError" "attempted relative import with no known parent package"
  else
    let places ← libraryAt none path
    return .object (((if isWhole then places.getLast? else places.head?)).getD 0)

def importValue (arguments : List Value) (isWhole : Bool) : Act Value := do
  match argument arguments 0 with
  | .text [] => valueError "Empty module name"
  | .text path => importLibrary (runs (· != '.') (· != '.') path) isWhole
  | v => typeError ("module name must be str, not " ++ (← kindName v))

def libraryFunction (name : Text) (arguments : List Value) (named : Named) : Act Value := do
  let module := name.takeWhile (· != '.')
  let inside := name.drop (module.length + 1)
  match String.ofList module, String.ofList inside with
  | "operator", _ => operatorFunction inside arguments named
  | "math", _ => mathFunction inside arguments named
  | "re", "_read" => readPattern (argument arguments 0) (argument arguments 1)
  | "re", "_find" => findPattern arguments
  | "importlib", "load" => importValue arguments (← truth (argument arguments 1))
  | "importlib", "import_module" => importValue arguments true
  | _, _ => return .nothing

def importName (library : Value) (name : Text) : Act Value := do
  match ← readMember? library name with
  | some v => return v
  | none => do
    let own : Text ← match library with
      | .object place => do
        match ← field? place "__name__" with
        | some (.text t) => pure t
        | _ => pure "<unknown module name>".toList
      | _ => pure []
    match Library.ofName? (own ++ '.' :: name) with
    | some _ => importLibrary (cut ['.'] own.length own ++ [name]) true
    | none =>
      fail "ImportError" ("cannot import name '" ++ name ++ "' from '" ++ own ++ "' (unknown location)")

def importAll (library : Value) : Act (List (Text × Value)) := do
  match library with
  | .object place =>
    match (← objectAt place).fields with
    | some fields => do
      let d ← dictionaryAt fields
      match d.getText? "__all__" with
      | some names => do
        let names := (← itemsOf names).filterMap Value.text?
        names.mapM fun name => return (name, ← readMember library name)
      | none => return d.texts.filter fun entry => entry.1.head? != some '_'
    | none => return []
  | _ => return []

end Act

end Forwarding.Script
