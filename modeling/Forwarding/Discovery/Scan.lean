import Forwarding.Bindings
import Forwarding.Discovery.Cursor
import Forwarding.Discovery.Overloads
import Forwarding.Log.Event
import Forwarding.Storage.Path
import Forwarding.Text.Pattern.Reading
import Forwarding.Text.ShellWords

/-! Collecting the methods of the classes that headers define.

A scan walks the cursors of each header from the root. Where a cursor stands decides whether it is
looked at: under one of the given paths, or outside the system's directories if none are given; an
entity that is passed over is not entered. Every public, non-static method with a fixed number of
parameters of a class definition becomes a declaration, unless it is an operator. A class that several
headers define counts once, with its methods in the first of them that shows any.
-/

set_option autoImplicit false

namespace Forwarding

open Text

/-- What a scan is restricted to. -/
structure ScanOptions where
  /-- The directory that relative paths start from. -/
  here : Location := []
  /-- The beginnings of the paths to look at; all but system paths if there are none. -/
  filters : List Text := []
  /-- Classes whose names this matches are left out. -/
  exclude : Option Text.Pattern := none
  /-- The directory that headings are relative to. -/
  headingRoot : Option Text := none
  deriving Repr

namespace Scan

open Cursor (Entity Kind Scope)

def systemDirectories : List Text := ["/usr/include", "/usr/local/include"]

def resolved (here : Location) (path : Text) : Text :=
  (Path.ofLocation ((Path.ofText path).locate here)).toText

/-- Whether an entity is looked at and entered. -/
def considers (o : ScanOptions) (e : Entity) : Bool :=
  match e.place with
  | none => e.kind == .namespaceScope || e.kind == .wholeUnit
  | some place =>
    if o.filters.isEmpty then !systemDirectories.any fun dir => dir.isPrefixOf place.file
    else o.filters.any fun start =>
      (resolved o.here start).isPrefixOf (resolved o.here place.file)

/-- A name behind those of the classes that it belongs to, up to the first owner that is no class. -/
def qualified (name : Text) : List Scope → Text
  | [] => name
  | owner :: outer =>
    if owner.kind.isClass then
      qualified (if owner.name.isEmpty then name else owner.name ++ "::" ++ name) outer
    else name

/-- The name under which the methods of a class are collected. -/
def subjectOf (e : Entity) : Text := qualified e.name e.owners

def typeText (spelling : Text) : Text := squeeze (if spelling.isEmpty then "void" else spelling)

/-- The heading for the methods that a file declares: its directory. -/
def headingFor (o : ScanOptions) (file : Text) : Text :=
  let directory := (Path.ofText file).parent
  let relative? := fun (root : Text) =>
    let base := (Path.ofText root).locate o.here
    let place := directory.locate o.here
    if base.isPrefixOf place then some (Path.toText ⟨[], place.drop base.length⟩) else none
  if file.isEmpty then []
  else match o.headingRoot with
    | none | some [] => directory.toText
    | some root => (relative? root).getD directory.toText

def isOperator (e : Entity) : Bool := "operator".toList.isPrefixOf e.name

/-- Whether a member is a method that can be called on an object from outside. -/
def isCandidate (e : Entity) : Bool := e.kind == .method && e.isPublic && !e.isStatic

def isForwardable (e : Entity) : Bool := isCandidate e && !isOperator e && !e.isVariadic

def declarationOf (subject heading : Text) (e : Entity) : Declaration :=
  { subject
    result := typeText e.result
    method := e.name
    parameters := e.parameters.map typeText
    heading
    origin := e.place.map fun place => place.file ++ ":" ++ decimal place.line }

def isClassDefinition (e : Entity) : Bool := e.kind.isClass && e.isDefinition && !e.name.isEmpty

/-- Whether a class is a non-public member of a class. -/
def isHidden (e : Entity) : Bool := !e.isPublic && e.owners.head?.any fun owner => owner.kind.isClass

def isExcluded (o : ScanOptions) (e : Entity) : Bool :=
  o.exclude.any fun pattern => pattern.occurs e.name

/-- Whether the methods of a class are collected. -/
def isCollected (o : ScanOptions) (e : Entity) : Bool :=
  isClassDefinition e && !isHidden e && !isExcluded o e

def fileOf (e : Entity) : Text :=
  match e.place with
  | none => []
  | some place => place.file

/-- The methods that a class definition contributes. -/
def methodsOf (o : ScanOptions) (e : Entity) (members : List Cursor) : Text × List Declaration :=
  let subject := subjectOf e
  (subject, ((members.map Cursor.entity).filter isForwardable).map
    (declarationOf subject (headingFor o (fileOf e))))

mutual

/-- What the class definitions at a cursor contribute, in source order. -/
def found (o : ScanOptions) : Cursor → List (Text × List Declaration)
  | .node e members =>
    if considers o e then
      (if isCollected o e then [methodsOf o e members] else []) ++ foundIn o members
    else []

/-- What the class definitions at some cursors contribute. -/
def foundIn (o : ScanOptions) : List Cursor → List (Text × List Declaration)
  | [] => []
  | c :: rest => found o c ++ foundIn o rest

end

/-- What is logged about a member of a class that is collected. -/
def memberEvents (subject : Text) (e : Entity) : List Event :=
  if e.kind == .methodTemplate then
    [.warning .scan ("Skipping member template " ++ subject ++ "::" ++ e.name ++
      " (not supported by generator)")]
  else if !isCandidate e then []
  else if isOperator e then [.debug .scan ("Skipping operator " ++ subject ++ "::" ++ e.name)]
  else if e.isVariadic then
    [.warning .scan ("Skipping variadic method " ++ subject ++ "::" ++ e.name ++
      " (cannot be forwarded positionally)")]
  else []

/-- What is logged about a class definition. -/
def classEvents (o : ScanOptions) (e : Entity) (members : List Cursor) : List Event :=
  if !isClassDefinition e then []
  else if isHidden e then
    [.info .scan ("Skipping non-public nested " ++ e.kind.classWord ++ " '" ++ e.name ++ "'")]
  else if isExcluded o e then
    [.info .scan ("Excluding class '" ++ e.name ++ "' due to exclude regex")]
  else members.flatMap fun member => memberEvents (subjectOf e) member.entity

mutual

def events (o : ScanOptions) : Cursor → List Event
  | .node e members =>
    if considers o e then classEvents o e members ++ eventsIn o members else []

def eventsIn (o : ScanOptions) : List Cursor → List Event
  | [] => []
  | c :: rest => events o c ++ eventsIn o rest

end

/-- The methods of each class, joined over all its definitions. -/
abbrev Classes := Bindings Text (List Declaration)

def Classes.add (classes : Classes) (entry : Text × List Declaration) : Classes :=
  classes.set entry.1 ((classes.get? entry.1).getD [] ++ entry.2)

def classesOf (o : ScanOptions) (u : HeaderUnit) : Classes :=
  ((u.root.map (found o)).getD []).foldl Classes.add []

/-- Adds a class of another header, unless methods of it are known already. -/
def Classes.meet (classes : Classes) (entry : Text × List Declaration) : Classes :=
  match classes.get? entry.1 with
  | none => classes.set entry.1 entry.2
  | some [] => classes.set entry.1 entry.2
  | some _ => classes

def merged (o : ScanOptions) (units : List HeaderUnit) : Classes :=
  units.foldl (fun classes u => (classesOf o u).foldl Classes.meet classes) []

/-- The declarations of some classes: class by class in the order of their names, with tags. -/
def declarationsOf (classes : Classes) : List Declaration :=
  let sorted := classes.mergeSort fun a b => le a.1 b.1
  sorted.flatMap fun entry => Overloads.tag entry.2

end Scan

/-- Something that parses headers: from the name of a header to its cursors, if it can be parsed. -/
abbrev HeaderParser := Text → Option HeaderUnit

/-- One request to a parser: the header, the arguments and the option bits. -/
structure ParseCall where
  header : Text
  arguments : List Text
  options : Nat
  deriving Repr, DecidableEq

namespace Scan

/-- The arguments for the parser: the language is given unless it is already, and warnings are off
unless some are chosen. -/
def parserArguments (arguments : List Text) : List Text :=
  let withLanguage :=
    if arguments.any fun a => "-x".toList.isPrefixOf a then arguments
    else ("-x" : Text) :: "c++" :: arguments
  if withLanguage.any fun a => "-W".toList.isPrefixOf a then withLanguage
  else withLanguage ++ [("-Wno-everything" : Text)]

/-- Skip the bodies of functions, and take a unit for incomplete. -/
def parserOptions : Nat := 64 + 2

def callFor (arguments : List Text) (header : Text) : ParseCall :=
  ⟨header, parserArguments arguments, parserOptions⟩

def parsed (parser : HeaderParser) : List Text → Except Failure (List HeaderUnit)
  | [] => .ok []
  | header :: rest =>
    match parser header with
    | none => .error .headerUnparsed
    | some u => (parsed parser rest).map (u :: ·)

def collect (o : ScanOptions) (parser : Option HeaderParser) (headers : List Text) :
    Except Failure (List Declaration) :=
  match parser with
  | none => .error .parserMissing
  | some parser => (parsed parser headers).map fun units => declarationsOf (merged o units)

/-- The requests that a scan makes, the failing one included. -/
def calls (arguments : List Text) (parser : Option HeaderParser) (headers : List Text) :
    List ParseCall :=
  match parser with
  | none => []
  | some parser => go parser headers
where
  go (parser : HeaderParser) : List Text → List ParseCall
    | [] => []
    | header :: rest =>
      callFor arguments header :: if (parser header).isSome then go parser rest else []

def unitEvents (o : ScanOptions) (diagnostics : Bool) (u : HeaderUnit) : List Event :=
  (if diagnostics then u.diagnostics.map fun d => .warning .scan ("[clang] " ++ d) else []) ++
    (u.root.map (events o)).getD []

def collectEvents (o : ScanOptions) (diagnostics : Bool) (parser : Option HeaderParser)
    (headers : List Text) : List Event :=
  match parser with
  | none => []
  | some parser =>
    let units := (headers.map parser).takeWhile Option.isSome
    let seen := units.flatMap fun u => (u.map (unitEvents o diagnostics)).getD []
    match parsed parser headers with
    | .error _ => seen
    | .ok all =>
      let classes := merged o all
      seen ++ [.info .scan ("Discovered " ++ decimal (declarationsOf classes).length ++
        " method(s) on " ++ decimal classes.length ++ " class(es)")]

end Scan

/-! ### The arguments for a parser of headers, as they are given on one line

They are read as the words of a command line. A line with an open quote is cut at its spaces instead,
which is logged.
-/

namespace Scan

/-- The pieces between spaces that are not blank, quotes and escapes included. -/
def spacedPieces (line : Text) : List Text :=
  (runs (· != ' ') (· != ' ') line).filter fun piece => !(strip piece).isEmpty

def splitArguments (line : Text) : List Text :=
  match ShellWords.read line with
  | .ok words => words
  | .error _ => spacedPieces line

def splitEvents (line : Text) : List Event :=
  match ShellWords.read line with
  | .ok _ => []
  | .error unfinished =>
    [.warning .command ("Falling back to naive clang args split due to parsing error: " ++
      unfinished.message)]

end Scan

end Forwarding
