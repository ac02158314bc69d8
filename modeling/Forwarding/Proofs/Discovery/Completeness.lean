import Forwarding.Proofs.Discovery.Headers

/-! Which methods of the scanned definitions the rows represent.

Of the headers that show methods under a class name only the first one counts, and a name that begins with
`operator` is taken for the name of an operator function. Any other method of a definition that is collected
is shown by its header, so that some header counts for its class; the method has a row just when that header
shows a method of its name and with its types.
-/

set_option autoImplicit false

namespace Forwarding.Scan

open Text
open Cursor (Entity)

/-- Some rows have one for a method of a class: with its own name and the spellings of its types. -/
def Represented (rows : List Declaration) (subject : Text) (e : Entity) : Prop :=
  ∃ r ∈ rows, r.subject = subject ∧ r.method = e.name ∧ r.parameters = e.parameters.map typeText

/-- The name of an operator function: the word and something that no identifier goes on with. -/
def isOperatorName (name : Text) : Bool :=
  match after? "operator" name with
  | some (c :: _) => !isWordChar c
  | _ => false

variable {o : ScanOptions} {units : List HeaderUnit} {u : HeaderUnit} {subject : Text} {e : Entity}

/-- A definition of a class in a header has a forwardable method with the name of another one and its types. -/
def Shows (o : ScanOptions) (u : HeaderUnit) (subject : Text) (e : Entity) : Prop :=
  ∃ d : Definition, d.Scanned o u ∧ d.subject = subject ∧ ∃ c ∈ d.members,
    isForwardable c.entity = true ∧ c.entity.name = e.name ∧
      c.entity.parameters.map typeText = e.parameters.map typeText

theorem shows_iff : Shows o u subject e ↔
    ∃ m ∈ methodsUnder o u subject, m.method = e.name ∧ m.parameters = e.parameters.map typeText := by
  constructor
  · rintro ⟨d, scanned, rfl, c, member, forwardable, name, types⟩
    have method : declarationOf d.subject (headingFor o (fileOf d.entity)) c.entity ∈ d.methods o :=
      Definition.mem_methods_iff.mpr ⟨c, member, forwardable, rfl⟩
    exact ⟨_, mem_methodsUnder_iff.mpr ⟨d, scanned, rfl, method⟩, name, types⟩
  · rintro ⟨m, inside, name, types⟩
    obtain ⟨d, scanned, named, method⟩ := mem_methodsUnder_iff.mp inside
    obtain ⟨c, member, forwardable, rfl⟩ := Definition.mem_methods_iff.mp method
    exact ⟨d, scanned, named, c, member, forwardable, name, types⟩

/-- The header that counts for a class name decides. -/
theorem represented_declarationsOf_iff :
    Represented (declarationsOf (merged o units)) subject e ↔
      ∃ u, firstShowing o units subject = some u ∧ Shows o u subject e := by
  simp only [shows_iff]
  constructor
  · rintro ⟨r, row, rfl, name, types⟩
    obtain ⟨u, found, inside⟩ := exists_showing row
    exact ⟨u, found, _, inside, name, types⟩
  · rintro ⟨u, found, m, inside, name, types⟩
    obtain ⟨r, row, rfl⟩ := exists_row found inside
    exact ⟨r, row, (of_mem_methodsUnder inside).1, name, types⟩

theorem Shows.isOperator_eq_false (shows : Shows o u subject e) : isOperator e = false := by
  obtain ⟨d, -, -, c, -, forwardable, name, -⟩ := shows
  simp only [isForwardable, Bool.and_eq_true, Bool.not_eq_true'] at forwardable
  rw [← forwardable.1.2, isOperator, isOperator, name]

/-- Of the methods of the scanned definitions that can be called from outside with a fixed number of values,
those whose names begin with `operator` have no row. For the class of any other one some header counts, and
the method has a row just when that header shows one of its name and with its types; so it has one if that
header shows no other methods of the class than its own header does. -/
theorem represented_iff {parser : HeaderParser} {headers : List Text} {tree : Text → HeaderUnit}
    (read : ∀ header ∈ headers, parser header = some (tree header)) :
    ∃ rows, collect o (some parser) headers = .ok rows ∧
      ∀ header ∈ headers, ∀ d : Definition, d.Scanned o (tree header) → ∀ c ∈ d.members,
        isCandidate c.entity = true → c.entity.isVariadic = false →
          (isOperator c.entity = true → ¬ Represented rows d.subject c.entity) ∧
          (isOperator c.entity = false →
            ∃ u, firstShowing o (headers.map tree) d.subject = some u ∧
              (Represented rows d.subject c.entity ↔ Shows o u d.subject c.entity) ∧
              (methodsUnder o u d.subject = methodsUnder o (tree header) d.subject →
                Represented rows d.subject c.entity)) := by
  refine ⟨_, collect_eq_ok read, fun header member d scanned c inside candidate fixed => ⟨?_, ?_⟩⟩
  · intro operator represented
    obtain ⟨u, -, shows⟩ := represented_declarationsOf_iff.mp represented
    rw [shows.isOperator_eq_false] at operator
    cases operator
  · intro plain
    have forwardable : isForwardable c.entity = true := by simp [isForwardable, candidate, fixed, plain]
    have shows : Shows o (tree header) d.subject c.entity :=
      ⟨d, scanned, rfl, c, inside, forwardable, rfl, rfl⟩
    -- Its own header shows it, so that the name is not one under which no header shows methods.
    obtain ⟨u, found⟩ : ∃ u, firstShowing o (headers.map tree) d.subject = some u := by
      refine Option.ne_none_iff_exists'.mp fun silent => ?_
      obtain ⟨m, given, -⟩ := shows_iff.mp shows
      rw [firstShowing_eq_none_iff.mp silent _ (List.mem_map_of_mem member)] at given
      cases given
    have decides : Represented (declarationsOf (merged o (headers.map tree))) d.subject c.entity ↔
        Shows o u d.subject c.entity := by
      rw [represented_declarationsOf_iff]
      simp [found]
    refine ⟨u, found, decides, fun same => decides.mpr (shows_iff.mpr ?_)⟩
    rw [same]
    exact shows_iff.mp shows

/-- A class that is defined outside the class that it belongs to. -/
def outOfLine : Cursor :=
  .node { kind := .classDecl, name := "Entry", place := some ⟨"/sdk/pool.hpp", 1⟩
          owners := [⟨.classDecl, "IPool"⟩, ⟨.namespaceScope, "sdk"⟩, ⟨.wholeUnit, []⟩] }
    [.methodOf "operate" ["const  int"]]

/-- The header `a` declares a nested class without its methods; any other defines it, outside its class. -/
def declaring : Text → HeaderUnit
  | ['a'] => .of [.classOf true "IPool" [.classOf true "Entry" []]]
  | _ =>
    { root := some (.node { kind := .wholeUnit } [.namespaceOf "sdk" [.classOf true "IPool" [], outOfLine]])
      diagnostics := [] }

/-- The definition of the nested class. -/
def declaringEntry : Definition where
  enclosing := [(Cursor.namespaceOf "sdk" []).entity, { kind := .wholeUnit }]
  entity := outOfLine.entity
  members := outOfLine.children

theorem represented_iff_declaring :
    (∀ header ∈ [['a'], ['b']], (some ∘ declaring) header = some (declaring header)) ∧
    ∃ rows, collect {} (some (some ∘ declaring)) [['a'], ['b']] = .ok rows ∧
      Represented rows "IPool::Entry" (Cursor.methodOf "operate" ["const  int"]).entity := by
  have read : ∀ header ∈ [['a'], ['b']], (some ∘ declaring) header = some (declaring header) :=
    fun _ _ => rfl
  have scanned : declaringEntry.Scanned {} (declaring ['b']) :=
    ⟨by decide, _, rfl, .inside (.head _) (.inside (.tail _ (.head _)) .here)⟩
  obtain ⟨rows, collected, member⟩ := represented_iff (o := {}) read
  obtain ⟨u, counts, -, represented⟩ :=
    (member ['b'] (by simp) declaringEntry scanned _ (.head _) (by decide) (by decide)).2 (by decide)
  have silent : methodsUnder {} (declaring ['a']) declaringEntry.subject = [] := by decide
  have speaks : methodsUnder {} (declaring ['b']) declaringEntry.subject ≠ [] := by decide
  obtain rfl : declaring ['b'] = u := by
    simpa [firstShowing_cons, silent, speaks] using counts
  exact ⟨read, rows, collected, represented rfl⟩

/-- A nested class is named after the one that it belongs to, also where it stands beside it. -/
def beside : HeaderUnit where
  root := some (.node { kind := .wholeUnit } [.classOf true "IPlayerPool" [],
    .node { kind := .classDecl, name := "Entry", place := some ⟨"/sdk/pool.hpp", 1⟩,
            owners := [⟨.classDecl, "IPlayerPool"⟩, ⟨.wholeUnit, []⟩] } [.methodOf "get" []]])
  diagnostics := []

example : (declarationsOf (merged {} [beside])).map (fun d => (d.subject, d.symbol)) =
    [("IPlayerPool::Entry".toList, "IPlayerPool_Entry_get".toList)] := by cbv

/-! ### What is lost -/

/-- Rows have one for every method of the scanned definitions that can be called from outside with a fixed number
of values and is not an operator function. -/
def Complete (o : ScanOptions) (tree : Text → HeaderUnit) (headers : List Text) (rows : List Declaration) : Prop :=
  ∀ header ∈ headers, ∀ d : Definition, d.Scanned o (tree header) → ∀ c ∈ d.members,
    isCandidate c.entity = true → c.entity.isVariadic = false → isOperatorName c.entity.name = false →
      Represented rows d.subject c.entity

/-- Two headers that define classes of one name in different namespaces, and any other that defines a class with
a method whose name only begins like that of an operator function. -/
def timers : Text → HeaderUnit
  | ['a'] => .of [.namespaceOf "net" [.classOf true "Timer" [.methodOf "start" []]]]
  | ['b'] => .of [.namespaceOf "ui" [.classOf true "Timer" [.methodOf "stop" []]]]
  | _ => .of [.classOf true "IPool" [.methodOf "operatorCount" []]]

/-- The class of the second header. -/
def timersSecond : Definition :=
  .inside [(Cursor.namespaceOf "ui" []).entity, { kind := .wholeUnit }] (Cursor.classOf true "Timer" []).entity
    [.methodOf "stop" []]

/-- The class of any other header. -/
def timersThird : Definition :=
  .inside [{ kind := .wholeUnit }] (Cursor.classOf true "IPool" []).entity [.methodOf "operatorCount" []]

theorem not_complete :
    (∃ rows, collect {} (some (some ∘ timers)) [['c']] = .ok rows ∧ ¬ Complete {} timers [['c']] rows) ∧
    (∃ rows, collect {} (some (some ∘ timers)) [['a'], ['b']] = .ok rows ∧
      ¬ Complete {} timers [['a'], ['b']] rows) := by
  constructor <;> refine ⟨_, collect_eq_ok fun _ _ => rfl, fun complete => ?_⟩
  · have scanned : timersThird.Scanned {} (timers ['c']) :=
      ⟨by decide, _, rfl, .inside (.head _) .here⟩
    have represented := complete ['c'] (.head _) _ scanned _ (.head _) (by decide) (by decide) (by decide)
    obtain ⟨u, -, shows⟩ := represented_declarationsOf_iff.mp represented
    exact absurd shows.isOperator_eq_false (by decide)
  · have scanned : timersSecond.Scanned {} (timers ['b']) :=
      ⟨by decide, _, rfl, .inside (.head _) (.inside (.head _) .here)⟩
    have represented := complete ['b'] (by simp) _ scanned _ (.head _) (by decide) (by decide) (by decide)
    obtain ⟨u, counts, shows⟩ := represented_declarationsOf_iff.mp represented
    have speaks : methodsUnder {} (timers ['a']) timersSecond.subject ≠ [] := by decide
    obtain rfl : timers ['a'] = u := by
      simpa [firstShowing_cons, speaks] using counts
    exact absurd (shows_iff.mp shows) (by decide)

end Forwarding.Scan
