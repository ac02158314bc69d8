import Forwarding.Script.Machine.Builtin

/-! Comparing a value with a pattern. What fits gives the values of the names in the pattern. -/

set_option autoImplicit false

namespace Forwarding.Script.Act

open Text

def patternValue (v : CasePattern.Value) : Act Value := do
  match v with
  | .constant v => return v
  | .path first members => do
    (members.foldlM (fun found name => readMember found name) (← loadFrom first))

def sequenceItems? (v : Value) : Act (Option (List Value)) := do
  match ← plain v with
  | .tuple items => return some items
  | .range first stop step => return some (rangeItems first stop step)
  | .object place =>
    match (← objectAt place).body with
    | .list _ => return some (← itemsOf v)
    | _ => do
      match ← member? (← kindOf v) "__sequence_items__" with
      | some _ => return some (← itemsOf v)
      | none => return none
  | _ => return none

/-- Classes whose values fit a single pattern by themselves. -/
def selfMatching : List Text := words <|
  "bool bytearray bytes dict float frozenset int list set str tuple"

/-- The attributes that the patterns without names in a class pattern mean; an empty name stands for the
value itself. -/
def placedMembers (kind : Value) (count : Nat) : Act (List Text) := do
  if count == 0 then return []
  else
    let name ← className kind
    let accepts (allowed : Nat) : Act (List Text) :=
      typeError (name ++ "() accepts " ++ decimal allowed ++ " positional sub-pattern" ++
        (if allowed == 1 then [] else ['s']) ++ " (" ++ decimal count ++ " given)")
    match ← scripted? kind "__match_args__" with
    | some v =>
      match ← plain v with
      | .tuple items =>
        if items.length < count then accepts items.length
        else
          (items.take count).mapM fun item => do
            match ← plain item with
            | .text t => return t
            | _ =>
              typeError ("__match_args__ elements must be strings (got " ++ (← kindName item) ++ [')'])
      | _ =>
        typeError (name ++ ".__match_args__ must be a tuple (got " ++ (← kindName v) ++ [')'])
    | none => do
      let line ← lineOf kind
      let isSelf := line.any fun
        | .kind k => selfMatching.contains k
        | _ => false
      if isSelf then
        if count == 1 then return [[]] else accepts 1
      else accepts 0

def repeatedName? : List Text → Option Text
  | [] => none
  | name :: more => if !name.isEmpty && more.contains name then some name else repeatedName? more

mutual

def fits (v : Value) : CasePattern → Act (Option (List Value))
  | .anything => return some []
  | .capture _ => return some [v]
  | .equal p => do
    let other ← patternValue p
    return if ← isOrdered .equal v other then some [] else none
  | .same other => return if v.isSame other then some [] else none
  | .named p _ => do return (← fits v p).map (· ++ [v])
  | .either patterns => fitsOne v (CasePattern.namesOfFirst patterns) patterns
  | .sequence first rest last => do
    match ← sequenceItems? v with
    | none => return none
    | some items =>
      let count := first.length + last.length
      let fitsLength := if rest.isSome then count ≤ items.length else items.length == count
      if !fitsLength then return none
      else
        match ← fitsAll (items.take first.length) first with
        | none => return none
        | some found =>
          match ← fitsAll (items.drop (items.length - last.length)) last with
          | none => return none
          | some more => do
            let middle ← match rest with
              | some (some _) => do
                let inside := (items.drop first.length).take (items.length - count)
                pure [← newList inside]
              | _ => pure []
            return some (found ++ middle ++ more)
  | .mapping keys patterns rest => do
    match ← bodyOf v with
    | .dictionary d => do
      let codes ← keys.mapM fun key => do codeIn d (← patternValue key)
      let items := codes.map d.get?
      if items.any Option.isNone then return none
      else
        match ← fitsAll (items.filterMap id) patterns with
        | none => return none
        | some found =>
          match rest with
          | none => return some found
          | some _ => do
            let left := codes.foldl (fun d code => d.erase code) d
            let left := left.toList.foldl (fun d e => d.insert e.code e.key e.item) ({} : Dictionary)
            return some (found ++ [← newDictionary left])
    | _ => return none
  | .ofClass kind placed names named => do
    let kind ← patternValue kind
    if !(← isClass kind) then typeError "called match pattern must be a type"
    else if !(← isInstance v kind) then return none
    else
      let members ← placedMembers kind placed.length
      match repeatedName? (members ++ names) with
      | some name =>
        typeError ((← className kind) ++ "() got multiple sub-patterns for attribute '" ++ name ++ ['\x27'])
      | none => do
        let read (name : Text) : Act (Option Value) :=
          if name.isEmpty then return some v else readMember? v name
        let placedItems ← members.mapM read
        let namedItems ← names.mapM read
        if (placedItems ++ namedItems).any Option.isNone then return none
        else
          match ← fitsAll (placedItems.filterMap id) placed with
          | none => return none
          | some found => do
            return (← fitsAll (namedItems.filterMap id) named).map (found ++ ·)

/-- The same for the first of several patterns that fits; the values come in the order of some names. -/
def fitsOne (v : Value) (names : List Text) : List CasePattern → Act (Option (List Value))
  | [] => return none
  | p :: more => do
    match ← fits v p with
    | some found =>
      let entries := p.names.zip found
      return some (names.map fun name => (entries.lookup name).getD .nothing)
    | none => fitsOne v names more

def fitsAll : List Value → List CasePattern → Act (Option (List Value))
  | v :: items, p :: more => do
    match ← fits v p with
    | none => return none
    | some found =>
      match ← fitsAll items more with
      | none => return none
      | some others => return some (found ++ others)
  | _, _ => return some []

end

end Forwarding.Script.Act
