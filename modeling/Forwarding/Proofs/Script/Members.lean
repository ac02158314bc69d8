import Forwarding.Script.Basic

/-! What is read of a module that has been loaded.

Reading leaves the machine as it is, so that what several readings give one after the other is put together from
what each of them gives. The names of a module are kept in a dictionary, in which the last value of a name counts.
-/

set_option autoImplicit false

namespace Forwarding.Script

open Text

/-! ### Names in a dictionary -/

namespace Dictionary

variable {d : Dictionary} {code other : String} {key item : Value}

/-- Where an entry is looked for, there is one with the code. -/
def Sound (d : Dictionary) : Prop :=
  ∀ (code : String) (place : Nat), d.places[code]? = some place →
    ∃ e : Entry, d.entries[place]? = some (some e) ∧ e.code = code

theorem sound_empty : Sound {} := fun code place found => by simp at found

theorem insert_of_mem {place : Nat} (there : d.places[code]? = some place) : d.insert code key item =
    { d with entries := d.entries.modify place fun e => e.map fun e => { e with item } } := by
  unfold insert
  simp only [there]

theorem insert_of_not_mem (absent : d.places[code]? = none) : d.insert code key item =
    { d with
      entries := d.entries.push (some ⟨code, key, item⟩)
      places := d.places.insert code d.entries.size } := by
  unfold insert
  simp only [absent]

theorem getElem?_push_of_eq_some {α : Type} {kept : Array α} {place : Nat} {x y : α}
    (there : kept[place]? = some x) : (kept.push y)[place]? = some x := by
  obtain ⟨inside, found⟩ := Array.getElem?_eq_some_iff.mp there
  rw [Array.getElem?_push_lt inside, found]

theorem Sound.insert (sound : d.Sound) : (d.insert code key item).Sound := by
  intro asked place found
  cases there : d.places[code]? with
  | some kept =>
    rw [insert_of_mem there] at found ⊢
    obtain ⟨e, entry, rfl⟩ := sound asked place found
    by_cases same : kept = place
    · exact ⟨{ e with item }, by simp [same, entry, Array.getElem?_modify], rfl⟩
    · exact ⟨e, by simp [same, entry, Array.getElem?_modify], rfl⟩
  | none =>
    rw [insert_of_not_mem there] at found ⊢
    rw [Std.HashMap.getElem?_insert] at found
    split at found
    · next same =>
      cases found
      exact ⟨⟨code, key, item⟩, by simp, eq_of_beq same⟩
    · obtain ⟨e, entry, rfl⟩ := sound asked place found
      exact ⟨e, getElem?_push_of_eq_some entry, rfl⟩

theorem get?_insert_self (sound : d.Sound) : (d.insert code key item).get? code = some item := by
  cases there : d.places[code]? with
  | some place =>
    obtain ⟨e, entry, -⟩ := sound code place there
    simp [insert_of_mem there, get?, entry?, there, entry, Array.getElem?_modify]
  | none => simp [insert_of_not_mem there, get?, entry?]

theorem get?_insert_of_ne (sound : d.Sound) (differ : other ≠ code) :
    (d.insert code key item).get? other = d.get? other := by
  cases there : d.places[code]? with
  | some place =>
    rw [insert_of_mem there, get?, get?, entry?, entry?]
    cases found : d.places[other]? with
    | none => rfl
    | some kept =>
      -- Entries with two codes are at two places.
      have apart : place ≠ kept := by
        rintro rfl
        obtain ⟨e, entry, first⟩ := sound code place there
        obtain ⟨e', entry', second⟩ := sound other place found
        rw [entry] at entry'
        cases entry'
        exact differ (second.symm.trans first)
      simp [Array.getElem?_modify, apart]
  | none =>
    rw [insert_of_not_mem there, get?, get?, entry?, entry?, Std.HashMap.getElem?_insert,
      if_neg (by simpa using differ.symm)]
    cases found : d.places[other]? with
    | none => rfl
    | some kept =>
      obtain ⟨e, entry, -⟩ := sound other kept found
      simp [entry, getElem?_push_of_eq_some entry]

/-! Texts as keys -/

variable {name : Text} {names : List (Text × Value)}

theorem textCode_injective {s t : Text} (same : textCode s = textCode t) : s = t := by
  have letters := congrArg String.toList same
  simpa [textCode] using letters

def insertTexts (d : Dictionary) (names : List (Text × Value)) : Dictionary :=
  names.foldl (fun d entry => d.insertText entry.1 entry.2) d

theorem getText?_empty (name : Text) : getText? {} name = none := by simp [getText?, get?, entry?]

theorem Sound.insertTexts (sound : d.Sound) (names : List (Text × Value)) : (d.insertTexts names).Sound := by
  induction names generalizing d with
  | nil => exact sound
  | cons entry names ih => exact ih sound.insert

theorem getText?_insertTexts_of_not_mem (sound : d.Sound) (absent : name ∉ names.map Prod.fst) :
    (d.insertTexts names).getText? name = d.getText? name := by
  induction names generalizing d with
  | nil => rfl
  | cons entry names ih =>
    rw [List.map_cons, List.mem_cons, not_or] at absent
    have same : (d.insertText entry.1 entry.2).getText? name = d.getText? name :=
      get?_insert_of_ne sound fun same => absent.1 (textCode_injective same)
    exact (ih sound.insert absent.2).trans same

theorem getText?_insertTexts_of_mem (sound : d.Sound) (distinct : (names.map Prod.fst).Nodup)
    (member : (name, item) ∈ names) : (d.insertTexts names).getText? name = some item := by
  induction names generalizing d with
  | nil => cases member
  | cons entry names ih =>
    rw [List.map_cons, List.nodup_cons] at distinct
    rcases List.mem_cons.mp member with rfl | later
    · exact (getText?_insertTexts_of_not_mem sound.insert distinct.1).trans (get?_insert_self sound)
    · exact ih sound.insert distinct.2 later

end Dictionary

/-! ### Reading -/

namespace Act

variable {α β : Type} {surroundings : Surroundings} {s : State}

/-- An action gives something and leaves the machine as it is. -/
def Gives (surroundings : Surroundings) (s : State) (action : Act α) (a : α) : Prop :=
  action surroundings s = .ok a s

theorem Gives.pure (a : α) : Gives surroundings s (Pure.pure a) a := rfl

theorem Gives.bind {action : Act α} {next : α → Act β} {a : α} {b : β} (first : Gives surroundings s action a)
    (second : Gives surroundings s (next a) b) : Gives surroundings s (action >>= next) b := by
  show EStateM.bind (action surroundings) (fun a => next a surroundings) s = .ok b s
  rw [EStateM.bind, first]
  exact second

theorem Gives.tryCatch_eq {action : Act α} {a : α} (given : Gives surroundings s action a)
    (handle : Halt → Act α) : tryCatch action handle surroundings s = .ok a s := by
  show EStateM.tryCatch (action surroundings) (fun halt => handle halt surroundings) s = .ok a s
  delta EStateM.tryCatch
  dsimp only
  rw [given]

/-- What is read for each of several things, one after the other. -/
theorem Gives.mapM_map {γ : Type} {f : α → Act β} {key : γ → α} {g : γ → β} {things : List γ}
    (each : ∀ c ∈ things, Gives surroundings s (f (key c)) (g c)) :
    Gives surroundings s ((things.map key).mapM f) (things.map g) := by
  induction things with
  | nil => exact Gives.pure []
  | cons c things ih =>
    rw [List.forall_mem_cons] at each
    rw [List.map_cons, List.mapM_cons]
    exact each.1.bind ((ih each.2).bind (Gives.pure _))

/-! ### Names of a module -/

/-- The names of a module, and where a machine keeps them. No function answers for names that are not there. -/
structure Keeps (s : State) (names : Dictionary) : Prop where
  module : s.heap.getD modulePlace default = ⟨.kind "module", some namesPlace, .module⟩
  dictionary : (s.heap.getD namesPlace default).body = .dictionary names
  unanswered : names.getText? "__getattr__" = none

variable {names : Dictionary} {name : Text} {v : Value}

theorem gives_objectAt (place : Nat) : Gives surroundings s (objectAt place) (s.heap.getD place default) := rfl

/-- A class of the language has methods, and nothing else. -/
theorem exists_gives_memberIn? (surroundings : Surroundings) (s : State) (other : name ≠ "__hash__".toList)
    (kinds : List Text) : ∃ found : Option Value, Gives surroundings s (memberIn? (kinds.map .kind) name) found ∧
      ∀ m ∈ found, ∃ k, m = .unbound k name := by
  induction kinds with
  | nil => exact ⟨none, Gives.pure none, by simp⟩
  | cons k kinds ih =>
    have nothing : (name == "__hash__".toList && Kind.isUnhashable k) = false := by
      rw [beq_eq_false_iff_ne.mpr other, Bool.false_and]
    rw [List.map_cons, memberIn?, if_neg (Bool.eq_false_iff.mp nothing)]
    split
    · exact ⟨_, Gives.pure _, by simp⟩
    · exact ih

theorem exists_gives_member? (surroundings : Surroundings) (s : State) (other : name ≠ "__hash__".toList)
    (kind : Text) : ∃ found : Option Value, Gives surroundings s (member? (.kind kind) name) found ∧
      ∀ m ∈ found, ∃ k, m = .unbound k name := by
  obtain ⟨found, given, methods⟩ := exists_gives_memberIn? surroundings s other (Kind.line kind)
  exact ⟨found, (Gives.pure _).bind given, methods⟩

/-- Attributes for which a class can come before the names that a module defines. -/
def firstAttributes : List Text :=
  ["__class__", "__dict__", "args", "__cause__", "__context__", "__hash__"].map String.toList

theorem gives_comesFirst (other : name ∉ firstAttributes) (kind : Text) :
    Gives surroundings s (comesFirst (.unbound kind name)) false := by
  have none : (["__class__", "__dict__", "args", "__cause__", "__context__"].any fun (word : String) =>
      name == word.toList) = false := by
    rw [List.any_eq_false]
    intro word listed same
    have known : ∀ word ∈ ["__class__", "__dict__", "args", "__cause__", "__context__"],
        word.toList ∈ firstAttributes := by decide
    exact other (eq_of_beq same ▸ known word listed)
  rw [comesFirst, none]
  exact Gives.pure false

namespace Keeps

variable (keeps : Keeps s names)

include keeps

theorem gives_object : Gives surroundings s (objectAt modulePlace) ⟨.kind "module", some namesPlace, .module⟩ :=
  keeps.module ▸ gives_objectAt modulePlace

theorem gives_dictionaryAt : Gives surroundings s (dictionaryAt namesPlace) names := by
  refine (gives_objectAt namesPlace).bind ?_
  rw [keeps.dictionary]
  exact Gives.pure names

theorem gives_field? : Gives surroundings s (field? modulePlace name) (names.getText? name) :=
  keeps.gives_object.bind (keeps.gives_dictionaryAt.bind (Gives.pure _))

theorem gives_special? : Gives surroundings s (special? (.object modulePlace) name) none :=
  keeps.gives_object.bind (Gives.pure none)

theorem gives_fallback? : Gives surroundings s (fallback? (.object modulePlace)) none := by
  refine keeps.gives_object.bind ?_
  rw [← keeps.unanswered]
  exact keeps.gives_field?

theorem gives_kindOf : Gives surroundings s (kindOf (.object modulePlace)) (.kind "module") :=
  keeps.gives_object.bind (Gives.pure _)

theorem gives_plainAttribute? (other : name ∉ firstAttributes) (found : names.getText? name = some v) :
    Gives surroundings s (plainAttribute? (.object modulePlace) name) (some v) := by
  have own : Gives surroundings s (field? modulePlace name) (some v) := found ▸ keeps.gives_field?
  have hash : name ≠ "__hash__".toList := fun same => other (same ▸ by decide)
  obtain ⟨inherited, given, methods⟩ := exists_gives_member? surroundings s hash "module"
  refine keeps.gives_kindOf.bind (given.bind ?_)
  -- What the class has under the name does not matter: what the module defines comes before it.
  cases inherited with
  | none => exact (Gives.pure false).bind (own.bind (Gives.pure _))
  | some m =>
    obtain ⟨k, rfl⟩ := methods m rfl
    exact (gives_comesFirst other k).bind (own.bind (Gives.pure _))

theorem gives_ownAttribute? (other : name ∉ firstAttributes) (found : names.getText? name = some v) :
    Gives surroundings s (ownAttribute? (.object modulePlace) name) (some v) := by
  -- The subject is looked up before it is known that the value is none.
  refine Gives.bind (a := surroundings) rfl (keeps.gives_object.bind ?_)
  exact keeps.gives_plainAttribute? other found

theorem gives_readMember (other : name ∉ firstAttributes) (found : names.getText? name = some v) :
    Gives surroundings s (readMember (.object modulePlace) name) v := by
  refine keeps.gives_fallback?.bind ?_
  refine Gives.bind (keeps.gives_special?.bind (keeps.gives_ownAttribute? other found)) ?_
  exact Gives.pure v

end Keeps

theorem gives_computed? (f : Function) (kind : Text) :
    Gives surroundings s (computed? (.forwarding f) kind "__doc__") (some (.text f.spoken)) := by
  rw [computed?, String.ofList_toList]
  refine Gives.bind (a := Value.forwarding f) (Gives.pure _) ?_
  exact Gives.pure _

theorem gives_tied (f : Function) (kind : Text) (owner : Value) :
    Gives surroundings s (tied (.unbound kind "__doc__") (.forwarding f) owner) (.text f.spoken) :=
  (gives_computed? f kind).bind (Gives.pure _)

theorem gives_document (f : Function) :
    Gives surroundings s (readMember (.forwarding f) "__doc__") (.text f.spoken) := by
  have other : "__doc__".toList ≠ "__hash__".toList := by decide
  obtain ⟨inherited, given, methods⟩ := exists_gives_member? surroundings s other "function"
  have plain : Gives surroundings s (plainAttribute? (.forwarding f) "__doc__") (some (.text f.spoken)) := by
    refine (Gives.pure _).bind (given.bind ?_)
    -- A document is computed from the function, whether or not its class has an attribute of that name.
    cases inherited with
    | none => exact Gives.bind (a := false) (Gives.pure _) (gives_computed? f [])
    | some m =>
      obtain ⟨k, rfl⟩ := methods m rfl
      exact (Gives.pure _).bind ((gives_tied f k _).bind (Gives.pure _))
  have own : Gives surroundings s (ownAttribute? (.forwarding f) "__doc__") (some (.text f.spoken)) :=
    Gives.bind (a := surroundings) rfl plain
  refine Gives.bind (a := none) (Gives.pure _) ?_
  refine Gives.bind (Gives.bind (a := none) (Gives.pure _) own) ?_
  exact Gives.pure _

theorem gives_itemsOf {place : Nat} {items : Array Value}
    (kept : s.heap.getD place default = ⟨.kind "list", none, .list items⟩) :
    Gives surroundings s (itemsOf (.object place)) items.toList := by
  refine Gives.bind (a := some items.toList) ?_ (Gives.pure _)
  refine Gives.bind (gives_objectAt place) ?_
  rw [kept]
  exact Gives.pure _

theorem gives_call {subject : Subject} {depth : Nat} {f : Value} {arguments : List Value}
    (given : Gives ⟨subject, answers subject depth⟩ s (callValue f arguments []) v) :
    Gives ⟨subject, answers subject (depth + 1)⟩ s (call f arguments) v := given

theorem gives_getattr {owner : Value} (given : Gives surroundings s (readMember owner name) v) :
    Gives surroundings s (callValue (.builtin "getattr") [owner, .text name] []) v := by
  have taken : takingIn builtinTakings "getattr" = .between 2 3 := by decide +kernel
  have unnamed : namingBuiltins.contains "getattr".toList = false := by decide +kernel
  rw [callValue, if_neg (by decide +kernel), builtinFunction, taken, unnamed, String.ofList_toList]
  refine Gives.bind (a := ()) (Gives.pure _) ?_
  refine Gives.bind (a := name) (Gives.pure _) ?_
  exact given

end Act

/-! ### Modules of regular form -/

theorem follow_of_gives {α : Type} {s : State} {subject : Subject} {action : Act α} {a : α}
    (given : Act.Gives ⟨subject, answers subject requestLimit⟩ s action a) :
    follow s subject action = (.ok a, s) := by
  unfold follow Act.runWith ReaderT.run EStateM.run
  dsimp only
  rw [Act.Gives.tryCatch_eq (given.bind (Act.Gives.pure (Except.ok a)))]

theorem follow_newList (s : State) (subject : Subject) (items : List Value) :
    follow s subject (Act.newList items) = (.ok (.object s.heap.size),
      { s with heap := s.heap.push ⟨.kind "list", none, .list items.toArray⟩ }) := rfl

theorem follow_changeDictionary (s : State) (subject : Subject) (place : Nat) (f : Dictionary → Dictionary) :
    (follow s subject (Act.changeDictionary place f)).2 = { s with
      heap := s.heap.modify place fun o =>
        ⟨o.kind, o.fields, match o.body with
          | .dictionary d => .dictionary (f d)
          | other => other⟩ } := rfl

variable {m : Regular}

/-- What a module of regular form gives values, in the order in which it does. -/
def Regular.names (m : Regular) : List (Text × Value) :=
  ("__doc__".toList, .text (join ['\n'] (([] :: m.document) ++ [[]]))) ::
    m.functions.map (fun f => (f.symbol, Value.forwarding f)) ++
    [(listName, .object (knownPlace + 1))]

/-- The names of a module before it is run. -/
def initialNames : Dictionary :=
  Dictionary.ofTexts (firstNames ++ [("__builtins__".toList, Value.object knownPlace)])

theorem heap_ofRegular (m : Regular) : (ofRegular m).state.heap = #[
    ⟨.kind "scope", none, .scope #[] [] none⟩,
    ⟨.kind "dict", none, .dictionary (initialNames.insertTexts m.names)⟩,
    ⟨.kind "module", some namesPlace, .module⟩,
    ⟨.kind "dict", none, .dictionary knownNames⟩,
    ⟨.kind "list", none, .list (m.functions.map fun f => Value.text f.symbol).toArray⟩] := by
  rw [ofRegular, follow_newList]
  dsimp only
  rw [follow_changeDictionary]
  rfl

/-- Names that mean something to a module, or to whoever loads it. -/
def specialNames : List Text :=
  Act.firstAttributes ++ ["__doc__", "__all__", "__getattr__"].map String.toList

theorem initialNames_sound : initialNames.Sound := Dictionary.sound_empty.insertTexts _

/-- A module of regular form with symbols of their own. -/
structure Regular.Distinct (m : Regular) : Prop where
  nodup : (m.functions.map Function.symbol).Nodup
  plain : ∀ f ∈ m.functions, f.symbol ∉ specialNames

theorem Regular.keys_names (m : Regular) :
    m.names.map Prod.fst = "__doc__".toList :: (m.functions.map Function.symbol ++ [listName]) := by
  simp [names, Function.comp_def]

namespace Regular.Distinct

variable (distinct : m.Distinct)

include distinct

theorem not_mem {name : Text} (special : name ∈ specialNames) : name ∉ m.functions.map Function.symbol := by
  intro member
  obtain ⟨f, inside, rfl⟩ := List.mem_map.mp member
  exact distinct.plain f inside special

theorem nodup_names : (m.names.map Prod.fst).Nodup := by
  rw [keys_names, List.nodup_cons, List.mem_append, List.mem_singleton, List.nodup_append]
  refine ⟨fun member => member.elim (distinct.not_mem (by decide)) (by decide), distinct.nodup, by simp, ?_⟩
  rintro symbol member _ (_ | ⟨_, ⟨⟩⟩) rfl
  exact distinct.not_mem (by decide) member

theorem getText?_of_mem {name : Text} {v : Value} (member : (name, v) ∈ m.names) :
    (initialNames.insertTexts m.names).getText? name = some v :=
  Dictionary.getText?_insertTexts_of_mem initialNames_sound distinct.nodup_names member

theorem keeps : Act.Keeps (ofRegular m).state (initialNames.insertTexts m.names) where
  module := by rw [heap_ofRegular]; rfl
  dictionary := by rw [heap_ofRegular]; rfl
  unanswered := by
    have absent : "__getattr__".toList ∉ m.names.map Prod.fst := by
      rw [keys_names, List.mem_cons, List.mem_append, List.mem_singleton, not_or, not_or]
      exact ⟨by decide, distinct.not_mem (by decide), by decide⟩
    have before : "__getattr__".toList ∉
        (firstNames ++ [("__builtins__".toList, Value.object knownPlace)]).map Prod.fst := by decide
    rw [Dictionary.getText?_insertTexts_of_not_mem initialNames_sound absent]
    exact (Dictionary.getText?_insertTexts_of_not_mem Dictionary.sound_empty before).trans
      (Dictionary.getText?_empty _)

theorem gives_listed {surroundings : Surroundings} : Act.Gives surroundings (ofRegular m).state
    (Act.readMember (.object modulePlace) listName) (.object (knownPlace + 1)) :=
  distinct.keeps.gives_readMember (by decide) (distinct.getText?_of_mem (by simp [names]))

theorem gives_function {surroundings : Surroundings} {f : Function} (member : f ∈ m.functions) :
    Act.Gives surroundings (ofRegular m).state (Act.readMember (.object modulePlace) f.symbol) (.forwarding f) := by
  have other : f.symbol ∉ Act.firstAttributes := fun inside =>
    distinct.plain f member (List.mem_append_left _ inside)
  refine distinct.keeps.gives_readMember other (distinct.getText?_of_mem ?_)
  exact List.mem_append_left _ (List.mem_cons_of_mem _ (List.mem_map_of_mem member))

end Regular.Distinct

theorem documents_ofRegular (distinct : m.Distinct) : (ofRegular m).documents =
    (.ok (m.functions.map fun f => (.text f.symbol, .text f.spoken)), ofRegular m) := by
  have listed : (ofRegular m).state.heap.getD (knownPlace + 1) default =
      ⟨.kind "list", none, .list (m.functions.map fun f => Value.text f.symbol).toArray⟩ := by
    rw [heap_ofRegular]
    rfl
  have each : ∀ f ∈ m.functions, Act.Gives ⟨nobody, answers nobody requestLimit⟩ (ofRegular m).state
      (do
        let v ← Act.callBuiltin "getattr" [.object modulePlace, .text f.symbol]
        return (Value.text f.symbol, ← Act.readMember v "__doc__"))
      (.text f.symbol, .text f.spoken) := by
    intro f member
    have found : Act.Gives ⟨nobody, answers nobody requestLimit⟩ (ofRegular m).state
        (Act.callBuiltin "getattr" [.object modulePlace, .text f.symbol]) (.forwarding f) :=
      Act.gives_call (Act.gives_getattr (distinct.gives_function member))
    exact found.bind ((Act.gives_document f).bind (Act.Gives.pure _))
  rw [documents, follow_of_gives
    (distinct.gives_listed.bind ((Act.gives_itemsOf listed).bind (Act.Gives.mapM_map each)))]

end Forwarding.Script
