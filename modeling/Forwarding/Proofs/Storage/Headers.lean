import Forwarding.Proofs.Declaration
import Forwarding.Proofs.Storage.Atomicity
import Forwarding.Storage.Headers

/-! What a search for header files finds.

A file that is listed counts by its suffix, in either case. Below a directory only the last characters of a name are
looked at, and not what stands there: a directory is taken for a header, so is a hidden file whose whole name is an
ending, and a suffix in upper case is passed over. `discover_iff` says what is found, and that this is what is below
just when nothing there is named so.
-/

set_option autoImplicit false

namespace Forwarding

open Text Checks

/-! ### Suffixes -/

namespace Path

theorem suffixOf_append {front ending : Text} (given : front ≠ []) (some : ending ≠ []) (plain : '.' ∉ ending) :
    suffixOf (front ++ '.' :: ending) = '.' :: ending := by
  have cut : ((front ++ '.' :: ending).reverse.takeWhile (· != '.')).reverse = ending := by
    have behind : ∀ c ∈ ending.reverse, (c != '.') = true := by
      intro c member
      rw [List.mem_reverse] at member
      simpa using fun same : c = '.' => plain (same ▸ member)
    rw [List.reverse_append, List.reverse_cons, List.append_assoc, List.takeWhile_append_of_pos behind]
    simp
  have long : ¬ (ending.isEmpty || decide (ending.length + 1 ≥ (front ++ '.' :: ending).length)) = true := by
    have given := List.length_pos_iff.mpr given
    have longer : ¬ ending.length + 1 ≥ (front ++ '.' :: ending).length := by
      rw [List.length_append, List.length_cons]
      omega
    rw [Bool.or_eq_true, List.isEmpty_iff, decide_eq_true_iff]
    exact not_or.mpr ⟨some, longer⟩
  rw [suffixOf, cut]
  exact if_neg long

theorem exists_of_suffixOf {name : Text} (given : suffixOf name ≠ []) : ∃ front ending, front ≠ [] ∧
    name = front ++ '.' :: ending ∧ suffixOf name = '.' :: ending := by
  rw [suffixOf] at given ⊢
  split at given
  · exact absurd rfl given
  · next long =>
    rw [if_neg long]
    simp only [Bool.or_eq_true, decide_eq_true_eq, not_or, Nat.not_le, ge_iff_le] at long
    have parts := List.takeWhile_append_dropWhile (p := (· != '.')) (l := name.reverse)
    cases rest : name.reverse.dropWhile (· != '.') with
    | nil =>
      rw [rest, List.append_nil] at parts
      rw [parts, List.reverse_reverse] at long
      omega
    | cons c before =>
      have dot := List.head?_dropWhile_not (· != '.') name.reverse
      rw [rest] at dot
      have here : c = '.' := by simpa using dot
      rw [rest, here] at parts
      have whole := congrArg List.reverse parts
      rw [List.reverse_append, List.reverse_cons, List.reverse_reverse, List.append_assoc] at whole
      refine ⟨before.reverse, _, ?_, whole.symm, rfl⟩
      intro none
      have lengths := congrArg List.length whole
      rw [none] at lengths
      simp only [List.nil_append, List.length_append, List.length_singleton] at lengths
      omega

end Path

namespace Headers

/-- A name with a header's suffix in either case, and something in front of it. -/
def HeaderName (name : Text) : Prop :=
  ∃ front suffix, front ≠ [] ∧ name = front ++ suffix ∧ suffix.map Char.toLower ∈ endings

/-- A name whose last characters are a header's suffix, as it stands. -/
def EndsAlike (name : Text) : Prop := ∃ ending ∈ endings, ending <:+ name

theorem ending_parts : ∀ ending ∈ endings, ∃ rest, ending = '.' :: rest ∧ rest ≠ [] ∧ '.' ∉ rest ∧
    ending.map Char.toLower = ending := by
  simp only [endings, List.forall_mem_cons]
  refine ⟨⟨_, rfl, ?_⟩, ⟨_, rfl, ?_⟩, ⟨_, rfl, ?_⟩, ⟨_, rfl, ?_⟩, nofun⟩
  all_goals decide

theorem eq_dot_of_toLower {c : Char} (lower : c.toLower = '.') : c = '.' := by
  delta Char.toLower at lower
  split at lower
  -- An upper-case letter would become a letter.
  · next upper =>
    have low : 65 ≤ c.toNat := UInt32.le_iff_toNat_le.mp upper.1
    have high : c.toNat ≤ 90 := UInt32.le_iff_toNat_le.mp upper.2
    have code : (c.toNat + 32) % 4294967296 = 46 := by simpa using congrArg Char.toNat lower
    omega
  · exact lower

theorem suffix_parts {suffix : Text} (known : suffix.map Char.toLower ∈ endings) :
    ∃ rest, suffix = '.' :: rest ∧ rest ≠ [] ∧ '.' ∉ rest := by
  obtain ⟨rest, parts, some, plain, -⟩ := ending_parts _ known
  cases suffix with
  | nil => cases parts
  | cons c suffix =>
    obtain ⟨dot, lower⟩ := List.cons.inj parts
    refine ⟨suffix, by rw [eq_dot_of_toLower dot], ?_, fun member => plain ?_⟩
    · rintro rfl
      exact some lower.symm
    · rw [← lower]
      exact List.mem_map_of_mem (f := Char.toLower) member

theorem isHeaderName_iff {name : Text} : isHeaderName name = true ↔ HeaderName name := by
  rw [isHeaderName, List.contains_iff_mem]
  constructor
  · intro known
    have given : Path.suffixOf name ≠ [] := by
      intro none
      rw [none] at known
      revert known
      decide
    obtain ⟨front, ending, some, parts, suffix⟩ := Path.exists_of_suffixOf given
    exact ⟨front, '.' :: ending, some, parts, suffix ▸ known⟩
  · rintro ⟨front, suffix, some, rfl, known⟩
    obtain ⟨rest, rfl, given, plain⟩ := suffix_parts known
    rwa [Path.suffixOf_append some given plain]

/-- A name that ends like a header's is that of one unless it is an ending and nothing else. -/
theorem EndsAlike.headerName_iff {name : Text} (alike : EndsAlike name) : HeaderName name ↔ name ∉ endings := by
  constructor
  · rintro ⟨front, suffix, some, rfl, known⟩ own
    obtain ⟨rest, rfl, -, -⟩ := suffix_parts known
    obtain ⟨more, parts, -, plain, -⟩ := ending_parts _ own
    -- Behind the dot that an ending starts with there is no other one for the suffix to start with.
    cases front with
    | nil => exact some rfl
    | cons c front =>
      obtain ⟨-, behind⟩ := List.cons.inj parts
      exact plain (behind ▸ List.mem_append_right front List.mem_cons_self)
  · intro other
    obtain ⟨ending, known, front, rfl⟩ := alike
    obtain ⟨-, -, -, -, lower⟩ := ending_parts _ known
    refine ⟨front, ending, ?_, rfl, by rwa [lower]⟩
    rintro rfl
    exact other known

/-! ### What is found -/

variable {t : FileTree} {paths : List Text} {headers : List Location} {l m : Location} {p : Path}

def lastName (l : Location) : Text := l.getLast?.getD []

/-- A regular file with a header's suffix. -/
structure IsHeader (t : FileTree) (l : Location) : Prop where
  file : ∃ content, t.at? l = some (.file content)
  name : HeaderName (lastName l)

/-- One of the paths leads to a place. -/
def Listed (t : FileTree) (paths : List Text) (l : Location) : Prop := ∃ path ∈ paths, t.find (.ofText path) = .ok l

/-- Something stands at a place, at any depth below a directory that is listed. -/
structure Under (t : FileTree) (paths : List Text) (l : Location) : Prop where
  stands : (t.at? l).isSome = true
  above : ∃ m, Listed t paths m ∧ t.isDirectoryAt m = true ∧ m <+: l ∧ m ≠ l

theorem mem_below_iff : l ∈ t.below m ↔ (t.at? l).isSome = true ∧ m <+: l ∧ m ≠ l := by
  simp only [FileTree.below, List.mem_filter, List.mem_map, Bool.and_eq_true, List.isPrefixOf_iff_prefix,
    decide_eq_true_eq]
  constructor
  · rintro ⟨⟨entry, member, rfl⟩, front, short⟩
    have given : entry.1 ≠ [] := List.length_pos_iff.mp (Nat.lt_of_le_of_lt (Nat.zero_le _) short)
    refine ⟨?_, front, fun same => Nat.lt_irrefl _ (same ▸ short)⟩
    rw [FileTree.at?_eq given, Option.isSome_map, List.find?_isSome]
    exact ⟨entry, member, beq_self_eq_true _⟩
  · rintro ⟨known, front, other⟩
    have short : m.length < l.length := Nat.lt_of_le_of_ne front.length_le fun same => other (front.eq_of_length same)
    have given : l ≠ [] := List.length_pos_iff.mp (Nat.lt_of_le_of_lt (Nat.zero_le _) short)
    rw [FileTree.at?_eq given, Option.isSome_map, List.find?_isSome] at known
    obtain ⟨entry, member, same⟩ := known
    exact ⟨⟨entry, member, eq_of_beq same⟩, front, short⟩

theorem lastName_of_find (sound : t.Sound) {content : Bytes} (leads : t.find p = .ok l)
    (file : t.at? l = some (.file content)) : lastName l = p.name := by
  obtain ⟨given, down⟩ := sound.named leads (FileTree.isDirectoryAt_of_file file)
  have last : p.names.getLast? = some p.name := by
    rw [Path.name, List.getLast?_eq_some_getLast given, Option.getD_some]
  rw [lastName, FileTree.locate_of_find sound.grounded leads, Path.getLast?_locate last down, Option.getD_some]

theorem exists_found?_iff : (∃ found, found? t p = .ok found) ↔ t.find p ≠ .error .nameTooLong := by
  rw [found?]
  split
  · next long => simp [long]
  · next short =>
    refine iff_of_true ?_ short
    dsimp only
    split
    · exact ⟨_, rfl⟩
    split
    · exact ⟨_, rfl⟩
    · exact ⟨_, rfl⟩

theorem isHeader_of_path_iff (sound : t.Sound) :
    (t.isFile p && isHeaderName p.name) = true ↔ ∃ m, t.find p = .ok m ∧ IsHeader t m := by
  rw [Bool.and_eq_true, FileTree.isFile]
  constructor
  · rintro ⟨regular, named⟩
    split at regular
    · next content node =>
      obtain ⟨m, leads, here⟩ := FileTree.node?_eq_some_iff.mp node
      exact ⟨m, leads, ⟨content, here⟩, isHeaderName_iff.mp (by rwa [lastName_of_find sound leads here])⟩
    · cases regular
  · rintro ⟨m, leads, ⟨content, here⟩, named⟩
    rw [FileTree.node?_eq_some_iff.mpr ⟨m, leads, here⟩, isHeaderName_iff, ← lastName_of_find sound leads here]
    exact ⟨rfl, named⟩

/-- What one path gives: the file itself, or what is below the directory. -/
theorem mem_found?_iff (sound : t.Sound) {found : Option (List Location)} (given : found? t p = .ok found) :
    l ∈ found.getD [] ↔ (t.find p = .ok l ∧ IsHeader t l) ∨
      ∃ m, t.find p = .ok m ∧ t.isDirectoryAt m = true ∧ l ∈ t.below m ∧ EndsAlike (lastName l) := by
  rw [found?] at given
  split at given
  · cases given
  dsimp only at given
  have place : ∀ {m}, t.find p = .ok m → m = p.locate t.here := FileTree.locate_of_find sound.grounded
  split at given
  · next file =>
    cases given
    obtain ⟨m, leads, header⟩ := (isHeader_of_path_iff sound).mp file
    obtain rfl := place leads
    obtain ⟨content, here⟩ := header.file
    simp only [Option.getD_some, List.mem_singleton]
    constructor
    · rintro rfl
      exact .inl ⟨leads, header⟩
    · rintro (⟨other, -⟩ | ⟨other, toOther, directory, -⟩)
      · exact place other
      · rw [place toOther, FileTree.isDirectoryAt_of_file here] at directory
        cases directory
  -- What is neither a header file nor a directory gives nothing.
  next noFile =>
  have files : ∀ m, t.find p = .ok m → ¬ IsHeader t m := fun m leads header =>
    noFile ((isHeader_of_path_iff sound).mpr ⟨m, leads, header⟩)
  split at given
  · next directory =>
    cases given
    obtain ⟨m, leads, here⟩ := FileTree.isDirectory_iff.mp directory
    obtain rfl := place leads
    simp only [Option.getD_some, List.mem_flatMap, List.mem_mergeSort, List.mem_filter, List.isSuffixOf_iff_suffix]
    constructor
    · rintro ⟨ending, known, below, alike⟩
      exact .inr ⟨_, leads, here, below, ending, known, alike⟩
    · rintro (⟨other, header⟩ | ⟨m, other, -, below, ending, known, alike⟩)
      · exact absurd header (files l other)
      · exact ⟨ending, known, place other ▸ below, alike⟩
  · next noDirectory =>
    cases given
    simp only [Option.getD_none, List.not_mem_nil, false_iff, not_or, not_exists]
    refine ⟨fun ⟨leads, header⟩ => files l leads header, fun m ⟨leads, directory, _⟩ => ?_⟩
    exact noDirectory (FileTree.isDirectory_iff.mpr ⟨m, leads, directory⟩)

theorem exists_discover_iff : (∃ headers, discover t paths = .ok headers) ↔
    ∀ path ∈ paths, t.find (.ofText path) ≠ .error .nameTooLong := by
  simp only [← exists_found?_iff, ← exists_mapM_eq_ok, discover, bind_eq_ok]
  constructor
  · rintro ⟨-, found, each, -⟩
    exact ⟨found, each⟩
  · rintro ⟨found, each⟩
    exact ⟨_, found, each, rfl⟩

theorem mem_discover_iff (sound : t.Sound) (found : discover t paths = .ok headers) :
    l ∈ headers ↔ (Listed t paths l ∧ IsHeader t l) ∨ (Under t paths l ∧ EndsAlike (lastName l)) := by
  obtain ⟨results, each, given⟩ := bind_eq_ok.mp found
  cases given
  rw [List.mem_eraseDups, List.mem_flatMap]
  constructor
  · rintro ⟨result, member, inside⟩
    obtain ⟨path, listed, own⟩ := (mem_of_mapM_eq_ok each).mp member
    rcases (mem_found?_iff sound own).mp inside with ⟨leads, header⟩ | ⟨m, leads, directory, below, alike⟩
    · exact .inl ⟨⟨path, listed, leads⟩, header⟩
    · obtain ⟨stands, front⟩ := mem_below_iff.mp below
      exact .inr ⟨⟨stands, m, ⟨path, listed, leads⟩, directory, front⟩, alike⟩
  · have all := exists_mapM_eq_ok.mp ⟨results, each⟩
    rintro (⟨⟨path, listed, leads⟩, header⟩ | ⟨⟨stands, m, ⟨path, listed, leads⟩, directory, front⟩, alike⟩)
    · obtain ⟨result, own⟩ := all path listed
      exact ⟨result, (mem_of_mapM_eq_ok each).mpr ⟨path, listed, own⟩,
        (mem_found?_iff sound own).mpr (.inl ⟨leads, header⟩)⟩
    · obtain ⟨result, own⟩ := all path listed
      exact ⟨result, (mem_of_mapM_eq_ok each).mpr ⟨path, listed, own⟩,
        (mem_found?_iff sound own).mpr (.inr ⟨m, leads, directory, mem_below_iff.mpr ⟨stands, front⟩, alike⟩)⟩

/-- What is found is the header files that are listed or below a listed directory, each once. -/
structure Exact (t : FileTree) (paths : List Text) (headers : List Location) : Prop where
  once : headers.Nodup
  found : ∀ l, l ∈ headers ↔ IsHeader t l ∧ (Listed t paths l ∨ Under t paths l)

/-- A search succeeds when no path is too long. It finds the header files that are listed, and below the directories
that are listed whatever ends like one. That is exact just when below these directories everything that ends like a
header is a file and has a name in front of its suffix, and every other header file is listed itself. -/
theorem discover_iff (sound : t.Sound) (paths : List Text) :
    ((∃ headers, discover t paths = .ok headers) ↔
      ∀ path ∈ paths, t.find (.ofText path) ≠ .error .nameTooLong) ∧
    ∀ headers, discover t paths = .ok headers → headers.Nodup ∧
      (∀ l, l ∈ headers ↔ (Listed t paths l ∧ IsHeader t l) ∨ (Under t paths l ∧ EndsAlike (lastName l))) ∧
      (Exact t paths headers ↔ ∀ l, Under t paths l →
        (EndsAlike (lastName l) → (∃ content, t.at? l = some (.file content)) ∧ lastName l ∉ endings) ∧
        (IsHeader t l → EndsAlike (lastName l) ∨ Listed t paths l)) := by
  refine ⟨exists_discover_iff, fun headers found => ?_⟩
  have members := fun l => mem_discover_iff (l := l) sound found
  have once : headers.Nodup := by
    obtain ⟨results, -, given⟩ := bind_eq_ok.mp found
    cases given
    exact nodup_eraseDups _
  refine ⟨once, members, fun exact l under => ⟨fun alike => ?_, fun header => ?_⟩, fun below => ⟨once, fun l => ?_⟩⟩
  · have header := ((exact.found l).mp ((members l).mpr (.inr ⟨under, alike⟩))).1
    exact ⟨header.file, alike.headerName_iff.mp header.name⟩
  · rcases (members l).mp ((exact.found l).mpr ⟨header, .inr under⟩) with ⟨listed, -⟩ | ⟨-, alike⟩
    · exact .inr listed
    · exact .inl alike
  · rw [members]
    constructor
    · rintro (⟨listed, header⟩ | ⟨under, alike⟩)
      · exact ⟨header, .inl listed⟩
      · obtain ⟨file, other⟩ := (below l under).1 alike
        exact ⟨⟨file, alike.headerName_iff.mpr other⟩, .inr under⟩
    · rintro ⟨header, listed | under⟩
      · exact .inl ⟨listed, header⟩
      · rcases (below l under).2 header with alike | listed
        · exact .inr ⟨under, alike⟩
        · exact .inl ⟨listed, header⟩

/-- A directory with one header file, and beside it a directory that is named like one. -/
def kit : FileTree where
  here := ["work"]
  nodes := [(["work"], .directory), (["work", "sdk"], .directory), (["work", "sdk", "a.h"], .file []),
    (["work", "sdk", "b.h"], .directory)]

theorem under_kit : Under kit ["sdk"] ["work", "sdk", "b.h"] :=
  ⟨rfl, ["work", "sdk"], ⟨"sdk", List.mem_singleton_self _, rfl⟩, rfl, ⟨["b.h"], rfl⟩, by decide⟩

theorem endsAlike_kit : EndsAlike (lastName ["work", "sdk", "b.h"]) :=
  ⟨".h", List.mem_cons_self, ['b'], rfl⟩

theorem discover_iff_kit : kit.Sound ∧ (∃ headers, discover kit ["sdk"] = .ok headers) ∧
    ∀ headers, discover kit ["sdk"] = .ok headers → headers.Nodup ∧ ¬ Exact kit ["sdk"] headers := by
  have sound : kit.Sound := by decide
  obtain ⟨succeeds, finds⟩ := discover_iff sound ["sdk"]
  refine ⟨sound, succeeds.mpr ?_, fun headers found => ?_⟩
  · decide
  · obtain ⟨once, -, exact⟩ := finds headers found
    refine ⟨once, fun all => ?_⟩
    obtain ⟨content, file⟩ := ((exact.mp all _ under_kit).1 endsAlike_kit).1
    cases file

/-- A directory is found. -/
theorem not_exact_kit : ¬ ∀ t paths headers, FileTree.Sound t → discover t paths = .ok headers →
    Exact t paths headers := by
  intro all
  obtain ⟨headers, found⟩ : ∃ headers, discover kit ["sdk"] = .ok headers := exists_discover_iff.mpr (by decide)
  have sound : kit.Sound := by decide
  have member := (mem_discover_iff sound found).mpr (.inr ⟨under_kit, endsAlike_kit⟩)
  obtain ⟨content, file⟩ := (((all kit ["sdk"] headers sound found).found _).mp member).1.file
  cases file

end Headers

end Forwarding
