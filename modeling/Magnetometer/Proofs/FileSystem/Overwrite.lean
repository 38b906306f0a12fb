import Magnetometer.Proofs.FileSystem
import Mathlib.Data.List.DropRight

/-!
# Writing over what can be read

A path that can be read can be written: the directories above its file are all
there, so that making them changes nothing, and the write replaces the content
of that file and touches nothing else.  A write that is refused was made to a
path that cannot be read, before it and after it.
-/

namespace Magnetometer

namespace Text

variable {α : Type} [DecidableEq α]

/-- Pieces that do not hold the separator are found again where they were
joined. -/
theorem splitAt_intercalate {separator : α} {pieces : List (List α)} (some_piece : pieces ≠ [])
    (whole : ∀ piece ∈ pieces, separator ∉ piece) :
    splitAt separator (List.intercalate [separator] pieces) = pieces := by
  induction pieces with
  | nil => exact absurd rfl some_piece
  | cons first rest ih =>
      obtain ⟨unsplit, wholeRest⟩ := List.forall_mem_cons.mp whole
      cases rest with
      | nil => simpa using splitAt_of_not_mem unsplit
      | cons second rest =>
          rw [List.intercalate_cons_cons, List.append_assoc, List.singleton_append,
            splitAt_append_cons, splitAt_of_not_mem unsplit,
            ih (List.cons_ne_nil _ _) wholeRest, List.singleton_append]

omit [DecidableEq α] in
/-- Fewer pieces joined are the beginning of all of them joined. -/
theorem intercalate_prefix (separator : List α) (front more : List (List α)) :
    List.intercalate separator front <+: List.intercalate separator (front ++ more) := by
  induction front with
  | nil => exact List.nil_prefix
  | cons first rest ih =>
      cases rest with
      | nil =>
          cases more with
          | nil => exact List.prefix_rfl
          | cons second more =>
              rw [List.singleton_append, List.intercalate_cons_cons, List.append_assoc,
                List.intercalate_singleton]
              exact List.prefix_append _ _
      | cons second rest =>
          rw [List.cons_append, List.cons_append, List.intercalate_cons_cons,
            List.intercalate_cons_cons]
          exact (List.prefix_append_right_inj _).mpr ih

end Text

namespace Path

/-- The names of joined names are those names. -/
theorem names_ofNames {names : List Name} (some_name : names ≠ [])
    (whole : ∀ name ∈ names, slash ∉ name) : (ofNames names).names = names :=
  Text.splitAt_intercalate some_name whole

theorem ofNames_names (path : Path) : ofNames path.names = path := by
  rw [ofNames, names, Text.intercalate_splitAt]

theorem names_ne_nil (path : Path) : path.names ≠ [] := Text.splitAt_ne_nil _ _

/-- The path of the first names of a path. -/
theorem names_ofNames_of_append {path : Path} {front more : List Name}
    (names_eq : path.names = front ++ more) (some_name : front ≠ []) :
    path.names = (ofNames front).names ++ more ∧ (ofNames front).bytes <+: path.bytes := by
  have whole : ∀ name ∈ front, slash ∉ name := by
    intro name mem
    apply Text.not_mem_of_mem_splitAt (s := path.bytes)
    change name ∈ path.names
    rw [names_eq]
    exact List.mem_append_left _ mem
  constructor
  · rw [names_ofNames some_name whole, names_eq]
  · rw [← ofNames_names path, names_eq]
    exact Text.intercalate_prefix _ _ _

/-- What the parent of a path is: the empty path, the root, or the path of its
first names with at least one name left over. -/
theorem parent?_eq_some {path above : Path} (parent : path.parent? = some above) :
    above = ⟨[]⟩ ∨ above = ⟨[slash]⟩ ∨
      ∃ more, more ≠ [] ∧ path.names = above.names ++ more ∧ above.bytes <+: path.bytes := by
  unfold parent? at parent
  split at parent
  · contradiction
  · rename_i first rest names_eq
    obtain ⟨idle, rest_eq⟩ := List.rdropWhile_prefix isIdle (l := rest)
    rw [show rest.rdropWhile isIdle = withoutIdleEnd rest from rfl] at rest_eq
    split at parent
    · split at parent
      · contradiction
      · exact .inl (Option.some.inj parent).symm
    · rename_i kept_eq
      obtain ⟨lower, above_eq⟩ :=
        List.rdropWhile_prefix isIdle (l := (withoutIdleEnd rest).dropLast)
      rw [show ((withoutIdleEnd rest).dropLast).rdropWhile isIdle =
        withoutIdleEnd (withoutIdleEnd rest).dropLast from rfl] at above_eq
      have some_kept : withoutIdleEnd rest ≠ [] := by
        rw [kept_eq]
        exact List.cons_ne_nil _ _
      have rest_split : withoutIdleEnd (withoutIdleEnd rest).dropLast ++ lower ++
          [(withoutIdleEnd rest).getLast some_kept] ++ idle = rest := by
        rw [above_eq, List.dropLast_append_getLast, rest_eq]
      have whole : path.names = first :: withoutIdleEnd (withoutIdleEnd rest).dropLast ++
          (lower ++ [(withoutIdleEnd rest).getLast some_kept] ++ idle) := by
        rw [names_eq, List.cons_append, ← List.append_assoc, ← List.append_assoc, rest_split]
      have left_over : lower ++ [(withoutIdleEnd rest).getLast some_kept] ++ idle ≠ [] := by simp
      split at parent
      · rename_i none_kept
        split at parent
        · exact .inr (.inl (Option.some.inj parent).symm)
        · rw [none_kept] at whole
          have above_ofNames : above = ofNames [first] := by
            rw [← Option.some.inj parent, ofNames, List.intercalate_singleton]
          rw [above_ofNames]
          exact .inr (.inr ⟨_, left_over, names_ofNames_of_append whole (List.cons_ne_nil _ _)⟩)
      · rw [← Option.some.inj parent]
        exact .inr (.inr ⟨_, left_over, names_ofNames_of_append whole (List.cons_ne_nil _ _)⟩)

/-- A parent that is neither the empty path nor the root has fewer names. -/
theorem length_names_lt_of_parent? {path above : Path} (parent : path.parent? = some above)
    (some_byte : above.bytes ≠ []) (below : above ≠ ⟨[slash]⟩) :
    above.names.length < path.names.length := by
  rcases parent?_eq_some parent with rfl | rfl | ⟨more, some_more, names_eq, -⟩
  · exact absurd rfl some_byte
  · exact absurd rfl below
  · rw [names_eq, List.length_append]
    exact Nat.lt_add_of_pos_right (List.length_pos_of_ne_nil some_more)

/-- A list of names is empty names alone, or its last visible name has names above
it and empty names behind it. -/
theorem visible_cases (names : List Name) :
    (names.reverse.dropWhile (· == []) = [] ∧ ∀ name ∈ names, name = []) ∨
      ∃ above last, names.reverse.dropWhile (· == []) = last :: above ∧ last ≠ [] ∧
        names = above.reverse ++ last :: (names.reverse.takeWhile (· == [])).reverse := by
  have split := List.takeWhile_append_dropWhile (p := (· == [])) (l := names.reverse)
  cases named : names.reverse.dropWhile (· == []) with
  | nil =>
      rw [named, List.append_nil] at split
      refine .inl ⟨rfl, fun name mem => ?_⟩
      rw [← List.mem_reverse, ← split] at mem
      exact eq_of_beq (List.mem_takeWhile_imp (p := (· == [])) mem)
  | cons last above =>
      have head := List.head_dropWhile_not (· == []) (l := names.reverse)
        (by rw [named]; exact List.cons_ne_nil _ _)
      simp only [named, List.head_cons, beq_eq_false_iff_ne] at head
      refine .inr ⟨above, last, rfl, head, ?_⟩
      rw [named] at split
      have reversed := congrArg List.reverse split
      rw [List.reverse_append, List.reverse_cons, List.reverse_reverse, List.append_assoc]
        at reversed
      exact reversed.symm

end Path

namespace FileSystem

theorem put_put (fs : FileSystem) (location : Location) (first second : Entry) :
    (fs.put location first).put location second = fs.put location second := by
  simp [put]

/-! ## Walking through directories -/

/-- Everything above a location is a directory. -/
def Rooted (fs : FileSystem) (location : Location) : Prop :=
  ∀ above below, location = above ++ below → below ≠ [] → fs.find? above = some .directory

variable {fs : FileSystem}

theorem rooted_root (fs : FileSystem) : fs.Rooted [] := by
  intro above below split some_below
  exact absurd (List.append_eq_nil_iff.mp split.symm).2 some_below

/-- The location above a directory is a directory. -/
theorem Rooted.dropLast {location : Location} (rooted : fs.Rooted location) :
    fs.find? location.dropLast = some .directory := by
  by_cases root : location = []
  · rw [root]
    exact find?_root fs
  · exact rooted _ _ (List.dropLast_append_getLast root).symm (List.cons_ne_nil _ _)

theorem Enters.directory {location next : Location} {name : Path.Name}
    (enters : fs.Enters location name next) : fs.find? location = some .directory := by
  cases enters with
  | stay directory => exact directory
  | leave directory => exact directory
  | descend directory => exact directory

theorem Enters.rooted {location next : Location} {name : Path.Name}
    (enters : fs.Enters location name next) (rooted : fs.Rooted location) : fs.Rooted next := by
  cases enters with
  | stay => exact rooted
  | leave directory =>
      intro above below split some_below
      by_cases root : location = []
      · rw [root] at split
        exact absurd (List.append_eq_nil_iff.mp split.symm).2 some_below
      · refine rooted above (below ++ [location.getLast root]) ?_ (by simp)
        rw [← List.append_assoc, ← split, List.dropLast_append_getLast]
  | descend directory =>
      intro above below split some_below
      rw [← List.dropLast_append_getLast some_below, ← List.append_assoc] at split
      have above_eq : location = above ++ below.dropLast := (List.append_inj' split rfl).1
      by_cases last : below.dropLast = []
      · rw [last, List.append_nil] at above_eq
        rw [← above_eq]
        exact directory
      · exact rooted above _ above_eq last

theorem walk_cons_eq_ok_iff {start last : Location} {name : Path.Name} {rest : List Path.Name} :
    fs.walk start (name :: rest) = .ok last ↔
      ∃ next, fs.Enters start name next ∧ fs.walk next rest = .ok last := by
  rw [walk, bind_eq_ok_iff]
  simp only [enter_eq_ok_iff]

theorem walk_rooted {start last : Location} {names : List Path.Name}
    (walked : fs.walk start names = .ok last) (rooted : fs.Rooted start) : fs.Rooted last := by
  induction names generalizing start with
  | nil =>
      cases walked
      exact rooted
  | cons name rest ih =>
      obtain ⟨next, enters, walkedRest⟩ := walk_cons_eq_ok_iff.mp walked
      exact ih walkedRest (enters.rooted rooted)

/-- A walk through some name starts in a directory. -/
theorem directory_of_walk {start last : Location} {names : List Path.Name}
    (walked : fs.walk start names = .ok last) (some_name : names ≠ []) :
    fs.find? start = some .directory := by
  cases names with
  | nil => exact absurd rfl some_name
  | cons name rest =>
      obtain ⟨next, enters, -⟩ := walk_cons_eq_ok_iff.mp walked
      exact enters.directory

/-- Empty names lead nowhere. -/
theorem walk_empty {start last : Location} {names : List Path.Name}
    (walked : fs.walk start names = .ok last) (empty : ∀ name ∈ names, name = []) :
    last = start := by
  induction names generalizing start with
  | nil =>
      cases walked
      rfl
  | cons name rest ih =>
      obtain ⟨isEmpty, emptyRest⟩ := List.forall_mem_cons.mp empty
      obtain ⟨next, enters, walkedRest⟩ := walk_cons_eq_ok_iff.mp walked
      rw [ih walkedRest emptyRest]
      subst isEmpty
      cases enters with
      | stay => rfl
      | leave directory idle => contradiction
      | descend directory idle => contradiction

/-! ## Paths that lead somewhere -/

/-- What a path that leads to a location names: a directory, or a name in a
directory, which is a directory itself if slashes follow the name. -/
theorem destination_of_resolve {path : Path} {location : Location}
    (resolved : fs.resolve path = .ok location) :
    (∃ place, fs.destination path = .ok (place, none, true) ∧
        fs.find? location = some .directory) ∨
      ∃ directory name slashes, fs.destination path = .ok (directory, some name, slashes) ∧
        name.length ≤ maxName ∧ location = directory ++ [name] ∧
        (fs.find? location).isSome = true ∧
        (slashes = true → fs.find? location = some .directory) := by
  obtain ⟨checked, proper, walked⟩ := bind_eq_ok_iff.mp resolved
  have empty : ∀ name ∈ path.names.reverse.takeWhile (· == []), name = [] := by
    intro name mem
    exact eq_of_beq (List.mem_takeWhile_imp (p := (· == [])) mem)
  unfold destination
  rw [proper]
  dsimp only [bind, Except.bind]
  rcases Path.visible_cases path.names with
    ⟨none_named, allEmpty⟩ | ⟨above, last, named, visible, names_eq⟩
  · rw [none_named, walk_empty walked allEmpty]
    exact .inl ⟨[], rfl, find?_root fs⟩
  · rw [named]
    dsimp only
    generalize path.names.reverse.takeWhile (· == []) = slashes at *
    rw [names_eq] at walked
    obtain ⟨directory, walkedAbove, walkedLast⟩ := walk_append_eq_ok_iff.mp walked
    obtain ⟨next, enters, walkedSlashes⟩ := walk_cons_eq_ok_iff.mp walkedLast
    -- Slashes at the end lead nowhere, so that the last name leads to the location.
    have location_eq : location = next :=
      walk_empty walkedSlashes fun name mem => empty name (List.mem_reverse.mp mem)
    subst location_eq
    split
    · rename_i special
      rw [names_eq, walked]
      refine .inl ⟨location, rfl, ?_⟩
      cases enters with
      | stay directory => exact directory
      | leave => exact (walk_rooted walkedAbove (rooted_root fs)).dropLast
      | descend _ idle down =>
          rcases special with rfl | rfl
          · contradiction
          · exact absurd rfl down
    · rename_i named
      rw [not_or] at named
      rw [walkedAbove]
      dsimp only
      rw [enters.directory]
      refine .inr ⟨directory, last, _, rfl, ?_⟩
      have proper : Path.isIdle last = false := by simp [Path.isIdle, visible, named.1]
      cases enters with
      | stay _ idle =>
          rw [proper] at idle
          contradiction
      | leave _ _ up => exact absurd up named.2
      | descend _ _ _ short found =>
          refine ⟨short, rfl, found, fun some_slash => ?_⟩
          apply directory_of_walk walkedSlashes
          rintro none_slash
          rw [List.reverse_eq_nil_iff] at none_slash
          rw [none_slash] at some_slash
          contradiction

/-- Nothing is made where a path leads somewhere. -/
theorem makeDirectory_of_resolve {path : Path} {location : Location}
    (resolved : fs.resolve path = .ok location) :
    fs.makeDirectory path = .error .fileExists := by
  unfold makeDirectory
  rcases destination_of_resolve resolved with ⟨place, placed, -⟩ |
    ⟨directory, name, slashes, placed, short, rfl, found, -⟩
  · rw [placed]
    rfl
  · rw [placed]
    dsimp only [bind, Except.bind]
    rw [if_neg (Nat.not_lt.mpr short), if_pos found]

/-- A path that can be read is written where it was read. -/
theorem target_of_read {path : Path} {content : Bytes} (read : fs.read path = .ok content) :
    ∃ location, fs.resolve path = .ok location ∧ fs.target path = .ok location := by
  obtain ⟨location, resolved, stands⟩ := bind_eq_ok_iff.mp read
  have file : fs.find? location ≠ some .directory := by
    intro directory
    rw [contentAt, directory] at stands
    contradiction
  refine ⟨location, resolved, ?_⟩
  unfold target
  rcases destination_of_resolve resolved with ⟨place, placed, directory⟩ |
    ⟨directory, name, slashes, placed, short, rfl, found, ends⟩
  · exact absurd directory file
  · rw [placed]
    dsimp only [bind, Except.bind]
    cases slashes with
    | true => exact absurd (ends rfl) file
    | false =>
        dsimp only
        rw [if_neg (Nat.not_lt.mpr short)]
        split
        · rename_i directory
          exact absurd directory file
        · rfl

/-! ## Directories above a path -/

theorem isDirectory_eq_true_iff {path : Path} :
    fs.isDirectory path = true ↔
      ∃ location, fs.resolve path = .ok location ∧ fs.find? location = some .directory := by
  unfold isDirectory
  cases fs.resolve path with
  | error fault => simp
  | ok location => simp

/-- A path with no more bytes than a proper one is proper, as long as it has any. -/
theorem check_of_prefix {path above : Path} (proper : check path = .ok ())
    (shorter : above.bytes <+: path.bytes) (some_byte : above.bytes ≠ []) :
    check above = .ok () := by
  unfold check at proper ⊢
  split at proper
  · contradiction
  · rename_i whole
    split at proper
    · contradiction
    · split at proper
      · contradiction
      · rename_i short
        rw [if_neg (fun zero => whole (shorter.mem zero)), if_neg some_byte,
          if_neg (fun long => short (Nat.lt_of_lt_of_le long shorter.length_le))]

theorem isDirectory_root : fs.isDirectory ⟨[Path.slash]⟩ = true := by
  refine isDirectory_eq_true_iff.mpr ⟨[], ?_, find?_root fs⟩
  have entered : fs.walk [] [[], []] = .ok [] :=
    walk_cons_eq_ok_iff.mpr ⟨[], .stay (find?_root fs) rfl,
      walk_cons_eq_ok_iff.mpr ⟨[], .stay (find?_root fs) rfl, rfl⟩⟩
  exact entered

/-- A path leads somewhere only through its parent. -/
theorem isDirectory_parent {path above : Path} {location : Location}
    (resolved : fs.resolve path = .ok location) (parent : path.parent? = some above)
    (some_byte : above.bytes ≠ []) : fs.isDirectory above = true := by
  obtain ⟨checked, proper, walked⟩ := bind_eq_ok_iff.mp resolved
  rcases Path.parent?_eq_some parent with rfl | rfl | ⟨more, some_more, names_eq, shorter⟩
  · exact absurd rfl some_byte
  · exact isDirectory_root
  · rw [names_eq] at walked
    obtain ⟨directory, walkedAbove, walkedMore⟩ := walk_append_eq_ok_iff.mp walked
    refine isDirectory_eq_true_iff.mpr ⟨directory, ?_, directory_of_walk walkedMore some_more⟩
    rw [resolve, check_of_prefix proper shorter some_byte]
    exact walkedAbove

/-- Directories that are there are not made again. -/
theorem makeDirectoriesWithin_of_isDirectory {path : Path} (depth : Nat)
    (there : path.bytes ≠ [] → fs.isDirectory path = true) :
    fs.makeDirectoriesWithin (depth + 1) path = (fs, .ok ()) := by
  unfold makeDirectoriesWithin
  by_cases empty : path.bytes = []
  · rw [if_pos empty]
  · rw [if_neg empty]
    have directory := there empty
    obtain ⟨location, resolved, -⟩ := isDirectory_eq_true_iff.mp directory
    rw [makeDirectory_of_resolve resolved]
    dsimp only
    rw [if_pos directory]

/-- A path whose parent is no directory leads to no directory. -/
theorem isDirectory_eq_false_of_parent {path above : Path} (parent : path.parent? = some above)
    (some_byte : above.bytes ≠ []) (missing : fs.isDirectory above = false) :
    fs.isDirectory path = false := by
  rw [← Bool.not_eq_true] at missing ⊢
  intro directory
  obtain ⟨location, resolved, -⟩ := isDirectory_eq_true_iff.mp directory
  exact missing (isDirectory_parent resolved parent some_byte)

/-- Directories that could not be made are not there. -/
theorem isDirectory_of_makeDirectoriesWithin_error {depth : Nat} {after : FileSystem}
    {path : Path} {fault : Fault} (deep : path.names.length < depth)
    (failed : fs.makeDirectoriesWithin depth path = (after, .error fault)) :
    after.isDirectory path = false := by
  induction depth generalizing fs after path fault with
  | zero => exact absurd deep (Nat.not_lt_zero _)
  | succ depth ih =>
      unfold makeDirectoriesWithin at failed
      split at failed
      · cases failed
      · split at failed
        · cases failed
        · rename_i missing
          split at failed
          · cases failed
            rw [← Bool.not_eq_true]
            intro directory
            obtain ⟨location, resolved, -⟩ := isDirectory_eq_true_iff.mp directory
            rw [makeDirectory_of_resolve resolved] at missing
            cases missing
          · rename_i above parent
            split at failed
            · rename_i failedAbove
              cases failed
              have some_depth : 0 < depth :=
                Nat.lt_of_lt_of_le (List.length_pos_of_ne_nil path.names_ne_nil)
                  (Nat.le_of_lt_succ deep)
              obtain ⟨depth, rfl⟩ := Nat.exists_eq_succ_of_ne_zero (Nat.ne_of_gt some_depth)
              -- The parent was not there, or it would have been left as it is.
              have unmade : ¬(above.bytes ≠ [] → fs.isDirectory above = true) := by
                intro there
                rw [makeDirectoriesWithin_of_isDirectory depth there] at failedAbove
                cases failedAbove
              obtain ⟨some_byte, missingAbove⟩ := Classical.not_imp.mp unmade
              have below : above ≠ ⟨[Path.slash]⟩ := by
                rintro rfl
                exact missingAbove isDirectory_root
              have fewer := Path.length_names_lt_of_parent? parent some_byte below
              exact isDirectory_eq_false_of_parent parent some_byte
                (ih (Nat.lt_of_lt_of_le fewer (Nat.le_of_lt_succ deep)) failedAbove)
            · split at failed
              · cases failed
              · split at failed
                · cases failed
                · rename_i missingStill
                  cases failed
                  exact Bool.eq_false_iff.mpr missingStill
        · split at failed
          · cases failed
          · rename_i missing
            cases failed
            exact Bool.eq_false_iff.mpr missing

/-- A path that can be read can be written, and nothing but its content changes. -/
theorem writeWithDirectories_of_read {path : Path} {content : Bytes}
    (read : fs.read path = .ok content) :
    ∃ location, fs.resolve path = .ok location ∧
      ∀ other, fs.writeWithDirectories path other = (fs.put location (.file other), .ok ()) := by
  obtain ⟨location, resolved, target⟩ := target_of_read read
  refine ⟨location, resolved, fun other => ?_⟩
  have written : fs.write path other = .ok (fs.put location (.file other)) := by
    rw [write, target]
    rfl
  unfold writeWithDirectories
  cases parent : path.parent? with
  | none => simp only [written]
  | some above =>
      simp only [makeDirectories,
        makeDirectoriesWithin_of_isDirectory _ (isDirectory_parent resolved parent), written]

/-- A write puts a file into a tree in which the missing directories were made,
whatever its content is, and the path leads to it. -/
theorem exists_of_writeWithDirectories {after : FileSystem} {path : Path} {content : Bytes}
    (written : fs.writeWithDirectories path content = (after, .ok ())) :
    ∃ base : FileSystem, ∃ location, after = base.put location (.file content) ∧
      after.resolve path = .ok location ∧
        ∀ other, fs.writeWithDirectories path other =
          (base.put location (.file other), .ok ()) := by
  unfold writeWithDirectories at written ⊢
  dsimp only at written ⊢
  split at written
  · cases written
  · split at written
    · rename_i files wrote
      cases written
      obtain ⟨location, after_eq, -, resolved, others⟩ := exists_of_write wrote
      exact ⟨_, location, after_eq, resolved, fun other => by rw [others]⟩
    · cases written

/-- A write after a write leaves nothing of the first one. -/
theorem writeWithDirectories_writeWithDirectories {after : FileSystem} {path : Path}
    {content : Bytes} (written : fs.writeWithDirectories path content = (after, .ok ()))
    (other : Bytes) :
    after.writeWithDirectories path other = fs.writeWithDirectories path other := by
  obtain ⟨location, resolved, again⟩ :=
    writeWithDirectories_of_read (read_of_writeWithDirectories written)
  obtain ⟨base, place, after_eq, leads, first⟩ := exists_of_writeWithDirectories written
  cases Except.ok.inj (resolved.symm.trans leads)
  rw [again, first, after_eq, put_put]

/-- A refused write failed at the directories above its path or at the file. -/
theorem refused_cases {after : FileSystem} {path : Path} {content : Bytes} {fault : Fault}
    (refused : fs.writeWithDirectories path content = (after, .error fault)) :
    (∃ above, path.parent? = some above ∧
        fs.makeDirectories above = (after, .error fault)) ∨
      after.write path content = .error fault := by
  unfold writeWithDirectories at refused
  cases parent : path.parent? with
  | none =>
      rw [parent] at refused
      dsimp only at refused
      split at refused
      · cases refused
      · rename_i unwritten
        cases refused
        exact .inr unwritten
  | some above =>
      rw [parent] at refused
      dsimp only at refused
      split at refused
      · rename_i unmade
        cases refused
        exact .inl ⟨above, rfl, Prod.ext rfl unmade⟩
      · split at refused
        · cases refused
        · rename_i unwritten
          cases refused
          exact .inr unwritten

/-- A path to which a write was refused cannot be read after it. -/
theorem read_ne_ok_of_refused {after : FileSystem} {path : Path} {content : Bytes} {fault : Fault}
    (refused : fs.writeWithDirectories path content = (after, .error fault)) (other : Bytes) :
    after.read path ≠ .ok other := by
  intro read
  obtain ⟨location, resolved, target⟩ := target_of_read read
  rcases refused_cases refused with ⟨above, parent, unmade⟩ | unwritten
  · have some_byte : above.bytes ≠ [] := by
      intro empty
      rw [makeDirectories,
        makeDirectoriesWithin_of_isDirectory _ fun some_byte => absurd empty some_byte] at unmade
      cases unmade
    have missing := isDirectory_of_makeDirectoriesWithin_error (Nat.lt_succ_self _) unmade
    rw [isDirectory_parent resolved parent some_byte] at missing
    contradiction
  · rw [write, target] at unwritten
    cases unwritten

end FileSystem

end Magnetometer
