import FileQuery.Listing.Basic
import FileQuery.Proofs.Outcome

/-!
# Paths in the home directory

A path that is a tilde, or starts with a tilde and a slash, stands for a path in the home directory.
All slashes after the tilde go, so that what is left is relative and stays below the home directory
when it is joined to it. Any other path is taken as it is written and needs no home directory.

`Candidate` says which path is meant, and `Resolution` what looking for it gives; both mention the
written path only, and not how it is taken apart.
-/

namespace FileQuery

/-- A path that stands for one in the home directory: a tilde, alone or before a slash. -/
def IsHomeForm (path : List Char) : Prop :=
  path = ['~'] ∨ ['~', '/'] <+: path

/-- What stands between a directory and a relative path: a slash, if the directory is not empty and
has none at its end. -/
def slashBetween (directory : List Char) : List Char :=
  if directory ≠ [] ∧ directory.getLast? ≠ some '/' then ['/'] else []

/-- A path from a directory: an absolute path is taken instead of the directory, and a relative one
is looked for in it. -/
def pathFrom (directory path : List Char) : List Char :=
  if path.head? = some '/' then path else directory ++ slashBetween directory ++ path

/-- The path without its tilde and without the slashes that follow the tilde. -/
def IsAfterTilde (path relative : List Char) : Prop :=
  ∃ slashes, path = '~' :: (slashes ++ relative) ∧ (∀ c ∈ slashes, c = '/') ∧
    relative.head? ≠ some '/'

/-- The path that a written path means, with some home directory or with none. -/
inductive Candidate : Option String → String → String → Prop where
  | asWritten {home : Option String} {raw : String} (other : ¬IsHomeForm raw.toList) :
      Candidate home raw raw
  | inHome {home raw : String} {relative : List Char} (form : IsHomeForm raw.toList)
      (after : IsAfterTilde raw.toList relative) :
      Candidate (some home) raw
        (String.ofList (home.toList ++ slashBetween home.toList ++ relative))

/-- What looking for a written path gives. -/
inductive Resolution (files : FileSystem) :
    Option String → String → Except ListingError String → Prop where
  | homeless {raw : String} (form : IsHomeForm raw.toList) :
      Resolution files none raw (.error .homeUnavailable)
  | found {home : Option String} {raw path : String} {node : Node}
      (candidate : Candidate home raw path)
      (present : files.stat (RawPath.ofString path) = .ok node) :
      Resolution files home raw (.ok path)
  | missing {home : Option String} {raw path : String} (candidate : Candidate home raw path)
      (absent : ∀ node, files.stat (RawPath.ofString path) ≠ .ok node) :
      Resolution files home raw (.error (.pathNotFound path))

section AfterTilde

variable {path relative relative' : List Char}

theorem head?_dropWhile_slash (path : List Char) :
    (path.dropWhile (· == '/')).head? ≠ some '/' := by
  intro slash
  have kept := List.head?_dropWhile_not (· == '/') path
  simp [slash] at kept

theorem afterTilde?_eq_none_iff : afterTilde? path = none ↔ ¬IsHomeForm path := by
  unfold afterTilde? IsHomeForm
  split
  · simp
  · simp
  · rename_i notAlone notBefore
    simp only [true_iff, not_or]
    refine ⟨notAlone, ?_⟩
    rintro ⟨rest, rfl⟩
    exact notBefore rest rfl

/-- The slashes after a tilde end in one place. -/
theorem IsAfterTilde.unique (after : IsAfterTilde path relative)
    (after' : IsAfterTilde path relative') : relative = relative' := by
  have cut : ∀ {relative}, IsAfterTilde path relative →
      relative = path.tail.dropWhile (· == '/') := by
    rintro relative ⟨slashes, rfl, allSlashes, notSlash⟩
    have skipped : ∀ c ∈ slashes, (c == '/') = true := by
      intro c member
      rw [allSlashes c member]
      rfl
    rw [List.tail_cons, List.dropWhile_append_of_pos skipped]
    cases relative with
    | nil => rfl
    | cons c rest =>
        have other : (c == '/') = false := beq_false_of_ne fun same => notSlash (by rw [same]; rfl)
        rw [List.dropWhile_cons, other]
        rfl
  rw [cut after, cut after']

theorem isAfterTilde_of_afterTilde?_eq_some (found : afterTilde? path = some relative) :
    IsAfterTilde path relative := by
  unfold afterTilde? at found
  split at found
  · cases found
    exact ⟨[], rfl, by simp, by simp⟩
  · rename_i rest
    cases found
    refine ⟨'/' :: rest.takeWhile (· == '/'), ?_, ?_, head?_dropWhile_slash rest⟩
    · rw [List.cons_append, List.takeWhile_append_dropWhile]
    · intro c member
      rcases List.mem_cons.1 member with same | later
      · exact same
      · have slash : (c == '/') = true :=
          List.mem_takeWhile_imp (p := fun other => other == '/') later
        exact eq_of_beq slash
  · cases found

end AfterTilde

section Candidates

variable {home : Option String} {raw path : String}

theorem joinText_eq (directory relative : List Char) :
    joinText directory relative = directory ++ slashBetween directory ++ relative := by
  unfold joinText slashBetween
  by_cases bare : directory = [] ∨ directory.getLast? = some '/'
  · rw [if_pos bare, if_neg]
    rwa [← not_or, not_not]
  · rw [if_neg bare, if_pos]
    rwa [← not_or]

theorem expandHome_eq_ok_iff : expandHome home raw = .ok path ↔ Candidate home raw path := by
  constructor
  · intro expanded
    unfold expandHome at expanded
    split at expanded
    · rename_i other
      cases expanded
      exact .asWritten (afterTilde?_eq_none_iff.1 other)
    · rename_i relative found
      split at expanded
      · cases expanded
      · cases expanded
        rw [joinText_eq]
        apply Candidate.inHome
        · by_contra other
          rw [afterTilde?_eq_none_iff.2 other] at found
          cases found
        · exact isAfterTilde_of_afterTilde?_eq_some found
  · intro candidate
    cases candidate with
    | asWritten other => rw [expandHome, afterTilde?_eq_none_iff.2 other]
    | @inHome home _ relative form after =>
        cases found : afterTilde? raw.toList with
        | none => exact absurd form (afterTilde?_eq_none_iff.1 found)
        | some relative' =>
            rw [after.unique (isAfterTilde_of_afterTilde?_eq_some found), ← joinText_eq,
              expandHome, found]

example : expandHome (some "home") "~//etc" = .ok "home/etc" := by cbv

theorem expandHome_eq_error_iff {error : ListingError} :
    expandHome home raw = .error error ↔
      IsHomeForm raw.toList ∧ home = none ∧ error = .homeUnavailable := by
  rw [← not_not (a := IsHomeForm raw.toList), ← afterTilde?_eq_none_iff, expandHome]
  cases afterTilde? raw.toList with
  | none => simp
  | some relative =>
      cases home with
      | none => simp [eq_comm]
      | some directory => simp

end Candidates

section Resolution

variable {files : FileSystem} {home : Option String} {raw : String}

theorem pathExists_iff {path : RawPath} :
    files.pathExists path = true ↔ ∃ node, files.stat path = .ok node := by
  rw [FileSystem.pathExists]
  cases files.stat path with
  | ok node => simp [Except.isOk, Except.toBool]
  | error cause => simp [Except.isOk, Except.toBool]

theorem resolution_resolvePath (files : FileSystem) (home : Option String) (raw : String) :
    Resolution files home raw (resolvePath files home raw) := by
  unfold resolvePath
  cases expanded : expandHome home raw with
  | error error =>
      rcases expandHome_eq_error_iff.1 expanded with ⟨form, rfl, rfl⟩
      exact .homeless form
  | ok path =>
      have candidate := expandHome_eq_ok_iff.1 expanded
      rw [Outcome.ok_bind]
      split
      · rename_i present
        rcases pathExists_iff.1 present with ⟨node, status⟩
        exact .found candidate status
      · rename_i absent
        apply Resolution.missing candidate
        intro node status
        exact absent (pathExists_iff.2 ⟨node, status⟩)

theorem Resolution.eq_resolvePath {outcome : Except ListingError String}
    (resolution : Resolution files home raw outcome) : resolvePath files home raw = outcome := by
  cases resolution with
  | homeless form =>
      rw [resolvePath, expandHome_eq_error_iff.2 ⟨form, rfl, rfl⟩, Outcome.error_bind]
  | found candidate present =>
      rw [resolvePath, expandHome_eq_ok_iff.2 candidate, Outcome.ok_bind,
        if_pos (pathExists_iff.2 ⟨_, present⟩)]
  | missing candidate absent =>
      rw [resolvePath, expandHome_eq_ok_iff.2 candidate, Outcome.ok_bind, if_neg]
      rw [pathExists_iff]
      rintro ⟨node, present⟩
      exact absent node present

end Resolution

/-- How a written path is resolved. -/
structure ResolvesFromHome (files : FileSystem) (home : Option String) (raw : String) : Prop where
  outcome : ∀ outcome, resolvePath files home raw = outcome ↔ Resolution files home raw outcome
  candidate : (IsHomeForm raw.toList ∧ home = none) ∨ ∃! candidate, Candidate home raw candidate
  /-- A path in the home directory starts with the home directory. It is what is found from there
  under the rest of the written path, since this is never an absolute path. -/
  inHome : ∀ directory candidate, IsHomeForm raw.toList → Candidate (some directory) raw candidate →
    directory.toList <+: candidate.toList ∧
      (candidate.toList.head? = some '/' ↔ directory.toList.head? = some '/') ∧
      ∃ relative, IsAfterTilde raw.toList relative ∧
        candidate.toList = pathFrom directory.toList relative

theorem Candidate.exists_relative {directory raw candidate : String}
    (form : IsHomeForm raw.toList) (means : Candidate (some directory) raw candidate) :
    ∃ relative, IsAfterTilde raw.toList relative ∧
      candidate.toList = directory.toList ++ slashBetween directory.toList ++ relative := by
  cases means with
  | asWritten other => exact absurd form other
  | inHome _ after => exact ⟨_, after, String.toList_ofList⟩

/-- Every written path is resolved as its form says. -/
theorem resolvesFromHome (files : FileSystem) (home : Option String) (raw : String) :
    ResolvesFromHome files home raw where
  outcome := by
    intro outcome
    constructor
    · rintro rfl
      exact resolution_resolvePath files home raw
    · exact Resolution.eq_resolvePath
  candidate := by
    simp only [← expandHome_eq_ok_iff]
    cases expanded : expandHome home raw with
    | error error =>
        rcases expandHome_eq_error_iff.1 expanded with ⟨form, homeless, -⟩
        exact .inl ⟨form, homeless⟩
    | ok path => simp
  inHome := by
    intro directory candidate form means
    rcases means.exists_relative form with ⟨relative, after, text⟩
    have notAbsolute : relative.head? ≠ some '/' := by
      rcases after with ⟨slashes, -, -, notSlash⟩
      exact notSlash
    refine ⟨?_, ?_, relative, after, ?_⟩
    · rw [text, List.append_assoc]
      exact List.prefix_append _ _
    · rw [text]
      by_cases empty : directory.toList = []
      · simp [empty, slashBetween, notAbsolute]
      · rw [List.append_assoc, List.head?_append_of_ne_nil _ empty]
    · rw [text, pathFrom, if_neg notAbsolute]

end FileQuery
