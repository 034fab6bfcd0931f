import Mathlib.Tactic.SplitIfs
import TextCharts.Proofs.Steps
import TextCharts.Url.Parse

namespace TextCharts.Url

variable {u base joined : Url} {scheme text : String} {chars : List Char} {directory : List String}

def Rooted (u : Url) : Prop :=
  ∃ first rest, u.path = .segments (first :: rest)

-- The URLs there are: what is read from a text, on its own or against another one, and directories.
inductive Formed : Url → Prop
  | parse {text : String} {u : Url} (read : parse text = .ok u) : Formed u
  | directory (names : List String) : Formed (ofDirectory names)
  | join {base u : Url} {text : String} (formed : Formed base) (read : base.join text = .ok u) :
    Formed u

theorem kind_eq_file_iff : kind scheme = .file ↔ scheme = "file" := by
  unfold kind
  split_ifs <;> simp_all

theorem splitBy_ne_nil (cut : Char → Bool) (text : List Char) : Text.splitBy cut text ≠ [] := by
  fun_cases Text.splitBy cut text <;> exact List.cons_ne_nil _ _

theorem walk_ne_nil (kind : Kind) {texts : List (List Char)} (some : texts ≠ []) :
    ∀ done, walk kind done texts ≠ [] := by
  induction texts with
  | nil            => contradiction
  | cons text rest hi =>
    intro done
    unfold walk
    by_cases last : rest = []
    case pos =>
      subst last
      simp only [walk, List.isEmpty_nil, if_true]
      split_ifs <;> exact List.concat_ne_nil _ _
    case neg =>
      dsimp only
      split_ifs <;> exact hi last _

theorem dropEmpty_ne_nil {segments : List String} (some : segments ≠ []) :
    dropEmpty segments ≠ [] := by
  fun_induction dropEmpty segments
  case case1 hi => exact hi (List.cons_ne_nil _ _)
  case case2    => exact some

theorem finish_rooted (kind : Kind) {segments : List String} (some : segments ≠ []) :
    ∃ first rest, finish kind segments = .segments (first :: rest) := by
  have left : (if kind = .file then dropEmpty segments else segments) ≠ [] := by
    split
    · exact dropEmpty_ne_nil some
    · exact some
  have ⟨first, rest, eq⟩ := List.exists_cons_of_ne_nil left
  exact ⟨first, rest, by rw [finish, eq]⟩

theorem withPath_scheme : (u.withPath directory chars).scheme = u.scheme :=
  rfl

theorem withPath_rooted (u : Url) (directory : List String) (chars : List Char) :
    (u.withPath directory chars).Rooted :=
  finish_rooted _ (walk_ne_nil _ (splitBy_ne_nil _ _) _)

theorem withRootedPath_scheme : (u.withRootedPath chars).scheme = u.scheme := by
  unfold withRootedPath
  split <;> split_ifs <;> rfl

theorem withRootedPath_rooted (file : u.scheme = "file") : (u.withRootedPath chars).Rooted := by
  have other : kind u.scheme ≠ .other := by rw [kind_eq_file_iff.mpr file]; decide
  unfold withRootedPath
  split <;> split_ifs <;> first | contradiction | exact withPath_rooted ..

theorem afterSlashes_scheme (h : afterSlashes scheme chars = .ok u) : u.scheme = scheme := by
  unfold afterSlashes at h
  simp only at h
  split at h
  · obtain ⟨_, thrown, _⟩ := bind_eq_ok.mp h
    contradiction
  · obtain ⟨host, _, h⟩ := bind_eq_ok.mp h
    split at h
    · obtain ⟨_, thrown, _⟩ := bind_eq_ok.mp h
      contradiction
    · cases h
      exact withRootedPath_scheme

theorem dropHost_scheme : (dropHost u).scheme = u.scheme := by
  unfold dropHost
  split
  · split <;> rfl
  · rfl

theorem dropHost_path : (dropHost u).path = u.path := by
  unfold dropHost
  split
  · split <;> rfl
  · rfl

-- The URL of a file has a path that begins with a slash.
structure IsFile (u : Url) : Prop where
  scheme : u.scheme = "file"
  rooted : u.Rooted

theorem fileUrl_withPath_isFile (host : Host) (directory : List String) (chars : List Char) :
    IsFile ((fileUrl host).withPath directory chars) :=
  ⟨rfl, withPath_rooted ..⟩

theorem rooted_isFile (from? : Option Url) (chars : List Char) :
    IsFile (parseFile.rooted from? chars) := by
  refine ⟨?_, withPath_rooted ..⟩
  unfold parseFile.rooted
  rw [withPath_scheme]
  split
  · rfl
  · split_ifs
    · rfl
    · split
      · split <;> rfl
      · rfl

theorem parseFile_isFile {from? : Option Url} (h : parseFile from? chars = .ok u) : IsFile u := by
  unfold parseFile at h
  split at h
  · split_ifs at h
    · split at h
      · split_ifs at h
        · obtain ⟨host, _, h⟩ := bind_eq_ok.mp h
          cases h
          refine ⟨dropHost_scheme.trans withRootedPath_scheme, ?_⟩
          rw [Rooted, dropHost_path]
          exact withRootedPath_rooted rfl
        · cases h
          exact rooted_isFile ..
      · cases h
        exact rooted_isFile ..
    · cases h
      exact fileUrl_withPath_isFile ..
  · cases h
    exact fileUrl_withPath_isFile ..

theorem joinDirectory_scheme {segments : List String} :
    (joinDirectory base segments chars).scheme = base.scheme := by
  unfold joinDirectory
  split
  case isTrue drive =>
    rw [Bool.and_eq_true, decide_eq_true_eq, kind_eq_file_iff] at drive
    exact drive.1.symm
  case isFalse => rfl

theorem joinAuthority_scheme (h : joinAuthority base chars = .ok u) : u.scheme = base.scheme := by
  unfold joinAuthority at h
  split at h <;> exact afterSlashes_scheme h

theorem joinDirectory_rooted {segments : List String} :
    (joinDirectory base segments chars).Rooted := by
  unfold joinDirectory
  split <;> exact withPath_rooted ..

theorem join_scheme (h : base.join text = .ok u) : u.scheme = base.scheme := by
  unfold join at h
  split at h
  · cases h
    rfl
  · contradiction
  · cases h
    rfl
  · cases h
    rfl
  · split_ifs at h with _ file
    · exact (parseFile_isFile h).scheme.trans (kind_eq_file_iff.mp file).symm
    · split at h
      · split_ifs at h
        · exact joinAuthority_scheme h
        · cases h
          rfl
      · cases h
        rfl
    · cases h
      exact joinDirectory_scheme

theorem join_isFile (file : IsFile base) (h : base.join text = .ok u) : IsFile u := by
  refine ⟨(join_scheme h).trans file.scheme, ?_⟩
  unfold join at h
  split at h
  · cases h
    exact file.rooted
  · contradiction
  · cases h
    exact file.rooted
  · cases h
    exact file.rooted
  · rw [if_pos (kind_eq_file_iff.mpr file.scheme)] at h
    split_ifs at h
    · exact (parseFile_isFile h).rooted
    · cases h
      exact joinDirectory_rooted

theorem parse_isFile (h : parse text = .ok u) (file : u.scheme = "file") : IsFile u := by
  have other {scheme : String} (apart : kind scheme ≠ .file) : u.scheme ≠ scheme :=
    fun same => apart (kind_eq_file_iff.mpr (same.symm.trans file))
  unfold parse at h
  split at h
  case h_1 => contradiction
  case h_2 scheme rest _ =>
    cases sort : kind scheme <;> rw [sort] at h
    case file    => exact parseFile_isFile h
    case special => exact absurd (afterSlashes_scheme h) (other (by rw [sort]; decide))
    case other   =>
      refine absurd ?_ (other (by rw [sort]; decide) : u.scheme ≠ scheme)
      dsimp only at h
      split at h
      · exact afterSlashes_scheme h
      · cases h
        rfl
      · cases h
        rfl

theorem ofDirectory_isFile (names : List String) : IsFile (ofDirectory names) := by
  refine ⟨rfl, ?_⟩
  have ⟨first, rest, eq⟩ := List.exists_cons_of_ne_nil (List.concat_ne_nil ""
    (names.map fun name => String.ofList (encode inSegmentSet name.toList)))
  exact ⟨first, rest, by rw [ofDirectory, eq]⟩

-- A file keeps its slash however its URL is put together.
theorem Formed.isFile (formed : Formed u) (file : u.scheme = "file") : IsFile u := by
  induction formed with
  | parse read         => exact parse_isFile read file
  | directory names    => exact ofDirectory_isFile names
  | join formed read hi => exact join_isFile (hi ((join_scheme read).symm.trans file)) read

theorem Rooted.head_fileName? {name : String} (rooted : u.Rooted) (h : u.fileName? = some name) :
    name.toList.head? = some '/' := by
  have ⟨first, rest, eq⟩ := rooted
  let chars := (first :: rest).flatMap fun (segment : String) => '/' :: decodeText segment.toList
  have begins (isLocal endsInDrive : Bool) (h : (if isLocal then
      some (String.ofList (if endsInDrive then chars ++ ['/'] else chars)) else none) = some name) :
      name.toList.head? = some '/' := by
    split at h
    · cases h
      rw [String.toList_ofList]
      split <;> rfl
    · contradiction
  unfold fileName? at h
  rw [eq] at h
  exact begins _ _ h

end TextCharts.Url
