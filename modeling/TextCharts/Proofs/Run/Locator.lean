import Mathlib.Data.List.Basic
import TextCharts.Proofs.Url.Join
import TextCharts.Run.Locator

namespace TextCharts.Place

open Url (Formed Rooted)

variable {base url : Url} {locator : String} {place : Place}

def IsWeb (url : Url) : Prop :=
  url.scheme = "http" ∨ url.scheme = "https"

-- A URL of the web stands for itself, and any other for the file that its path names.
inductive Denotes (url : Url) : Place → Prop
  | remote (web : IsWeb url) : Denotes url (.remote url)
  | file {name : String} (other : ¬IsWeb url) (named : url.fileName? = some name) :
    Denotes url (.file name)

-- A place in the base, which does not depend on the directory that the program runs in.
structure Follows (base : Url) (locator : String) (place : Place) : Prop where
  joined : ∃ url, base.join locator = .ok url ∧ Denotes url place
  rooted : ∀ name, place = .file name → name.toList.head? = some '/'

theorem testsWeb_iff :
    (decide (url.scheme = "http") || decide (url.scheme = "https")) = true ↔ IsWeb url := by
  rw [Bool.or_eq_true, decide_eq_true_eq, decide_eq_true_eq, IsWeb]

theorem ofUrl_eq_ok (h : ofUrl locator url = .ok place) :
    Denotes url place ∧ (IsWeb url ∨ url.scheme = "file") ∨
      url.scheme.length = 1 ∧ place = .file locator := by
  unfold ofUrl at h
  split at h
  case isTrue web =>
    cases h
    exact .inl ⟨.remote (testsWeb_iff.mp web), .inl (testsWeb_iff.mp web)⟩
  case isFalse other =>
    split at h
    case isTrue file =>
      split at h
      case h_1 named =>
        cases h
        exact .inl ⟨.file (mt testsWeb_iff.mpr other) named, .inr file⟩
      case h_2 => contradiction
    case isFalse =>
      split at h
      case isTrue letter =>
        cases h
        exact .inr ⟨letter, rfl⟩
      case isFalse => contradiction

theorem ofUrl_of_denotes (denotes : Denotes url place)
    (known : IsWeb url ∨ url.scheme = "file") : ofUrl locator url = .ok place := by
  cases denotes with
  | remote web       => rw [ofUrl, if_pos (testsWeb_iff.mpr web)]
  | file other named =>
    rw [ofUrl, if_neg (mt testsWeb_iff.mp other), if_pos (known.resolve_left other), named]

theorem ofUrl_of_letter (letter : url.scheme.length = 1) :
    ofUrl locator url = .ok (.file locator) := by
  have long (scheme : String) (h : scheme.length ≠ 1) : url.scheme ≠ scheme :=
    fun same => h (same ▸ letter)
  have other : ¬IsWeb url := not_or.mpr ⟨long _ (by decide), long _ (by decide)⟩
  rw [ofUrl, if_neg (mt testsWeb_iff.mp other), if_neg (long _ (by decide)), if_pos letter]

theorem resolve_absolute (absolute : Url.parse locator = .ok url) (base? : Option Url) :
    resolve base? locator = ofUrl locator url := by
  unfold resolve
  rw [absolute]

theorem resolve_joined (relative : Url.parse locator = .error .noBase)
    (joined : base.join locator = .ok url) : resolve (some base) locator = ofUrl locator url := by
  unfold resolve
  rw [relative]
  dsimp only
  rw [joined]

theorem resolve_eq_ok (relative : ∀ url, Url.parse locator ≠ .ok url)
    (h : resolve (some base) locator = .ok place) : Url.parse locator = .error .noBase ∧
      ∃ url, base.join locator = .ok url ∧ ofUrl locator url = .ok place := by
  unfold resolve at h
  split at h
  case h_1 absolute => exact absurd absolute (relative _)
  case h_2 => contradiction
  case h_3 bare based =>
    cases based
    split at h
    case h_1 joined => exact ⟨bare, _, joined, h⟩
    case h_2 => contradiction
  case h_4 => contradiction

theorem Denotes.rooted {name : String} (denotes : Denotes url (.file name))
    (formed : Formed url) (read : IsWeb url ∨ url.scheme = "file") :
    name.toList.head? = some '/' := by
  cases denotes with
  | file other named =>
    exact (formed.isFile (read.resolve_left other)).rooted.head_fileName? named

theorem isWeb_join (joined : base.join locator = .ok url) : IsWeb url ↔ IsWeb base := by
  unfold IsWeb
  rw [Url.join_scheme joined]

theorem follows_of_resolve (formed : Formed base) (relative : ∀ url, Url.parse locator ≠ .ok url)
    (long : base.scheme.length ≠ 1) (resolved : resolve (some base) locator = .ok place) :
    (IsWeb base ∨ base.scheme = "file") ∧ Follows base locator place := by
  have ⟨_, url, joined, read⟩ := resolve_eq_ok relative resolved
  have scheme := Url.join_scheme joined
  rcases ofUrl_eq_ok read with ⟨denotes, known⟩ | ⟨letter, _⟩
  case inl =>
    have known' : IsWeb base ∨ base.scheme = "file" := by rwa [isWeb_join joined, scheme] at known
    refine ⟨known', ⟨url, joined, denotes⟩, ?_⟩
    rintro name rfl
    exact denotes.rooted (formed.join joined) known
  case inr => exact absurd (scheme ▸ letter) long

theorem resolve_of_follows (relative : Url.parse locator = .error .noBase)
    (known : IsWeb base ∨ base.scheme = "file") (follows : Follows base locator place) :
    resolve (some base) locator = .ok place := by
  have ⟨url, joined, denotes⟩ := follows.joined
  rw [resolve_joined relative joined]
  refine ofUrl_of_denotes denotes ?_
  rwa [isWeb_join joined, Url.join_scheme joined]

-- What is joined to a base has its scheme, so that a drive is told by the base alone. Any other
-- base that can be read from is followed.
theorem resolve_follows (formed : Formed base) (locator : String) :
    (∀ url, Url.parse locator = .ok url → resolve (some base) locator = resolve none locator) ∧
      ((∀ url, Url.parse locator ≠ .ok url) → base.scheme.length ≠ 1 →
        ∀ place, resolve (some base) locator = .ok place ↔ Url.parse locator = .error .noBase ∧
          (IsWeb base ∨ base.scheme = "file") ∧ Follows base locator place) ∧
      (Url.parse locator = .error .noBase → base.scheme.length = 1 →
        ∀ url, base.join locator = .ok url →
          resolve (some base) locator = .ok (.file locator)) := by
  refine ⟨?absolute, ?relative, ?drive⟩
  case absolute =>
    intro url absolute
    rw [resolve_absolute absolute, resolve_absolute absolute]
  case relative =>
    intro relative long place
    constructor
    case mp  =>
      intro resolved
      exact ⟨(resolve_eq_ok relative resolved).1, follows_of_resolve formed relative long resolved⟩
    case mpr =>
      intro ⟨bare, known, follows⟩
      exact resolve_of_follows bare known follows
  case drive =>
    intro relative letter url joined
    rw [resolve_joined relative joined]
    exact ofUrl_of_letter ((Url.join_scheme joined).symm ▸ letter)

-- A page of the web, and a file beside it.
def report : Url where
  scheme := "https"
  authority := some { host := .name "example.org" }
  path := .segments ["reports", "index.html"]

def quarter : Url :=
  { report with path := .segments ["reports", "data", "q1.csv"] }

theorem report_follows : Url.parse "https://example.org/reports/index.html" = .ok report ∧
    Url.parse "data/q1.csv" = .error .noBase ∧ report.scheme.length ≠ 1 ∧
      resolve (some report) "data/q1.csv" = .ok (.remote quarter) ∧
      Follows report "data/q1.csv" (.remote quarter) := by
  have read : Url.parse "https://example.org/reports/index.html" = .ok report := by
    decide +kernel
  have relative : Url.parse "data/q1.csv" = .error .noBase := rfl
  have long : report.scheme.length ≠ 1 := by decide
  have resolved : resolve (some report) "data/q1.csv" = .ok (.remote quarter) := rfl
  have ⟨_, follows, _⟩ := resolve_follows (.parse read) "data/q1.csv"
  have none : ∀ url, Url.parse "data/q1.csv" ≠ .ok url := fun _ found => nomatch relative ▸ found
  exact ⟨read, relative, long, resolved, ((follows none long _).mp resolved).2.2⟩

-- The directory `x` of a drive, whose files are looked for where the program runs.
def drive : Url where
  scheme := "c"
  path := .segments ["x", ""]

def driveData : Url :=
  { drive with path := .segments ["x", "data.csv"] }

theorem drive_forgotten : Url.parse "c:/x/" = .ok drive ∧
    Url.parse "data.csv" = .error .noBase ∧ drive.join "data.csv" = .ok driveData ∧
      Denotes driveData (.file "/x/data.csv") ∧
      resolve (some drive) "data.csv" = .ok (.file "data.csv") ∧
      ¬Follows drive "data.csv" (.file "data.csv") := by
  have named : driveData.fileName? = some "/x/data.csv" := by decide +kernel
  refine ⟨rfl, rfl, rfl, .file (by unfold IsWeb; decide) named, rfl, fun follows => ?_⟩
  exact absurd (follows.rooted "data.csv" rfl) (by decide)

end TextCharts.Place
