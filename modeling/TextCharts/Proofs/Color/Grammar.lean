import TextCharts.Color
import TextCharts.Proofs.Text.Digit
import TextCharts.Proofs.Text.Trim

namespace TextCharts.Color

open Text (StandsFor Writes WritesSigned)

variable {text red green blue : List Char} {name : String} {color : Color}
variable {Pair Pair' : List Char → ℕ → Prop}

def listed : List (String × Color) :=
  [("black", .basic 30), ("red", .basic 31), ("green", .basic 32), ("yellow", .basic 33),
    ("blue", .basic 34), ("magenta", .basic 35), ("cyan", .basic 36), ("white", .basic 37),
    ("orange", orange), ("industrial", orange)]

def IsNamed (text : List Char) (color : Color) : Prop :=
  ∃ word, (word, color) ∈ listed ∧ text.map Char.toLower = word.toList

-- Six ASCII characters after a number sign, in pairs.
structure Six (text red green blue : List Char) : Prop where
  eq    : text = '#' :: (red ++ green ++ blue)
  red   : red.length = 2
  green : green.length = 2
  blue  : blue.length = 2
  ascii : ∀ c ∈ text, isAscii c

-- Three pairs, each with a number.
inductive IsHex (Pair : List Char → ℕ → Prop) (text : List Char) : Color → Prop
  | rgb {red green blue : List Char} {r g b : ℕ} (six : Six text red green blue)
      (hr : Pair red r) (hg : Pair green g) (hb : Pair blue b) : IsHex Pair text (.rgb r g b)

def Denotes (Pair : List Char → ℕ → Prop) (text : List Char) (color : Color) : Prop :=
  IsNamed text color ∨ IsHex Pair text color

-- What is answered to a name by a grammar of pairs. A fault shows the name as it is given.
inductive Answers (Pair : List Char → ℕ → Prop) (name : String) : Except ColorError Color → Prop
  | ok {color : Color} (denotes : Denotes Pair (Text.trim name.toList) color) :
    Answers Pair name (.ok color)
  | badHex (none : ∀ color, ¬Denotes Pair (Text.trim name.toList) color)
      (six : ∃ red green blue, Six (Text.trim name.toList) red green blue) :
    Answers Pair name (.error (.badHexDigit name))
  | unknown (none : ∀ color, ¬Denotes Pair (Text.trim name.toList) color)
      (other : ¬∃ red green blue, Six (Text.trim name.toList) red green blue) :
    Answers Pair name (.error (.unknown name))

theorem named?_eq_some_iff {word : String} : named? word = some color ↔ (word, color) ∈ listed := by
  constructor
  case mp =>
    intro found
    unfold named? at found
    split at found <;> cases found <;> decide
  case mpr =>
    have all : ∀ entry ∈ listed, named? entry.1 = some entry.2 := by decide
    exact all (word, color)

theorem named?_lowerAscii :
    named? (Text.lowerAscii (Text.strip name)) = some color ↔
      IsNamed (Text.trim name.toList) color := by
  rw [named?_eq_some_iff, Text.lowerAscii, Text.strip, String.toList_ofList]
  constructor
  case mp  => exact fun mem => ⟨_, mem, String.toList_ofList.symm⟩
  case mpr =>
    intro ⟨word, mem, same⟩
    rwa [same, String.ofList_toList]

theorem Six.unique {red' green' blue' : List Char} (h : Six text red green blue)
    (h' : Six text red' green' blue') : red = red' ∧ green = green' ∧ blue = blue' := by
  have same := List.tail_eq_of_cons_eq (h.eq.symm.trans h'.eq)
  have ⟨front, hb⟩ := List.append_inj' same (h.blue.trans h'.blue.symm)
  have ⟨hr, hg⟩ := List.append_inj front (h.red.trans h'.red.symm)
  exact ⟨hr, hg, hb⟩

-- No name begins with a number sign.
theorem IsNamed.not_six (named : IsNamed text color) : ¬Six text red green blue := by
  intro six
  have ⟨word, mem, same⟩ := named
  have first : ∀ entry ∈ listed, entry.1.toList.head? ≠ some '#' := by decide
  refine first _ mem ?_
  rw [← same, six.eq, List.map_cons, List.head?_cons]
  rfl

-- The colour of three pairs as they are read.
def components? (red green blue : List Char) : Option Color :=
  (Text.signedIn? 16 red).bind fun r => (Text.signedIn? 16 green).bind fun g =>
    (Text.signedIn? 16 blue).map fun b => .rgb r g b

theorem Six.components?_eq_some_iff (six : Six text red green blue) :
    components? red green blue = some color ↔ IsHex (WritesSigned 16) text color := by
  have read {pair : List Char} {v : ℕ} : Text.signedIn? 16 pair = some v ↔ WritesSigned 16 pair v :=
    Text.signedIn?_eq_some_iff (by decide)
  simp only [components?, Option.bind_eq_some_iff, Option.map_eq_some_iff, read]
  constructor
  case mp =>
    rintro ⟨r, hr, g, hg, b, hb, rfl⟩
    exact .rgb six hr hg hb
  case mpr =>
    rintro ⟨six', hr, hg, hb⟩
    obtain ⟨rfl, rfl, rfl⟩ := six.unique six'
    exact ⟨_, hr, _, hg, _, hb, rfl⟩

theorem ofHex_of_six (six : Six (Text.trim name.toList) red green blue) :
    ofHex name = (components? red green blue).elim (.error (.badHexDigit name)) .ok := by
  obtain ⟨a, b, rfl⟩ := List.length_eq_two.mp six.red
  obtain ⟨c, d, rfl⟩ := List.length_eq_two.mp six.green
  obtain ⟨e, f, rfl⟩ := List.length_eq_two.mp six.blue
  have ascii : [a, b, c, d, e, f].all isAscii :=
    List.all_eq_true.mpr fun x mem => six.ascii x (six.eq ▸ List.mem_cons_of_mem _ mem)
  unfold ofHex components?
  rw [six.eq]
  refine (if_pos ascii).trans ?_
  cases Text.signedIn? 16 [a, b] <;> cases Text.signedIn? 16 [c, d] <;>
    cases Text.signedIn? 16 [e, f] <;> rfl

theorem ofHex_of_not_six (none : ¬∃ red green blue, Six (Text.trim name.toList) red green blue) :
    ofHex name = .error (.unknown name) := by
  unfold ofHex
  split
  case h_1 a b c d e f text =>
    refine if_neg fun ascii => none ⟨[a, b], [c, d], [e, f], text, rfl, rfl, rfl, ?_⟩
    rw [text]
    exact List.forall_mem_cons.mpr ⟨rfl, List.all_eq_true.mp ascii⟩
  case h_2 => rfl

theorem IsNamed.unique {color' : Color} (h : IsNamed text color) (h' : IsNamed text color') :
    color = color' := by
  obtain ⟨word, mem, same⟩ := h
  obtain ⟨word', mem', same'⟩ := h'
  cases String.toList_injective (same.symm.trans same')
  exact Option.some_inj.mp ((named?_eq_some_iff.mpr mem).symm.trans (named?_eq_some_iff.mpr mem'))

theorem IsHex.exists_six (h : IsHex Pair text color) : ∃ red green blue, Six text red green blue :=
  match h with
  | .rgb six .. => ⟨_, _, _, six⟩

theorem IsHex.unique {color' : Color} (h : IsHex (WritesSigned 16) text color)
    (h' : IsHex (WritesSigned 16) text color') : color = color' := by
  have ⟨_, _, _, six⟩ := h.exists_six
  exact Option.some_inj.mp
    ((six.components?_eq_some_iff.mpr h).symm.trans (six.components?_eq_some_iff.mpr h'))

-- A text has one colour at most.
theorem Denotes.unique {color' : Color} (h : Denotes (WritesSigned 16) text color)
    (h' : Denotes (WritesSigned 16) text color') : color = color' := by
  have apart {c c' : Color} (named : IsNamed text c) (hex : IsHex (WritesSigned 16) text c') :
      False := by
    have ⟨_, _, _, six⟩ := hex.exists_six
    exact named.not_six six
  cases h <;> cases h'
  case inl.inl named named' => exact named.unique named'
  case inl.inr named hex    => exact (apart named hex).elim
  case inr.inl hex named    => exact (apart named hex).elim
  case inr.inr hex hex'     => exact hex.unique hex'

theorem Answers.unique {answer answer' : Except ColorError Color}
    (h : Answers (WritesSigned 16) name answer) (h' : Answers (WritesSigned 16) name answer') :
    answer = answer' := by
  cases h <;> cases h'
  case ok.ok denotes _ denotes'        => rw [denotes.unique denotes']
  case ok.badHex denotes none _        => exact absurd denotes (none _)
  case ok.unknown denotes none _       => exact absurd denotes (none _)
  case badHex.ok none _ _ denotes      => exact absurd denotes (none _)
  case badHex.badHex                   => rfl
  case badHex.unknown _ six _ other    => exact absurd six other
  case unknown.ok none _ _ denotes     => exact absurd denotes (none _)
  case unknown.badHex _ other _ six    => exact absurd six other
  case unknown.unknown                 => rfl

theorem Answers.congr {answer : Except ColorError Color} (h : Answers Pair name answer)
    (same : ∀ color, IsHex Pair (Text.trim name.toList) color ↔
      IsHex Pair' (Text.trim name.toList) color) : Answers Pair' name answer := by
  have denotes (color : Color) : Denotes Pair (Text.trim name.toList) color ↔
      Denotes Pair' (Text.trim name.toList) color := or_congr_right (same color)
  cases h
  case ok given           => exact .ok ((denotes _).mp given)
  case badHex none six    => exact .badHex (fun c => mt (denotes c).mpr (none c)) six
  case unknown none other => exact .unknown (fun c => mt (denotes c).mpr (none c)) other

theorem ofHex_answers (unnamed : ∀ color, ¬IsNamed (Text.trim name.toList) color) :
    Answers (WritesSigned 16) name (ofHex name) := by
  by_cases paired : ∃ red green blue, Six (Text.trim name.toList) red green blue
  case pos =>
    have ⟨red, green, blue, six⟩ := paired
    rw [ofHex_of_six six]
    cases read : components? red green blue with
    | some color => exact .ok (.inr (six.components?_eq_some_iff.mp read))
    | none =>
      refine .badHex (fun color denotes => ?_) paired
      have hex := denotes.resolve_left (unnamed color)
      exact Option.some_ne_none color ((six.components?_eq_some_iff.mpr hex).symm.trans read)
  case neg =>
    rw [ofHex_of_not_six paired]
    refine .unknown (fun color denotes => ?_) paired
    exact paired (denotes.resolve_left (unnamed color)).exists_six

theorem ofName_answers (name : String) : Answers (WritesSigned 16) name (ofName name) := by
  cases found : named? (Text.lowerAscii (Text.strip name)) with
  | some color =>
    have answer : ofName name = .ok color := by rw [ofName, found]
    exact answer ▸ .ok (.inl (named?_lowerAscii.mp found))
  | none =>
    have passed : ofName name = ofHex name := by rw [ofName, found]
    refine passed ▸ ofHex_answers fun color named => ?_
    exact Option.some_ne_none color ((named?_lowerAscii.mpr named).symm.trans found)

theorem IsHex.of_writes (h : IsHex (Writes 16) text color) : IsHex (WritesSigned 16) text color :=
  match h with
  | .rgb six hr hg hb => .rgb six (.inl hr) (.inl hg) (.inl hb)

theorem IsHex.plain_iff (h : IsHex (WritesSigned 16) text color) :
    IsHex (Writes 16) text color ↔ '+' ∉ text := by
  constructor
  case mp =>
    rintro ⟨six, hr, hg, hb⟩
    rw [six.eq, List.mem_cons, List.mem_append, List.mem_append]
    exact not_or.mpr ⟨by decide, not_or.mpr
      ⟨not_or.mpr ⟨hr.not_mem_plus, hg.not_mem_plus⟩, hb.not_mem_plus⟩⟩
  case mpr =>
    intro plain
    obtain ⟨six, hr, hg, hb⟩ := h
    rw [six.eq, List.mem_cons, List.mem_append, List.mem_append, not_or, not_or, not_or] at plain
    have ⟨_, ⟨red, green⟩, blue⟩ := plain
    exact .rgb six (WritesSigned.unsigned hr red) (WritesSigned.unsigned hg green)
      (WritesSigned.unsigned hb blue)

-- A number below 256 in two digits.
def pair (n : ℕ) : List Char :=
  [Nat.digitChar (n / 16), Nat.digitChar (n % 16)]

def hexName (red green blue : ℕ) : String :=
  .ofList ('#' :: (pair red ++ pair green ++ pair blue))

theorem standsFor_digitChar : ∀ v < 16, StandsFor 16 (Nat.digitChar v) v :=
  have place : ∀ v < 16, Text.alphabet[v]? = some (Nat.digitChar v).toLower := by decide
  fun v lt => ⟨lt, place v lt⟩

theorem pair_writes {n : ℕ} (lt : n < 256) : Writes 16 (pair n) n where
  nonempty := List.cons_ne_nil _ _
  digits   := by
    refine ⟨[n / 16, n % 16], .cons (standsFor_digitChar _ (by omega))
      (.cons (standsFor_digitChar _ (by omega)) .nil), ?_⟩
    change Nat.ofDigits 16 [n % 16, n / 16] = n
    rw [Nat.ofDigits_cons, Nat.ofDigits_singleton]
    exact Nat.mod_add_div n 16

theorem mem_pair {n : ℕ} {c : Char} (lt : n < 256) (mem : c ∈ pair n) :
    isAscii c ∧ ¬Text.isBlank c := by
  have plain : ∀ v < 16, isAscii (Nat.digitChar v) ∧ ¬Text.isBlank (Nat.digitChar v) := by decide
  rcases mem with _ | ⟨_, _ | ⟨_, mem⟩⟩
  · exact plain _ (by omega)
  · exact plain _ (by omega)
  · contradiction

theorem hexName_six {r g b : ℕ} (hr : r < 256) (hg : g < 256) (hb : b < 256) :
    Six (Text.trim (hexName r g b).toList) (pair r) (pair g) (pair b) := by
  have plain : ∀ c ∈ '#' :: (pair r ++ pair g ++ pair b), isAscii c ∧ ¬Text.isBlank c := by
    intro c mem
    rw [List.mem_cons, List.mem_append, List.mem_append] at mem
    rcases mem with rfl | (mem | mem) | mem
    · decide
    · exact mem_pair hr mem
    · exact mem_pair hg mem
    · exact mem_pair hb mem
  rw [hexName, String.toList_ofList, Text.trim_of_solid fun c mem => (plain c mem).2]
  exact ⟨rfl, rfl, rfl, rfl, fun c mem => (plain c mem).1⟩

theorem ofName_hexName {r g b : ℕ} (hr : r < 256) (hg : g < 256) (hb : b < 256) :
    ofName (hexName r g b) = .ok (.rgb r g b) := by
  have six := hexName_six hr hg hb
  refine (ofName_answers _).unique (.ok (.inr ?_))
  exact .rgb six (.inl (pair_writes hr)) (.inl (pair_writes hg)) (.inl (pair_writes hb))

-- The grammar with plus signs is the one that is read. The names for which that makes a difference
-- are those of six characters that are read although they have such a sign.
theorem ofName_reads (name : String) :
    (∀ answer, ofName name = answer ↔ Answers (WritesSigned 16) name answer) ∧
      ((∀ answer, ofName name = answer ↔ Answers (Writes 16) name answer) ↔
        ∀ color, IsHex (WritesSigned 16) (Text.trim name.toList) color →
          '+' ∉ Text.trim name.toList) ∧
      ∀ r g b : Fin 256, ofName (hexName r g b) = .ok (.rgb r g b) := by
  have answers := ofName_answers name
  refine ⟨fun answer => ?reads, ?strict, fun r g b => ofName_hexName r.2 g.2 b.2⟩
  case reads => exact ⟨fun eq => eq ▸ answers, answers.unique⟩
  case strict =>
    constructor
    case mp =>
      intro strict color hex
      have ⟨_, _, _, six⟩ := hex.exists_six
      have read := answers.unique (.ok (.inr hex))
      cases (strict _).mp read with
      | ok denotes =>
        rcases denotes with named | plain
        · exact absurd six named.not_six
        · exact hex.plain_iff.mp plain
    case mpr =>
      intro plain answer
      have same (color : Color) : IsHex (WritesSigned 16) (Text.trim name.toList) color ↔
          IsHex (Writes 16) (Text.trim name.toList) color :=
        ⟨fun hex => hex.plain_iff.mpr (plain color hex), IsHex.of_writes⟩
      refine ⟨fun eq => (eq ▸ answers).congr same, fun given => ?_⟩
      exact answers.unique (given.congr fun color => (same color).symm)

theorem violet_reads : hexName 0x60 0x48 0xc1 = "#6048c1" ∧
    ofName "#6048c1" = .ok (.rgb 0x60 0x48 0xc1) ∧
      Answers (Writes 16) "#6048c1" (ofName "#6048c1") := by
  have name : hexName 0x60 0x48 0xc1 = "#6048c1" := by decide
  have ⟨_, strict, printed⟩ := ofName_reads "#6048c1"
  have plain := strict.mpr fun _ _ => by decide
  exact ⟨name, name ▸ printed 0x60 0x48 0xc1, (plain _).mp rfl⟩

-- Three plus signs, which are no digits.
theorem ofName_plus : ofName "#+1+2+3" = .ok (.rgb 1 2 3) ∧
    Answers (Writes 16) "#+1+2+3" (.error (.badHexDigit "#+1+2+3")) ∧
      ¬Answers (Writes 16) "#+1+2+3" (ofName "#+1+2+3") := by
  have six : Six (Text.trim "#+1+2+3".toList) "+1".toList "+2".toList "+3".toList :=
    ⟨by decide, rfl, rfl, rfl, List.all_eq_true.mp (by decide)⟩
  have none : ∀ color, ¬Denotes (Writes 16) (Text.trim "#+1+2+3".toList) color := by
    rintro color (named | hex)
    · exact named.not_six six
    · exact (hex.of_writes.plain_iff.mp hex) (by decide)
  have read : ofName "#+1+2+3" = .ok (.rgb 1 2 3) := by decide
  refine ⟨read, .badHex none ⟨_, _, _, six⟩, fun answers => ?_⟩
  rw [read] at answers
  cases answers with
  | ok denotes => exact none _ denotes

end TextCharts.Color
