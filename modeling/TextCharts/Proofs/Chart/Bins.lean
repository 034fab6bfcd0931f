import TextCharts.Proofs.Chart.Buckets

namespace TextCharts.Chart

variable {values : List Float} {samples bins b k : Nat} {v : Float} {e : Extent}

-- The first sample that a bin reads.
def readStart (samples bins b : Nat) : Nat :=
  if samples ≤ bins then b else binStart samples bins b

-- The sample after the last one that a bin reads.
def readEnd (samples bins b : Nat) : Nat :=
  if samples ≤ bins then b + 1 else binEnd samples bins b

def reads (values : List Float) (bins b : Nat) : List Float :=
  slice values (readStart values.length bins b) (readEnd values.length bins b)

-- The bins that there are.
def binCount (samples bins : Nat) : Nat :=
  min samples bins

theorem readStart_zero : readStart samples bins 0 = 0 := by
  simp [readStart, binStart]

-- Every bin but the first begins where the one before it ends.
theorem readStart_succ (pos : 0 < bins) :
    readStart samples bins (b + 1) = readEnd samples bins b := by
  by_cases few : samples ≤ bins
  case pos => simp [readStart, readEnd, few]
  case neg =>
    have stop : binEnd samples bins b = _ := binEnd_eq pos (Nat.lt_of_not_le few)
    simp only [readStart, readEnd, few, if_false, stop, binStart]

theorem readStart_lt (pos : 0 < bins) :
    readStart samples bins b < readStart samples bins (b + 1) := by
  rw [readStart_succ pos]
  by_cases few : samples ≤ bins
  case pos => simp [readStart, readEnd, few]
  case neg =>
    have later : binStart samples bins b < binEnd samples bins b := Nat.le_max_right _ _
    simpa only [readStart, readEnd, few, if_false] using later

theorem readStart_binCount (pos : 0 < bins) :
    readStart samples bins (binCount samples bins) = samples := by
  by_cases few : samples ≤ bins
  case pos => simp [readStart, binCount, few]
  case neg =>
    have most : binCount samples bins = bins := Nat.min_eq_right (Nat.le_of_not_le few)
    simp only [readStart, few, if_false, binStart, most, Nat.mul_div_cancel_left samples pos]

theorem readEnd_le (pos : 0 < bins) (hb : b < binCount samples bins) :
    readEnd samples bins b ≤ samples := by
  have mono : StrictMono (readStart samples bins) :=
    strictMono_nat_of_lt_succ fun _ => readStart_lt pos
  rw [← readStart_succ pos]
  exact (mono.monotone hb).trans_eq (readStart_binCount pos)

theorem reads_iff (pos : 0 < bins) :
    readStart samples bins b ≤ k ∧ k < readEnd samples bins b ↔ FallsInto samples bins k b := by
  by_cases few : samples ≤ bins
  case pos =>
    simp only [readStart, readEnd, FallsInto, few, if_true]
    omega
  case neg =>
    have stop : binEnd samples bins b = _ := binEnd_eq pos (Nat.lt_of_not_le few)
    simp only [readStart, readEnd, FallsInto, few, if_false, stop, binStart]

theorem FallsInto.lt_binCount (falls : FallsInto samples bins k b) (pos : 0 < bins)
    (hk : k < samples) : b < binCount samples bins := by
  have lt : b < bins := falls.lt pos hk
  refine Nat.lt_min.mpr ⟨?_, lt⟩
  by_cases few : samples ≤ bins
  case pos =>
    simp only [FallsInto, few, if_true] at falls
    omega
  case neg => omega

-- Ranges that follow one another make up one range.
theorem flatMap_range' {f : Nat → Nat} (zero : f 0 = 0) (le : ∀ b, f b ≤ f (b + 1)) (count : Nat) :
    ((List.range count).flatMap fun b => List.range' (f b) (f (b + 1) - f b)) =
      List.range (f count) := by
  induction count with
  | zero          => simp [zero]
  | succ count hi =>
    have next : f count + (f (count + 1) - f count) = f (count + 1) :=
      Nat.add_sub_cancel' (le count)
    have joined := @List.range'_append_1 0 (f count) (f (count + 1) - f count)
    rw [List.range_succ, List.flatMap_append, hi, List.flatMap_singleton]
    simpa [List.range_eq_range', next] using joined

theorem slice_succ {α : Type} {items : List α} {i : Nat} (h : i < items.length) :
    slice items i (i + 1) = [items[i]] := by
  rw [slice, List.drop_eq_getElem_cons h, Nat.add_sub_cancel_left]
  rfl

-- Every bin keeps the extent of the samples that it reads.
theorem bin_eq (pos : 0 < bins) : bin values bins =
    (List.range (binCount values.length bins)).map fun b =>
      Extent.ofValues? (reads values bins b) := by
  have nonzero : bins ≠ 0 := Nat.ne_of_gt pos
  by_cases few : values.length ≤ bins
  case neg =>
    have most : binCount values.length bins = bins := Nat.min_eq_right (Nat.le_of_not_le few)
    simp only [bin, nonzero, few, if_false, most, reads, readStart, readEnd]
  case pos =>
    have most : binCount values.length bins = values.length := Nat.min_eq_left few
    simp only [bin, nonzero, few, if_false, if_true, most, reads, readStart, readEnd]
    refine List.ext_getElem (by simp) fun i hi _ => ?_
    have lt : i < values.length := by simpa using hi
    simp only [List.getElem_map, List.getElem_range, slice_succ lt]

theorem mem_reads : v ∈ reads values bins b ↔
    ∃ k, (readStart values.length bins b ≤ k ∧ k < readEnd values.length bins b) ∧
      values[k]? = some v :=
  mem_slice

theorem mem_of_mem_reads (mem : v ∈ reads values bins b) : v ∈ values :=
  have ⟨_, _, hk⟩ := mem_reads.mp mem
  List.mem_of_getElem? hk

theorem exists_reads (pos : 0 < bins) (mem : v ∈ values) :
    ∃ b < binCount values.length bins, v ∈ reads values bins b := by
  have ⟨k, hk⟩ := List.mem_iff_getElem?.mp mem
  have lt : k < values.length := (List.getElem?_eq_some_iff.mp hk).1
  have ⟨b, falls, _⟩ : ∃! b, FallsInto values.length bins k b := fallsInto_existsUnique pos
  exact ⟨b, falls.lt_binCount pos lt, mem_reads.mpr ⟨k, (reads_iff pos).mpr falls, hk⟩⟩

theorem bin_getElem?_eq (pos : 0 < bins) {entry : Option Extent} :
    (bin values bins)[b]? = some entry ↔
      b < binCount values.length bins ∧ Extent.ofValues? (reads values bins b) = entry := by
  rw [bin_eq pos]
  by_cases hb : b < binCount values.length bins
  case pos => simp [hb]
  case neg => simp [hb]

theorem entry_spans (pos : 0 < bins) (mem : some e ∈ bin values bins) :
    ∃ b, e.Spans ((reads values bins b).filter Float.isFinite) := by
  have ⟨b, hb⟩ := List.mem_iff_getElem?.mp mem
  exact ⟨b, Extent.ofValues?_spans ((bin_getElem?_eq pos).mp hb).2⟩

-- Every finite sample lies within the entry of a bin.
theorem exists_entry (pos : 0 < bins) (mem : v ∈ values) (finite : v.isFinite) :
    ∃ e, some e ∈ bin values bins ∧ e.low ≤ v ∧ v ≤ e.high := by
  have ⟨b, hb, read⟩ := exists_reads pos mem
  have ⟨e, he⟩ : ∃ e, Extent.ofValues? (reads values bins b) = some e := by
    refine Option.ne_none_iff_exists'.mp fun none => ?_
    exact Extent.ofValues?_eq_none.mp none v read finite
  have entry : (bin values bins)[b]? = some (some e) := (bin_getElem?_eq pos).mpr ⟨hb, he⟩
  have spans := Extent.ofValues?_spans he
  have kept : v ∈ (reads values bins b).filter Float.isFinite :=
    List.mem_filter.mpr ⟨read, finite⟩
  exact ⟨e, List.mem_of_getElem? entry, spans.low_le v kept, spans.le_high v kept⟩

theorem mem_filter_of_reads (mem : v ∈ (reads values bins b).filter Float.isFinite) :
    v ∈ values.filter Float.isFinite := by
  have ⟨read, finite⟩ := List.mem_filter.mp mem
  exact List.mem_filter.mpr ⟨mem_of_mem_reads read, finite⟩

-- The least of the lows of some entries and the greatest of their highs.
structure Bounds (e : Extent) (entries : List (Option Extent)) : Prop where
  low_mem  : ∃ f, some f ∈ entries ∧ f.low = e.low
  high_mem : ∃ f, some f ∈ entries ∧ f.high = e.high
  low_le   : ∀ f, some f ∈ entries → e.low ≤ f.low
  le_high  : ∀ f, some f ∈ entries → f.high ≤ e.high

theorem Bounds.spans (pos : 0 < bins) (bounds : Bounds e (bin values bins)) :
    e.Spans (values.filter Float.isFinite) := by
  have finite : ∀ x ∈ values.filter Float.isFinite, x.isFinite := by
    intro x mem
    exact (List.mem_filter.mp mem).2
  have low_mem : e.low ∈ values.filter Float.isFinite := by
    have ⟨f, mem, eq⟩ := bounds.low_mem
    have ⟨b, spans⟩ := entry_spans pos mem
    exact eq ▸ mem_filter_of_reads spans.low_mem
  have high_mem : e.high ∈ values.filter Float.isFinite := by
    have ⟨f, mem, eq⟩ := bounds.high_mem
    have ⟨b, spans⟩ := entry_spans pos mem
    exact eq ▸ mem_filter_of_reads spans.high_mem
  refine ⟨finite, low_mem, high_mem, fun v mem => ?low_le, fun v mem => ?le_high⟩
  all_goals
    have ⟨hv, hf⟩ := List.mem_filter.mp mem
    have ⟨f, entry, low, high⟩ := exists_entry pos hv hf
    have ⟨b, spans⟩ := entry_spans pos entry
  case low_le =>
    have hl := finite _ (mem_filter_of_reads spans.low_mem)
    exact Double.le_of_le_of_le (finite _ low_mem) hl hf (bounds.low_le f entry) low
  case le_high =>
    have hh := finite _ (mem_filter_of_reads spans.high_mem)
    exact Double.le_of_le_of_le hf hh (finite _ high_mem) high (bounds.le_high f entry)

theorem exists_bounds (pos : 0 < bins) (some : ∃ v ∈ values, v.isFinite) :
    ∃ e, Bounds e (bin values bins) := by
  have ⟨v, mem, finite⟩ := some
  have ⟨w, hw⟩ : ∃ w, Extent.ofValues? values = Option.some w := by
    refine Option.ne_none_iff_exists'.mp fun none => ?_
    exact Extent.ofValues?_eq_none.mp none v mem finite
  have whole := Extent.ofValues?_spans hw
  have ⟨low_mem, low_finite⟩ := List.mem_filter.mp whole.low_mem
  have ⟨high_mem, high_finite⟩ := List.mem_filter.mp whole.high_mem
  have ⟨f, hf, le, _⟩ := exists_entry pos low_mem low_finite
  have ⟨g, hg, _, ge⟩ := exists_entry pos high_mem high_finite
  have ⟨_, fspans⟩ := entry_spans pos hf
  have ⟨_, gspans⟩ := entry_spans pos hg
  refine ⟨⟨f.low, g.high⟩, ⟨f, hf, rfl⟩, ⟨g, hg, rfl⟩, fun e he => ?low_le, fun e he => ?le_high⟩
  all_goals have ⟨_, spans⟩ := entry_spans pos he
  case low_le =>
    have mem := mem_filter_of_reads spans.low_mem
    exact Double.le_of_le_of_le (whole.finite _ (mem_filter_of_reads fspans.low_mem)) low_finite
      (whole.finite _ mem) le (whole.low_le _ mem)
  case le_high =>
    have mem := mem_filter_of_reads spans.high_mem
    exact Double.le_of_le_of_le (whole.finite _ mem) high_finite
      (whole.finite _ (mem_filter_of_reads gspans.high_mem)) (whole.le_high _ mem) ge

-- What the entries of the bins of a series are: one for each range of samples that is read, absent
-- exactly if no sample of the range is finite. The ranges make up the series, each sample once.
structure Partitions (values : List Float) (bins : Nat) (entries : List (Option Extent)) :
    Prop where
  count    : entries.length = min values.length bins
  floor    : bins < values.length → ∀ b,
    readStart values.length bins b = b * values.length / bins ∧
      readEnd values.length bins b = (b + 1) * values.length / bins
  filled   : ∀ b < entries.length, readStart values.length bins b < readEnd values.length bins b ∧
    readEnd values.length bins b ≤ values.length
  ranges   : ((List.range entries.length).flatMap fun b =>
    List.range' (readStart values.length bins b)
      (readEnd values.length bins b - readStart values.length bins b)) =
        List.range values.length
  once     : ∀ k < values.length, ∃! b, b < entries.length ∧
    readStart values.length bins b ≤ k ∧ k < readEnd values.length bins b
  absent   : ∀ b : Nat, entries[b]? = some none ↔
    b < entries.length ∧ ∀ v ∈ reads values bins b, ¬v.isFinite
  present  : ∀ (b : Nat) (e : Extent), entries[b]? = some (some e) →
    e.Spans ((reads values bins b).filter Float.isFinite)
  whole    : ∀ e, Bounds e entries → e.Spans (values.filter Float.isFinite)
  bounded  : (∃ v ∈ values, v.isFinite) → ∃ e, Bounds e entries

theorem bin_partitions (pos : 0 < bins) : Partitions values bins (bin values bins) := by
  have length : (bin values bins).length = binCount values.length bins := by simp [bin_eq pos]
  constructor
  case count  => exact length
  case floor  =>
    intro many b
    have stop : binEnd values.length bins b = _ := binEnd_eq pos many
    simp [readStart, readEnd, Nat.not_le_of_lt many, binStart, stop]
  case filled =>
    intro b hb
    refine ⟨?_, readEnd_le pos (length ▸ hb)⟩
    rw [← readStart_succ pos]
    exact readStart_lt pos
  case ranges =>
    simp only [length, ← readStart_succ pos]
    rw [flatMap_range' readStart_zero fun b => (readStart_lt pos).le, readStart_binCount pos]
  case once   =>
    intro k hk
    obtain ⟨b, falls, only⟩ : ∃! b, FallsInto values.length bins k b := fallsInto_existsUnique pos
    simp only [length, reads_iff pos]
    exact ⟨b, ⟨falls.lt_binCount pos hk, falls⟩, fun b' reads => only b' reads.2⟩
  case absent =>
    intro b
    rw [bin_getElem?_eq pos, Extent.ofValues?_eq_none, length]
  case present =>
    intro b e he
    exact Extent.ofValues?_spans ((bin_getElem?_eq pos).mp he).2
  case whole   => exact fun e bounds => bounds.spans pos
  case bounded => exact exists_bounds pos

-- Seven samples in three bins, the middle one of which has no finite sample.
def sparse : List Float :=
  [3, 1, 0 / 0, 1 / 0, 2, 0 / 0, -2]

theorem sparse_partitions : 0 < 3 ∧ Partitions sparse 3 (bin sparse 3) :=
  ⟨by decide, bin_partitions (by decide)⟩

end TextCharts.Chart
