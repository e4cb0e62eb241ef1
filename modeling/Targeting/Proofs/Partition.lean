import Mathlib.Order.Interval.Finset.Nat
import Targeting.Partition

/-!
# Tables of partitions

A table is made from sums of sizes that stop at the greatest sum told apart from larger ones. The
greatest sum is far above a hundred, so that it makes no difference to which partitions are well
formed: those whose sizes add up to a hundred.

`Partition.Owns` says which buckets belong to a partition: as many as its size, after those of the
partitions before it. The position that a bucket has in the table of well-formed partitions is that
of its owner, so that the treatments are shared out as the sizes say.
-/

namespace Targeting

namespace Partition

/-- The sum of the sizes of partitions. -/
def sum : List Partition → Nat
  | [] => 0
  | partition :: rest => partition.size.toNat + sum rest

theorem last_ranges (partitions : List Partition) {before : Nat} (small : before ≤ greatestSum) :
    ((ranges before partitions).getLast?.map (·.1)).getD before =
      min (before + sum partitions) greatestSum := by
  induction partitions generalizing before with
  | nil =>
      simp [ranges, sum, small]
  | cons partition rest ih =>
      have later := ih (Nat.min_le_right (before + partition.size.toNat) greatestSum)
      simp only [ranges, List.getLast?_cons, Option.map_some, Option.getD_some]
      rw [← Option.getD_map (fun range : Nat × String => range.1), later, sum]
      omega

theorem total_eq (partitions : List Partition) :
    total partitions = min (sum partitions) greatestSum := by
  have last := last_ranges partitions (Nat.zero_le greatestSum)
  rwa [Nat.zero_add] at last

theorem sum_append (first second : List Partition) :
    sum (first ++ second) = sum first + sum second := by
  induction first with
  | nil => simp [sum]
  | cons partition rest ih =>
      simp only [List.cons_append, sum, ih]
      omega

theorem sum_take_succ {partitions : List Partition} {index : Nat}
    (inside : index < partitions.length) :
    sum (partitions.take (index + 1)) =
      sum (partitions.take index) + partitions[index].size.toNat := by
  rw [List.take_succ_eq_append_getElem inside, sum_append]
  simp [sum]

theorem sum_take_le (partitions : List Partition) (index : Nat) :
    sum (partitions.take index) ≤ sum partitions := by
  have whole := sum_append (partitions.take index) (partitions.drop index)
  rw [List.take_append_drop] at whole
  omega

theorem sum_take_mono (partitions : List Partition) {index later : Nat} (ordered : index ≤ later) :
    sum (partitions.take index) ≤ sum (partitions.take later) := by
  have shorter : (partitions.take later).take index = partitions.take index := by
    rw [List.take_take, Nat.min_eq_left ordered]
  rw [← shorter]
  exact sum_take_le _ _

theorem getElem?_ranges {before : Nat} (small : before ≤ greatestSum) (partitions : List Partition)
    (index : Nat) :
    (ranges before partitions)[index]? = partitions[index]?.map fun partition =>
      (min (before + sum (partitions.take (index + 1))) greatestSum, partition.treatment) := by
  induction partitions generalizing before index with
  | nil => simp [ranges]
  | cons partition rest ih =>
      rcases index with _ | index
      · simp [ranges, sum]
      · have later := ih (Nat.min_le_right (before + partition.size.toNat) greatestSum) index
        simp only [ranges, List.getElem?_cons_succ, List.take_succ_cons, sum] at later ⊢
        rw [later]
        congr 2
        funext other
        congr 1
        omega

/-- A partition has a bucket if the sizes before it fall short of the bucket, and do not any more
once its own size is added. -/
def Owns (partitions : List Partition) (index bucket : Nat) : Prop :=
  sum (partitions.take index) < bucket ∧ bucket ≤ sum (partitions.take (index + 1))

theorem Owns.size_pos {partitions : List Partition} {index bucket : Nat} {partition : Partition}
    (owns : Owns partitions index bucket) (found : partitions[index]? = some partition) :
    0 < partition.size.toNat := by
  rcases List.getElem?_eq_some_iff.mp found with ⟨inside, rfl⟩
  have more := owns.1.trans_le owns.2
  rw [sum_take_succ inside] at more
  omega

theorem Owns.le {partitions : List Partition} {bucket index other : Nat}
    (owns : Owns partitions index bucket) (otherOwns : Owns partitions other bucket) :
    index ≤ other := by
  by_contra later
  have ordered := sum_take_mono partitions (Nat.succ_le_of_lt (Nat.not_le.mp later))
  have beyond := otherOwns.2.trans_lt (ordered.trans_lt owns.1)
  exact Nat.lt_irrefl bucket beyond

theorem Owns.unique {partitions : List Partition} {bucket index other : Nat}
    (owns : Owns partitions index bucket) (otherOwns : Owns partitions other bucket) :
    index = other :=
  Nat.le_antisymm (owns.le otherOwns) (otherOwns.le owns)

end Partition

namespace PartitionTable

theorem ofPartitions_eq_error_iff {partitions : List Partition} {error : PartitionError} :
    ofPartitions partitions = .error error ↔
      Partition.sum partitions ≠ 100 ∧ error = .invalidTotal (Partition.total partitions) := by
  have full : Partition.total partitions = 100 ↔ Partition.sum partitions = 100 := by
    rw [Partition.total_eq, Partition.greatestSum]
    omega
  rw [ne_eq, ← full]
  unfold ofPartitions Partition.total
  dsimp only
  split
  · next last => simp [last, eq_comm]
  · next range last =>
      simp only [last, Option.map_some, Option.getD_some]
      split
      · next reaches => simp [reaches]
      · next short => simp [short, eq_comm]

theorem ofPartitions_eq_ok {partitions : List Partition} {table : PartitionTable}
    (compiles : ofPartitions partitions = .ok table) :
    Partition.sum partitions = 100 ∧ table.ranges = Partition.ranges 0 partitions := by
  constructor
  · by_contra unequal
    have fails := ofPartitions_eq_error_iff.mpr ⟨unequal, rfl⟩
    cases compiles.symm.trans fails
  · unfold ofPartitions at compiles
    dsimp only at compiles
    split at compiles
    · cases compiles
    · split at compiles
      · cases compiles
        rfl
      · cases compiles

/-- The index of the first range that does not end before a bucket. -/
def position (table : PartitionTable) (bucket : Nat) : Nat :=
  table.ranges.findIdx fun range => bucket ≤ range.1

/-- The ranges up to an index end before a bucket, and the others do not. A search by halves looks
for such an index. -/
structure Divides (table : PartitionTable) (bucket index : Nat) : Prop where
  le_length : index ≤ table.ranges.length
  before : ∀ {earlier range}, earlier < index → table.ranges[earlier]? = some range →
    range.1 < bucket
  after : ∀ {later range}, index ≤ later → table.ranges[later]? = some range → bucket ≤ range.1

theorem lt_bucket_of_lt_position {table : PartitionTable} {bucket earlier : Nat}
    {range : Nat × String} (before : earlier < table.position bucket)
    (found : table.ranges[earlier]? = some range) : range.1 < bucket := by
  rcases List.getElem?_eq_some_iff.mp found with ⟨inside, rfl⟩
  have fails := List.not_of_lt_findIdx before
  simpa using fails

theorem bucket_le_of_position {table : PartitionTable} {bucket : Nat} {range : Nat × String}
    (found : table.ranges[table.position bucket]? = some range) : bucket ≤ range.1 := by
  rcases List.getElem?_eq_some_iff.mp found with ⟨inside, rfl⟩
  have holds : decide (bucket ≤ table.ranges[table.position bucket].1) = true :=
    List.findIdx_getElem (w := inside)
  exact of_decide_eq_true holds

theorem position_lt_length (table : PartitionTable) {bucket : Nat} (within : bucket ≤ 100) :
    table.position bucket < table.ranges.length := by
  rcases table.reaches with ⟨range, member, full⟩
  apply List.findIdx_lt_length_of_exists
  exact ⟨range, member, by simpa [full] using within⟩

theorem treatment_eq_of_position {table : PartitionTable} {bucket : Nat} (within : bucket ≤ 100)
    {range : Nat × String} (found : table.ranges[table.position bucket]? = some range) :
    table.treatment bucket = .ok range.2 := by
  rw [position, ← List.find?_eq_getElem?_findIdx] at found
  unfold treatment
  rw [dif_neg (Nat.not_lt.mpr within)]
  split
  · next first first_eq =>
      cases first_eq.symm.trans found
      rfl
  · next missing =>
      cases missing.symm.trans found

theorem treatment_eq_error_iff {table : PartitionTable} {bucket : Nat} {error : PartitionError} :
    table.treatment bucket = .error error ↔ 100 < bucket ∧ error = .bucketOutOfRange bucket := by
  by_cases outside : 100 < bucket
  · simp [treatment, outside, eq_comm]
  · have within := Nat.not_lt.mp outside
    have found := List.getElem?_eq_getElem (table.position_lt_length within)
    rw [treatment_eq_of_position within found]
    simp [outside]

section Shares

variable {partitions : List Partition} {table : PartitionTable}

theorem getElem?_ranges_of_ofPartitions (compiles : ofPartitions partitions = .ok table)
    (index : Nat) :
    table.ranges[index]? = partitions[index]?.map fun partition =>
      (Partition.sum (partitions.take (index + 1)), partition.treatment) := by
  rcases ofPartitions_eq_ok compiles with ⟨full, same⟩
  have small : Partition.sum (partitions.take (index + 1)) ≤ Partition.greatestSum := by
    have part := Partition.sum_take_le partitions (index + 1)
    rw [full] at part
    exact part.trans (by decide)
  rw [same, Partition.getElem?_ranges (Nat.zero_le _), Nat.zero_add, Nat.min_eq_left small]

theorem range_mono (compiles : ofPartitions partitions = .ok table) {index later : Nat}
    {range laterRange : Nat × String} (ordered : index ≤ later)
    (found : table.ranges[index]? = some range)
    (laterFound : table.ranges[later]? = some laterRange) : range.1 ≤ laterRange.1 := by
  rw [getElem?_ranges_of_ofPartitions compiles] at found laterFound
  rcases Option.map_eq_some_iff.mp found with ⟨_, _, rfl⟩
  rcases Option.map_eq_some_iff.mp laterFound with ⟨_, _, rfl⟩
  exact Partition.sum_take_mono partitions (Nat.succ_le_succ ordered)

/-- The ranges end in order, so that every search for the position of a bucket finds the same. -/
theorem divides_iff (compiles : ofPartitions partitions = .ok table) {bucket index : Nat} :
    table.Divides bucket index ↔ index = table.position bucket := by
  constructor
  · rintro ⟨bounded, before, after⟩
    -- On either side of the position there is a range that ends on the wrong side of the bucket.
    rcases Nat.lt_trichotomy index (table.position bucket) with earlier | same | later
    · have inside := earlier.trans_le List.findIdx_le_length
      have found := List.getElem?_eq_getElem inside
      have ends := lt_bucket_of_lt_position earlier found
      exact absurd (after le_rfl found) (Nat.not_le.mpr ends)
    · exact same
    · have found := List.getElem?_eq_getElem (later.trans_le bounded)
      have reaches := bucket_le_of_position found
      exact absurd reaches (Nat.not_le.mpr (before later found))
  · rintro rfl
    refine ⟨List.findIdx_le_length, lt_bucket_of_lt_position, ?_⟩
    intro later range ordered found
    have inside := ordered.trans_lt (List.getElem?_eq_some_iff.mp found).1
    have first := List.getElem?_eq_getElem inside
    exact (bucket_le_of_position first).trans (range_mono compiles ordered first found)

theorem owns_position (compiles : ofPartitions partitions = .ok table) {bucket : Nat}
    (positive : 0 < bucket) (within : bucket ≤ 100) :
    Partition.Owns partitions (table.position bucket) bucket := by
  constructor
  · rcases here : table.position bucket with _ | index
    · simpa [Partition.sum] using positive
    · have earlier : index < table.position bucket := by omega
      have found := List.getElem?_eq_getElem (earlier.trans (table.position_lt_length within))
      have ends := lt_bucket_of_lt_position earlier found
      rw [getElem?_ranges_of_ofPartitions compiles] at found
      rcases Option.map_eq_some_iff.mp found with ⟨_, _, same⟩
      rwa [← same] at ends
  · have found := List.getElem?_eq_getElem (table.position_lt_length within)
    have reaches := bucket_le_of_position found
    rw [getElem?_ranges_of_ofPartitions compiles] at found
    rcases Option.map_eq_some_iff.mp found with ⟨_, _, same⟩
    rwa [← same] at reaches

theorem position_eq_iff_owns (compiles : ofPartitions partitions = .ok table) {bucket : Nat}
    (positive : 0 < bucket) (within : bucket ≤ 100) {index : Nat} :
    table.position bucket = index ↔ Partition.Owns partitions index bucket := by
  have owns := owns_position compiles positive within
  constructor
  · rintro rfl
    exact owns
  · exact owns.unique

theorem exists_treatment (compiles : ofPartitions partitions = .ok table) {bucket : Nat}
    (within : bucket ≤ 100) :
    ∃ partition, partitions[table.position bucket]? = some partition ∧
      table.treatment bucket = .ok partition.treatment := by
  have found := List.getElem?_eq_getElem (table.position_lt_length within)
  have given := found
  rw [getElem?_ranges_of_ofPartitions compiles] at given
  rcases Option.map_eq_some_iff.mp given with ⟨partition, there, same⟩
  refine ⟨partition, there, ?_⟩
  rw [treatment_eq_of_position within found, ← same]

theorem card_buckets (compiles : ofPartitions partitions = .ok table) {index : Nat}
    {partition : Partition} (found : partitions[index]? = some partition) :
    ((Finset.Icc 1 100).filter fun bucket => table.position bucket = index).card =
      partition.size.toNat := by
  rcases List.getElem?_eq_some_iff.mp found with ⟨inside, rfl⟩
  have last : Partition.sum (partitions.take (index + 1)) ≤ 100 :=
    (ofPartitions_eq_ok compiles).1 ▸ Partition.sum_take_le partitions (index + 1)
  -- The buckets of a partition are those after the sizes before it, up to its own.
  have same : (Finset.Icc 1 100).filter (fun bucket => table.position bucket = index) =
      Finset.Ioc (Partition.sum (partitions.take index))
        (Partition.sum (partitions.take (index + 1))) := by
    ext bucket
    simp only [Finset.mem_filter, Finset.mem_Icc, Finset.mem_Ioc]
    constructor
    · rintro ⟨⟨positive, within⟩, here⟩
      exact (position_eq_iff_owns compiles positive within).mp here
    · rintro ⟨after, through⟩
      have positive : 0 < bucket := by omega
      have within : bucket ≤ 100 := through.trans last
      exact ⟨⟨positive, within⟩,
        (position_eq_iff_owns compiles positive within).mpr ⟨after, through⟩⟩
  rw [same, Nat.card_Ioc, Partition.sum_take_succ inside]
  omega

end Shares

/-- Partitions are well formed exactly if their sizes add up to a hundred. Each then gets as many of
the hundred buckets as its size, in order, and the search for a bucket always ends at the partition
that has it. -/
theorem treatments_shared_by_size (partitions : List Partition) :
    ((∃ table, ofPartitions partitions = .ok table) ↔ Partition.sum partitions = 100) ∧
    (∀ error, ofPartitions partitions = .error error ↔
      Partition.sum partitions ≠ 100 ∧
        error = .invalidTotal (min (Partition.sum partitions) Partition.greatestSum)) ∧
    ∀ table, ofPartitions partitions = .ok table →
      (∀ bucket index, table.Divides bucket index ↔ index = table.position bucket) ∧
      (∀ bucket error, table.treatment bucket = .error error ↔
        100 < bucket ∧ error = .bucketOutOfRange bucket) ∧
      (∀ bucket, bucket ≤ 100 → ∃ partition, partitions[table.position bucket]? = some partition ∧
        table.treatment bucket = .ok partition.treatment ∧
        (0 < bucket → 0 < partition.size.toNat)) ∧
      (∀ bucket, 0 < bucket → bucket ≤ 100 → ∀ index,
        table.position bucket = index ↔
          Partition.sum (partitions.take index) < bucket ∧
            bucket ≤ Partition.sum (partitions.take (index + 1))) ∧
      ∀ index partition, partitions[index]? = some partition →
        ((Finset.Icc 1 100).filter fun bucket => table.position bucket = index).card =
          partition.size.toNat := by
  refine ⟨?_, ?_, ?_⟩
  · constructor
    · rintro ⟨table, compiles⟩
      exact (ofPartitions_eq_ok compiles).1
    · intro full
      rcases compiles : ofPartitions partitions with error | table
      · exact absurd full (ofPartitions_eq_error_iff.mp compiles).1
      · exact ⟨table, rfl⟩
  · intro error
    rw [ofPartitions_eq_error_iff, Partition.total_eq]
  · intro table compiles
    refine ⟨fun _ _ => divides_iff compiles, fun _ _ => treatment_eq_error_iff, ?_,
      fun _ positive within _ => position_eq_iff_owns compiles positive within,
      fun _ _ found => card_buckets compiles found⟩
    intro bucket within
    rcases exists_treatment compiles within with ⟨partition, found, given⟩
    refine ⟨partition, found, given, ?_⟩
    intro positive
    exact (owns_position compiles positive within).size_pos found

/-- Two treatments with two partitions each, among empty ones. -/
def interleaved : List Partition :=
  [⟨"off", 0⟩, ⟨"on", 30⟩, ⟨"off", 0⟩, ⟨"off", 20⟩, ⟨"on", 50⟩, ⟨"off", 0⟩]

theorem treatments_shared_by_size_interleaved :
    ∃ table, ofPartitions interleaved = .ok table ∧
      ((Finset.Icc 1 100).filter fun bucket => table.position bucket = 1).card = 30 ∧
      ((Finset.Icc 1 100).filter fun bucket => table.position bucket = 2).card = 0 ∧
      table.position 30 = 1 ∧ table.position 31 = 3 := by
  have shared := treatments_shared_by_size interleaved
  rcases shared.1.mpr (by decide) with ⟨table, compiles⟩
  rcases shared.2.2 table compiles with ⟨_, _, _, owner, size⟩
  refine ⟨table, compiles, size 1 _ rfl, size 2 _ rfl, ?_, ?_⟩
  · exact (owner 30 (by decide) (by decide) 1).mpr (by decide)
  · exact (owner 31 (by decide) (by decide) 3).mpr (by decide)

end PartitionTable

end Targeting
