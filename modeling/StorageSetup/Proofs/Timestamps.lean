import Mathlib.Algebra.Group.Nat.Defs
import Mathlib.Data.List.TakeWhile
import StorageSetup.Cluster.Timestamp
/-!
# A written timestamp reads as itself

Each part of a timestamp is read back from the text that is written for it, whatever stands behind
it as long as no digit follows a number that could go on. So a timestamp that was read and written
once is not changed by reading it again.

Key theorems: `Timestamp.number?_append`, `Timestamp.year?_yearText`,
`Timestamp.fraction?_fractionText`, `Timestamp.read?_text`, `Time.normalTimestamp?_of_eq_some`.
-/

namespace StorageSetup

open Text

/-! ### Digits -/

namespace Text

theorem isSpace_of_isDigit {c : Char} (h : isDigit c = true) : isSpace c = false := by
  have hbounds : 48 ≤ c.toNat ∧ c.toNat ≤ 57 := by
    simpa [isDigit, Char.le_def, UInt32.le_iff_toNat_le] using h
  unfold isSpace
  simp only [Bool.or_eq_false_iff, Bool.and_eq_false_iff, decide_eq_false_iff_not,
    beq_eq_false_iff_ne]
  omega

theorem trimStart_digits {ds : List Char} (hne : ds ≠ []) (hds : ∀ c ∈ ds, isDigit c = true)
    (rest : List Char) : trimStart (ds ++ rest) = ds ++ rest := by
  obtain ⟨c, ds, rfl⟩ := List.exists_cons_of_ne_nil hne
  have hc : ¬ isSpace c = true := by
    rw [isSpace_of_isDigit (hds c List.mem_cons_self)]
    exact Bool.false_ne_true
  exact List.dropWhile_cons_of_neg hc

theorem foldl_zeros (n k : Nat) :
    (List.replicate k '0').foldl (fun n c => 10 * n + digitValue c) n = n * 10 ^ k := by
  induction k generalizing n with
  | zero => exact (Nat.mul_one n).symm
  | succ k ih =>
    rw [List.replicate_succ, List.foldl_cons, ih, Nat.pow_succ']
    exact (congrArg (· * 10 ^ k) (Nat.mul_comm 10 n)).trans (Nat.mul_assoc n 10 (10 ^ k))

/-- Zeros behind a number multiply it. -/
theorem ofDigits_append_zeros (ds : List Char) (k : Nat) :
    ofDigits (ds ++ List.replicate k '0') = ofDigits ds * 10 ^ k := by
  unfold ofDigits
  rw [List.foldl_append, foldl_zeros]

/-- Zeros in front of a number do not change it. -/
theorem ofDigits_zeros_append (k : Nat) (ds : List Char) :
    ofDigits (List.replicate k '0' ++ ds) = ofDigits ds := by
  unfold ofDigits
  rw [List.foldl_append, foldl_zeros, Nat.zero_mul]

end Text

/-! ### Dates -/

namespace Date

theorem make?_self (d : Date) : make? d.year d.month d.day = some d :=
  dif_pos ⟨d.year_bounds, d.month_bounds, d.day_bounds⟩

theorem day_le (d : Date) : d.day ≤ 31 := by
  have hmonth : daysIn d.year d.month ≤ 31 := by
    unfold daysIn Time.daysInMonth
    split_ifs <;> decide
  exact d.day_bounds.2.trans hmonth

/-- Universal time is that of a place which is not ahead of it. -/
theorem universal?_zero (d : Date) {minute : Nat} (h : minute < 1440) :
    d.universal? minute 0 = some (d, minute) := by
  have hm : Int.ofNat minute - 0 = (minute : Int) := Int.sub_zero _
  unfold universal?
  dsimp only
  rw [hm, if_neg (by omega), if_pos (by omega)]
  rfl

end Date

namespace Timestamp

/-! ### Numbers with zeros in front -/

theorem padded_ne_nil (width n : Nat) : padded width n ≠ [] :=
  List.append_ne_nil_of_right_ne_nil _ Nat.toDigits_ne_nil

theorem isDigit_of_mem_padded {width n : Nat} {c : Char} (h : c ∈ padded width n) :
    isDigit c = true := by
  rcases List.mem_append.mp h with h | h
  · rw [List.eq_of_mem_replicate h]
    rfl
  · exact Nat.isDigit_of_mem_toDigits (by decide) (by decide) h

theorem ofDigits_padded (width n : Nat) : ofDigits (padded width n) = n :=
  (ofDigits_zeros_append _ _).trans Nat.ofDigitChars_ten_toDigits

theorem length_padded {width n : Nat} (hwidth : 0 < width) (h : n < 10 ^ width) :
    (padded width n).length = width := by
  have hle := (Nat.length_toDigits_le_iff (b := 10) (by decide) hwidth).mpr h
  unfold padded
  rw [List.length_append, List.length_replicate]
  omega

/-! ### The parts of a text -/

variable {most width n : Nat} {ds rest : List Char}

/-- A number is read up to its last digit, or up to the last that it can have. -/
theorem number?_append (hne : ds ≠ []) (hds : ∀ c ∈ ds, isDigit c = true)
    (h : ds.length = most ∨ ds.length ≤ most ∧ rest.takeWhile isDigit = []) :
    number? most (ds ++ rest) = some (ofDigits ds, rest) := by
  have htake : ((ds ++ rest).take most).takeWhile isDigit = ds := by
    rcases h with rfl | ⟨hle, hstop⟩
    · rw [List.take_left, List.takeWhile_eq_self_iff]
      exact hds
    · have hrest : (rest.take (most - ds.length)).takeWhile isDigit = [] := by
        cases rest with
        | nil => rw [List.take_nil]; rfl
        | cons c rest =>
          cases hc : isDigit c with
          | true => rw [List.takeWhile_cons_of_pos hc] at hstop; cases hstop
          | false => cases most - ds.length <;> simp [hc]
      rw [List.take_append, List.take_of_length_le hle, List.takeWhile_append_of_pos hds, hrest,
        List.append_nil]
  unfold number?
  dsimp only
  rw [htake, List.isEmpty_eq_false_iff.mpr hne, if_neg Bool.false_ne_true, List.drop_left]

theorem number?_padded (h : (padded width n).length = most ∨
      (padded width n).length ≤ most ∧ rest.takeWhile isDigit = []) :
    number? most (padded width n ++ rest) = some (n, rest) := by
  rw [number?_append (padded_ne_nil width n) (fun _ hc => isDigit_of_mem_padded hc) h,
    ofDigits_padded]

theorem part?_padded (h : n < 100) (rest : List Char) :
    part? (padded 2 n ++ rest) = some (n, rest) := by
  unfold part?
  rw [trimStart_digits (padded_ne_nil 2 n) fun _ hc => isDigit_of_mem_padded hc]
  exact number?_padded (.inl (length_padded (by decide) h))

/-- No sign stands in front of a digit. -/
theorem year?_digits (hne : ds ≠ []) (hds : ∀ c ∈ ds, isDigit c = true) (rest : List Char) :
    year? (ds ++ rest) = (number? 4 (ds ++ rest)).map fun (n, rest) => (Int.ofNat n, rest) := by
  have hfirst : ∀ c cs, ds ++ rest = c :: cs → isDigit c = true := by
    intro c cs h
    obtain ⟨d, ds, rfl⟩ := List.exists_cons_of_ne_nil hne
    cases h
    exact hds c List.mem_cons_self
  unfold year?
  rw [trimStart_digits hne hds]
  split
  · next cs hcs => exact absurd (hfirst '-' cs hcs) (by decide)
  · next cs hcs => exact absurd (hfirst '+' cs hcs) (by decide)
  · rfl

/-- A year is read up to what is no digit. -/
theorem year?_yearText (year : Int) (hstop : rest.takeWhile isDigit = []) :
    year? (yearText year ++ rest) = some (year, rest) := by
  have hsigned : number? (padded 4 year.natAbs ++ rest).length (padded 4 year.natAbs ++ rest) =
      some (year.natAbs, rest) := number?_padded (.inr ⟨by simp, hstop⟩)
  unfold yearText
  split_ifs with hfour hneg
  · have hyear : Int.ofNat year.toNat = year := Int.toNat_of_nonneg hfour.1
    rw [year?_digits (padded_ne_nil _ _) fun _ hc => isDigit_of_mem_padded hc,
      number?_padded (.inl (length_padded (by decide) (by omega)))]
    exact congrArg (fun y => some (y, rest)) hyear
  · have hyear : -Int.ofNat year.natAbs = year := by
      rw [Int.ofNat_eq_natCast]
      omega
    show (number? (padded 4 year.natAbs ++ rest).length (padded 4 year.natAbs ++ rest)).map
      (fun (n, rest) => (-Int.ofNat n, rest)) = _
    rw [hsigned]
    exact congrArg (fun y => some (y, rest)) hyear
  · have hyear : Int.ofNat year.natAbs = year := by
      rw [Int.ofNat_eq_natCast]
      omega
    show (number? (padded 4 year.natAbs ++ rest).length (padded 4 year.natAbs ++ rest)).map
      (fun (n, rest) => (Int.ofNat n, rest)) = _
    rw [hsigned]
    exact congrArg (fun y => some (y, rest)) hyear

theorem fraction?_padded (hwidth : 0 < width) (hle : width ≤ 9) (h : n < 10 ^ width) :
    fraction? ('.' :: (padded width n ++ ['Z'])) = some (n * 10 ^ (9 - width), ['Z']) := by
  have hdigits : ∀ c ∈ padded width n, isDigit c = true := fun _ hc => isDigit_of_mem_padded hc
  have hlength := length_padded hwidth h
  have htake : (padded width n ++ List.replicate 9 '0').take 9 =
      padded width n ++ List.replicate (9 - width) '0' := by
    rw [List.take_append, hlength, List.take_of_length_le (hlength.trans_le hle),
      List.take_replicate, Nat.min_eq_left (Nat.sub_le 9 width)]
  have hrun : (padded width n ++ ['Z']).takeWhile isDigit = padded width n :=
    (List.takeWhile_append_of_pos hdigits).trans (List.append_nil _)
  have hrest : (padded width n ++ ['Z']).dropWhile isDigit = ['Z'] :=
    List.dropWhile_append_of_pos hdigits
  simp only [fraction?]
  rw [hrun, hrest, List.isEmpty_eq_false_iff.mpr (padded_ne_nil width n),
    if_neg Bool.false_ne_true, htake, ofDigits_append_zeros, ofDigits_padded]

theorem fraction?_fractionText (h : n < 1000000000) :
    fraction? (fractionText n ++ ['Z']) = some (n, ['Z']) := by
  unfold fractionText
  split_ifs with hzero hmillis hmicros
  · rw [hzero]
    rfl
  · have hn : n / 1000000 * 10 ^ 6 = n := by omega
    rw [List.cons_append, fraction?_padded (by decide) (by decide) (by omega), hn]
  · have hn : n / 1000 * 10 ^ 3 = n := by omega
    rw [List.cons_append, fraction?_padded (by decide) (by decide) (by omega), hn]
  · have hn : n * 10 ^ 0 = n := Nat.mul_one n
    rw [List.cons_append, fraction?_padded (by decide) (by decide) h, hn]

/-! ### The whole text -/

theorem mark?_cons {mark : Char} (h : isSpace mark = false) (rest : List Char) :
    mark? mark (mark :: rest) = some rest := by
  have hkept : trimStart (mark :: rest) = mark :: rest :=
    List.dropWhile_cons_of_neg (by rw [h]; exact Bool.false_ne_true)
  unfold mark?
  rw [hkept]
  exact if_pos rfl

theorem make?_self (t : Timestamp) : make? t.date t.minute t.second t.nanosecond = some t :=
  dif_pos ⟨t.minute_lt, t.second_le, t.nanosecond_lt⟩

/-- **A written timestamp reads as itself.** -/
theorem read?_text (t : Timestamp) : read? t.text = some t := by
  have hyear (rest : List Char) : year? (yearText t.date.year ++ '-' :: rest) =
      some (t.date.year, '-' :: rest) := year?_yearText _ rfl
  have hmonth : t.date.month < 100 := Nat.lt_of_le_of_lt t.date.month_bounds.2 (by decide)
  have hday : t.date.day < 100 := Nat.lt_of_le_of_lt t.date.day_le (by decide)
  have hhour : t.minute / 60 < 24 := Nat.div_lt_of_lt_mul t.minute_lt
  have hminute : t.minute % 60 < 60 := Nat.mod_lt _ (by decide)
  have hsecond : t.second < 100 := Nat.lt_of_le_of_lt t.second_le (by decide)
  have hhyphen : ∀ rest, mark? '-' ('-' :: rest) = some rest := mark?_cons rfl
  have hcolon : ∀ rest, mark? ':' (':' :: rest) = some rest := mark?_cons rfl
  have hseparator : ∀ rest, separator? ('T' :: rest) = some rest := fun _ => rfl
  have hahead : ahead? (trimStart ['Z']) = some (0, []) := rfl
  have hbounds : (decide (23 < t.minute / 60) || decide (59 < t.minute % 60) ||
      decide (1440 ≤ (0 : Int).natAbs) || !(trimStart []).isEmpty) = false := by
    simp [Nat.le_of_lt_succ hhour, Nat.le_of_lt_succ hminute, trimStart]
  unfold read? text
  refine Option.bind_eq_some_iff.mpr ⟨_, hyear _, ?_⟩
  refine Option.bind_eq_some_iff.mpr ⟨_, hhyphen _, ?_⟩
  refine Option.bind_eq_some_iff.mpr ⟨_, part?_padded hmonth _, ?_⟩
  refine Option.bind_eq_some_iff.mpr ⟨_, hhyphen _, ?_⟩
  refine Option.bind_eq_some_iff.mpr ⟨_, part?_padded hday _, ?_⟩
  refine Option.bind_eq_some_iff.mpr ⟨_, hseparator _, ?_⟩
  refine Option.bind_eq_some_iff.mpr ⟨_, part?_padded (hhour.trans (by decide)) _, ?_⟩
  refine Option.bind_eq_some_iff.mpr ⟨_, hcolon _, ?_⟩
  refine Option.bind_eq_some_iff.mpr ⟨_, part?_padded (hminute.trans (by decide)) _, ?_⟩
  refine Option.bind_eq_some_iff.mpr ⟨_, hcolon _, ?_⟩
  refine Option.bind_eq_some_iff.mpr ⟨_, part?_padded hsecond _, ?_⟩
  refine Option.bind_eq_some_iff.mpr ⟨_, fraction?_fractionText t.nanosecond_lt, ?_⟩
  refine Option.bind_eq_some_iff.mpr ⟨_, hahead, ?_⟩
  dsimp only
  rw [hbounds, if_neg Bool.false_ne_true, Nat.div_add_mod]
  refine Option.bind_eq_some_iff.mpr ⟨_, t.date.make?_self, ?_⟩
  exact Option.bind_eq_some_iff.mpr ⟨_, t.date.universal?_zero t.minute_lt, t.make?_self⟩

end Timestamp

/-- **A timestamp that was read and written is not changed by reading it again.** -/
theorem Time.normalTimestamp?_of_eq_some {s t : String} (h : normalTimestamp? s = some t) :
    normalTimestamp? t = some t := by
  obtain ⟨timestamp, _, rfl⟩ := Option.map_eq_some_iff.mp h
  unfold normalTimestamp?
  rw [String.toList_ofList, Timestamp.read?_text, Option.map_some]

end StorageSetup
