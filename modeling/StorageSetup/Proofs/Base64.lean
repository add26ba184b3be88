import Mathlib.Data.List.Basic
import StorageSetup.Text.Base64
/-!
# Base64 and back

Base64 is read back as the bytes that were written, group by group, and a text that was written in
base64 as the text. With the padding at the end only, bytes have one text: the one that is written.

Key definitions: `Text.Base64.decodeText?`, `Text.Base64.decodeStandard?`.
Key theorems: `Text.Base64.decode?_encode`, `Text.Base64.decodeText?_encodeText`,
`Text.Base64.decodeStandard?_eq_some_iff`.
-/

namespace StorageSetup.Text.Base64

/-- The text whose bytes the characters write. -/
def decodeText? (s : String) : Option String :=
  (decode? s.toList).bind fun bytes => String.fromUTF8? ⟨bytes.toArray⟩

/-! ### Groups -/

/-- Six bits are read from their character, which is no padding. -/
theorem value?_digit {n : Nat} (h : n < 64) : value? (digit n) = some n ∧ digit n ≠ '=' := by
  revert n
  decide

theorem decodeGroup?_three {x y z w : Nat} (hx : x < 64) (hy : y < 64) (hz : z < 64)
    (hw : w < 64) : decodeGroup? (digit x) (digit y) (digit z) (digit w) =
      some [UInt8.ofNat (x * 4 + y / 16), UInt8.ofNat (y % 16 * 16 + z / 4),
        UInt8.ofNat (z % 4 * 64 + w)] := by
  simp [decodeGroup?, value?_digit hx, value?_digit hy, value?_digit hz, value?_digit hw]

theorem decodeGroup?_two {x y z : Nat} (hx : x < 64) (hy : y < 64) (hz : z < 64)
    (hend : z % 4 = 0) : decodeGroup? (digit x) (digit y) (digit z) '=' =
      some [UInt8.ofNat (x * 4 + y / 16), UInt8.ofNat (y % 16 * 16 + z / 4)] := by
  simp [decodeGroup?, value?_digit hx, value?_digit hy, value?_digit hz, hend]

theorem decodeGroup?_one {x y : Nat} (hx : x < 64) (hy : y < 64) (hend : y % 16 = 0) :
    decodeGroup? (digit x) (digit y) '=' '=' = some [UInt8.ofNat (x * 4 + y / 16)] := by
  simp [decodeGroup?, value?_digit hx, value?_digit hy, hend]

/-! ### Bytes and texts -/

theorem ofNat_eq_of_toNat {a : UInt8} {n : Nat} (h : n = a.toNat) : UInt8.ofNat n = a := by
  rw [h, UInt8.ofNat_toNat]

/-- **Bytes are read back from base64.** -/
theorem decode?_encode : ∀ bytes : List UInt8, decode? (encode bytes) = some bytes
  | [] => rfl
  | [a] => by
    have ha := a.toNat_lt
    have hfirst : UInt8.ofNat (a.toNat / 4 * 4 + a.toNat % 4 * 16 / 16) = a :=
      ofNat_eq_of_toNat (by omega)
    rw [encode, decode?, decodeGroup?_one (by omega) (by omega) (by omega), hfirst]
    rfl
  | [a, b] => by
    have ha := a.toNat_lt
    have hb := b.toNat_lt
    rw [encode]
    generalize hn : a.toNat * 256 + b.toNat = n
    have hfirst : UInt8.ofNat (n / 1024 * 4 + n / 16 % 64 / 16) = a :=
      ofNat_eq_of_toNat (by omega)
    have hsecond : UInt8.ofNat (n / 16 % 64 % 16 * 16 + n % 16 * 4 / 4) = b :=
      ofNat_eq_of_toNat (by omega)
    rw [decode?, decodeGroup?_two (by omega) (by omega) (by omega) (by omega), hfirst, hsecond]
    rfl
  | a :: b :: c :: rest => by
    have ha := a.toNat_lt
    have hb := b.toNat_lt
    have hc := c.toNat_lt
    rw [encode]
    generalize hn : (a.toNat * 256 + b.toNat) * 256 + c.toNat = n
    have hfirst : UInt8.ofNat (n / 262144 * 4 + n / 4096 % 64 / 16) = a :=
      ofNat_eq_of_toNat (by omega)
    have hsecond : UInt8.ofNat (n / 4096 % 64 % 16 * 16 + n / 64 % 64 / 4) = b :=
      ofNat_eq_of_toNat (by omega)
    have hthird : UInt8.ofNat (n / 64 % 64 % 4 * 64 + n % 64) = c :=
      ofNat_eq_of_toNat (by omega)
    rw [decode?, decodeGroup?_three (by omega) (by omega) (by omega) (by omega), hfirst, hsecond,
      hthird, decode?_encode rest]
    rfl

/-! ### Texts -/

/-- The loop collects the bytes from the given place on, behind those that it has in reverse. -/
theorem toList_loop (bs : ByteArray) (i : Nat) (l : List UInt8) :
    ByteArray.toList.loop bs i l = l.reverse ++ bs.data.toList.drop i := by
  induction i, l using ByteArray.toList.loop.induct bs with
  | case1 i l hi ih =>
    have hget : bs.data.toList.drop i = bs.get! i :: bs.data.toList.drop (i + 1) := by
      rw [List.drop_eq_getElem_cons (show i < bs.data.toList.length from hi)]
      congr 1
      exact (getElem!_pos bs.data i hi).symm
    unfold ByteArray.toList.loop
    rw [if_pos hi, ih, hget, List.reverse_cons, List.append_assoc]
    rfl
  | case2 i l hi =>
    unfold ByteArray.toList.loop
    rw [if_neg hi, List.drop_eq_nil_of_le (Nat.le_of_not_lt hi), List.append_nil]

theorem mk_toList (bs : ByteArray) : ByteArray.mk bs.toList.toArray = bs := by
  have h : bs.toList = bs.data.toList := toList_loop bs 0 []
  rw [h]

/-- **A text is read back from base64.** -/
theorem decodeText?_encodeText (s : String) : decodeText? (encodeText s) = some s := by
  have hbytes : decode? (encodeText s).toList = some s.toUTF8.toList := by
    unfold encodeText utf8
    rw [String.toList_ofList]
    exact decode?_encode _
  unfold decodeText?
  rw [hbytes, Option.bind_some, mk_toList]
  unfold String.fromUTF8?
  exact dif_pos s.isValidUTF8

/-! ### Characters of six bits -/

theorem ofNat_add_sub {first c : Char} (h : first ≤ c) :
    Char.ofNat (first.toNat + (c.toNat - first.toNat)) = c := by
  have hle : first.toNat ≤ c.toNat := h
  rw [Nat.add_sub_cancel' hle]
  exact Char.ofNat_toNat c

/-- A character of six bits is the one that is written for them. -/
theorem eq_digit_of_value? {c : Char} {n : Nat} (h : value? c = some n) : n < 64 ∧ c = digit n := by
  unfold value? at h
  simp only [Bool.and_eq_true, decide_eq_true_eq] at h
  split_ifs at h with hupper hlower hnumber hplus hslash
  · have hlast : c.toNat ≤ 90 := hupper.2
    obtain rfl := Option.some.inj h
    have hn : c.toNat - 'A'.toNat < 26 := by
      change c.toNat - 65 < 26
      omega
    refine ⟨by omega, ?_⟩
    unfold digit
    rw [if_pos hn, ofNat_add_sub hupper.1]
  · have hlast : c.toNat ≤ 122 := hlower.2
    obtain rfl := Option.some.inj h
    have hn : c.toNat - 'a'.toNat < 26 := by
      change c.toNat - 97 < 26
      omega
    refine ⟨by omega, ?_⟩
    unfold digit
    rw [if_neg (by omega), if_pos (by omega), Nat.add_sub_cancel, ofNat_add_sub hlower.1]
  · have hlast : c.toNat ≤ 57 := hnumber.2
    obtain rfl := Option.some.inj h
    have hn : c.toNat - '0'.toNat < 10 := by
      change c.toNat - 48 < 10
      omega
    refine ⟨by omega, ?_⟩
    unfold digit
    rw [if_neg (by omega), if_neg (by omega), if_pos (by omega), Nat.add_sub_cancel,
      ofNat_add_sub hnumber.1]
  · obtain rfl := Option.some.inj h
    exact ⟨by omega, hplus⟩
  · obtain rfl := Option.some.inj h
    exact ⟨by omega, hslash⟩

/-! ### Groups that are written -/

theorem toNat_firstByte {x y : Nat} (hx : x < 64) (hy : y < 64) :
    (UInt8.ofNat (x * 4 + y / 16)).toNat = x * 4 + y / 16 :=
  UInt8.toNat_ofNat_of_lt' (by change _ < 256; omega)

theorem toNat_secondByte {y z : Nat} (hz : z < 64) :
    (UInt8.ofNat (y % 16 * 16 + z / 4)).toNat = y % 16 * 16 + z / 4 :=
  UInt8.toNat_ofNat_of_lt' (by change _ < 256; omega)

theorem toNat_thirdByte {z w : Nat} (hw : w < 64) :
    (UInt8.ofNat (z % 4 * 64 + w)).toNat = z % 4 * 64 + w :=
  UInt8.toNat_ofNat_of_lt' (by change _ < 256; omega)

theorem encode_one {x y : Nat} (hx : x < 64) (hy : y < 64) (hend : y % 16 = 0) :
    encode [UInt8.ofNat (x * 4 + y / 16)] = [digit x, digit y, '=', '='] := by
  have hfirst : (x * 4 + y / 16) / 4 = x := by omega
  have hsecond : (x * 4 + y / 16) % 4 * 16 = y := by omega
  simp only [encode]
  rw [toNat_firstByte hx hy, hfirst, hsecond]

theorem encode_two {x y z : Nat} (hx : x < 64) (hy : y < 64) (hz : z < 64) (hend : z % 4 = 0) :
    encode [UInt8.ofNat (x * 4 + y / 16), UInt8.ofNat (y % 16 * 16 + z / 4)] =
      [digit x, digit y, digit z, '='] := by
  simp only [encode]
  rw [toNat_firstByte hx hy, toNat_secondByte hz]
  generalize hn : (x * 4 + y / 16) * 256 + (y % 16 * 16 + z / 4) = n
  have hfirst : n / 1024 = x := by omega
  have hsecond : n / 16 % 64 = y := by omega
  have hthird : n % 16 * 4 = z := by omega
  rw [hfirst, hsecond, hthird]

theorem encode_three {x y z w : Nat} (hx : x < 64) (hy : y < 64) (hz : z < 64) (hw : w < 64)
    (rest : List UInt8) :
    encode (UInt8.ofNat (x * 4 + y / 16) :: UInt8.ofNat (y % 16 * 16 + z / 4) ::
      UInt8.ofNat (z % 4 * 64 + w) :: rest) =
        digit x :: digit y :: digit z :: digit w :: encode rest := by
  simp only [encode]
  rw [toNat_firstByte hx hy, toNat_secondByte hz, toNat_thirdByte hw]
  generalize hn : ((x * 4 + y / 16) * 256 + (y % 16 * 16 + z / 4)) * 256 + (z % 4 * 64 + w) = n
  have hfirst : n / 262144 = x := by omega
  have hsecond : n / 4096 % 64 = y := by omega
  have hthird : n / 64 % 64 = z := by omega
  have hfourth : n % 64 = w := by omega
  rw [hfirst, hsecond, hthird, hfourth]

/-! ### Standard texts -/

/-- Padding stands behind all other characters. -/
def paddedAtEnd (cs : List Char) : Bool :=
  (cs.dropWhile (· != '=')).all (· == '=')

/-- The bytes of a standard text, which is padded at the end only. -/
def decodeStandard? (cs : List Char) : Option (List UInt8) :=
  if paddedAtEnd cs then decode? cs else none

theorem paddedAtEnd_digit {n : Nat} {cs : List Char} (h : n < 64) :
    paddedAtEnd (digit n :: cs) = paddedAtEnd cs := by
  unfold paddedAtEnd
  rw [List.dropWhile_cons_of_pos (by simpa using (value?_digit h).2)]

theorem paddedAtEnd_cons_padding {cs : List Char} :
    paddedAtEnd ('=' :: cs) = cs.all (· == '=') :=
  rfl

/-- Bytes are written with padding at the end only. -/
theorem paddedAtEnd_encode : ∀ bytes : List UInt8, paddedAtEnd (encode bytes) = true
  | [] => rfl
  | [a] => by
    have ha := a.toNat_lt
    rw [encode, paddedAtEnd_digit (by omega), paddedAtEnd_digit (by omega)]
    rfl
  | [a, b] => by
    have ha := a.toNat_lt
    have hb := b.toNat_lt
    rw [encode, paddedAtEnd_digit (by omega), paddedAtEnd_digit (by omega),
      paddedAtEnd_digit (by omega)]
    rfl
  | a :: b :: c :: rest => by
    have ha := a.toNat_lt
    have hb := b.toNat_lt
    have hc := c.toNat_lt
    rw [encode, paddedAtEnd_digit (by omega), paddedAtEnd_digit (by omega),
      paddedAtEnd_digit (by omega), paddedAtEnd_digit (by omega)]
    exact paddedAtEnd_encode rest

/-- What a group of characters stands for. -/
theorem decodeGroup?_cases {a b c d : Char} {group : List UInt8}
    (h : decodeGroup? a b c d = some group) : ∃ x y, x < 64 ∧ y < 64 ∧ a = digit x ∧ b = digit y ∧
      ((c = '=' ∧ d = '=' ∧ y % 16 = 0 ∧ group = [UInt8.ofNat (x * 4 + y / 16)]) ∨
      (∃ z, z < 64 ∧ c = digit z ∧ d = '=' ∧ z % 4 = 0 ∧
        group = [UInt8.ofNat (x * 4 + y / 16), UInt8.ofNat (y % 16 * 16 + z / 4)]) ∨
      ∃ z w, z < 64 ∧ w < 64 ∧ c = digit z ∧ d = digit w ∧
        group = [UInt8.ofNat (x * 4 + y / 16), UInt8.ofNat (y % 16 * 16 + z / 4),
          UInt8.ofNat (z % 4 * 64 + w)]) := by
  unfold decodeGroup? at h
  obtain ⟨x, hvx, hafter⟩ := Option.bind_eq_some_iff.mp h
  obtain ⟨y, hvy, hbehind⟩ := Option.bind_eq_some_iff.mp hafter
  obtain ⟨hx, rfl⟩ := eq_digit_of_value? hvx
  obtain ⟨hy, rfl⟩ := eq_digit_of_value? hvy
  refine ⟨x, y, hx, hy, rfl, rfl, ?_⟩
  by_cases hboth : c = '=' ∧ d = '='
  · rw [if_pos (by simpa using hboth)] at hbehind
    obtain ⟨hend, hgroup⟩ := Option.ite_none_right_eq_some.mp hbehind
    exact .inl ⟨hboth.1, hboth.2, hend, (Option.some.inj hgroup).symm⟩
  rw [if_neg (by simpa using hboth)] at hbehind
  obtain ⟨z, hvz, hthird⟩ := Option.bind_eq_some_iff.mp hbehind
  obtain ⟨hz, rfl⟩ := eq_digit_of_value? hvz
  by_cases hd : d = '='
  · rw [if_pos hd] at hthird
    obtain ⟨hend, hgroup⟩ := Option.ite_none_right_eq_some.mp hthird
    exact .inr (.inl ⟨z, hz, rfl, hd, hend, (Option.some.inj hgroup).symm⟩)
  · rw [if_neg hd] at hthird
    obtain ⟨w, hvw, hgroup⟩ := Option.bind_eq_some_iff.mp hthird
    obtain ⟨hw, rfl⟩ := eq_digit_of_value? hvw
    exact .inr (.inr ⟨z, w, hz, hw, rfl, rfl, (Option.some.inj hgroup).symm⟩)

/-- Padding alone stands for no bytes, and only where there is none. -/
theorem eq_nil_of_padding : ∀ {cs : List Char} {bytes : List UInt8}, cs.all (· == '=') = true →
    decode? cs = some bytes → cs = [] ∧ bytes = []
  | [], _, _, h => ⟨rfl, (Option.some.inj h).symm⟩
  | a :: b :: c :: d :: rest, _, hcs, h => by
    obtain ⟨group, hgroup, -⟩ := Option.bind_eq_some_iff.mp h
    obtain ⟨x, -, hx, -, ha, -⟩ := decodeGroup?_cases hgroup
    have hpadding : a = '=' := beq_iff_eq.mp (List.all_eq_true.mp hcs a List.mem_cons_self)
    exact absurd (ha.symm.trans hpadding) (value?_digit hx).2
  | [_], _, _, h => by cases h
  | [_, _], _, _, h => by cases h
  | [_, _, _], _, _, h => by cases h

/-- A text with its padding at the end is the one that is written for its bytes. -/
theorem eq_encode_of_decode? : ∀ {cs : List Char} {bytes : List UInt8}, paddedAtEnd cs = true →
    decode? cs = some bytes → cs = encode bytes
  | [], _, _, h => by
    obtain rfl := Option.some.inj h
    rfl
  | a :: b :: c :: d :: rest, bytes, hpadded, h => by
    obtain ⟨group, hgroup, hbehind⟩ := Option.bind_eq_some_iff.mp h
    obtain ⟨more, hmore, hbytes⟩ := Option.bind_eq_some_iff.mp hbehind
    obtain rfl := Option.some.inj hbytes
    obtain ⟨x, y, hx, hy, rfl, rfl, hcases⟩ := decodeGroup?_cases hgroup
    rw [paddedAtEnd_digit hx, paddedAtEnd_digit hy] at hpadded
    rcases hcases with ⟨rfl, rfl, hend, rfl⟩ | ⟨z, hz, rfl, rfl, hend, rfl⟩ |
      ⟨z, w, hz, hw, rfl, rfl, rfl⟩
    · rw [paddedAtEnd_cons_padding, List.all_cons, Bool.and_eq_true] at hpadded
      obtain ⟨rfl, rfl⟩ := eq_nil_of_padding hpadded.2 hmore
      exact (encode_one hx hy hend).symm
    · rw [paddedAtEnd_digit hz, paddedAtEnd_cons_padding] at hpadded
      obtain ⟨rfl, rfl⟩ := eq_nil_of_padding hpadded hmore
      exact (encode_two hx hy hz hend).symm
    · rw [paddedAtEnd_digit hz, paddedAtEnd_digit hw] at hpadded
      rw [eq_encode_of_decode? hpadded hmore]
      exact (encode_three hx hy hz hw more).symm
  | [_], _, _, h => by cases h
  | [_, _], _, _, h => by cases h
  | [_, _, _], _, _, h => by cases h

/-- **The standard texts are the written ones**: what can be read is what is written for its bytes,
and the other way round. -/
theorem decodeStandard?_eq_some_iff {cs : List Char} {bytes : List UInt8} :
    decodeStandard? cs = some bytes ↔ cs = encode bytes := by
  unfold decodeStandard?
  constructor
  · intro h
    split_ifs at h with hpadded
    exact eq_encode_of_decode? hpadded h
  · rintro rfl
    rw [if_pos (paddedAtEnd_encode bytes)]
    exact decode?_encode bytes

end StorageSetup.Text.Base64
