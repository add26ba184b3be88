import StorageSetup.Proofs.Selector
import StorageSetup.Quantity
/-!
# The disks that a volume set includes

The form shows which of the discovered disks pass its filter, and the operator reads the filter from
the resource: kinds and properties as texts, sizes as numbers with a unit. Both agree on every disk
but one. The form computes in words of 64 bits and takes a lower bound beyond them for the largest
word, so a disk of just that size passes where no disk is large enough.

Key definitions: `SizeUnit.bytesOf?`, `Payload.Includes`.
Key theorems: `SizeUnit.bytesOf?_toString`, `LocalVolumeForm.accepts_iff_includes`.
-/

namespace StorageSetup

/-! ### Sizes in texts -/

theorem withoutEnding?_append (ending cs : List Char) :
    withoutEnding? ending (cs ++ ending) = some cs := by
  unfold withoutEnding?
  rw [if_pos (List.isSuffixOf_iff_suffix.mpr (List.suffix_append cs ending)), List.length_append,
    Nat.add_sub_cancel, List.take_left]

namespace Text

theorem parseNat_of_digits {cs : List Char} (hne : cs ≠ []) (h : ∀ c ∈ cs, isDigit c = true) :
    parseNat cs = some (ofDigits cs) := by
  have htest : ¬(cs.isEmpty || !cs.all isDigit) = true := by
    rw [List.isEmpty_eq_false_iff.mpr hne, List.all_eq_true.mpr h]
    decide
  unfold parseNat
  split
  · next rest => exact absurd (h '+' List.mem_cons_self) (by decide)
  · exact if_neg htest

/-- The digits of a number are read as the number. -/
theorem parseNat_toString (n : Nat) : parseNat (toString n).toList = some n := by
  have hdigits : (toString n).toList = Nat.toDigits 10 n := Nat.toList_repr
  rw [hdigits, parseNat_of_digits Nat.toDigits_ne_nil fun _ hc =>
    Nat.isDigit_of_mem_toDigits (by decide) (by decide) hc]
  exact congrArg some Nat.ofDigitChars_ten_toDigits

end Text

/-- The number of bytes that digits with a unit stand for. -/
def SizeUnit.bytesOf? (text : String) : Option Nat :=
  all.findSome? fun u =>
    (withoutEnding? u.code.toList text.toList).bind fun digits =>
      (Text.parseNat digits).map (· * u.bytes)

theorem SizeUnit.bytesOf?_toString (n : Nat) (u : SizeUnit) :
    bytesOf? (toString n ++ u.code) = some (n * u.bytes) := by
  have hread : ((withoutEnding? u.code.toList (toString n ++ u.code).toList).bind fun digits =>
      (Text.parseNat digits).map (· * u.bytes)) = some (n * u.bytes) := by
    rw [String.toList_append, withoutEnding?_append, Option.bind_some, Text.parseNat_toString]
    rfl
  unfold bytesOf? all
  cases u with
  | gi => rw [List.findSome?_cons, hread]
  | ti =>
    have hother : withoutEnding? gi.code.toList (toString n ++ ti.code).toList = none := by
      simp [withoutEnding?, code, List.isSuffixOf, List.isPrefixOf]
    rw [List.findSome?_cons, hother, Option.bind_none, List.findSome?_cons, hread]

/-! ### What the operator includes -/

namespace Device

/-- The mechanical property of a disk. -/
def property (d : Device) : String :=
  if d.rotational then "Rotational" else "NonRotational"

theorem size_le_maxWord (d : Device) : d.size.toNat ≤ Text.maxWord :=
  Nat.le_pred_of_lt d.size.toNat_lt

end Device

namespace Payload

/-- A member of the filter that a volume set hands to the operator. -/
def inclusion? (p : Payload) (key : String) : Option Json :=
  p.body.at? ["spec", "deviceInclusionSpec", key]

/-- The texts that a member of the filter lists. -/
def includedTexts (p : Payload) (key : String) : List String :=
  (p.body.itemsAt ["spec", "deviceInclusionSpec", key]).filterMap Json.string?

/-- The size in bytes that a member of the filter holds. -/
def includedBytes? (p : Payload) (key : String) : Option Nat :=
  ((p.inclusion? key).bind Json.string?).bind SizeUnit.bytesOf?

/-- The volume set lists the kind and the property of the disk. -/
structure IncludesKind (p : Payload) (d : Device) : Prop where
  type : d.deviceType ∈ p.includedTexts "deviceTypes"
  property : d.property ∈ p.includedTexts "deviceMechanicalProperties"

/-- The disk is of a kind that the volume set lists and within its bounds, the upper one if there is
one. -/
structure Includes (p : Payload) (d : Device) : Prop extends p.IncludesKind d where
  minimum : ∃ least, p.includedBytes? "minSize" = some least ∧ least ≤ d.size.toNat
  maximum : (p.inclusion? "maxSize").isSome = true →
    ∃ most, p.includedBytes? "maxSize" = some most ∧ d.size.toNat ≤ most

end Payload

namespace LocalVolumeForm

variable {f : LocalVolumeForm} {namespaceName : String} {p : Payload} {d : Device}

/-! ### The filter in the resource -/

theorem at?_inclusion (h : f.payload? namespaceName = .ok p) (path : List String) :
    p.body.at? ("spec" :: "deviceInclusionSpec" :: path) = f.inclusion.at? path := by
  unfold payload? at h
  dsimp only at h
  split_ifs at h
  cases h
  rw [Payload.at?_spec]
  rfl

theorem maxDeviceCount_of_ok (h : f.payload? namespaceName = .ok p) :
    p.body.at? ["spec", "maxDeviceCount"] = (readPositive? f.maxDiskLimit).map Json.nat := by
  unfold payload? at h
  dsimp only at h
  split_ifs at h
  cases h
  rw [Payload.at?_spec]
  cases readPositive? f.maxDiskLimit <;> rfl

theorem filterMap_string (l : List String) : (l.map Json.str).filterMap Json.string? = l := by
  rw [List.filterMap_map]
  exact List.filterMap_some

theorem deviceTypes_of_ok (h : f.payload? namespaceName = .ok p) :
    p.includedTexts "deviceTypes" = f.deviceTypes.map DeviceType.code := by
  unfold Payload.includedTexts Json.itemsAt
  rw [at?_inclusion h]
  exact filterMap_string _

theorem properties_of_ok (h : f.payload? namespaceName = .ok p) :
    p.includedTexts "deviceMechanicalProperties" = f.diskType.properties := by
  unfold Payload.includedTexts Json.itemsAt
  rw [at?_inclusion h]
  exact filterMap_string _

theorem maxSize_of_ok (h : f.payload? namespaceName = .ok p) : p.inclusion? "maxSize" =
    (readPositive? f.maxDiskSize).map fun n => .str (toString n ++ f.sizeUnit.code) := by
  unfold Payload.inclusion?
  rw [at?_inclusion h]
  unfold inclusion
  cases readPositive? f.maxDiskSize <;> rfl

theorem most_of_ok (h : f.payload? namespaceName = .ok p) : p.includedBytes? "maxSize" =
    (readPositive? f.maxDiskSize).map (· * f.sizeUnit.bytes) := by
  unfold Payload.includedBytes?
  rw [maxSize_of_ok h]
  cases readPositive? f.maxDiskSize with
  | none => rfl
  | some n => exact SizeUnit.bytesOf?_toString n f.sizeUnit

theorem least_of_ok (h : f.payload? namespaceName = .ok p) : p.includedBytes? "minSize" =
    some (f.minDiskSize.toNat * f.sizeUnit.bytes) := by
  have hmin : p.inclusion? "minSize" =
      some (.str (toString f.minDiskSize.toNat ++ f.sizeUnit.code)) := by
    unfold Payload.inclusion?
    rw [at?_inclusion h]
    unfold inclusion
    cases readPositive? f.maxDiskSize <;> rfl
  unfold Payload.includedBytes?
  rw [hmin]
  exact SizeUnit.bytesOf?_toString _ _

theorem includesKind_iff (h : f.payload? namespaceName = .ok p) : p.IncludesKind d ↔
    d.deviceType ∈ f.deviceTypes.map DeviceType.code ∧ d.property ∈ f.diskType.properties := by
  rw [← deviceTypes_of_ok h, ← properties_of_ok h]
  exact ⟨fun hk => ⟨hk.type, hk.property⟩, fun hk => ⟨hk.1, hk.2⟩⟩

theorem includes_iff (h : f.payload? namespaceName = .ok p) : p.Includes d ↔
    p.IncludesKind d ∧ f.minDiskSize.toNat * f.sizeUnit.bytes ≤ d.size.toNat ∧
      ∀ n, readPositive? f.maxDiskSize = some n → d.size.toNat ≤ n * f.sizeUnit.bytes := by
  have hmost := most_of_ok h
  have hmax := maxSize_of_ok h
  constructor
  · intro hi
    obtain ⟨least, hleast, hle⟩ := hi.minimum
    obtain rfl := Option.some.inj ((least_of_ok h).symm.trans hleast)
    refine ⟨hi.toIncludesKind, hle, fun n hn => ?_⟩
    rw [hn] at hmost hmax
    obtain ⟨most, hm, hle⟩ := hi.maximum (by rw [hmax]; rfl)
    obtain rfl := Option.some.inj (hmost.symm.trans hm)
    exact hle
  · rintro ⟨hk, hle, hall⟩
    refine ⟨hk, ⟨_, least_of_ok h, hle⟩, fun hsome => ?_⟩
    cases hn : readPositive? f.maxDiskSize with
    | none =>
      rw [hmax, hn] at hsome
      cases hsome
    | some n =>
      rw [hn] at hmost
      exact ⟨_, hmost, hall n hn⟩

/-! ### The filter in the form -/

theorem readPositive?_of_isBlank {text : String} (h : Text.isBlank text = true) :
    readPositive? text = none := by
  unfold readPositive?
  rw [Text.trim_eq_empty_iff.mpr h]
  rfl

/-- Where a text is blank or a positive number, the number is there unless the text is blank. -/
theorem isSome_readPositive?_iff {text : String}
    (h : (Text.isBlank text || (readPositive? text).isSome) = true) :
    (readPositive? text).isSome = true ↔ Text.isBlank text = false := by
  cases hb : Text.isBlank text with
  | true =>
    rw [readPositive?_of_isBlank hb]
    decide
  | false =>
    rw [hb, Bool.false_or] at h
    exact iff_of_true h rfl

theorem isValid_iff : f.isValid = true ↔ 1 ≤ f.minDiskSize ∧ f.maxSizeIsValid = true ∧
    f.limitIsValid = true ∧ f.deviceTypes ≠ [] := by
  simp [isValid, and_assoc]

/-- A valid upper bound that is there is not below the lower bound. -/
theorem minimum_le_of_valid (h : f.maxSizeIsValid = true) {n : Nat}
    (hn : readPositive? f.maxDiskSize = some n) : f.minDiskSize.toNat ≤ n := by
  unfold maxSizeIsValid at h
  rcases Bool.or_eq_true_iff.mp h with hb | hany
  · rw [readPositive?_of_isBlank hb] at hn
    cases hn
  · rw [hn] at hany
    exact of_decide_eq_true hany

theorem isSome_of_maxSizeIsValid (h : f.maxSizeIsValid = true) :
    (Text.isBlank f.maxDiskSize || (readPositive? f.maxDiskSize).isSome) = true := by
  unfold maxSizeIsValid at h
  rcases Bool.or_eq_true_iff.mp h with hb | hany
  · rw [hb, Bool.true_or]
  · obtain ⟨n, hn, _⟩ := (Option.any_eq_true _ _).mp hany
    rw [hn]
    exact Bool.or_true _

theorem isSome_maxSize_iff (hv : f.maxSizeIsValid = true) (h : f.payload? namespaceName = .ok p) :
    (p.inclusion? "maxSize").isSome = true ↔ Text.isBlank f.maxDiskSize = false := by
  rw [maxSize_of_ok h, Option.isSome_map]
  exact isSome_readPositive?_iff (isSome_of_maxSizeIsValid hv)

theorem isSome_maxDeviceCount_iff (hv : f.limitIsValid = true)
    (h : f.payload? namespaceName = .ok p) :
    (p.body.at? ["spec", "maxDeviceCount"]).isSome = true ↔
      Text.isBlank f.maxDiskLimit = false := by
  rw [maxDeviceCount_of_ok h, Option.isSome_map]
  exact isSome_readPositive?_iff hv

theorem any_ofCode?_iff {l : List DeviceType} {s : String} :
    (DeviceType.ofCode? s).any (fun t => l.contains t) = true ↔ s ∈ l.map DeviceType.code := by
  constructor
  · intro h
    obtain ⟨t, ht, hl⟩ := (Option.any_eq_true _ _).mp h
    have hcode := List.find?_some (p := fun t => DeviceType.code t == s) ht
    exact List.mem_map.mpr ⟨t, List.contains_iff_mem.mp hl, beq_iff_eq.mp hcode⟩
  · intro h
    obtain ⟨t, ht, rfl⟩ := List.mem_map.mp h
    have hcode : DeviceType.ofCode? t.code = some t := by cases t <;> decide
    rw [hcode]
    exact List.contains_iff_mem.mpr ht

theorem accepts_property_iff (t : DiskType) :
    t.accepts d.rotational = true ↔ d.property ∈ t.properties := by
  unfold Device.property
  cases t <;> cases d.rotational <;> decide

/-- A product that does not fit counts as the largest word, which a disk may have as its size. -/
theorem reachesMinimum_iff : f.reachesMinimum d = true ↔
    f.minDiskSize.toNat * f.sizeUnit.bytes ≤ d.size.toNat ∨ d.size.toNat = Text.maxWord := by
  have hd := d.size_le_maxWord
  unfold reachesMinimum saturatingMul
  rw [decide_eq_true_iff]
  omega

/-- No disk is larger than the largest word, so it bounds the size as the product does. -/
theorem withinMaximum_iff : f.withinMaximum d = true ↔
    ∀ n, readPositive? f.maxDiskSize = some n → d.size.toNat ≤ n * f.sizeUnit.bytes := by
  have hd := d.size_le_maxWord
  unfold withinMaximum saturatingMul
  rw [Option.all_eq_true]
  refine forall₂_congr fun n _ => ?_
  rw [decide_eq_true_iff, Nat.le_min, and_iff_left hd]

/-- What the form accepts, apart from the overflow of the lower bound, is what the operator
includes. -/
theorem accepts_iff (h : f.payload? namespaceName = .ok p) (ha : d.status = "Available") :
    f.accepts d = true ↔ p.IncludesKind d ∧
      (f.minDiskSize.toNat * f.sizeUnit.bytes ≤ d.size.toNat ∨ d.size.toNat = Text.maxWord) ∧
      ∀ n, readPositive? f.maxDiskSize = some n → d.size.toNat ≤ n * f.sizeUnit.bytes := by
  unfold accepts
  rw [includesKind_iff h, Bool.and_eq_true, Bool.and_eq_true, Bool.and_eq_true, Bool.and_eq_true,
    any_ofCode?_iff, accepts_property_iff, reachesMinimum_iff, withinMaximum_iff, ha,
    beq_self_eq_true, eq_self, true_and, and_assoc, and_assoc]

/-- **The form accepts the available disks that the operator includes**, with the sizes of the
resource read over the integers, unless the lower bound is beyond the words of 64 bits. There no
disk is included, and those of the largest size are accepted by their kind. The resource bounds the
size from above and the number of disks of a node exactly where the form has a text for it. -/
theorem accepts_iff_includes (f : LocalVolumeForm) (namespaceName : String)
    (hv : f.isValid = true) (hn : Text.isBlank f.name = false) :
    ∃ p, f.payload? namespaceName = .ok p ∧
      ((p.inclusion? "maxSize").isSome = true ↔ Text.isBlank f.maxDiskSize = false) ∧
      ((p.body.at? ["spec", "maxDeviceCount"]).isSome = true ↔
        Text.isBlank f.maxDiskLimit = false) ∧
      ∃ least, p.includedBytes? "minSize" = some least ∧
        ∀ d : Device, d.status = "Available" →
          ((d.size.toNat = Text.maxWord → least ≤ Text.maxWord) →
            (f.accepts d = true ↔ p.Includes d)) ∧
          (Text.maxWord < least → ¬ p.Includes d ∧
            (d.size.toNat = Text.maxWord → (f.accepts d = true ↔ p.IncludesKind d))) := by
  obtain ⟨p, h⟩ := volumeSet_of_open f namespaceName hn
  obtain ⟨_, hmax, hlimit, _⟩ := isValid_iff.mp hv
  refine ⟨p, h, isSome_maxSize_iff hmax h, isSome_maxDeviceCount_iff hlimit h, _, least_of_ok h,
    fun d ha => ⟨fun hfits => ?_, fun hbeyond => ⟨fun hi => ?_, fun hd => ?_⟩⟩⟩
  · rw [accepts_iff h ha, includes_iff h]
    have hiff : f.minDiskSize.toNat * f.sizeUnit.bytes ≤ d.size.toNat ∨
        d.size.toNat = Text.maxWord ↔ f.minDiskSize.toNat * f.sizeUnit.bytes ≤ d.size.toNat :=
      or_iff_left_of_imp fun hd => hd ▸ hfits hd
    rw [hiff]
  · have hle := ((includes_iff h).mp hi).2.1
    exact absurd (Nat.le_trans hle d.size_le_maxWord) (Nat.not_le_of_lt hbeyond)
  · rw [accepts_iff h ha]
    refine and_iff_left ⟨.inr hd, fun n hn => ?_⟩
    -- the upper bound is beyond the words as well
    calc d.size.toNat = Text.maxWord := hd
      _ ≤ f.minDiskSize.toNat * f.sizeUnit.bytes := Nat.le_of_lt hbeyond
      _ ≤ n * f.sizeUnit.bytes := Nat.mul_le_mul_right _ (minimum_le_of_valid hmax hn)

/-! ### A lower bound beyond the words -/

/-- A filter with a name and a lower bound in units of 2^30 bytes. -/
def fromMinimum (minimum : UInt64) : LocalVolumeForm :=
  { name := "localblock", minDiskSize := minimum }

/-- An available disk of so many bytes. -/
def diskOf (size : UInt64) : Device :=
  { node := "n1", path := "/dev/sdb", deviceType := "disk", size, status := "Available" }

theorem accepts_iff_includes_hundredGi : ∃ p,
    (fromMinimum 100).isValid = true ∧ Text.isBlank (fromMinimum 100).name = false ∧
    (fromMinimum 100).payload? "openshift-local-storage" = .ok p ∧
    p.includedBytes? "minSize" = some 107374182400 ∧
    (diskOf 107374182400).status = "Available" ∧
    ((fromMinimum 100).accepts (diskOf 107374182400) = true ↔ p.Includes (diskOf 107374182400)) ∧
    p.Includes (diskOf 107374182400) ∧ ¬ p.Includes (diskOf 107374182399) := by
  have hv : (fromMinimum 100).isValid = true := by decide
  have hn : Text.isBlank (fromMinimum 100).name = false := by decide
  obtain ⟨p, h, _, _, least, hleast, hall⟩ :=
    accepts_iff_includes (fromMinimum 100) "openshift-local-storage" hv hn
  have hat := (hall (diskOf 107374182400) rfl).1 fun hd => absurd hd (by decide)
  have hbelow := (hall (diskOf 107374182399) rfl).1 fun hd => absurd hd (by decide)
  obtain rfl := Option.some.inj ((least_of_ok h).symm.trans hleast)
  exact ⟨p, hv, hn, h, hleast, rfl, hat, hat.mp (by decide),
    fun hi => absurd (hbelow.mpr hi) (by decide)⟩

/-- The form may accept a disk that the operator does not include: with a lower bound of 2^64 bytes
the largest disk is accepted. -/
theorem not_accepts_iff_includes : ¬ ∀ (f : LocalVolumeForm) (namespaceName : String)
    (p : Payload) (d : Device), f.isValid = true → Text.isBlank f.name = false →
      f.payload? namespaceName = .ok p → d.status = "Available" →
      (DeviceType.ofCode? d.deviceType).isSome = true → (f.accepts d = true ↔ p.Includes d) := by
  intro hall
  obtain ⟨p, h⟩ : ∃ p, (fromMinimum 17179869184).payload? "openshift-local-storage" = .ok p :=
    volumeSet_of_open _ _ (by decide)
  have hi : p.Includes (diskOf 18446744073709551615) :=
    (hall _ _ p _ (by decide) (by decide) h rfl (by decide)).mp (by decide)
  exact absurd ((includes_iff h).mp hi).2.1 (by decide)

end LocalVolumeForm

end StorageSetup
