import StorageSetup.Bucket.Template
import StorageSetup.Proofs.PolicyForm
/-!
# Ready-made policies for their bucket

A template writes the name of the bucket into the resources of its only statement, and the checks of
a policy read it back from there up to the first slash. So the policy passes for its own bucket
where the name has no slash, and also where it begins with a star and a slash, because the star
stands for every bucket. The account is written as it is given, and a star is read as everyone.

Key definitions: `Template.Fits`.
Key theorems: `Template.coversObject_iff_fits`, `Template.wellFormed_statement_iff`,
`Template.isPublic_statement_iff`, `Template.render_exact`.
-/

namespace StorageSetup.Bucket

namespace Template

variable {t : Template} {bucket : String} {account : Option String} {s : Statement} {p : Policy}

/-! ### The resources of a bucket -/

/-- The name is read back from a resource as that of the bucket or of all buckets. -/
def Fits (bucket : String) : Prop :=
  '/' ∉ bucket.toList ∨ ∃ key, bucket = "*/" ++ key

theorem fits_iff : Fits bucket ↔
    bucket.toList.takeWhile (· ≠ '/') = bucket.toList ∨
      bucket.toList.takeWhile (· ≠ '/') = ['*'] := by
  have hstar : (∃ key, bucket = "*/" ++ key) ↔ ∃ key, bucket.toList = ['*'] ++ '/' :: key := by
    constructor
    · rintro ⟨key, rfl⟩
      exact ⟨key.toList, by simp⟩
    · rintro ⟨key, hkey⟩
      exact ⟨String.ofList key, String.toList_inj.mp (by simp [hkey])⟩
  unfold Fits
  rw [takeWhile_slash_eq_iff, takeWhile_slash_eq_iff, hstar]
  constructor
  · rintro (hslash | hkey)
    · exact .inl ⟨hslash, .inl rfl⟩
    · exact .inr ⟨by decide, .inr hkey⟩
  · rintro (⟨hslash, -⟩ | ⟨-, hstar | hkey⟩)
    · exact .inl hslash
    · exact .inl (by simp [hstar])
    · exact .inr hkey

/-- The objects of a bucket are found in the bucket that itself is found. -/
theorem takeWhile_objects (bucket : String) : (bucket ++ "/*").toList.takeWhile (· ≠ '/') =
    bucket.toList.takeWhile (· ≠ '/') := by
  obtain ⟨hslash, hrest⟩ := takeWhile_slash_eq_iff.mp
    (rfl : bucket.toList.takeWhile (· ≠ '/') = bucket.toList.takeWhile (· ≠ '/'))
  refine takeWhile_slash_eq_iff.mpr ⟨hslash, .inr ?_⟩
  rw [String.toList_append]
  rcases hrest with hwhole | ⟨key, hkey⟩
  · exact ⟨['*'], by rw [← hwhole]; rfl⟩
  · exact ⟨key ++ "/*".toList, by rw [← List.cons_append, ← List.append_assoc, ← hkey]⟩

/-- **Both resources of a bucket belong to it where its name fits.** -/
theorem coversObject_iff_fits {resource : String}
    (h : resource = bucketArn bucket ∨ resource = objectsArn bucket) :
    CoversObject (some bucket) resource ↔ Fits bucket := by
  have hnamed : resourceBucket? resource = some (bucket.toList.takeWhile (· ≠ '/')) := by
    rcases h with rfl | rfl
    · exact resourceBucket?_append bucket
    · rw [objectsArn, bucketArn, String.append_assoc, resourceBucket?_append, takeWhile_objects]
  rw [coversObject_iff, hnamed, fits_iff]
  simp

/-! ### The statement -/

/-- A template can be filled in unless it asks for an account and is given none or a blank one. -/
theorem exists_statement_iff (t : Template) (bucket : String) (account : Option String) :
    (∃ s, t.statement bucket account = .ok s) ↔
    (t = .accountAccess → ∃ a ∈ account, Text.isBlank a = false) := by
  cases t with
  | accountAccess =>
    cases account with
    | none => simp [statement]
    | some a => cases hblank : Text.isBlank a <;> simp [statement, hblank]
  | _ => simp [statement]

/-- The statement for an account has the account as it is given. -/
theorem exists_account_of_statement (h : accountAccess.statement bucket account = .ok s) :
    ∃ a, account = some a ∧ s = ⟨some "AccountAccess", .allow, .aws (.many [a]), .one "s3:*",
      .many [bucketArn bucket, objectsArn bucket], none⟩ := by
  cases account with
  | none => cases h
  | some a =>
    cases hblank : Text.isBlank a with
    | true => simp [statement, hblank] at h
    | false =>
      simp only [statement, hblank, Bool.false_eq_true, if_false, Except.ok.injEq] at h
      exact ⟨a, rfl, h.symm⟩

/-- What the statements of all templates share: a principal, one action of the store, and the
objects of the bucket, with the bucket itself or without. -/
theorem statement_shape (h : t.statement bucket account = .ok s) :
    s.principal.WellFormed ∧ (∃ name, s.action = .one ("s3:" ++ name)) ∧
      objectsArn bucket ∈ s.resource.toList ∧
      ∀ resource ∈ s.resource.toList,
        resource = bucketArn bucket ∨ resource = objectsArn bucket := by
  cases t with
  | publicRead =>
    cases h
    exact ⟨rfl, ⟨"GetObject", rfl⟩, by simp [OneOrMany.toList], by simp [OneOrMany.toList]⟩
  | accountAccess =>
    obtain ⟨a, -, rfl⟩ := exists_account_of_statement h
    exact ⟨trivial, ⟨"*", rfl⟩, by simp [OneOrMany.toList], by simp [OneOrMany.toList]⟩
  | secureTransport =>
    cases h
    exact ⟨rfl, ⟨"*", rfl⟩, by simp [OneOrMany.toList], by simp [OneOrMany.toList]⟩
  | denyDelete =>
    cases h
    exact ⟨rfl, ⟨"DeleteObject", rfl⟩, by simp [OneOrMany.toList], by simp [OneOrMany.toList]⟩

/-- **The statement of a template is well formed for the bucket where its name fits.** -/
theorem wellFormed_statement_iff (h : t.statement bucket account = .ok s) :
    s.WellFormed (some bucket) ↔ Fits bucket := by
  obtain ⟨hprincipal, ⟨name, haction⟩, hobjects, hresources⟩ := statement_shape h
  constructor
  · intro hs
    exact (coversObject_iff_fits (.inr rfl)).mp (hs.objects _ hobjects)
  · intro hfits
    refine ⟨hprincipal, ?_, ?_, List.ne_nil_of_mem hobjects, fun resource hr => ?_⟩
    · simp [haction, OneOrMany.toList]
    · intro a ha
      rw [haction, OneOrMany.toList, List.mem_singleton] at ha
      exact ⟨name, ha⟩
    · exact (coversObject_iff_fits (hresources resource hr)).mpr hfits

/-- **A statement grants anyone something** in the template for that, and in the one for an account
where the account is the star. -/
theorem isPublic_statement_iff (h : t.statement bucket account = .ok s) :
    s.isPublic = true ↔ t = .publicRead ∨ t = .accountAccess ∧ account = some "*" := by
  cases t with
  | accountAccess =>
    obtain ⟨a, rfl, rfl⟩ := exists_account_of_statement h
    simp [Statement.isPublic, Principal.isAnyone, OneOrMany.toList, eq_comm]
  | publicRead =>
    cases h
    exact iff_of_true rfl (.inl rfl)
  | secureTransport =>
    cases h
    simp [Statement.isPublic]
  | denyDelete =>
    cases h
    simp [Statement.isPublic]

/-! ### The policy -/

theorem exists_statement_of_render (h : t.render bucket account = .ok p) :
    ∃ s, t.statement bucket account = .ok s ∧ p = ⟨policyVersion, [s]⟩ := by
  unfold render at h
  cases hs : t.statement bucket account with
  | error e =>
    rw [hs] at h
    cases h
  | ok s =>
    rw [hs] at h
    cases h
    exact ⟨s, rfl, rfl⟩

/-- A policy of one statement is well formed where the statement is. -/
theorem wellFormed_singleton_iff {bucket : Option String} :
    (Policy.mk policyVersion [s]).WellFormed bucket ↔ s.WellFormed bucket := by
  constructor
  · intro h
    exact h.statements s List.mem_cons_self
  · intro h
    have hsids : (sids [s]).Nodup := by
      cases hsid : s.sid <;> simp [sids, hsid]
    exact ⟨.inl rfl, List.cons_ne_nil s [], hsids, List.forall_mem_singleton.mpr h⟩

/-- **What a template makes.** It can be filled in unless it is for an account and there is none.
The policy passes the checks for its own bucket exactly where the name has no slash, or only behind
a star that it begins with, and it is public exactly for public reading or where the account is the
star. -/
theorem render_exact (t : Template) (bucket : String) (account : Option String) :
    ((∃ p, t.render bucket account = .ok p) ↔
      (t = .accountAccess → ∃ a ∈ account, Text.isBlank a = false)) ∧
    ∀ p, t.render bucket account = .ok p →
      (p.validate (some bucket) = .ok () ↔
        '/' ∉ bucket.toList ∨ ∃ key, bucket = "*/" ++ key) ∧
      (p.isPublic = true ↔ t = .publicRead ∨ t = .accountAccess ∧ account = some "*") := by
  refine ⟨?_, fun p h => ?_⟩
  · rw [← exists_statement_iff t bucket account]
    constructor
    · rintro ⟨p, h⟩
      obtain ⟨s, hs, -⟩ := exists_statement_of_render h
      exact ⟨s, hs⟩
    · rintro ⟨s, hs⟩
      exact ⟨⟨policyVersion, [s]⟩, by rw [render, hs]; rfl⟩
  · obtain ⟨s, hs, rfl⟩ := exists_statement_of_render h
    constructor
    · rw [Policy.validate_eq_ok_iff, wellFormed_singleton_iff, wellFormed_statement_iff hs]
      rfl
    · rw [← isPublic_statement_iff hs]
      simp [Policy.isPublic]

theorem render_exact_account : ∃ p,
    accountAccess.render "logs" (some "arn:aws:iam::123456789012:root") = .ok p ∧
    p.validate (some "logs") = .ok () ∧ p.isPublic = false := by
  obtain ⟨hrender, hall⟩ :=
    render_exact accountAccess "logs" (some "arn:aws:iam::123456789012:root")
  obtain ⟨p, hp⟩ := hrender.mpr fun _ => ⟨_, rfl, by decide⟩
  obtain ⟨hvalid, hpublic⟩ := hall p hp
  refine ⟨p, hp, hvalid.mpr (.inl (by decide)), ?_⟩
  rw [Bool.eq_false_iff, Ne, hpublic]
  decide

/-- The account of a template may be everyone, and the name of a bucket may be read back as that of
another. -/
theorem not_render_safe :
    (¬ ∀ (t : Template) (bucket : String) (account : Option String) (p : Policy),
      t.render bucket account = .ok p → (p.isPublic = true ↔ t = .publicRead)) ∧
    ¬ ∀ (t : Template) (bucket : String) (account : Option String) (p : Policy),
      t.render bucket account = .ok p → p.validate (some bucket) = .ok () := by
  constructor
  · intro hall
    have hpublic := hall .accountAccess "site" (some "*") _ rfl
    exact absurd (hpublic.mp (by decide)) (by decide)
  · intro hall
    have hvalid := hall .publicRead "site/logs" none _ rfl
    exact absurd hvalid (by decide)

end Template

end StorageSetup.Bucket
