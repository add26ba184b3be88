import Mathlib.Data.List.DropRight
import Mathlib.Data.List.TakeWhile
import StorageSetup.Proofs.References
/-!
# The address of the key management service

The address of a Vault is a host that may have a scheme in front and a path behind it. The URL made
of it takes the port at its very end: where the path is more than slashes the port goes to the path,
and the authority of the URL is the host alone. Slashes at the end of an address are dropped first,
so they do not matter.

Key definitions: `Url.cut?`, `Url.scheme?`, `Url.authority?`, `Address`, `Kms.vaultUrl?`.
Key theorems: `Address.withoutSlashes_text_cases`, `Address.keeps_endpoint_iff`,
`endpoint_withSlashes`, `Kms.vaultUrl_keeps_iff`.
-/

namespace StorageSetup

/-! ### Parts of a URL -/

namespace Url

/-- The mark between the scheme and the authority. -/
def schemeMark : List Char := [':', '/', '/']

/-- The text before the first mark and the text behind it. -/
def cut? : List Char → Option (List Char × List Char)
  | [] => none
  | c :: rest =>
    match Text.withoutBeginning? schemeMark (c :: rest) with
    | some tail => some ([], tail)
    | none => (cut? rest).map fun (s, tail) => (c :: s, tail)

/-- The scheme of a URL. -/
def scheme? (url : String) : Option String :=
  (cut? url.toList).map fun (s, _) => String.ofList s

/-- The text between the mark behind the scheme and the next slash, or the end. -/
def authority? (url : String) : Option String :=
  (cut? url.toList).map fun (_, tail) => String.ofList (tail.takeWhile (· ≠ '/'))

variable {ys : List Char}

theorem cut?_cons_of_ne {c : Char} (hc : c ≠ ':') (rest : List Char) :
    cut? (c :: rest) = (cut? rest).map fun (s, tail) => (c :: s, tail) := by
  rw [cut?, schemeMark, Text.withoutBeginning?, if_neg hc.symm]

/-- A URL is cut behind its scheme. -/
theorem cut?_append (tail : List Char) : ∀ {s : List Char}, ':' ∉ s →
    cut? (s ++ (schemeMark ++ tail)) = some (s, tail)
  | [], _ => rfl
  | c :: s, h => by
    rw [List.mem_cons, not_or] at h
    rw [List.cons_append, cut?_cons_of_ne (Ne.symm h.1), cut?_append tail h.2]
    rfl

/-- What is in front of a slash without a colon belongs to the scheme, and the slash too. -/
theorem slash_mem_of_cut? : ∀ {xs s tail : List Char}, ':' ∉ xs →
    cut? (xs ++ '/' :: ys) = some (s, tail) → '/' ∈ s
  | [], s, _, _, h => by
    rw [List.nil_append, cut?_cons_of_ne (by decide)] at h
    obtain ⟨_, _, he⟩ := Option.map_eq_some_iff.mp h
    rw [← (Prod.mk.inj he).1]
    exact List.mem_cons_self
  | x :: xs, s, _, hx, h => by
    rw [List.mem_cons, not_or] at hx
    rw [List.cons_append, cut?_cons_of_ne (Ne.symm hx.1)] at h
    obtain ⟨⟨s', tail'⟩, hcut, he⟩ := Option.map_eq_some_iff.mp h
    rw [← (Prod.mk.inj he).1]
    exact List.mem_cons_of_mem x (slash_mem_of_cut? hx.2 hcut)

/-- A mark begins with a colon. -/
theorem containsText_append (tail : List Char) : ∀ {s : List Char}, ':' ∉ s →
    Text.containsText schemeMark (s ++ tail) = Text.containsText schemeMark tail
  | [], _ => rfl
  | c :: s, h => by
    rw [List.mem_cons, not_or] at h
    have hprefix : schemeMark.isPrefixOf (c :: (s ++ tail)) = false := by
      rw [schemeMark, List.isPrefixOf_cons_cons, beq_false_of_ne h.1, Bool.false_and]
    rw [List.cons_append, Text.containsText, hprefix, Bool.false_or, containsText_append tail h.2]

end Url

/-! ### Slashes at the end -/

section

variable {xs ys : List Char}

theorem withoutSlashes_append_replicate (xs : List Char) (n : Nat) :
    withoutSlashes (xs ++ List.replicate n '/') = withoutSlashes xs := by
  unfold withoutSlashes
  rw [List.reverse_append, List.reverse_replicate]
  congr 1
  induction n with
  | zero => rfl
  | succ n ih => rw [List.replicate_succ, List.cons_append, List.dropWhile_cons_of_pos (by simp), ih]

theorem withoutSlashes_eq_self (h : ∀ hne : xs ≠ [], xs.getLast hne ≠ '/') :
    withoutSlashes xs = xs :=
  List.rdropWhile_eq_self_iff.mpr fun hne => by simpa using h hne

/-- Only the last part of a text loses slashes, where it is not all slashes. -/
theorem withoutSlashes_append (xs : List Char) (h : ∃ c ∈ ys, c ≠ '/') :
    withoutSlashes (xs ++ ys) = xs ++ withoutSlashes ys := by
  unfold withoutSlashes
  rw [List.reverse_append, List.dropWhile_append]
  obtain ⟨c, hc, hne⟩ := h
  have hkept : (ys.reverse.dropWhile (· = '/')).isEmpty = false := by
    rw [Bool.eq_false_iff, ne_eq, List.isEmpty_iff, List.dropWhile_eq_nil_iff]
    exact fun hall => hne (by simpa using hall c (List.mem_reverse.mpr hc))
  rw [hkept, if_neg Bool.false_ne_true, List.reverse_append, List.reverse_reverse]

end

/-! ### Addresses -/

/-- An address: a host that may have a scheme in front and a path behind it. -/
structure Address where
  scheme : Option (List Char)
  host : List Char
  path : List Char
  scheme_free : ∀ s ∈ scheme, ':' ∉ s
  colon_free : ':' ∉ host
  slash_free : '/' ∉ host
  path_begins : path = [] ∨ ∃ rest, path = '/' :: rest

namespace Address

/-- The scheme with its mark, and the host. -/
def front (a : Address) : List Char :=
  a.scheme.elim [] (· ++ Url.schemeMark) ++ a.host

/-- The address in one text. -/
def text (a : Address) : String :=
  String.ofList (a.front ++ a.path)

/-- The port of an address lands on its host: nothing but slashes stands behind the host, which is
not empty behind a scheme, and the port holds no slash. -/
def PortLands (a : Address) (port : String) : Prop :=
  (∀ c ∈ a.path, c = '/') ∧ '/' ∉ port.toList ∧ (a.host = [] → a.scheme = none)

/-- The URL has the scheme of the address, or the one for addresses without a scheme, and for its
authority the host with the port. -/
def Keeps (a : Address) (port : String) (url : String) : Prop :=
  Url.scheme? url = some (String.ofList (a.scheme.getD "https".toList)) ∧
    Url.authority? url = some (String.ofList (a.host ++ ':' :: port.toList))

variable {a : Address} {port : String}

theorem keeps_iff {url : String} {s tail : List Char} (hcut : Url.cut? url.toList = some (s, tail)) :
    a.Keeps port url ↔ s = a.scheme.getD "https".toList ∧
      tail.takeWhile (· ≠ '/') = a.host ++ ':' :: port.toList := by
  unfold Keeps Url.scheme? Url.authority?
  rw [hcut]
  simp only [Option.map_some, Option.some.injEq, String.ofList_inj]

end Address

/-! ### The URL of an address -/

/-- The text with a scheme in front where it has none. -/
def withScheme (cs : List Char) : List Char :=
  if Text.containsText Url.schemeMark cs then cs else "https".toList ++ Url.schemeMark ++ cs

theorem toList_endpoint (address : String) {port : String} (hport : port ≠ "") :
    (endpoint address port (some "https")).toList =
      withScheme (withoutSlashes address.toList) ++ ':' :: port.toList := by
  have hempty : port.isEmpty = false := by simpa using hport
  unfold endpoint
  dsimp only
  rw [hempty, if_neg Bool.false_ne_true, String.toList_ofList]
  rfl

/-- Slashes at the end of an address do not matter. -/
theorem endpoint_withSlashes (address port : String) (scheme : Option String) (n : Nat) :
    endpoint (address ++ Text.fill n '/') port scheme = endpoint address port scheme := by
  have hslashes : withoutSlashes (address ++ Text.fill n '/').toList =
      withoutSlashes address.toList := by
    rw [String.toList_append, Text.fill, String.toList_ofList, withoutSlashes_append_replicate]
  unfold endpoint
  rw [hslashes]

namespace Address

variable {a : Address} {port : String} {x : List Char}

/-- A URL is cut behind the scheme of its address, or behind the one it was given. -/
theorem cut?_withScheme (rest : List Char)
    (hx : a.scheme = none → Text.containsText Url.schemeMark x = false) :
    Url.cut? (withScheme (a.front ++ x) ++ rest) =
      some (a.scheme.getD "https".toList, a.host ++ (x ++ rest)) := by
  unfold withScheme front
  cases hs : a.scheme with
  | none =>
    have hmark : Text.containsText Url.schemeMark (a.host ++ x) = false :=
      (Url.containsText_append x a.colon_free).trans (hx hs)
    rw [Option.elim_none, List.nil_append, hmark, if_neg Bool.false_ne_true, List.append_assoc,
      List.append_assoc, List.append_assoc, Url.cut?_append _ (by decide)]
    rfl
  | some s =>
    have hfree : ':' ∉ s := a.scheme_free s hs
    have hmark : Text.containsText Url.schemeMark (s ++ (Url.schemeMark ++ (a.host ++ x))) = true :=
      Url.containsText_append _ hfree
    rw [Option.elim_some, List.append_assoc, List.append_assoc, hmark, if_pos rfl,
      List.append_assoc, List.append_assoc, List.append_assoc, Url.cut?_append _ hfree]
    rfl

theorem takeWhile_host (a : Address) (tail : List Char) :
    (a.host ++ tail).takeWhile (· ≠ '/') = a.host ++ tail.takeWhile (· ≠ '/') :=
  List.takeWhile_append_of_pos fun c hc => by
    simpa using fun h : c = '/' => a.slash_free (h ▸ hc)

/-- Behind the bare host the port is part of the authority, up to a slash in it. -/
theorem keeps_front_iff {url : String}
    (hurl : url.toList = withScheme a.front ++ ':' :: port.toList) :
    a.Keeps port url ↔ '/' ∉ port.toList := by
  have hcut : Url.cut? url.toList = some (a.scheme.getD "https".toList,
      a.host ++ ':' :: port.toList) := by
    rw [hurl, ← List.append_nil a.front, cut?_withScheme _ fun _ => rfl, List.nil_append]
  rw [keeps_iff hcut, takeWhile_host, List.takeWhile_cons_of_pos (by decide), List.append_cancel_left_eq,
    List.cons_inj_right, List.takeWhile_eq_self_iff]
  simp only [true_and, ne_eq, decide_not, Bool.not_eq_true', decide_eq_false_iff_not]
  exact ⟨fun h hmem => h _ hmem rfl, fun h c hc he => h (he ▸ hc)⟩

/-- Behind a path the port is part of it. -/
theorem not_keeps_path {url : String}
    (hurl : url.toList = withScheme (a.front ++ '/' :: x) ++ ':' :: port.toList) :
    ¬ a.Keeps port url := by
  by_cases hx : a.scheme = none → Text.containsText Url.schemeMark ('/' :: x) = false
  · have hcut := cut?_withScheme (':' :: port.toList) hx
    rw [← hurl] at hcut
    rw [keeps_iff hcut, takeWhile_host, List.cons_append, List.takeWhile_cons_of_neg (by decide)]
    rintro ⟨-, h⟩
    simpa using congrArg List.length h
  · -- a mark in the path of an address without a scheme: the path is taken for part of the scheme
    obtain ⟨hs, hmark⟩ := Classical.not_imp.mp hx
    rw [Bool.not_eq_false] at hmark
    have hfront : a.front = a.host := by
      unfold front
      rw [hs]
      rfl
    have hkept : withScheme (a.host ++ '/' :: x) = a.host ++ '/' :: x := by
      rw [withScheme, Url.containsText_append _ a.colon_free, hmark, if_pos rfl]
    rw [hfront, hkept, List.append_assoc, List.cons_append] at hurl
    rintro ⟨hscheme, -⟩
    obtain ⟨⟨s, tail⟩, hcut, he⟩ := Option.map_eq_some_iff.mp hscheme
    rw [hs] at he
    have hhttps : s = "https".toList := String.ofList_injective he
    rw [hurl] at hcut
    have hslash := Url.slash_mem_of_cut? a.colon_free hcut
    rw [hhttps] at hslash
    exact absurd hslash (by decide)

/-- A scheme without a host is taken for a host. -/
theorem not_keeps_scheme {url : String} {s : List Char} (hs : a.scheme = some s)
    (hhost : a.host = []) (hurl : url.toList = withScheme (s ++ [':']) ++ ':' :: port.toList) :
    ¬ a.Keeps port url := by
  have hmark : Text.containsText Url.schemeMark (s ++ [':']) = false :=
    Url.containsText_append _ (a.scheme_free s hs)
  have hcut : Url.cut? url.toList = some ("https".toList, s ++ ':' :: ':' :: port.toList) := by
    rw [hurl, withScheme, hmark, if_neg Bool.false_ne_true, List.append_assoc, List.append_assoc,
      Url.cut?_append _ (by decide), List.append_assoc]
    rfl
  rw [keeps_iff hcut, hs, hhost]
  rintro ⟨rfl, h⟩
  cases h

/-- An address without its last slashes. -/
theorem withoutSlashes_text_cases (a : Address) :
    ((∃ c ∈ a.path, c ≠ '/') ∧ ∃ x, withoutSlashes a.text.toList = a.front ++ '/' :: x) ∨
    ((∀ c ∈ a.path, c = '/') ∧
      ((a.host = [] → a.scheme = none) ∧ withoutSlashes a.text.toList = a.front ∨
        ∃ s, a.scheme = some s ∧ a.host = [] ∧ withoutSlashes a.text.toList = s ++ [':'])) := by
  rw [text, String.toList_ofList]
  by_cases hpath : ∃ c ∈ a.path, c ≠ '/'
  · refine .inl ⟨hpath, ?_⟩
    rcases a.path_begins with he | ⟨rest, he⟩
    · rw [he] at hpath
      obtain ⟨c, hc, -⟩ := hpath
      cases hc
    · have hrest : ∃ c ∈ rest, c ≠ '/' := by
        obtain ⟨c, hc, hne⟩ := hpath
        rw [he] at hc
        exact ⟨c, (List.mem_cons.mp hc).resolve_left hne, hne⟩
      rw [withoutSlashes_append _ hpath, he]
      exact ⟨_, congrArg _ (withoutSlashes_append ['/'] hrest)⟩
  · have hall : ∀ c ∈ a.path, c = '/' := fun c hc => by_contra fun hne => hpath ⟨c, hc, hne⟩
    refine .inr ⟨hall, ?_⟩
    rw [List.eq_replicate_of_mem hall, withoutSlashes_append_replicate]
    by_cases hhost : a.host = []
    · cases hs : a.scheme with
      | none =>
        refine .inl ⟨fun _ => rfl, ?_⟩
        unfold front
        rw [hs, hhost]
        rfl
      | some s =>
        refine .inr ⟨s, rfl, hhost, ?_⟩
        have hfront : a.front = (s ++ [':']) ++ List.replicate 2 '/' := by
          unfold front
          rw [hs, hhost]
          simp [Url.schemeMark]
        rw [hfront, withoutSlashes_append_replicate]
        exact withoutSlashes_eq_self fun _ => by simp
    · refine .inl ⟨fun h => absurd h hhost, withoutSlashes_eq_self fun hne => ?_⟩
      unfold front at hne ⊢
      rw [List.getLast_append_of_ne_nil _ hhost]
      exact fun h => a.slash_free (h ▸ List.getLast_mem hhost)

/-- **Where a port lands on the host of an address.** -/
theorem keeps_endpoint_iff (a : Address) {port : String} (hport : port ≠ "") :
    a.Keeps port (endpoint a.text port (some "https")) ↔ a.PortLands port := by
  have hurl := toList_endpoint a.text hport
  unfold PortLands
  rcases a.withoutSlashes_text_cases with ⟨⟨c, hc, hne⟩, x, hx⟩ | ⟨hall, ⟨hhost, hx⟩ | ⟨s, hs, hhost, hx⟩⟩
  · rw [hx] at hurl
    exact iff_of_false (not_keeps_path hurl) fun h => hne (h.1 c hc)
  · rw [hx] at hurl
    rw [keeps_front_iff hurl]
    exact ⟨fun h => ⟨hall, h, hhost⟩, fun h => h.2.1⟩
  · rw [hx] at hurl
    refine iff_of_false (not_keeps_scheme hs hhost hurl) fun h => ?_
    exact absurd ((h.2.2 hhost).symm.trans hs) nofun

end Address

/-! ### The details of the connection -/

theorem Vault.address_details (v : Vault) :
    v.details.get? "VAULT_ADDR" = some (endpoint v.address v.port (some "https")) := by
  unfold details
  cases v.auth <;> cases v.caCert <;>
    simp [Dict.get?_insert, Dict.get?_ofList, sortEntries, lookupEntry_insertEntry]

/-- The URL of the Vault in the first resource of the key management. -/
def Kms.vaultUrl? (k : Kms) (namespaceName : String) : Option String :=
  (k.payloads namespaceName).head?.bind (·.text? ["data", "VAULT_ADDR"])

theorem Kms.vaultUrl?_eq {k : Kms} (hk : k.provider = .vault) (namespaceName : String) :
    k.vaultUrl? namespaceName =
      some (endpoint k.vault.address k.vault.port (some "https")) := by
  unfold vaultUrl? payloads
  rw [hk]
  exact (text_configMap _ _ _ _).trans k.vault.address_details

/-- The key management with slashes behind the address of its Vault. -/
def Kms.withSlashes (k : Kms) (n : Nat) : Kms :=
  { k with vault := { k.vault with address := k.vault.address ++ Text.fill n '/' } }

/-- **Where the Vault address keeps its authority.** The URL that the operators read has the scheme
of the address, or `https`, and the host with the port as its authority just if the path of the
address is slashes only, the port holds none, and the host is not empty behind a scheme. Slashes
at the end of the address change nothing. -/
theorem Kms.vaultUrl_keeps_iff (k : Kms) (hk : k.provider = .vault) (a : Address)
    (ha : k.vault.address = a.text) (hport : k.vault.port ≠ "") (namespaceName : String) :
    ∃ url, k.vaultUrl? namespaceName = some url ∧
      (a.Keeps k.vault.port url ↔ a.PortLands k.vault.port) ∧
      ∀ n, (k.withSlashes n).vaultUrl? namespaceName = some url := by
  refine ⟨_, vaultUrl?_eq hk namespaceName, ?_, fun n => ?_⟩
  · rw [ha]
    exact a.keeps_endpoint_iff hport
  · have hslashes : (k.withSlashes n).vault.address = k.vault.address ++ Text.fill n '/' := rfl
    have hk' : (k.withSlashes n).provider = .vault := hk
    rw [vaultUrl?_eq hk', hslashes, endpoint_withSlashes]
    rfl

/-- An address with a scheme and a path. -/
def Address.https (path : List Char) (h : path = [] ∨ ∃ rest, path = '/' :: rest) : Address where
  scheme := some "https".toList
  host := "vault.example.com".toList
  path := path
  scheme_free := by decide
  colon_free := by decide
  slash_free := by decide
  path_begins := h

/-- A Vault at an address. -/
def Kms.vaultAt (a : Address) : Kms where
  provider := .vault
  vault := { address := a.text, port := "8200" }

/-- Two slashes at the end do not keep the port from the host. -/
theorem Kms.vaultUrl_keeps_iff_twoSlashes :
    let a := Address.https ['/', '/'] (.inr ⟨_, rfl⟩)
    (vaultAt a).provider = .vault ∧ (vaultAt a).vault.address = a.text ∧
      (vaultAt a).vault.port ≠ "" ∧
      ∃ url, (vaultAt a).vaultUrl? "openshift-storage" = some url ∧ a.Keeps "8200" url := by
  intro a
  have hport : (vaultAt a).vault.port ≠ "" := by decide
  obtain ⟨url, hurl, hkeeps, -⟩ := vaultUrl_keeps_iff (vaultAt a) rfl a rfl hport "openshift-storage"
  have hpath : ∀ c ∈ a.path, c = '/' := by simp [a, Address.https]
  have hslash : '/' ∉ (vaultAt a).vault.port.toList := by simp [vaultAt]
  have hhost : a.host ≠ [] := by simp [a, Address.https]
  exact ⟨rfl, rfl, hport, url, hurl, hkeeps.mpr ⟨hpath, hslash, fun h => absurd h hhost⟩⟩

/-- With a path the authority is the host alone. -/
theorem Kms.not_vaultUrl_keeps : ¬ ∀ (k : Kms) (a : Address) (namespaceName : String),
    k.provider = .vault → k.vault.address = a.text → k.vault.port ≠ "" →
    ∃ url, k.vaultUrl? namespaceName = some url ∧ a.Keeps k.vault.port url := by
  intro hall
  let a := Address.https "/v1".toList (.inr ⟨_, rfl⟩)
  obtain ⟨url, hurl, -, hauthority⟩ := hall (vaultAt a) a "openshift-storage" rfl rfl (by decide)
  obtain rfl : "https://vault.example.com/v1:8200" = url :=
    Option.some.inj (hurl.symm.trans (by decide +kernel)).symm
  revert hauthority
  decide +kernel

end StorageSetup
