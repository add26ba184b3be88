import StorageSetup.Proofs.Gate
/-!
# Reading a connection back from its URL

The address of an external database is five texts joined by four delimiters, as they are. A text may
hold the delimiter that ends it, and then the address can be cut at another place: one more cut with
filled texts exists exactly where some single delimiter can move to an occurrence of its character
in one of the two texts beside it. Where no text holds the delimiter behind it, the address can be
cut from left to right.

Key definitions: `Text.joined`, `Text.Movable`, `Postgres.Accepted`, `Postgres.SameParts`.
Key theorems: `Text.eq_or_movable`, `Text.exists_ne_of_movable`, `Postgres.url_determines_iff`.
-/

namespace StorageSetup

namespace Text

/-! ### Texts joined by delimiters -/

/-- The texts one after another, each but the first behind its delimiter. -/
def joined (first : List Char) : List (Char × List Char) → List Char
  | [] => first
  | (c, next) :: rest => first ++ c :: joined next rest

/-- The text is not blank. -/
def Filled (cs : List Char) : Prop :=
  ∃ c ∈ cs, isSpace c = false

/-- None of the texts is blank. -/
def AllFilled (first : List Char) (rest : List (Char × List Char)) : Prop :=
  Filled first ∧ ∀ field ∈ rest, Filled field.2

/-- Some delimiter may stand elsewhere: its character occurs in the text before it, behind something
filled, or in the text behind it, before something filled. -/
def Movable (first : List Char) : List (Char × List Char) → Prop
  | [] => False
  | (c, next) :: rest =>
    (∃ x y, first = x ++ c :: y ∧ Filled x) ∨ (∃ x y, next = x ++ c :: y ∧ Filled y) ∨
      Movable next rest

/-- No text holds the delimiter that ends it. -/
def CutFree (first : List Char) : List (Char × List Char) → Prop
  | [] => True
  | (c, next) :: rest => c ∉ first ∧ CutFree next rest

/-- No text holds a delimiter that stands beside it. -/
def Apart (first : List Char) : List (Char × List Char) → Prop
  | [] => True
  | (c, next) :: rest => (c ∉ first ∧ c ∉ next) ∧ Apart next rest

theorem Filled.append_left {x : List Char} (h : Filled x) (y : List Char) : Filled (x ++ y) := by
  obtain ⟨c, hc, hs⟩ := h
  exact ⟨c, List.mem_append_left y hc, hs⟩

theorem Filled.append_right {y : List Char} (h : Filled y) (x : List Char) : Filled (x ++ y) := by
  obtain ⟨c, hc, hs⟩ := h
  exact ⟨c, List.mem_append_right x hc, hs⟩

theorem filled_iff {s : String} : Filled s.toList ↔ isBlank s = false := by
  unfold Filled isBlank
  simp

theorem joined_append (x first : List Char) (rest : List (Char × List Char)) :
    joined (x ++ first) rest = x ++ joined first rest := by
  cases rest <;> simp [joined]

/-- Two cuts of one text at a character agree, or one of them lies in what the other has in front. -/
theorem cut_cases {c : Char} {first first' tail tail' : List Char}
    (h : first ++ c :: tail = first' ++ c :: tail') :
    (first = first' ∧ tail = tail') ∨
      (∃ x, first' = first ++ c :: x ∧ tail = x ++ c :: tail') ∨ ∃ y, first = first' ++ c :: y := by
  rcases List.append_eq_append_iff.mp h with ⟨mid, hfirst, htail⟩ | ⟨mid, hfirst, htail⟩
  · cases mid with
    | nil =>
      rw [List.nil_append] at htail
      exact .inl ⟨by simpa using hfirst.symm, (List.cons.inj htail).2⟩
    | cons d x =>
      obtain ⟨rfl, ht⟩ := List.cons.inj htail
      exact .inr (.inl ⟨x, hfirst, ht⟩)
  · cases mid with
    | nil =>
      rw [List.nil_append] at htail
      exact .inl ⟨by simpa using hfirst, (List.cons.inj htail).2.symm⟩
    | cons d y =>
      obtain ⟨rfl, _⟩ := List.cons.inj htail
      exact .inr (.inr ⟨y, hfirst⟩)

/-- **Another way to cut moves one delimiter.** If a joined text can also be cut into other filled
texts at the same delimiters, one of them can move by itself. -/
theorem eq_or_movable : ∀ (rest rest' : List (Char × List Char)) (first first' : List Char),
    rest.map Prod.fst = rest'.map Prod.fst → AllFilled first' rest' →
    joined first rest = joined first' rest' → (first = first' ∧ rest = rest') ∨ Movable first rest
  | [], [], _, _, _, _, h => .inl ⟨h, rfl⟩
  | (c, next) :: rest, (c', next') :: rest', first, first', hchars, ⟨hfirst, hfilled⟩, h => by
    obtain ⟨rfl, htails⟩ : c = c' ∧ rest.map Prod.fst = rest'.map Prod.fst := by
      simpa using hchars
    obtain ⟨hnext, hrest⟩ := List.forall_mem_cons.mp hfilled
    rcases cut_cases h with ⟨rfl, htail⟩ | ⟨x, rfl, htail⟩ | ⟨y, rfl⟩
    · rcases eq_or_movable rest rest' next next' htails ⟨hnext, hrest⟩ htail with
        ⟨rfl, rfl⟩ | hmove
      · exact .inl ⟨rfl, rfl⟩
      · exact .inr (.inr (.inr hmove))
    · -- the other cut lies further on: what is behind it is cut as if it began right here
      have hjoin : joined next rest = joined ((x ++ [c]) ++ next') rest' := by
        rw [joined_append, htail]
        simp
      rcases eq_or_movable rest rest' next ((x ++ [c]) ++ next') htails
        ⟨hnext.append_right _, hrest⟩ hjoin with ⟨rfl, -⟩ | hmove
      · exact .inr (.inr (.inl ⟨x, next', by simp, hnext⟩))
      · exact .inr (.inr (.inr hmove))
    · exact .inr (.inl ⟨first', y, rfl, hfirst⟩)

/-- **A delimiter that can move gives another way to cut.** -/
theorem exists_ne_of_movable : ∀ (rest : List (Char × List Char)) (first : List Char),
    AllFilled first rest → Movable first rest →
    ∃ first' rest', rest'.map Prod.fst = rest.map Prod.fst ∧ AllFilled first' rest' ∧
      joined first' rest' = joined first rest ∧ ¬ (first' = first ∧ rest' = rest)
  | (c, next) :: rest, first, ⟨hfirst, hfilled⟩, hmove => by
    obtain ⟨hnext, hrest⟩ := List.forall_mem_cons.mp hfilled
    rcases hmove with ⟨x, y, rfl, hx⟩ | ⟨x, y, rfl, hy⟩ | hmove
    · refine ⟨x, (c, (y ++ [c]) ++ next) :: rest, rfl, ⟨hx, ?_⟩, ?_, fun h => ?_⟩
      · exact List.forall_mem_cons.mpr ⟨hnext.append_right _, hrest⟩
      · simp only [joined, joined_append]
        simp
      · have hlen := congrArg List.length h.1
        simp at hlen
    · refine ⟨(first ++ [c]) ++ x, (c, y) :: rest, rfl, ⟨?_, ?_⟩, ?_, fun h => ?_⟩
      · exact (hfirst.append_left _).append_left _
      · exact List.forall_mem_cons.mpr ⟨hy, hrest⟩
      · have hbehind : joined (x ++ c :: y) rest = x ++ c :: joined y rest := by
          rw [List.append_cons, joined_append]
          simp
        simp [joined, hbehind]
      · have hlen := congrArg List.length h.1
        simp at hlen
    · obtain ⟨next', rest', hchars, ⟨hnext', hrest'⟩, hjoin, hne⟩ :=
        exists_ne_of_movable rest next ⟨hnext, hrest⟩ hmove
      refine ⟨first, (c, next') :: rest', by simp [hchars], ⟨hfirst, ?_⟩, ?_, fun h => hne ?_⟩
      · exact List.forall_mem_cons.mpr ⟨hnext', hrest'⟩
      · simp only [joined, hjoin]
      · simpa using h.2

theorem Apart.not_movable : ∀ {rest : List (Char × List Char)} {first : List Char},
    Apart first rest → ¬ Movable first rest
  | (_, _) :: _, _, ⟨⟨hfirst, hnext⟩, hrest⟩, hmove => by
    rcases hmove with ⟨x, y, rfl, -⟩ | ⟨x, y, rfl, -⟩ | hmove
    · exact hfirst (by simp)
    · exact hnext (by simp)
    · exact hrest.not_movable hmove

/-- **Texts free of their delimiters are cut from left to right.** -/
theorem eq_of_cutFree : ∀ (rest rest' : List (Char × List Char)) (first first' : List Char),
    rest.map Prod.fst = rest'.map Prod.fst → CutFree first rest → CutFree first' rest' →
    joined first rest = joined first' rest' → first = first' ∧ rest = rest'
  | [], [], _, _, _, _, _, h => ⟨h, rfl⟩
  | (c, next) :: rest, (c', next') :: rest', first, first', hchars, ⟨hc, hfree⟩, ⟨hc', hfree'⟩,
      h => by
    obtain ⟨rfl, htails⟩ : c = c' ∧ rest.map Prod.fst = rest'.map Prod.fst := by
      simpa using hchars
    rcases cut_cases h with ⟨rfl, htail⟩ | ⟨x, rfl, -⟩ | ⟨y, rfl⟩
    · obtain ⟨rfl, rfl⟩ := eq_of_cutFree rest rest' next next' htails hfree hfree' htail
      exact ⟨rfl, rfl⟩
    · exact absurd (by simp) hc'
    · exact absurd (by simp) hc

end Text

/-! ### The address of a database -/

namespace Postgres

/-- The gate of the first step is open in some settings that use the connection. -/
def Accepted (p : Postgres) : Prop :=
  ∃ (s : State) (r : Registry), s.backingStorage.useExternalPostgres = true ∧
    s.backingStorage.postgres = p ∧ checkStep .backingStorage s r = .ok ()

/-- Both connect to the same database as the same user with the same password. -/
structure SameParts (p q : Postgres) : Prop where
  username : p.username = q.username
  password : p.password = q.password
  serverName : p.serverName = q.serverName
  port : p.port = q.port
  databaseName : p.databaseName = q.databaseName

/-- The texts behind the user name in an address, each with its delimiter. -/
def fields (p : Postgres) : List (Char × List Char) := [
  (':', p.password.toList), ('@', p.serverName.toList), (':', p.port.toList),
  ('/', p.databaseName.toList)]

/-- The connection with other texts. -/
def withFields (p : Postgres) (username password serverName port databaseName : List Char) :
    Postgres :=
  { p with
    username := .ofList username
    password := .ofList password
    serverName := .ofList serverName
    port := .ofList port
    databaseName := .ofList databaseName }

variable {p q : Postgres}

theorem toList_url (p : Postgres) :
    p.url.toList = "postgres://".toList ++ Text.joined p.username.toList p.fields := by
  have hcolon : ":".toList = [':'] := rfl
  have hat : "@".toList = ['@'] := rfl
  have hslash : "/".toList = ['/'] := rfl
  unfold url fields
  simp only [Text.joined, String.toList_append, hcolon, hat, hslash, List.append_assoc,
    List.cons_append, List.nil_append]

theorem url_eq_iff : p.url = q.url ↔
    Text.joined p.username.toList p.fields = Text.joined q.username.toList q.fields := by
  rw [← String.toList_inj, toList_url, toList_url, List.append_cancel_left_eq]

theorem sameParts_iff :
    p.SameParts q ↔ p.username.toList = q.username.toList ∧ p.fields = q.fields := by
  constructor
  · rintro ⟨hu, hp, hs, hport, hd⟩
    exact ⟨congrArg String.toList hu, by simp only [fields, hp, hs, hport, hd]⟩
  · rintro ⟨hu, hf⟩
    simp only [fields, List.cons.injEq, Prod.mk.injEq, true_and, and_true,
      String.toList_inj] at hf
    exact ⟨String.toList_inj.mp hu, hf.1, hf.2.1, hf.2.2.1, hf.2.2.2⟩

theorem allFilled_iff : Text.AllFilled p.username.toList p.fields ↔
    ∀ text ∈ Gate.postgresTexts p, Text.isBlank text.2 = false := by
  simp [Text.AllFilled, fields, Gate.postgresTexts, Text.filled_iff]

/-- A connection is accepted where its texts are filled in and its client keys can be read. -/
theorem accepted_iff : p.Accepted ↔ Text.AllFilled p.username.toList p.fields ∧
    (p.usesClientCerts = true → Gate.clientKeys p.tls.keys = .ok ()) := by
  rw [allFilled_iff, ← Gate.postgres_eq_ok_iff]
  constructor
  · rintro ⟨s, r, huse, rfl, hopen⟩
    exact (Gate.backingStorage_eq_ok_iff.mp hopen).2 huse
  · intro h
    let s : State :=
      { backingStorage := { type := .localDevices, useExternalPostgres := true, postgres := p } }
    exact ⟨s, .builtins, rfl, rfl, Gate.backingStorage_eq_ok_iff.mpr ⟨rfl, fun _ => h⟩⟩

/-- A connection without client certificates needs its texts only. -/
theorem accepted_of_texts (hcerts : p.usesClientCerts = false)
    (htexts : ∀ text ∈ Gate.postgresTexts p, Text.isBlank text.2 = false) : p.Accepted := by
  refine accepted_iff.mpr ⟨allFilled_iff.mpr htexts, fun hc => ?_⟩
  rw [hcerts] at hc
  cases hc

theorem toList_username_withFields
    (username password serverName port databaseName : List Char) :
    (p.withFields username password serverName port databaseName).username.toList = username :=
  String.toList_ofList

/-- Other texts at the delimiters of an address are those of some connection. -/
theorem exists_withFields {rest : List (Char × List Char)}
    (h : rest.map Prod.fst = p.fields.map Prod.fst) (first : List Char) :
    ∃ password serverName port databaseName,
      (p.withFields first password serverName port databaseName).fields = rest := by
  rcases rest with _ | ⟨⟨_, password⟩, _ | ⟨⟨_, serverName⟩, _ | ⟨⟨_, port⟩,
    _ | ⟨⟨_, databaseName⟩, _ | _⟩⟩⟩⟩ <;> simp [fields] at h
  obtain ⟨rfl, rfl, rfl, rfl⟩ := h
  exact ⟨password, serverName, port, databaseName, by simp [withFields, fields]⟩

/-- **Which addresses can be read back.** Another accepted connection has the same address exactly
where some delimiter of it may stand elsewhere. Connections whose texts are free of the delimiters
behind them are told apart by their addresses. -/
theorem url_determines_iff (p : Postgres) (h : p.Accepted) :
    ((∀ q : Postgres, q.Accepted → q.url = p.url → q.SameParts p) ↔
      ¬ Text.Movable p.username.toList p.fields) ∧
    (Text.CutFree p.username.toList p.fields → ∀ q : Postgres,
      Text.CutFree q.username.toList q.fields → q.url = p.url → q.SameParts p) := by
  obtain ⟨hfilled, hkeys⟩ := accepted_iff.mp h
  refine ⟨⟨fun hall hmove => ?_, fun hfixed q hq hurl => ?_⟩, fun hfree q hfree' hurl => ?_⟩
  · obtain ⟨first, rest, hchars, hfilled', hjoin, hne⟩ :=
      Text.exists_ne_of_movable p.fields p.username.toList hfilled hmove
    obtain ⟨password, serverName, port, databaseName, rfl⟩ := exists_withFields hchars first
    let q := p.withFields first password serverName port databaseName
    have huser : q.username.toList = first := toList_username_withFields ..
    have hq : q.Accepted := accepted_iff.mpr ⟨by rw [huser]; exact hfilled', hkeys⟩
    have hurl : q.url = p.url := by
      rw [url_eq_iff, huser]
      exact hjoin
    have hsame := sameParts_iff.mp (hall q hq hurl)
    exact hne ⟨huser.symm.trans hsame.1, hsame.2⟩
  · rw [sameParts_iff]
    have hfilled' := (accepted_iff.mp hq).1
    rcases Text.eq_or_movable p.fields q.fields p.username.toList q.username.toList rfl hfilled'
      (url_eq_iff.mp hurl).symm with ⟨huser, hfields⟩ | hmove
    · exact ⟨huser.symm, hfields.symm⟩
    · exact absurd hmove hfixed
  · rw [sameParts_iff]
    exact Text.eq_of_cutFree _ _ _ _ rfl hfree' hfree (url_eq_iff.mp hurl)

/-- A user with a password that reads on like an address. -/
def behindPassword : Postgres where
  username := "noobaa"
  password := "secret@rogue:1/x"
  serverName := "db"
  port := "5432"
  databaseName := "nbcore"

/-- The connection that its address can be cut into. -/
def intoPassword : Postgres where
  username := "noobaa"
  password := "secret"
  serverName := "rogue"
  port := "1"
  databaseName := "x@db:5432/nbcore"

/-- A password may hold characters that end no text before it. -/
def plainPassword : Postgres where
  username := "noobaa"
  password := "s/e%c?r#et"
  serverName := "db.example.com"
  port := "5432"
  databaseName := "nbcore"

theorem url_determines_iff_plainPassword :
    plainPassword.Accepted ∧
    ∀ q : Postgres, q.Accepted → q.url = plainPassword.url → q.SameParts plainPassword := by
  have h : plainPassword.Accepted := accepted_of_texts rfl (by decide)
  have hapart : Text.Apart plainPassword.username.toList plainPassword.fields :=
    ⟨by decide, by decide, by decide, by decide, trivial⟩
  exact ⟨h, (url_determines_iff plainPassword h).1.mpr hapart.not_movable⟩

/-- A password can change the server, the port and the database that an address leads to. -/
theorem not_url_determines : ¬ ∀ p q : Postgres, p.Accepted → q.Accepted → p.url = q.url →
    p.SameParts q := by
  intro hall
  have hp : behindPassword.Accepted := accepted_of_texts rfl (by decide)
  have hq : intoPassword.Accepted := accepted_of_texts rfl (by decide)
  have hurl : behindPassword.url = intoPassword.url := by decide
  exact absurd (hall _ _ hp hq hurl).serverName (by decide)

end Postgres

end StorageSetup
