import Mathlib.Tactic.SplitIfs
import StorageSetup.Bucket.Store
/-!
# The documents of a bucket and the requests that wrote them

The requests that succeed decide what a bucket keeps: of each kind it keeps the document that was
put last, unless one was deleted since. Refused requests leave no trace, buckets come neither into
being nor to an end, and what is kept has passed its checks. A document that passes them is taken
unless a block bars it.

Key definitions: `Kind`, `Store.after`, `Store.succeeded`, `Kind.LastPut`.
Key theorems: `Store.run_put_eq_done_iff`, `Store.stored_after`, `Store.keepsValid_after`,
`Store.documents_follow_requests`.
-/

namespace StorageSetup.Bucket

/-! ### Kinds of documents -/

/-- The kinds of documents that a bucket keeps. -/
inductive Kind where
  | policy
  | cors
  | block

namespace Kind

/-- A document of the kind. -/
def Doc : Kind → Type
  | policy => Policy
  | cors => Cors
  | block => AccessBlock

/-- The document of the kind that a bucket keeps. -/
def stored : (k : Kind) → Documents → Option k.Doc
  | policy, d => d.policy
  | cors, d => d.cors
  | block, d => d.accessBlock

def get : Kind → Request
  | policy => .getPolicy
  | cors => .getCors
  | block => .getBlock

def put : (k : Kind) → k.Doc → Request
  | policy, p => .putPolicy p
  | cors, c => .putCors c
  | block, b => .putBlock b

/-- The answer to a request for the document. -/
def answer : (k : Kind) → Option k.Doc → Answer
  | policy, p => .policy p
  | cors, c => .cors c
  | block, b => .block b

/-- What a bucket keeps of the kind after the request: the document put, or none where it was
deleted. Other requests write nothing. -/
def write? : (k : Kind) → Request → Option (Option k.Doc)
  | policy, .putPolicy p => some (some p)
  | policy, .deletePolicy => some none
  | cors, .putCors c => some (some c)
  | cors, .deleteCors => some none
  | block, .putBlock b => some (some b)
  | _, _ => none

/-- The document passes the checks of its kind. -/
def Passes : (k : Kind) → String → k.Doc → Prop
  | policy, bucket, p => p.validate (some bucket) = .ok ()
  | cors, _, c => c.validate = .ok ()
  | block, _, _ => True

/-- The block keeps the document out of its bucket. -/
def Bars : (k : Kind) → AccessBlock → k.Doc → Prop
  | policy, b, p => b.blockPublicPolicy = true ∧ p.isPublic = true
  | cors, _, _ | block, _, _ => False

/-- None of the requests writes the document of the bucket. -/
def Untouched (k : Kind) (bucket : String) (log : List (String × Request)) : Prop :=
  ∀ op ∈ log, op.1 = bucket → k.write? op.2 = none

/-- The document is the one put last into the bucket, and it was not deleted since. -/
def LastPut (k : Kind) (bucket : String) (doc : k.Doc) (log : List (String × Request)) : Prop :=
  ∃ before rest, log = before ++ (bucket, k.put doc) :: rest ∧ k.Untouched bucket rest

variable {k : Kind} {bucket : String} {doc : k.Doc} {op : String × Request}
  {log : List (String × Request)}

theorem write?_eq_some_iff {request : Request} :
    k.write? request = some (some doc) ↔ request = k.put doc := by
  cases k <;> cases request <;> constructor <;> intro h <;> cases h <;> rfl

theorem untouched_cons :
    k.Untouched bucket (op :: log) ↔ (op.1 = bucket → k.write? op.2 = none) ∧
      k.Untouched bucket log :=
  List.forall_mem_cons

theorem lastPut_nil : ¬ k.LastPut bucket doc [] := by
  rintro ⟨before, rest, h, _⟩
  cases before <;> cases h

/-- A request is followed by the last put, or it is the last put itself. -/
theorem lastPut_cons : k.LastPut bucket doc (op :: log) ↔
    k.LastPut bucket doc log ∨ op = (bucket, k.put doc) ∧ k.Untouched bucket log := by
  constructor
  · rintro ⟨before, rest, h, hrest⟩
    cases before with
    | nil =>
      obtain ⟨rfl, rfl⟩ := List.cons.inj h
      exact .inr ⟨rfl, hrest⟩
    | cons first before =>
      obtain ⟨rfl, rfl⟩ := List.cons.inj h
      exact .inl ⟨before, rest, rfl, hrest⟩
  · rintro (⟨before, rest, rfl, hrest⟩ | ⟨rfl, hlog⟩)
    · exact ⟨op :: before, rest, rfl, hrest⟩
    · exact ⟨[], log, rfl, hlog⟩

end Kind

namespace Documents

/-- What the bucket keeps has passed its checks. -/
structure Valid (bucket : String) (d : Documents) : Prop where
  policy : ∀ p, d.policy = some p → p.validate (some bucket) = .ok ()
  cors : ∀ c, d.cors = some c → c.validate = .ok ()

end Documents

/-! ### One request -/

namespace Store

variable {store : Store} {bucket : String} {request : Request}

/-- A request is refused without a trace, or it is answered by its bucket, whose documents are
then those after the answer. -/
theorem run_cases (store : Store) (bucket : String) (request : Request) :
    (∃ e, store.run bucket request = (.error e, store)) ∨
    ∃ (d d' : Documents) (a : Answer) (next : Store), store.get? bucket = some d ∧
      checkDocument bucket request = .ok () ∧ Store.answer bucket d request = .ok (a, d') ∧
      store.run bucket request = (.ok a, next) ∧
      ∀ b, next.get? b = if bucket = b then some d' else store.get? b := by
  unfold run
  cases hc : checkDocument bucket request with
  | error e => exact .inl ⟨e, rfl⟩
  | ok _ =>
    cases hd : store.get? bucket with
    | none => exact .inl ⟨_, rfl⟩
    | some d =>
      cases ha : Store.answer bucket d request with
      | error e => exact .inl ⟨e, by simp only [ha]⟩
      | ok answered =>
        obtain ⟨a, d'⟩ := answered
        refine .inr ⟨d, d', a, store.insert bucket d', rfl, rfl, ha, by simp only [ha], ?_⟩
        exact fun b => Dict.get?_insert store bucket b d'

/-- A bucket that is not there refuses everything. -/
theorem run_of_get?_none (h : store.get? bucket = none) (request : Request) :
    ∃ e, store.run bucket request = (.error e, store) := by
  rcases run_cases store bucket request with hrefused | ⟨d, _, _, _, hd, _⟩
  · exact hrefused
  · rw [h] at hd
    cases hd

/-- An answer leaves of each kind what the request writes, and what was there where it writes
nothing. -/
theorem stored_answer {d d' : Documents} {a : Answer}
    (h : Store.answer bucket d request = .ok (a, d')) (k : Kind) :
    k.stored d' = (k.write? request).getD (k.stored d) := by
  cases request with
  | putPolicy p =>
    unfold Store.answer at h
    dsimp only at h
    split_ifs at h
    cases h
    cases k <;> rfl
  | _ => cases h; cases k <;> rfl

/-- Writing back what a bucket keeps changes nothing. -/
theorem insert_of_get? {d : Documents} (h : store.get? bucket = some d) :
    Dict.insert store bucket d = store := by
  refine Dict.ext_get? fun b => ?_
  rw [Dict.get?_insert]
  split_ifs with hb
  · rw [← hb, h]
  · rfl

/-- A bucket that is there gives its document and keeps it. -/
theorem run_get {d : Documents} (h : store.get? bucket = some d) (k : Kind) :
    store.run bucket k.get = (.ok (k.answer (k.stored d)), store) := by
  have hback := insert_of_get? h
  unfold run
  rw [h]
  cases k <;> exact congrArg (Prod.mk _) hback

/-- A delete is refused by missing buckets alone. -/
theorem run_delete {d : Documents} (h : store.get? bucket = some d) {k : Kind}
    (hrequest : k.write? request = some none) : (store.run bucket request).1 = .ok .done := by
  unfold run
  rw [h]
  cases k <;> cases request <;> cases hrequest <;> rfl

/-- What precedes the look-up of the bucket are the checks of the document. -/
theorem checkDocument_put {k : Kind} {doc : k.Doc} :
    checkDocument bucket (k.put doc) = .ok () ↔ k.Passes bucket doc := by
  cases k with
  | policy =>
    unfold checkDocument Kind.Passes
    dsimp only [Kind.put]
    cases Policy.validate doc (some bucket) with
    | error e => exact iff_of_false nofun nofun
    | ok _ => exact iff_of_true rfl rfl
  | cors =>
    unfold checkDocument Kind.Passes
    dsimp only [Kind.put]
    cases Cors.validate doc with
    | error e => exact iff_of_false nofun nofun
    | ok _ => exact iff_of_true rfl rfl
  | block => exact iff_of_true rfl trivial

/-- A bucket takes a document, or its block bars it. -/
theorem answer_put (bucket : String) (d : Documents) (k : Kind) (doc : k.Doc) :
    ((∃ d', Store.answer bucket d (k.put doc) = .ok (.done, d')) ∧
      ∀ b, d.accessBlock = some b → ¬ k.Bars b doc) ∨
    ((∃ e, Store.answer bucket d (k.put doc) = .error e) ∧
      ∃ b, d.accessBlock = some b ∧ k.Bars b doc) := by
  cases k with
  | policy =>
    have hbarred : (d.accessBlock.any (·.blockPublicPolicy) && Policy.isPublic doc) = true ↔
        ∃ b, d.accessBlock = some b ∧ Kind.policy.Bars b doc := by
      rw [Bool.and_eq_true, Option.any_eq_true]
      exact ⟨fun ⟨⟨b, hb, hblock⟩, hpublic⟩ => ⟨b, hb, hblock, hpublic⟩,
        fun ⟨b, hb, hblock, hpublic⟩ => ⟨⟨b, hb, hblock⟩, hpublic⟩⟩
    by_cases h : ∃ b, d.accessBlock = some b ∧ Kind.policy.Bars b doc
    · exact .inr ⟨⟨_, if_pos (hbarred.mpr h)⟩, h⟩
    · exact .inl ⟨⟨_, if_neg (mt hbarred.mp h)⟩, fun b hb hbars => h ⟨b, hb, hbars⟩⟩
  | cors => exact .inl ⟨⟨_, rfl⟩, fun _ _ => not_false⟩
  | block => exact .inl ⟨⟨_, rfl⟩, fun _ _ => not_false⟩

/-- **A bucket that is there takes a document just where it passes its checks and no block bars
it.** -/
theorem run_put_eq_done_iff {d : Documents} (h : store.get? bucket = some d) (k : Kind)
    (doc : k.Doc) : (store.run bucket (k.put doc)).1 = .ok .done ↔
      k.Passes bucket doc ∧ ∀ b, d.accessBlock = some b → ¬ k.Bars b doc := by
  unfold run
  rw [h, ← checkDocument_put]
  cases checkDocument bucket (k.put doc) with
  | error e => exact iff_of_false nofun nofun
  | ok _ =>
    dsimp only
    rcases answer_put bucket d k doc with ⟨⟨d', ha⟩, hfree⟩ | ⟨⟨e, ha⟩, b, hb, hbars⟩
    · rw [ha]
      exact iff_of_true rfl ⟨rfl, hfree⟩
    · rw [ha]
      exact iff_of_false nofun fun hfree => hfree.2 b hb hbars

/-- What is put has passed its checks. -/
theorem valid_answer {d d' : Documents} {a : Answer} (hc : checkDocument bucket request = .ok ())
    (h : Store.answer bucket d request = .ok (a, d')) (hd : d.Valid bucket) : d'.Valid bucket := by
  cases request with
  | putPolicy p =>
    unfold Store.answer at h
    dsimp only at h
    split_ifs at h
    cases h
    exact ⟨fun _ hp => Option.some.inj hp ▸ (checkDocument_put (k := .policy)).mp hc, hd.cors⟩
  | putCors c =>
    cases h
    exact ⟨hd.policy, fun _ hput => Option.some.inj hput ▸ (checkDocument_put (k := .cors)).mp hc⟩
  | deletePolicy => cases h; exact ⟨nofun, hd.cors⟩
  | deleteCors => cases h; exact ⟨hd.policy, nofun⟩
  | _ => cases h; exact ⟨hd.policy, hd.cors⟩

/-- Every bucket keeps documents that have passed their checks. -/
def KeepsValid (store : Store) : Prop :=
  ∀ bucket d, store.get? bucket = some d → d.Valid bucket

theorem keepsValid_run (h : store.KeepsValid) : (store.run bucket request).2.KeepsValid := by
  rcases run_cases store bucket request with ⟨e, he⟩ | ⟨d, d', a, next, hd, hc, ha, he, hnext⟩
  · rw [he]
    exact h
  · rw [he]
    intro b found hfound
    rw [hnext] at hfound
    split_ifs at hfound with hb
    · cases hfound
      exact hb ▸ valid_answer hc ha (h bucket d hd)
    · exact h b found hfound

/-- No request creates a bucket or takes one away. -/
theorem get?_run_eq_none_iff {b : String} :
    (store.run bucket request).2.get? b = none ↔ store.get? b = none := by
  rcases run_cases store bucket request with ⟨e, he⟩ | ⟨d, d', a, next, hd, -, -, he, hnext⟩
  · rw [he]
  · rw [he, hnext]
    split_ifs with hb
    · rw [← hb, hd]
      exact iff_of_false nofun nofun
    · rfl

/-! ### Requests in order -/

/-- The store after several requests in order, each to a bucket. -/
def after (store : Store) (ops : List (String × Request)) : Store :=
  ops.foldl (fun store op => (store.run op.1 op.2).2) store

/-- The requests among several in order that are not refused. -/
def succeeded (store : Store) : List (String × Request) → List (String × Request)
  | [] => []
  | op :: ops =>
    let rest := (store.run op.1 op.2).2.succeeded ops
    if (store.run op.1 op.2).1.isOk then op :: rest else rest

theorem keepsValid_after : ∀ (ops : List (String × Request)) {store : Store}, store.KeepsValid →
    (store.after ops).KeepsValid
  | [], _, h => h
  | _ :: ops, _, h => keepsValid_after ops (keepsValid_run h)

theorem get?_after_eq_none_iff {b : String} : ∀ (ops : List (String × Request)) {store : Store},
    (store.after ops).get? b = none ↔ store.get? b = none
  | [], _ => Iff.rfl
  | _ :: ops, _ => (get?_after_eq_none_iff ops).trans get?_run_eq_none_iff

/-- A refused request is not in the log and leaves the store. -/
theorem succeeded_of_refused {op : String × Request} {e : StoreError}
    (h : store.run op.1 op.2 = (.error e, store)) (ops : List (String × Request)) :
    store.succeeded (op :: ops) = store.succeeded ops ∧
      store.after (op :: ops) = store.after ops := by
  simp [succeeded, after, h, Except.isOk, Except.toBool]

theorem succeeded_of_answered {op : String × Request} {a : Answer} {next : Store}
    (h : store.run op.1 op.2 = (.ok a, next)) (ops : List (String × Request)) :
    store.succeeded (op :: ops) = op :: next.succeeded ops ∧
      store.after (op :: ops) = next.after ops := by
  simp [succeeded, after, h, Except.isOk, Except.toBool]

/-- **A bucket keeps the document put last, or the one it began with where none was written.** -/
theorem stored_after {b : String} {k : Kind} (doc : k.Doc) :
    ∀ (ops : List (String × Request)) {store : Store} {d₀ : Documents}, store.get? b = some d₀ →
      ∃ d, (store.after ops).get? b = some d ∧
        (k.stored d = some doc ↔ k.LastPut b doc (store.succeeded ops) ∨
          k.stored d₀ = some doc ∧ k.Untouched b (store.succeeded ops))
  | [], _, d₀, h => by
    refine ⟨d₀, h, ?_⟩
    simp [succeeded, Kind.lastPut_nil, Kind.Untouched]
  | op :: ops, store, d₀, h => by
    rcases run_cases store op.1 op.2 with ⟨e, he⟩ | ⟨d, d', a, next, hd, -, ha, he, hnext⟩
    · obtain ⟨hlog, hafter⟩ := succeeded_of_refused he ops
      rw [hlog, hafter]
      exact stored_after doc ops h
    · obtain ⟨hlog, hafter⟩ := succeeded_of_answered he ops
      have hfirst := hnext b
      rw [hlog, hafter, Kind.lastPut_cons, Kind.untouched_cons]
      split_ifs at hfirst with hb
      · -- the first request is answered by the bucket itself
        obtain ⟨last, hlast, hiff⟩ := stored_after doc ops hfirst
        refine ⟨last, hlast, hiff.trans ?_⟩
        have hd₀ : d = d₀ := Option.some.inj (hd.symm.trans (hb ▸ h))
        rw [stored_answer ha k, hd₀]
        cases hw : k.write? op.2 with
        | none =>
          have hput : ¬ op = (b, k.put doc) := by
            rintro rfl
            rw [Kind.write?_eq_some_iff.mpr rfl] at hw
            cases hw
          simp [hput]
        | some written =>
          have hput : written = some doc ↔ op = (b, k.put doc) := by
            rw [Prod.ext_iff, ← Kind.write?_eq_some_iff (k := k), hw]
            simp [hb]
          simp [hput, hb]
      · obtain ⟨last, hlast, hiff⟩ := stored_after doc ops (hfirst.trans h)
        refine ⟨last, hlast, hiff.trans ?_⟩
        have hput : ¬ op = (b, k.put doc) := fun he => hb (congrArg Prod.fst he)
        simp [hput, hb]

/-! ### The history of a store -/

/-- A new store has the named buckets, without documents. -/
theorem get?_ofNames (names : List String) (b : String) :
    (ofNames names).get? b = if b ∈ names then some {} else none := by
  have hfold : ∀ (names : List String) (l : List (String × Documents)),
      lookupEntry b ((names.map fun n => (n, {})).foldl (fun d e => insertEntry e.1 e.2 d) l) =
        if b ∈ names then some {} else lookupEntry b l := by
    intro names
    induction names with
    | nil => simp
    | cons n names ih =>
      intro l
      rw [List.map_cons, List.foldl_cons, ih, lookupEntry_insertEntry]
      by_cases hb : b ∈ names <;> by_cases hn : n = b <;> simp [hb, hn, @eq_comm _ b n]
  exact hfold names []

/-- **What a store answers follows from the requests that it has answered.** Of each kind a bucket
gives the document put last if none was deleted since, and none otherwise. It takes a document just
where it passes its checks and the block put last does not bar it, and takes every delete. It keeps
only what passes the checks, a refused request changes nothing, and a bucket that was not there at
the beginning refuses everything and never appears. -/
theorem documents_follow_requests (names : List String) (ops : List (String × Request)) :
    let store := (ofNames names).after ops
    (∀ b ∈ names, ∀ k : Kind,
      (∃ doc?, store.run b k.get = (.ok (k.answer doc?), store) ∧
        ∀ doc, doc? = some doc ↔ k.LastPut b doc ((ofNames names).succeeded ops)) ∧
      (∀ doc, (store.run b (k.put doc)).1 = .ok .done ↔ k.Passes b doc ∧
        ∀ block, Kind.block.LastPut b block ((ofNames names).succeeded ops) →
          ¬ k.Bars block doc) ∧
      ∀ request, k.write? request = some none → (store.run b request).1 = .ok .done) ∧
    (∀ b d, store.get? b = some d → d.Valid b) ∧
    (∀ b request e, (store.run b request).1 = .error e → (store.run b request).2 = store) ∧
    ∀ b ∉ names, store.get? b = none ∧
      ∀ request, ∃ e, store.run b request = (.error e, store) := by
  intro store
  refine ⟨fun b hb k => ?_, ?_, fun b request e he => ?_, fun b hb => ?_⟩
  · have hempty : (ofNames names).get? b = some {} := by rw [get?_ofNames, if_pos hb]
    obtain ⟨d, hd⟩ : ∃ d, store.get? b = some d :=
      Option.ne_none_iff_exists'.mp (mt (get?_after_eq_none_iff ops).mp (by simp [hempty]))
    have hlast (k : Kind) (doc : k.Doc) :
        k.stored d = some doc ↔ k.LastPut b doc ((ofNames names).succeeded ops) := by
      obtain ⟨last, hlast, hiff⟩ := stored_after doc ops hempty
      rw [← Option.some.inj (hd.symm.trans hlast)] at hiff
      have hnone : k.stored {} ≠ some doc := by cases k <;> exact nofun
      simpa only [hnone, false_and, or_false] using hiff
    refine ⟨⟨k.stored d, run_get hd k, hlast k⟩, fun doc => ?_, fun request => run_delete hd⟩
    rw [run_put_eq_done_iff hd]
    exact and_congr_right' (forall_congr' fun block => imp_congr_left (hlast .block block))
  · refine keepsValid_after ops fun b d hd => ?_
    rw [get?_ofNames] at hd
    split_ifs at hd
    cases hd
    exact ⟨nofun, nofun⟩
  · rcases run_cases store b request with ⟨_, hrefused⟩ | ⟨_, _, a, _, _, _, _, hrun, _⟩
    · rw [hrefused]
    · rw [hrun] at he
      cases he
  · have hnone : store.get? b = none :=
      (get?_after_eq_none_iff ops).mpr (by rw [get?_ofNames, if_neg hb])
    exact ⟨hnone, run_of_get?_none hnone⟩

end Store
end StorageSetup.Bucket
