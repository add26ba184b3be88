import Mathlib.Tactic.SplitIfs
import StorageSetup.Cluster.Server
/-!
# Servers that hold objects

What a client relies on. A server holds objects in their places, and what it refuses does not depend
on what it holds. A request that is not refused is answered from what is held: an object is read in
its place, created where none is, and changed by a merge patch. Where that cannot be done the server
answers with an error and stays as it is. Nothing else is assumed, so a server may refuse what it
likes; the one that is defined with the clients is one of many.

Key definitions: `ObjectStore`, `ObjectStore.SameElsewhere`, `ObjectServer`.
Key theorems: `ObjectServer.get_cases`, `ObjectServer.post_cases`, `ObjectServer.patch_cases`.
-/

namespace StorageSetup

/-- Objects that are held in places. -/
class ObjectStore (σ : Type) where
  /-- The object in a place. -/
  held? : σ → Target → Option Json
  /-- One more object is held. -/
  added : σ → Json → σ
  /-- Another object is held in a place. -/
  replaced : σ → Target → Json → σ
  /-- What is held in a place belongs there. -/
  isAt_of_held {s : σ} {t : Target} {o : Json} : held? s t = some o → Server.isAt t o = true
  /-- An object that is added is held where nothing was. -/
  held_added {s : σ} {t : Target} {o : Json} : held? s t = none → Server.isAt t o = true →
    held? (added s o) t = some o
  /-- Other places stay. -/
  held_added_of_not {s : σ} {t : Target} {o : Json} : Server.isAt t o = false →
    held? (added s o) t = held? s t
  /-- An object that takes the place of another is held there. -/
  held_replaced {s : σ} {t : Target} {o new : Json} : held? s t = some o →
    Server.isAt t new = true → held? (replaced s t new) t = some new
  /-- Places of neither object stay. -/
  held_replaced_of_not {s : σ} {t u : Target} {o new : Json} : held? s t = some o →
    Server.isAt u o = false → Server.isAt u new = false → held? (replaced s t new) u = held? s u
  /-- An object in its own place changes nothing. -/
  replaced_self {s : σ} {t : Target} {o : Json} : held? s t = some o → replaced s t o = s

/-- Servers that hold objects and answer from them. -/
class ObjectServer (σ : Type) extends ApiServer σ, ObjectStore σ where
  /-- The answer to a request that the server does not admit. -/
  refusal? : σ → Request → Option Rejection
  /-- What is refused does not depend on what is held. -/
  refusal_added (s : σ) (o : Json) (r : Request) : refusal? (added s o) r = refusal? s r
  refusal_replaced (s : σ) (t : Target) (o : Json) (r : Request) :
    refusal? (replaced s t o) r = refusal? s r
  handle_of_refusal {s : σ} {r : Request} {e : Rejection} : refusal? s r = some e →
    handle s r = (.error e, s)
  /-- The object in a place is read. -/
  handle_get {s : σ} {t : Target} {n : String} {o : Json} : t.name = some n →
    refusal? s { method := .get, target := t } = none → held? s t = some o →
    handle s { method := .get, target := t } = (.ok o, s)
  handle_get_absent {s : σ} {t : Target} {n : String} : t.name = some n →
    refusal? s { method := .get, target := t } = none → held? s t = none →
    ∃ e, handle s { method := .get, target := t } = (.error e, s)
  /-- An object is created where none of its name is. -/
  handle_post {s : σ} {t : Target} {body : Json} :
    refusal? s { method := .post, target := t, body := some body } = none →
    held? s { t with name := some (Server.nameOf body) } = none →
    handle s { method := .post, target := t, body := some body } =
      (.ok (Server.placed t body), added s (Server.placed t body))
  /-- Creating is answered with 409 where one is. -/
  handle_post_present {s : σ} {t : Target} {body o : Json} :
    refusal? s { method := .post, target := t, body := some body } = none →
    held? s { t with name := some (Server.nameOf body) } = some o →
    ∃ e, e.code = 409 ∧
      handle s { method := .post, target := t, body := some body } = (.error e, s)
  /-- A patch is merged into the object in a place. -/
  handle_patch {s : σ} {t : Target} {patch o : Json} :
    refusal? s { method := .patch, target := t, body := some patch } = none →
    held? s t = some o →
    handle s { method := .patch, target := t, body := some patch } =
      (.ok (o.mergePatch patch), replaced s t (o.mergePatch patch))
  handle_patch_absent {s : σ} {t : Target} {patch : Json} :
    refusal? s { method := .patch, target := t, body := some patch } = none →
    held? s t = none →
    ∃ e, handle s { method := .patch, target := t, body := some patch } = (.error e, s)

/-- The places of no object but the one in the place hold what they held. -/
def ObjectStore.SameElsewhere {σ : Type} [ObjectStore σ] (t : Target) (s s' : σ) : Prop :=
  ∀ u, (∀ o, held? s' t = some o → Server.isAt u o = false) → held? s' u = held? s u

/-! ### One request -/

namespace ObjectServer

open ObjectStore

variable {σ : Type} [ObjectServer σ]

/-- A place is read where it holds an object, and reading changes nothing. -/
theorem get_cases (s : σ) {t : Target} {n : String} (hn : t.name = some n) :
    (∃ e, ApiServer.handle s { method := .get, target := t } = (.error e, s)) ∨
    ∃ o, refusal? s { method := .get, target := t } = none ∧ held? s t = some o ∧
      ApiServer.handle s { method := .get, target := t } = (.ok o, s) := by
  cases hr : refusal? s { method := .get, target := t } with
  | some e => exact .inl ⟨e, handle_of_refusal hr⟩
  | none =>
    cases ho : held? s t with
    | none => exact .inl (handle_get_absent hn hr ho)
    | some o => exact .inr ⟨o, rfl, rfl, handle_get hn hr ho⟩

/-- Creating is refused whatever is held, or refused since an object of the name is there, or it
adds the object. -/
theorem post_cases (s : σ) (t : Target) (body : Json) :
    (∃ e, refusal? s { method := .post, target := t, body := some body } = some e ∧
      ApiServer.handle s { method := .post, target := t, body := some body } = (.error e, s)) ∨
    (∃ o e, held? s { t with name := some (Server.nameOf body) } = some o ∧ e.code = 409 ∧
      ApiServer.handle s { method := .post, target := t, body := some body } = (.error e, s)) ∨
    (refusal? s { method := .post, target := t, body := some body } = none ∧
      held? s { t with name := some (Server.nameOf body) } = none ∧
      ApiServer.handle s { method := .post, target := t, body := some body } =
        (.ok (Server.placed t body), added s (Server.placed t body))) := by
  cases hr : refusal? s { method := .post, target := t, body := some body } with
  | some e => exact .inl ⟨e, rfl, handle_of_refusal hr⟩
  | none =>
    cases ho : held? s { t with name := some (Server.nameOf body) } with
    | none => exact .inr (.inr ⟨rfl, rfl, handle_post hr ho⟩)
    | some o =>
      obtain ⟨e, hcode, he⟩ := handle_post_present hr ho
      exact .inr (.inl ⟨o, e, rfl, hcode, he⟩)

/-- A patch is refused and changes nothing, or it is merged into the object in its place. -/
theorem patch_cases (s : σ) (t : Target) (patch : Json) :
    (∃ e, ApiServer.handle s { method := .patch, target := t, body := some patch } =
      (.error e, s)) ∨
    ∃ o, refusal? s { method := .patch, target := t, body := some patch } = none ∧
      held? s t = some o ∧
      ApiServer.handle s { method := .patch, target := t, body := some patch } =
        (.ok (o.mergePatch patch), replaced s t (o.mergePatch patch)) := by
  cases hr : refusal? s { method := .patch, target := t, body := some patch } with
  | some e => exact .inl ⟨e, handle_of_refusal hr⟩
  | none =>
    cases ho : held? s t with
    | none => exact .inl (handle_patch_absent hr ho)
    | some o => exact .inr ⟨o, rfl, rfl, handle_patch hr ho⟩

end ObjectServer

/-! ### The server of the clients -/

namespace Server

variable {s : Server} {t u : Target} {r : Request} {o new : Json}

/-- The server with one more object. -/
def added (s : Server) (new : Json) : Server :=
  { s with objects := s.objects ++ [new] }

/-- The server with the object of a place replaced. -/
def replaced (s : Server) (t : Target) (new : Json) : Server :=
  { s with objects := replaceFirst t new s.objects }

theorem find?_added : (s.added new).find? t =
    (s.find? t).or (if isAt t new then some new else none) := by
  unfold find? added
  rw [List.find?_append, List.find?_singleton]

theorem find?_replaceFirst (hnew : isAt t new = true) : ∀ {objects : List Json},
    objects.find? (isAt t) = some o → (replaceFirst t new objects).find? (isAt t) = some new
  | [], h => by cases h
  | a :: objects, h => by
    unfold replaceFirst
    split_ifs with ha
    · exact List.find?_cons_of_pos hnew
    · rw [List.find?_cons_of_neg ha] at h ⊢
      exact find?_replaceFirst hnew h

theorem find?_replaceFirst_of_not (ho : isAt u o = false) (hnew : isAt u new = false) :
    ∀ {objects : List Json}, objects.find? (isAt t) = some o →
      (replaceFirst t new objects).find? (isAt u) = objects.find? (isAt u)
  | [], h => by cases h
  | a :: objects, h => by
    unfold replaceFirst
    split_ifs with ha
    · rw [List.find?_cons_of_pos ha] at h
      cases h
      rw [List.find?_cons_of_neg (by rw [hnew]; exact Bool.false_ne_true),
        List.find?_cons_of_neg (by rw [ho]; exact Bool.false_ne_true)]
    · rw [List.find?_cons_of_neg ha] at h
      rw [List.find?_cons, List.find?_cons, find?_replaceFirst_of_not ho hnew h]

/-- Replacing an object by itself changes nothing. -/
theorem replaceFirst_self : ∀ {objects : List Json}, objects.find? (isAt t) = some o →
    replaceFirst t o objects = objects
  | [], h => by cases h
  | a :: objects, h => by
    unfold replaceFirst
    split_ifs with ha
    · rw [List.find?_cons_of_pos ha] at h
      rw [Option.some.inj h]
    · rw [List.find?_cons_of_neg ha] at h
      rw [replaceFirst_self h]

theorem handle_of_refusal_none (h : s.refusal? r = none) : s.handle r = s.serve r := by
  unfold handle
  rw [h]

theorem serve_get {n : String} (hn : t.name = some n) :
    s.serve { method := .get, target := t } = match s.find? t with
      | some o => (.ok o, s)
      | none => (.error (notFound t), s) := by
  cases hfind : s.find? t <;> simp only [serve, hn, hfind]

theorem serve_post (body : Json) :
    s.serve { method := .post, target := t, body := some body } =
      match s.find? { t with name := some (nameOf body) } with
      | some _ => (.error (alreadyExists { t with name := some (nameOf body) }), s)
      | none => (.ok (placed t body), s.added (placed t body)) :=
  rfl

theorem serve_patch (patch : Json) :
    s.serve { method := .patch, target := t, body := some patch } = match s.find? t with
      | some o => (.ok (o.mergePatch patch), s.replaced t (o.mergePatch patch))
      | none => (.error (notFound t), s) :=
  rfl

end Server

instance : ObjectStore Server where
  held? := Server.find?
  added := Server.added
  replaced := Server.replaced
  isAt_of_held := List.find?_some
  held_added h hat := by rw [Server.find?_added, h, if_pos hat, Option.none_or]
  held_added_of_not hat := by
    rw [Server.find?_added, hat, if_neg Bool.false_ne_true, Option.or_none]
  held_replaced h hat := Server.find?_replaceFirst hat h
  held_replaced_of_not h ho hnew := Server.find?_replaceFirst_of_not ho hnew h
  replaced_self h := by
    unfold Server.replaced
    rw [Server.replaceFirst_self h]

/-- **The server that is defined with the clients is one that holds objects.** -/
instance : ObjectServer Server where
  refusal? := Server.refusal?
  refusal_added _ _ _ := rfl
  refusal_replaced _ _ _ _ := rfl
  handle_of_refusal {s r e} h := by
    show s.handle r = _
    unfold Server.handle
    rw [h]
  handle_get {s t n o} hn hr ho := by
    have hfind : s.find? t = some o := ho
    refine (Server.handle_of_refusal_none hr).trans ?_
    rw [Server.serve_get hn, hfind]
  handle_get_absent {s t n} hn hr ho := by
    have hfind : s.find? t = none := ho
    refine ⟨Server.notFound t, (Server.handle_of_refusal_none hr).trans ?_⟩
    rw [Server.serve_get hn, hfind]
  handle_post {s t body} hr ho := by
    have hfind : s.find? { t with name := some (Server.nameOf body) } = none := ho
    refine (Server.handle_of_refusal_none hr).trans ?_
    rw [Server.serve_post, hfind]
    rfl
  handle_post_present {s t body o} hr ho := by
    have hfind : s.find? { t with name := some (Server.nameOf body) } = some o := ho
    refine ⟨Server.alreadyExists { t with name := some (Server.nameOf body) }, rfl,
      (Server.handle_of_refusal_none hr).trans ?_⟩
    rw [Server.serve_post, hfind]
  handle_patch {s t patch o} hr ho := by
    have hfind : s.find? t = some o := ho
    refine (Server.handle_of_refusal_none hr).trans ?_
    rw [Server.serve_patch, hfind]
    rfl
  handle_patch_absent {s t patch} hr ho := by
    have hfind : s.find? t = none := ho
    refine ⟨Server.notFound t, (Server.handle_of_refusal_none hr).trans ?_⟩
    rw [Server.serve_patch, hfind]

end StorageSetup
