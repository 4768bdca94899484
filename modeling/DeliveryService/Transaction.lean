import Mathlib.Control.Basic

/-- What a finished statement returns, the locks it takes and the write it leaves pending. -/
structure Done (D L β : Type) where
  value : β
  locks : List L := []
  write : D → D := id

variable {D L : Type}

/-- A statement sees which locks other transactions hold, its snapshot and the newest data. -/
abbrev Statement (D L ε β : Type) := (locked : L → Bool) → (snapshot current : D) → Except ε (Done D L β)

theorem Except.exists_of_isOk {ε α : Type} {r : Except ε α} (ok : r.isOk = true) : ∃ a, r = .ok a := by
  cases r with
  | ok a => exact ⟨a, rfl⟩
  | error e => cases ok

/-- The body of a transaction: statements whose results decide how it goes on. -/
inductive Prog (D L ε α : Type) : Type 1
  | ret (a : α)
  | raise (e : ε)
  | stmt (β : Type) (s : Statement D L ε β) (next : Except ε β → Prog D L ε α)

namespace Prog

variable {ε α β : Type}

def bind : Prog D L ε α → (α → Prog D L ε β) → Prog D L ε β
  | ret a, f => f a
  | raise e, _ => raise e
  | stmt γ s next, f => stmt γ s fun r => bind (next r) f

def tryCatch : Prog D L ε α → (ε → Prog D L ε α) → Prog D L ε α
  | ret a, _ => ret a
  | raise e, handle => handle e
  | stmt γ s next, handle => stmt γ s fun r => tryCatch (next r) handle

instance : Monad (Prog D L ε) where
  pure := ret
  bind := bind

instance : MonadExcept ε (Prog D L ε) where
  throw := raise
  tryCatch := tryCatch

theorem bind_bind {γ : Type} (p : Prog D L ε α) (f : α → Prog D L ε β) (g : β → Prog D L ε γ) :
    (p.bind f).bind g = p.bind fun a => (f a).bind g := by
  induction p with
  | ret a => rfl
  | raise e => rfl
  | stmt γ s next ih => exact congrArg (stmt γ s) (funext ih)

theorem bind_ret (p : Prog D L ε α) : p.bind ret = p := by
  induction p with
  | ret a => rfl
  | raise e => rfl
  | stmt γ s next ih => exact congrArg (stmt γ s) (funext ih)

instance : LawfulMonad (Prog D L ε) :=
  LawfulMonad.mk' _ bind_ret (fun _ _ => rfl) bind_bind

def ofResult : Except ε α → Prog D L ε α
  | .ok a => ret a
  | .error e => raise e

/-- One statement as a program. -/
def perform (s : Statement D L ε β) : Prog D L ε β := stmt β s ofResult

/-- Run a program while no other transaction is active; the state is its own view of the data. -/
def runAlone : Prog D L ε α → D → Except ε α × D
  | ret a, view => (.ok a, view)
  | raise e, view => (.error e, view)
  | stmt _ s next, view =>
    match s (fun _ => false) view view with
    | .ok finished => runAlone (next (.ok finished.value)) (finished.write view)
    | .error e => runAlone (next (.error e)) view

/-- The same for a program whose first statement was started on older data. -/
def resume : Prog D L ε α → (snapshot view : D) → Except ε α × D
  | stmt _ s next, snapshot, view =>
    match s (fun _ => false) snapshot view with
    | .ok finished => runAlone (next (.ok finished.value)) (finished.write view)
    | .error e => runAlone (next (.error e)) view
  | p, _, view => p.runAlone view

theorem resume_self (p : Prog D L ε α) (view : D) : p.resume view view = p.runAlone view := by
  cases p with
  | ret a => rfl
  | raise e => rfl
  | stmt β s next => simp only [resume, runAlone]

@[simp]
theorem runAlone_pure (a : α) (view : D) : (pure a : Prog D L ε α).runAlone view = (.ok a, view) := rfl

@[simp]
theorem runAlone_throw (e : ε) (view : D) : (throw e : Prog D L ε α).runAlone view = (.error e, view) := rfl

theorem runAlone_bind (p : Prog D L ε α) (f : α → Prog D L ε β) (view : D) :
    (p >>= f).runAlone view = match p.runAlone view with
      | (.ok a, view') => (f a).runAlone view'
      | (.error e, view') => (.error e, view') := by
  induction p generalizing view with
  | ret a => rfl
  | raise e => rfl
  | stmt γ s next ih =>
    change (stmt γ s fun r => bind (next r) f).runAlone view = _
    simp only [runAlone]
    split
    next => exact ih _ _
    next => exact ih _ _

theorem runAlone_perform (s : Statement D L ε β) (view : D) :
    (perform s).runAlone view = match s (fun _ => false) view view with
      | .ok finished => (.ok finished.value, finished.write view)
      | .error e => (.error e, view) := by
  simp only [perform, runAlone]
  split <;> rfl

theorem runAlone_tryCatch (p : Prog D L ε α) (handle : ε → Prog D L ε α) (view : D) :
    (tryCatch p handle).runAlone view = match p.runAlone view with
      | (.ok a, view') => (.ok a, view')
      | (.error e, view') => (handle e).runAlone view' := by
  induction p generalizing view with
  | ret a => rfl
  | raise e => rfl
  | stmt γ s next ih =>
    simp only [tryCatch, runAlone]
    split
    next => exact ih _ _
    next => exact ih _ _

@[simp]
theorem runAlone_ofExcept (r : Except ε α) (view : D) :
    (MonadExcept.ofExcept r : Prog D L ε α).runAlone view = (r, view) := by
  cases r <;> rfl

@[simp]
theorem runAlone_map (f : α → β) (p : Prog D L ε α) (view : D) :
    (f <$> p).runAlone view = ((p.runAlone view).1.map f, (p.runAlone view).2) := by
  rw [← bind_pure_comp, runAlone_bind]
  rcases p.runAlone view with ⟨_ | _, _⟩ <;> rfl

/-- A whole transaction on its own: commit on success, roll back on an exception. -/
def transact (p : Prog D L ε α) (db : D) : Except ε α × D :=
  match p.runAlone db with
  | (.ok a, written) => (.ok a, written)
  | (.error e, _) => (.error e, db)

theorem transact_eq (p : Prog D L ε α) (db : D) :
    p.transact db = ((p.runAlone db).1, if (p.runAlone db).1.isOk then (p.runAlone db).2 else db) := by
  unfold transact
  rcases p.runAlone db with ⟨_ | _, _⟩ <;> rfl

theorem transact_error {p : Prog D L ε α} {db : D} {e : ε} (h : (p.transact db).1 = .error e) :
    (p.transact db).2 = db := by
  rw [transact_eq] at h ⊢
  simp only at h
  simp [h, Except.isOk, Except.toBool]

end Prog

/-- What concurrent transactions promise each other: every commit is a `step` of the database, and a
transaction that does not hold the lock `l` leaves alone what `l` protects. -/
structure Contract (D L : Type) where
  step : D → D → Prop
  agree : L → D → D → Prop
  step_refl : ∀ db, step db db
  step_trans : ∀ {a b c}, step a b → step b c → step a c
  agree_refl : ∀ l db, agree l db db
  agree_trans : ∀ {l a b c}, agree l a b → agree l b c → agree l a c

namespace Contract

variable (C : Contract D L)

/-- What other transactions may have done meanwhile to a transaction that holds the given locks. -/
def Env (held : List L) (db db' : D) : Prop := C.step db db' ∧ ∀ l ∈ held, C.agree l db db'

theorem env_refl (held : List L) (db : D) : C.Env held db db :=
  ⟨C.step_refl db, fun l _ => C.agree_refl l db⟩

variable {C}

theorem Env.trans {held : List L} {a b c : D} (h : C.Env held a b) (h' : C.Env held b c) : C.Env held a c :=
  ⟨C.step_trans h.1 h'.1, fun l hl => C.agree_trans (h.2 l hl) (h'.2 l hl)⟩

theorem Env.of_append {locks held : List L} {a b : D} (h : C.Env (locks ++ held) a b) : C.Env held a b :=
  ⟨h.1, fun l hl => h.2 l (List.mem_append_right _ hl)⟩

theorem Env.of_cons {l : L} {held : List L} {a b : D} (h : C.Env (l :: held) a b) : C.Env held a b :=
  ⟨h.1, fun l' hl => h.2 l' (List.mem_cons_of_mem _ hl)⟩

/-- The pending write stays inside what the held locks protect. -/
def Covers (C : Contract D L) (held : List L) (write : D → D) : Prop :=
  ∀ l, l ∉ held → ∀ db, C.agree l db (write db)

end Contract

namespace Prog

variable {C : Contract D L} {ε α β : Type}

/-- Assertions on how a program ends: with which result, locks and pending write, over which
committed data. -/
abbrev Ending (D L ε α : Type) := Except ε α → List L → (D → D) → D → Prop

/-- Whatever the other transactions do, the program writes under its locks and ends as asserted. -/
def wp (C : Contract D L) (post : Ending D L ε α) : Prog D L ε α → List L → (D → D) → D → Prop
  | ret a, held, write, db => ∀ db', C.Env held db db' → post (.ok a) held write db'
  | raise e, held, write, db => ∀ db', C.Env held db db' → post (.error e) held write db'
  | stmt _ s next, held, write, db => ∀ start now locked, C.Env held db start → C.Env held start now →
      (∀ l ∈ held, locked l = false) →
      match s locked (write start) (write now) with
      | .ok finished => (∀ l ∈ finished.locks, locked l = false) →
          C.Covers (finished.locks ++ held) finished.write ∧
          wp C post (next (.ok finished.value)) (finished.locks ++ held) (finished.write ∘ write) now
      | .error e => wp C post (next (.error e)) held write now

variable {post post' : Ending D L ε α} {held : List L} {write : D → D} {db db' : D}

theorem wp_env {p : Prog D L ε α} (h : wp C post p held write db) (env : C.Env held db db') :
    wp C post p held write db' := by
  cases p with
  | ret a => exact fun later further => h later (env.trans further)
  | raise e => exact fun later further => h later (env.trans further)
  | stmt β s next =>
    exact fun start now locked before during free => h start now locked (env.trans before) during free

/-- Statement by statement: it is enough to carry each continuation over. -/
theorem wp_stmt_of {γ : Type} {post' : Ending D L ε γ} {s : Statement D L ε β} {next : Except ε β → Prog D L ε α}
    {next' : Except ε β → Prog D L ε γ} (h : wp C post (stmt β s next) held write db)
    (carry : ∀ r {held write db}, wp C post (next r) held write db → wp C post' (next' r) held write db) :
    wp C post' (stmt β s next') held write db := by
  intro start now locked before during free
  have done := h start now locked before during free
  split
  next finished ran =>
    rw [ran] at done
    exact fun granted => (done granted).imp_right (carry _)
  next e ran =>
    rw [ran] at done
    exact carry _ done

/-- Sequencing: the first part ends where the second can start. -/
theorem wp_bind {p : Prog D L ε α} {f : α → Prog D L ε β} {post : Ending D L ε β}
    (h : wp C (fun r held write db => match r with
      | .ok a => wp C post (f a) held write db
      | .error e => post (.error e) held write db) p held write db) :
    wp C post (p >>= f) held write db := by
  induction p generalizing held write db with
  | ret a => exact h db (C.env_refl held db)
  | raise e => exact h
  | stmt γ s next ih => exact wp_stmt_of h fun r => ih r

theorem wp_map {p : Prog D L ε α} {f : α → β} {post : Ending D L ε β}
    (h : wp C (fun r held write db => post (r.map f) held write db) p held write db) :
    wp C post (f <$> p) held write db := by
  induction p generalizing held write db with
  | ret a => exact h
  | raise e => exact h
  | stmt γ s next ih => exact wp_stmt_of h fun r => ih r

theorem wp_tryCatch {p : Prog D L ε α} {handle : ε → Prog D L ε α}
    (h : wp C (fun r held write db => match r with
      | .ok a => post (.ok a) held write db
      | .error e => wp C post (handle e) held write db) p held write db) :
    wp C post (tryCatch p handle) held write db := by
  induction p generalizing held write db with
  | ret a => exact h
  | raise e => exact h db (C.env_refl held db)
  | stmt γ s next ih => exact wp_stmt_of h fun r => ih r

/-- A single statement: it runs on a snapshot and on newer data, then others may commit again. -/
theorem wp_perform {s : Statement D L ε β} {post : Ending D L ε β}
    (h : ∀ start now locked, C.Env held db start → C.Env held start now → (∀ l ∈ held, locked l = false) →
      match s locked (write start) (write now) with
      | .ok finished => C.Covers (finished.locks ++ held) finished.write ∧
          ∀ later, C.Env (finished.locks ++ held) now later →
            post (.ok finished.value) (finished.locks ++ held) (finished.write ∘ write) later
      | .error e => ∀ later, C.Env held now later → post (.error e) held write later) :
    wp C post (perform s) held write db := by
  intro start now locked before during free
  have done := h start now locked before during free
  split
  next finished ran =>
    rw [ran] at done
    exact fun _ => done
  next e ran =>
    rw [ran] at done
    exact done

theorem wp_read {s : Statement D L ε β} {f : D → β} {post : Ending D L ε β}
    (query : ∀ locked snapshot current, s locked snapshot current = .ok { value := f snapshot })
    (h : ∀ start later, C.Env held db start → C.Env held start later →
      post (.ok (f (write start))) held write later) :
    wp C post (perform s) held write db := by
  refine wp_perform fun start now locked before during _ => ?_
  rw [query]
  refine ⟨fun l _ db => C.agree_refl l db, fun later after => ?_⟩
  exact h start later before (during.trans after)

theorem wp_ofExcept {r : Except ε α} (h : ∀ later, C.Env held db later → post r held write later) :
    wp C post (MonadExcept.ofExcept r) held write db := by
  cases r with
  | ok a => exact h
  | error e => exact h

theorem wp_runAlone {p : Prog D L ε α} (h : wp C post p held write db) :
    ∃ held' write', post (p.runAlone (write db)).1 held' write' db ∧
      (p.runAlone (write db)).2 = write' db := by
  induction p generalizing held write with
  | ret a => exact ⟨held, write, h db (C.env_refl held db), rfl⟩
  | raise e => exact ⟨held, write, h db (C.env_refl held db), rfl⟩
  | stmt β s next ih =>
    have done := h db db (fun _ => false) (C.env_refl held db) (C.env_refl held db) (fun _ _ => rfl)
    simp only [runAlone]
    split
    next finished ran =>
      rw [ran] at done
      exact ih _ (done fun _ _ => rfl).2
    next e ran =>
      rw [ran] at done
      exact ih _ done

theorem wp_transact {p : Prog D L ε α} (h : wp C post p [] id db) :
    ∃ held write, post (p.transact db).1 held write db ∧
      (p.transact db).2 = (if (p.transact db).1.isOk then write db else db) := by
  obtain ⟨held, write, ending, view⟩ := wp_runAlone h
  refine ⟨held, write, ?_⟩
  change post (p.runAlone db).1 held write db at ending
  change (p.runAlone db).2 = write db at view
  unfold transact
  rcases hr : p.runAlone db with ⟨_ | _, _⟩
  · rw [hr] at ending
    exact ⟨ending, rfl⟩
  · rw [hr] at ending view
    exact ⟨ending, view⟩

end Prog
