import DeliveryService.Transaction

/-- The body of a transaction that also calls an outside service between its statements. -/
inductive Script (D L Q O ε α : Type) : Type 1
  | ret (a : α)
  | raise (e : ε)
  | stmt (β : Type) (s : Statement D L ε β) (next : β → Script D L Q O ε α)
  | call (q : Q) (next : O → Script D L Q O ε α)

/-- How far a transaction has come: its locks, its pending write, the snapshots that its finished statements
worked on and the calls that were answered, oldest first. -/
structure Progress (D L Q O : Type) where
  held : List L := []
  write : D → D := id
  seen : List D := []
  calls : List (Q × O) := []

/-- What concurrent transactions promise each other, over data that always satisfies `valid`. -/
structure Isolation (D L : Type) extends Contract D L where
  valid : D → Prop

variable {D L Q O ε α β : Type}

namespace Progress

/-- A statement that worked on a snapshot has finished. -/
def finish (p : Progress D L Q O) (snapshot : D) (finished : Done D L β) : Progress D L Q O :=
  { p with held := finished.locks ++ p.held, write := finished.write ∘ p.write, seen := p.seen ++ [snapshot] }

def answer (p : Progress D L Q O) (q : Q) (o : O) : Progress D L Q O := { p with calls := p.calls ++ [(q, o)] }

end Progress

namespace Isolation

variable (I : Isolation D L)

/-- Valid data that other transactions may have left to one that holds the given locks. -/
def Later (held : List L) (db db' : D) : Prop := I.Env held db db' ∧ I.valid db'

variable {I}

theorem later_refl {held : List L} {db : D} (valid : I.valid db) : I.Later held db db := ⟨I.env_refl held db, valid⟩

theorem Later.trans {held : List L} {a b c : D} (h : I.Later held a b) (h' : I.Later held b c) : I.Later held a c :=
  ⟨h.1.trans h'.1, h'.2⟩

theorem Later.agree {held : List L} {a b : D} {l : L} (h : I.Later held a b) (hold : l ∈ held) : I.agree l a b :=
  h.1.2 l hold

end Isolation

namespace Script

def bind : Script D L Q O ε α → (α → Script D L Q O ε β) → Script D L Q O ε β
  | ret a, f => f a
  | raise e, _ => raise e
  | stmt γ s next, f => stmt γ s fun r => bind (next r) f
  | call q next, f => call q fun o => bind (next o) f

instance instMonad : Monad (Script D L Q O ε) where
  pure := ret
  bind := bind

def ofResult : Except ε α → Script D L Q O ε α
  | .ok a => ret a
  | .error e => raise e

/-- One statement as a script. -/
def perform (s : Statement D L ε β) : Script D L Q O ε β := stmt β s ret

/-- One call as a script. -/
def request (q : Q) : Script D L Q O ε O := call q ret

/-- Run a script while no other transaction is active, against a service that answers at once; the state is its
own view of the data and that of the service. -/
def runAlone {W : Type} (service : Q → W → O × W) : Script D L Q O ε α → D → W → Except ε α × D × W
  | ret a, view, world => (.ok a, view, world)
  | raise e, view, world => (.error e, view, world)
  | stmt _ s next, view, world =>
    match s (fun _ => false) view view with
    | .ok finished => runAlone service (next finished.value) (finished.write view) world
    | .error e => (.error e, view, world)
  | call q next, view, world => runAlone service (next (service q world).1) view (service q world).2

/-- A whole transaction on its own: a rollback does not undo what the service has done. -/
def transact {W : Type} (service : Q → W → O × W) (script : Script D L Q O ε α) (db : D) (world : W) :
    Except ε α × D × W :=
  match script.runAlone service db world with
  | (.ok a, written, world') => (.ok a, written, world')
  | (.error e, _, world') => (.error e, db, world')

section

variable {W : Type} (service : Q → W → O × W)

theorem transact_eq (script : Script D L Q O ε α) (db : D) (world : W) :
    script.transact service db world = ((script.runAlone service db world).1,
      if (script.runAlone service db world).1.isOk then (script.runAlone service db world).2.1 else db,
      (script.runAlone service db world).2.2) := by
  unfold transact
  rcases script.runAlone service db world with ⟨_ | _, _, _⟩ <;> rfl

/-- A script that raises leaves the database as it was. -/
theorem transact_rolled_back {script : Script D L Q O ε α} {db : D} {world : W}
    (raised : (script.transact service db world).1.isOk = false) : (script.transact service db world).2.1 = db := by
  rw [transact_eq] at raised ⊢
  simp [raised]

@[simp]
theorem runAlone_pure (a : α) (view : D) (world : W) :
    (pure a : Script D L Q O ε α).runAlone service view world = (.ok a, view, world) := rfl

@[simp]
theorem runAlone_raise (e : ε) (view : D) (world : W) :
    (raise e : Script D L Q O ε α).runAlone service view world = (.error e, view, world) := rfl

theorem runAlone_bind (p : Script D L Q O ε α) (f : α → Script D L Q O ε β) (view : D) (world : W) :
    (p >>= f).runAlone service view world = match p.runAlone service view world with
      | (.ok a, view', world') => (f a).runAlone service view' world'
      | (.error e, view', world') => (.error e, view', world') := by
  induction p generalizing view world with
  | ret a => rfl
  | raise e => rfl
  | stmt γ s next ih =>
    change (stmt γ s fun r => bind (next r) f).runAlone service view world = _
    simp only [runAlone]
    split
    next => exact ih _ _ _
    next => rfl
  | call q next ih =>
    change (call q fun o => bind (next o) f).runAlone service view world = _
    simp only [runAlone]
    exact ih _ _ _

theorem runAlone_perform (s : Statement D L ε β) (view : D) (world : W) :
    (perform s : Script D L Q O ε β).runAlone service view world = match s (fun _ => false) view view with
      | .ok finished => (.ok finished.value, finished.write view, world)
      | .error e => (.error e, view, world) := by
  simp only [perform, runAlone]

@[simp]
theorem runAlone_request (q : Q) (view : D) (world : W) :
    (request q : Script D L Q O ε O).runAlone service view world =
      (.ok (service q world).1, view, (service q world).2) := rfl

@[simp]
theorem runAlone_ofResult (r : Except ε α) (view : D) (world : W) :
    (ofResult r : Script D L Q O ε α).runAlone service view world = (r, view, world) := by
  cases r <;> rfl

end

/-- What is known of a transaction all along, whatever others commit, and what is known when it ends. -/
structure Spec (I : Isolation D L) (Q O ε α : Type) where
  always : Progress D L Q O → D → Prop
  ending : Except ε α → Progress D L Q O → D → Prop
  stable : ∀ {p db db'}, I.Later p.held db db' → always p db → always p db'

variable {I : Isolation D L}

/-- Whatever the other transactions and the service do, the script writes under its locks and meets its
specification. -/
def wp (S : Spec I Q O ε α) : Script D L Q O ε α → Progress D L Q O → D → Prop
  | ret a, p, db => S.always p db ∧ ∀ db', I.Later p.held db db' → S.ending (.ok a) p db'
  | raise e, p, db => S.always p db ∧ ∀ db', I.Later p.held db db' → S.ending (.error e) p db'
  | stmt _ s next, p, db => S.always p db ∧ ∀ start now locked, I.Later p.held db start →
      I.Later p.held start now → (∀ l ∈ p.held, locked l = false) →
      match s locked (p.write start) (p.write now) with
      | .ok finished => (∀ l ∈ finished.locks, locked l = false) →
          I.Covers (finished.locks ++ p.held) finished.write ∧
          wp S (next finished.value) (p.finish (p.write start) finished) now
      | .error e => ∀ db', I.Later p.held now db' → S.ending (.error e) p db'
  | call q next, p, db => S.always p db ∧ ∀ o now, I.Later p.held db now → wp S (next o) (p.answer q o) now

section

variable {S : Spec I Q O ε α} {p : Progress D L Q O} {db db' : D}

theorem always_of_wp {script : Script D L Q O ε α} (h : wp S script p db) : S.always p db := by
  cases script with
  | ret | raise | stmt | call => exact h.1

theorem wp_later {script : Script D L Q O ε α} (h : wp S script p db) (later : I.Later p.held db db') :
    wp S script p db' := by
  have kept := S.stable later (always_of_wp h)
  cases script with
  | ret a => exact ⟨kept, fun db'' further => h.2 db'' (later.trans further)⟩
  | raise e => exact ⟨kept, fun db'' further => h.2 db'' (later.trans further)⟩
  | stmt β s next =>
    exact ⟨kept, fun start now locked before during free => h.2 start now locked (later.trans before) during free⟩
  | call q next => exact ⟨kept, fun o now before => h.2 o now (later.trans before)⟩

/-- The specification of the first part of a script: it ends where the second part can start. -/
def Spec.before (S : Spec I Q O ε β) (f : α → Script D L Q O ε β) : Spec I Q O ε α where
  always := S.always
  ending r p db := match r with
    | .ok a => wp S (f a) p db
    | .error e => S.ending (.error e) p db
  stable := S.stable

theorem wp_bind {S : Spec I Q O ε β} {script : Script D L Q O ε α} {f : α → Script D L Q O ε β}
    (valid : I.valid db) (h : wp (S.before f) script p db) : wp S (script >>= f) p db := by
  induction script generalizing p db with
  | ret a => exact h.2 db (I.later_refl valid)
  | raise e => exact h
  | stmt γ s next ih =>
    refine ⟨h.1, fun start now locked before during free => ?_⟩
    have done := h.2 start now locked before during free
    split
    next finished ran =>
      rw [ran] at done
      exact fun granted => (done granted).imp_right (ih _ during.2)
    next e ran =>
      rw [ran] at done
      exact done
  | call q next ih => exact ⟨h.1, fun o now before => ih o before.2 (h.2 o now before)⟩

/-- The specification of a script whose result is wrapped. -/
def Spec.map (S : Spec I Q O ε α) (wrap : α → β) : Spec I Q O ε β where
  always := S.always
  ending r p db := match r with
    | .ok b => ∃ a, b = wrap a ∧ S.ending (.ok a) p db
    | .error e => S.ending (.error e) p db
  stable := S.stable

theorem wp_map {script : Script D L Q O ε α} (h : wp S script p db) (wrap : α → β) :
    wp (S.map wrap) (script >>= fun a => pure (wrap a)) p db := by
  induction script generalizing p db with
  | ret a => exact ⟨h.1, fun db' later => ⟨a, rfl, h.2 db' later⟩⟩
  | raise e => exact h
  | stmt γ s next ih =>
    refine ⟨h.1, fun start now locked before during free => ?_⟩
    have done := h.2 start now locked before during free
    split
    next finished ran =>
      rw [ran] at done
      exact fun granted => (done granted).imp_right (ih _)
    next e ran =>
      rw [ran] at done
      exact done
  | call q next ih => exact ⟨h.1, fun o now before => ih o (h.2 o now before)⟩

theorem wp_pure {a : α} (known : S.always p db) (h : ∀ db', I.Later p.held db db' → S.ending (.ok a) p db') :
    wp S (pure a) p db := ⟨known, h⟩

theorem wp_raise {e : ε} (known : S.always p db)
    (h : ∀ db', I.Later p.held db db' → S.ending (.error e) p db') : wp S (raise e) p db := ⟨known, h⟩

/-- A single statement: it runs on a snapshot and on newer data, then others may commit again. -/
theorem wp_perform {s : Statement D L ε α} (known : S.always p db)
    (h : ∀ start now locked, I.Later p.held db start → I.Later p.held start now →
      (∀ l ∈ p.held, locked l = false) →
      match s locked (p.write start) (p.write now) with
      | .ok finished => I.Covers (finished.locks ++ p.held) finished.write ∧
          S.always (p.finish (p.write start) finished) now ∧
          ∀ later, I.Later (finished.locks ++ p.held) now later →
            S.ending (.ok finished.value) (p.finish (p.write start) finished) later
      | .error e => ∀ later, I.Later p.held now later → S.ending (.error e) p later) :
    wp S (perform s) p db := by
  refine ⟨known, fun start now locked before during free => ?_⟩
  have done := h start now locked before during free
  split
  next finished ran =>
    rw [ran] at done
    exact fun _ => done
  next e ran =>
    rw [ran] at done
    exact done

/-- A query: what it answers was committed when it started. -/
theorem wp_read {s : Statement D L ε α} {f : D → α} (known : S.always p db)
    (query : ∀ locked snapshot current, s locked snapshot current = .ok { value := f snapshot })
    (h : ∀ start now, I.Later p.held db start → I.Later p.held start now →
      S.always { p with seen := p.seen ++ [p.write start] } now ∧ ∀ later, I.Later p.held now later →
        S.ending (.ok (f (p.write start))) { p with seen := p.seen ++ [p.write start] } later) :
    wp S (perform s) p db := by
  refine wp_perform known fun start now locked before during _ => ?_
  rw [query]
  refine ⟨fun l _ db => I.agree_refl l db, ?_⟩
  exact h start now before during

theorem wp_request {S : Spec I Q O ε O} {q : Q} (known : S.always p db)
    (h : ∀ o now, I.Later p.held db now → S.always (p.answer q o) now ∧
      ∀ later, I.Later p.held now later → S.ending (.ok o) (p.answer q o) later) :
    wp S (request q) p db := ⟨known, fun o now before => h o now before⟩

theorem wp_runAlone {W : Type} (service : Q → W → O × W) {script : Script D L Q O ε α} (valid : I.valid db)
    (h : wp S script p db) (world : W) :
    ∃ p', S.ending (script.runAlone service (p.write db) world).1 p' db ∧
      (script.runAlone service (p.write db) world).2.1 = p'.write db := by
  have same : I.Later p.held db db := I.later_refl valid
  induction script generalizing p world with
  | ret a => exact ⟨p, h.2 db same, rfl⟩
  | raise e => exact ⟨p, h.2 db same, rfl⟩
  | stmt β s next ih =>
    have done := h.2 db db (fun _ => false) same same (fun _ _ => rfl)
    simp only [runAlone]
    split
    next finished ran =>
      rw [ran] at done
      exact ih finished.value (done fun _ _ => rfl).2 world (I.later_refl valid)
    next e ran =>
      rw [ran] at done
      exact ⟨p, done db same, rfl⟩
  | call q next ih =>
    simp only [runAlone]
    exact ih _ (h.2 _ db same) _ (I.later_refl valid)

theorem wp_transact {W : Type} (service : Q → W → O × W) {script : Script D L Q O ε α} (valid : I.valid db)
    (h : wp S script {} db) (world : W) :
    ∃ p, S.ending (script.transact service db world).1 p db ∧ (script.transact service db world).2.1 =
      if (script.transact service db world).1.isOk then p.write db else db := by
  obtain ⟨p, ended, view⟩ := wp_runAlone service valid h world
  change S.ending (script.runAlone service db world).1 p db at ended
  change (script.runAlone service db world).2.1 = p.write db at view
  rw [transact_eq]
  exact ⟨p, ended, by rw [view]⟩

end

end Script
