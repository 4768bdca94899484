import DeliveryService.Transaction

/-- A part of a larger database, and the locks that protect it there. -/
structure Fragment (D L D' L' : Type) where
  get : D' → D
  lift : (D → D) → D' → D'
  lock : L → L'
  get_lift : ∀ write db, get (lift write db) = write (get db)
  lift_id : lift id = id
  lift_comp : ∀ later earlier, lift (later ∘ earlier) = lift later ∘ lift earlier

variable {D L D' L' ε α β : Type}

namespace Fragment

/-- A statement that works on its part of the larger database. -/
def statement (part : Fragment D L D' L') (s : Statement D L ε β) : Statement D' L' ε β :=
  fun locked snapshot current =>
    (s (fun l => locked (part.lock l)) (part.get snapshot) (part.get current)).map fun finished =>
      { value := finished.value, locks := finished.locks.map part.lock, write := part.lift finished.write }

/-- The contract of the larger database includes that of its part. -/
structure Respects (part : Fragment D L D' L') (C : Contract D L) (C' : Contract D' L') : Prop where
  env : ∀ {held a b}, C'.Env (held.map part.lock) a b → C.Env held (part.get a) (part.get b)
  covers : ∀ {held write}, C.Covers held write → C'.Covers (held.map part.lock) (part.lift write)

/-- A program ends as asserted on its part, and everybody has kept the contract since `base`. -/
def Ends (part : Fragment D L D' L') (C' : Contract D' L') (base : D') (post : Prog.Ending D L ε α) :
    Prog.Ending D' L' ε α :=
  fun r held' write' db => C'.step base db ∧ ∃ held write, held' = held.map part.lock ∧ write' = part.lift write ∧
    post r held write (part.get db)

end Fragment

namespace Prog

/-- A program that works on its part of the larger database. -/
def within (part : Fragment D L D' L') : Prog D L ε α → Prog D' L' ε α
  | ret a => ret a
  | raise e => raise e
  | stmt β s next => stmt β (part.statement s) fun r => within part (next r)

variable {part : Fragment D L D' L'} {C : Contract D L} {C' : Contract D' L'} {post : Ending D L ε α}
  {held : List L} {write : D → D} {base db : D'}

/-- What is verified of a program holds of it in the larger database. -/
theorem wp_within (respects : part.Respects C C') {p : Prog D L ε α} (since : C'.step base db)
    (h : wp C post p held write (part.get db)) :
    wp C' (part.Ends C' base post) (p.within part) (held.map part.lock) (part.lift write) db := by
  induction p generalizing held write db with
  | ret a => exact fun db' env => ⟨C'.step_trans since env.1, held, write, rfl, rfl, h _ (respects.env env)⟩
  | raise e => exact fun db' env => ⟨C'.step_trans since env.1, held, write, rfl, rfl, h _ (respects.env env)⟩
  | stmt β s next ih =>
    intro start now locked before during free
    have own : ∀ l ∈ held, locked (part.lock l) = false := fun l hl => free _ (List.mem_map_of_mem hl)
    have done := h (part.get start) (part.get now) (fun l => locked (part.lock l)) (respects.env before)
      (respects.env during) own
    have later : C'.step base now := C'.step_trans since (C'.step_trans before.1 during.1)
    simp only [Fragment.statement, part.get_lift]
    cases ran : s (fun l => locked (part.lock l)) (write (part.get start)) (write (part.get now)) with
    | error e =>
      rw [ran] at done
      exact ih _ later done
    | ok finished =>
      rw [ran] at done
      intro granted
      obtain ⟨covered, rest⟩ := done fun l hl => granted _ (List.mem_map_of_mem hl)
      have covered' := respects.covers covered
      have rest' := ih _ later rest
      rw [List.map_append] at covered' rest'
      rw [part.lift_comp] at rest'
      exact ⟨covered', rest'⟩

theorem wp_mono {post' : Ending D L ε α} {p : Prog D L ε α} {db : D} (h : wp C post p held write db)
    (weaker : ∀ r held write db, post r held write db → post' r held write db) : wp C post' p held write db := by
  induction p generalizing held write db with
  | ret a => exact fun db' env => weaker _ _ _ _ (h db' env)
  | raise e => exact fun db' env => weaker _ _ _ _ (h db' env)
  | stmt β s next ih => exact wp_stmt_of h fun r => ih r

theorem wp_of_map {p : Prog D L ε α} {f : α → β} {post : Ending D L ε β} {db : D}
    (h : wp C post (f <$> p) held write db) :
    wp C (fun r held write db => post (r.map f) held write db) p held write db := by
  induction p generalizing held write db with
  | ret a => exact h
  | raise e => exact h
  | stmt γ s next ih => exact wp_stmt_of h fun r => ih r

end Prog
