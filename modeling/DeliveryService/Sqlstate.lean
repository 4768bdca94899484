import Mathlib.Data.Fintype.Card
import Mathlib.Data.Fintype.Basic
import DeliveryService.Worklist

namespace DeliveryService

/-- An exception with the attributes that the search reads; links lead to exceptions of the same graph. -/
structure ExceptionNode (n : Nat) where
  sqlstate : Option String := none
  pgcode : Option String := none
  orig : Option (Fin n) := none
  cause : Option (Fin n) := none
  context : Option (Fin n) := none
deriving DecidableEq

/-- `getattr(e, "sqlstate", None) or getattr(e, "pgcode", None)`; an empty text counts as absent. -/
def ExceptionNode.value {n : Nat} (node : ExceptionNode n) : Option String :=
  (node.sqlstate.filter (· ≠ "")).or node.pgcode

/-- The linked exceptions in the order in which they are pushed. -/
def ExceptionNode.nested {n : Nat} (node : ExceptionNode n) : List (Fin n) :=
  [node.orig, node.cause, node.context].filterMap id

/-- The exceptions that can be reached from one, by their identity. -/
abbrev ExceptionGraph (n : Nat) := Fin n → ExceptionNode n

/-- The loop of `postgres_sqlstate`; the last pushed exception is the first of `pending`. -/
def searchSqlstate {n : Nat} (graph : ExceptionGraph n) (seen : Finset (Fin n)) : List (Fin n) → Option String
  | [] => none
  | current :: pending =>
    if current ∈ seen then searchSqlstate graph seen pending
    else match (graph current).value with
      | some value => some value
      | none => searchSqlstate graph (insert current seen) ((graph current).nested.reverse ++ pending)
termination_by pending => (seenᶜ.card, pending.length)
decreasing_by
  · exact Prod.Lex.right _ (Nat.lt_succ_self _)
  · refine Prod.Lex.left _ _ (Finset.card_lt_card ?_)
    rw [Finset.compl_ssubset_compl]
    exact Finset.ssubset_insert (by assumption)

def postgresSqlstate {n : Nat} (graph : ExceptionGraph n) (error : Fin n) : Option String :=
  searchSqlstate graph ∅ [error]

section

variable {n : Nat} {graph : ExceptionGraph n} {seen : Finset (Fin n)} {current : Fin n} {pending : List (Fin n)}

theorem searchSqlstate_found {value : String} (fresh : current ∉ seen) (state : (graph current).value = some value) :
    searchSqlstate graph seen (current :: pending) = some value := by
  rw [searchSqlstate, if_neg fresh, state]

theorem searchSqlstate_next (fresh : current ∉ seen) (silent : (graph current).value = none) :
    searchSqlstate graph seen (current :: pending) =
      searchSqlstate graph (insert current seen) ((graph current).nested.reverse ++ pending) := by
  rw [searchSqlstate, if_neg fresh, silent]

end

/-- The state that the search takes from an exception: the `sqlstate`, or the `pgcode` of one whose `sqlstate`
is absent or empty. -/
def ExceptionNode.Carries {n : Nat} (node : ExceptionNode n) (state : String) : Prop :=
  (node.sqlstate = some state ∧ state ≠ "") ∨
    ((node.sqlstate = none ∨ node.sqlstate = some "") ∧ node.pgcode = some state)

namespace ExceptionGraph

variable {n : Nat} (graph : ExceptionGraph n)

def Linked (e e' : Fin n) : Prop :=
  (graph e).orig = some e' ∨ (graph e).cause = some e' ∨ (graph e).context = some e'

/-- A chain of links leads from one exception to the other. -/
def Reaches (e e' : Fin n) : Prop := Relation.ReflTransGen graph.Linked e e'

def links (e : Fin n) : List (Fin n) := (graph e).nested

def states (e : Fin n) : Option String := (graph e).value

/-- The loop of `postgres_sqlstate` ends in this state after `k` iterations. -/
def SearchEnds (error : Fin n) (k : Nat) (s : Worklist (Fin n) String) : Prop :=
  Worklist.Steps graph.links graph.states k (.start error) s ∧ s.step graph.links graph.states = none

end ExceptionGraph

section

variable {n : Nat} {graph : ExceptionGraph n} {s s' : Worklist (Fin n) String} {error : Fin n}

theorem carries_iff {node : ExceptionNode n} {state : String} : node.Carries state ↔ node.value = some state := by
  obtain ⟨sqlstate, pgcode, _, _, _⟩ := node
  cases sqlstate with
  | none => simp [ExceptionNode.Carries, ExceptionNode.value]
  | some text =>
    by_cases empty : text = ""
    · simp [ExceptionNode.Carries, ExceptionNode.value, empty]
    · simp only [ExceptionNode.Carries, ExceptionNode.value, empty, Option.some.injEq, Option.filter_some, ne_eq,
        not_false_eq_true, decide_true, if_true, Option.some_or, reduceCtorEq, or_self, false_and, or_false,
        and_iff_left_iff_imp]
      rintro rfl
      exact empty

theorem mem_links {e e' : Fin n} : e' ∈ graph.links e ↔ graph.Linked e e' := by
  simp [ExceptionGraph.links, ExceptionNode.nested, ExceptionGraph.Linked, eq_comm]

theorem reaches_iff {e e' : Fin n} : graph.Reaches e e' ↔ Worklist.Reaches graph.links e e' := by
  have same : graph.Linked = fun x y => y ∈ graph.links x := by
    funext x y
    exact propext mem_links.symm
  rw [ExceptionGraph.Reaches, same]

theorem links_length (e : Fin n) : (graph.links e).length ≤ 3 := by
  exact (List.length_filterMap_le _ _).trans (by simp)

/-- What the search returns from the state that the loop has reached. -/
def remaining (graph : ExceptionGraph n) (s : Worklist (Fin n) String) : Option String :=
  s.found.or (searchSqlstate graph s.seen s.pending)

theorem remaining_step (taken : s.step graph.links graph.states = some s') : remaining graph s' = remaining graph s := by
  obtain ⟨unfound, e, rest, shape, ⟨old, rfl⟩ | ⟨fresh, state, known, rfl⟩ | ⟨fresh, unknown, rfl⟩⟩ :=
    Worklist.step_cases taken
  · simp only [remaining, unfound, Option.none_or, shape]
    rw [searchSqlstate, if_pos old]
  · simp only [remaining, unfound, Option.none_or, Option.some_or, shape]
    rw [searchSqlstate_found fresh known]
  · simp only [remaining, unfound, Option.none_or, shape]
    rw [searchSqlstate_next fresh unknown]
    rfl

theorem remaining_steps {k : Nat} (steps : Worklist.Steps graph.links graph.states k s s') :
    remaining graph s' = remaining graph s := by
  induction steps with
  | refl => rfl
  | tail _ taken ih => exact (remaining_step taken).trans ih

theorem found_of_ended {k : Nat} (ends : graph.SearchEnds error k s) : s.found = postgresSqlstate graph error := by
  have kept := remaining_steps ends.1
  have whole : remaining graph (.start error) = postgresSqlstate graph error := rfl
  rw [← whole, ← kept]
  rcases Worklist.ended_iff.mp ends.2 with found | empty
  · obtain ⟨state, found⟩ := Option.isSome_iff_exists.mp found
    simp [remaining, found]
  · simp [remaining, empty, searchSqlstate]

/-- On every finite graph the loop ends after at most three iterations for each exception and one more. It
inspects no exception twice, and it answers with a state exactly when a reachable exception carries one; the
answer is such a state. -/
theorem sqlstate_search_complete (graph : ExceptionGraph n) (error : Fin n) :
    (∃ k s, k ≤ 3 * n + 1 ∧ graph.SearchEnds error k s ∧ s.found = postgresSqlstate graph error ∧
      s.inspected.Nodup ∧ ∀ e ∈ s.inspected, graph.Reaches error e) ∧
    ((∃ state, postgresSqlstate graph error = some state) ↔
      ∃ e state, graph.Reaches error e ∧ (graph e).Carries state) ∧
    ∀ state, postgresSqlstate graph error = some state → ∃ e, graph.Reaches error e ∧ (graph e).Carries state := by
  obtain ⟨k, s, bound, steps, ended⟩ := Worklist.ends graph.links graph.states (.start error)
  have inv := Worklist.invariant_start.steps steps
  have found := found_of_ended ⟨steps, ended⟩
  have few : ∑ e, (graph.links e).length ≤ 3 * n := by
    calc ∑ e, (graph.links e).length ≤ ∑ _e : Fin n, 3 := Finset.sum_le_sum fun e _ => links_length e
      _ = 3 * n := by simp [Nat.mul_comm]
  rw [Worklist.work_start] at bound
  refine ⟨⟨k, s, by omega, ⟨steps, ended⟩, found, inv.once, fun e mem => ?_⟩, ?_, fun state answer => ?_⟩
  · exact reaches_iff.mpr (inv.reached e (.inl ((inv.marked e).mp mem)))
  · rw [← found, inv.found_iff ended]
    simp only [reaches_iff, carries_iff]
    rfl
  · obtain ⟨e, mem, known⟩ := inv.valued state (found.trans answer)
    exact ⟨e, reaches_iff.mpr (inv.reached e (.inl mem)), carries_iff.mpr known⟩

end

/-- Two exceptions in a cycle; the state stands on the second. -/
example (graph : ExceptionGraph 2) (first : graph 0 = { orig := some 0, context := some 1 })
    (second : graph 1 = { sqlstate := some "", pgcode := some "40001", context := some 0 }) :
    postgresSqlstate graph 0 = some "40001" := by
  rw [postgresSqlstate, searchSqlstate_next (Finset.notMem_empty _) (by rw [first]; rfl), first]
  exact searchSqlstate_found (by decide) (by rw [second]; rfl)

end DeliveryService
