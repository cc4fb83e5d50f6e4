/-
# Environments and what they bind

An environment keeps its bindings in increasing order of the names, by code points, so it is no more
than what it binds its names to: the order in which they were bound leaves no trace.  Behind some
assignments that start from nothing, the bindings are those of the last assignments to each name.
Main statements:

* `Environment.eq_iff_get?_eq` : environments are equal if all names have the same value in them;
* `Environment.ofList_bindings` : an environment is built up again from its bindings;
* `Leads.mem_bindings_iff` : what is bound behind some assignments, and to what.
-/
import MiniPascal.Proofs.Evaluation.Reads
import Mathlib.Data.List.Sort

namespace MiniPascal

/-! ## Sorted bindings -/

namespace Binding

variable {bindings others : List Binding}

/-- What is found for a name is bound to it, and the other way round as no name comes twice. -/
theorem lookup_eq_some_iff (h : Sorted bindings) {name : String} {value : Value} :
    lookup name bindings = some value ↔ (name, value) ∈ bindings := by
  induction bindings with
  | nil => simp [lookup]
  | cons head rest ih =>
    obtain ⟨other, old⟩ := head
    have hhead : ∀ b ∈ rest, other < b.1 := fun b hb => List.rel_of_pairwise_cons h hb
    rw [lookup, List.mem_cons]
    by_cases hname : name = other
    · subst hname
      -- All names behind the head are larger.
      have hrest : (name, value) ∉ rest := fun hb => String.lt_irrefl name (hhead _ hb)
      rw [if_pos rfl, or_iff_left hrest, Option.some.injEq, Prod.mk.injEq, eq_comm]
      simp
    · have hne : (name, value) ≠ (other, old) := fun heq => hname (congrArg Prod.fst heq)
      rw [if_neg hname, ih h.of_cons, or_iff_right hne]

/-- Sorted lists with the same bindings are equal. -/
theorem Sorted.eq_of_mem_iff (h : Sorted bindings) (hothers : Sorted others)
    (hmem : ∀ b, b ∈ bindings ↔ b ∈ others) : bindings = others := by
  have hirrefl : Std.Irrefl fun a b : Binding => a.1 < b.1 := ⟨fun b => String.lt_irrefl b.1⟩
  have hantisymm : Std.Antisymm fun a b : Binding => a.1 < b.1 :=
    ⟨fun a b hab hba => absurd (String.lt_trans hab hba) (String.lt_irrefl a.1)⟩
  exact List.Pairwise.eq_of_mem_iff h hothers hmem

/-- A name behind all others is put at the end. -/
theorem insert_of_forall_lt {name : String} (h : ∀ b ∈ bindings, b.1 < name) (value : Value) :
    insert name value bindings = bindings ++ [(name, value)] := by
  induction bindings with
  | nil => rfl
  | cons head rest ih =>
    obtain ⟨other, old⟩ := head
    obtain ⟨hother, hrest⟩ := List.forall_mem_cons.1 h
    have hge : ¬name < other := fun hlt => String.lt_irrefl name (String.lt_trans hlt hother)
    have hne : name ≠ other := fun heq => String.lt_irrefl name (heq ▸ hother)
    rw [insert, if_neg hge, if_neg hne, ih hrest, List.cons_append]

end Binding

/-! ## Environments -/

namespace Environment

variable {env other : Environment}

theorem mem_bindings_iff {name : String} {value : Value} :
    (name, value) ∈ env.bindings ↔ env.get? name = some value :=
  (Binding.lookup_eq_some_iff env.sorted).symm

/-- **Environments are equal if all names have the same value in them.** -/
theorem eq_iff_get?_eq : env = other ↔ ∀ name, env.get? name = other.get? name := by
  constructor
  · rintro rfl _
    rfl
  · intro h
    refine Environment.ext (env.sorted.eq_of_mem_iff other.sorted ?_)
    rintro ⟨name, value⟩
    rw [mem_bindings_iff, mem_bindings_iff, h name]

/-- Bindings in increasing order are added one behind the other. -/
theorem bindings_foldl (env : Environment) {bindings : List Binding}
    (h : Binding.Sorted (env.bindings ++ bindings)) :
    (bindings.foldl (fun env b => env.assign b.1 b.2) env).bindings = env.bindings ++ bindings := by
  induction bindings generalizing env with
  | nil => exact (List.append_nil _).symm
  | cons b rest ih =>
    have hb : ∀ a ∈ env.bindings, a.1 < b.1 := fun a ha =>
      (List.pairwise_append.1 h).2.2 a ha b List.mem_cons_self
    have hassign : (env.assign b.1 b.2).bindings = env.bindings ++ [b] :=
      Binding.insert_of_forall_lt hb b.2
    have hsorted : Binding.Sorted ((env.assign b.1 b.2).bindings ++ rest) := by
      rwa [hassign, ← List.append_cons]
    rw [List.foldl_cons, ih _ hsorted, hassign, ← List.append_cons]

/-- **An environment is built up again from its bindings.** -/
theorem ofList_bindings (env : Environment) : ofList env.bindings = env :=
  Environment.ext (bindings_foldl empty env.sorted)

/-- The names increase by their code points, compared from the first one on. -/
theorem pairwise_codePoints (env : Environment) :
    env.bindings.Pairwise fun a b => a.1.toList.map Char.toNat < b.1.toList.map Char.toNat :=
  env.sorted.imp fun hlt =>
    List.map_lt (f := Char.toNat) (fun _ _ hchar => hchar) (String.lt_iff.1 hlt)

end Environment

/-! ## Behind assignments -/

/-- The binding that the last assignment to a name makes, when the assignments are carried out
starting from nothing. -/
def Binding.MadeLast (as : List Assignment) (b : Binding) : Prop :=
  ∃ front a back mid, as = front ++ a :: back ∧ a.target.name = b.1 ∧
    (∀ c ∈ back, c.target.name ≠ b.1) ∧ Leads .empty front mid ∧ a.value.evaluate mid = .ok b.2

/-- Among the assignments to a name there is a last one. -/
theorem exists_last_assignment {as : List Assignment} {name : String}
    (h : ∃ a ∈ as, a.target.name = name) :
    ∃ front a back, as = front ++ a :: back ∧ a.target.name = name ∧
      ∀ b ∈ back, b.target.name ≠ name := by
  induction as with
  | nil =>
    obtain ⟨a, ha, -⟩ := h
    cases ha
  | cons head rest ih =>
    by_cases hrest : ∃ a ∈ rest, a.target.name = name
    · obtain ⟨front, a, back, rfl, ha, hback⟩ := ih hrest
      exact ⟨head :: front, a, back, rfl, ha, hback⟩
    · push Not at hrest
      obtain ⟨a, ha, hname⟩ := h
      rcases List.mem_cons.1 ha with rfl | ha
      · exact ⟨[], a, rest, rfl, hname, hrest⟩
      · exact absurd hname (hrest a ha)

namespace Leads

variable {env mid mid' after : Environment} {as : List Assignment}

/-- Assignments lead to one environment at most. -/
theorem unique (h : Leads env as mid) (h' : Leads env as mid') : mid = mid' := by
  have hrun := runAll_eq_ok_iff.2 h
  rw [runAll_eq_ok_iff.2 h'] at hrun
  exact (congrArg Prod.fst hrun).symm

/-- **The bindings behind some assignments** are those that the last ones to each name make. -/
theorem mem_bindings_iff (h : Leads .empty as after) {b : Binding} :
    b ∈ after.bindings ↔ b.MadeLast as := by
  obtain ⟨name, value⟩ := b
  rw [Environment.mem_bindings_iff]
  constructor
  · intro hget
    have hassigned : ∃ a ∈ as, a.target.name = name := by
      rcases h.bound_iff.1 ⟨value, hget⟩ with ⟨_, hempty⟩ | hassigned
      · cases hempty
      · exact hassigned
    obtain ⟨front, a, back, rfl, rfl, hback⟩ := exists_last_assignment hassigned
    obtain ⟨mid, v, hfront, hvalue, hlast⟩ := h.get?_last hback
    rw [hget] at hlast
    rw [← Option.some.inj hlast] at hvalue
    exact ⟨front, a, back, mid, rfl, rfl, hback, hfront, hvalue⟩
  · rintro ⟨front, a, back, mid, rfl, rfl, hback, hfront, hvalue⟩
    -- The assignments in front lead to one environment only, so the value is the same.
    obtain ⟨mid', v, hfront', hvalue', hlast⟩ := h.get?_last hback
    rw [hfront'.unique hfront, hvalue] at hvalue'
    rw [hlast, ← Except.ok.inj hvalue']

/-- The names that are bound behind some assignments are those of their targets. -/
theorem mem_names_iff (h : Leads .empty as after) {name : String} :
    name ∈ after.bindings.map Prod.fst ↔ ∃ a ∈ as, a.target.name = name := by
  have hempty : ¬Environment.empty.Bound name := by
    rintro ⟨value, hget⟩
    cases hget
  rw [← or_iff_right hempty (b := ∃ a ∈ as, a.target.name = name), ← h.bound_iff]
  simp [Environment.Bound, Environment.mem_bindings_iff]

end Leads

end MiniPascal
