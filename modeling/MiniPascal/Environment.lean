/-
# Environments

An environment binds names to values.  Its bindings are kept in increasing order of the names, each
name once, so that the order of the assignments leaves no trace.  Main statements:

* `get?_assign_self` : an assignment binds its name;
* `get?_assign_of_ne` : it leaves the other names alone.
-/
import MiniPascal.Value

namespace MiniPascal

/-- A name with its value. -/
abbrev Binding := String × Value

/-! ## Lists of bindings -/

namespace Binding

/-- The value that a list of bindings gives to the name. -/
def lookup (name : String) : List Binding → Option Value
  | [] => none
  | (other, value) :: rest => if name = other then some value else lookup name rest

/-- Puts a binding into its place in a sorted list, instead of an earlier one for the name. -/
def insert (name : String) (value : Value) : List Binding → List Binding
  | [] => [(name, value)]
  | (other, old) :: rest =>
    if name < other then (name, value) :: (other, old) :: rest
    else if name = other then (name, value) :: rest
    else (other, old) :: insert name value rest

/-- The names increase along the list. -/
def Sorted (bindings : List Binding) : Prop := bindings.Pairwise fun a b => a.1 < b.1

theorem mem_insert {name : String} {value : Value} {bindings : List Binding} {b : Binding}
    (h : b ∈ insert name value bindings) : b = (name, value) ∨ b ∈ bindings := by
  induction bindings with
  | nil => simpa [insert] using h
  | cons head rest ih =>
    unfold insert at h
    split at h
    · simpa using h
    · split at h
      · rcases List.mem_cons.1 h with rfl | h
        · exact Or.inl rfl
        · exact Or.inr (List.mem_cons_of_mem _ h)
      · rcases List.mem_cons.1 h with rfl | h
        · exact Or.inr List.mem_cons_self
        · exact (ih h).imp id (List.mem_cons_of_mem _)

/-- A binding put into its place keeps the list sorted. -/
theorem sorted_insert (name : String) (value : Value) {bindings : List Binding}
    (h : Sorted bindings) : Sorted (insert name value bindings) := by
  induction bindings with
  | nil => simp [insert, Sorted]
  | cons head rest ih =>
    obtain ⟨other, old⟩ := head
    have hhead : ∀ b ∈ rest, other < b.1 := fun b hb => List.rel_of_pairwise_cons h hb
    unfold insert
    split
    · next hlt =>
      refine List.Pairwise.cons (fun b hb => ?_) h
      rcases List.mem_cons.1 hb with rfl | hb
      · exact hlt
      · exact String.lt_trans hlt (hhead b hb)
    · next hge =>
      split
      · next heq =>
        subst heq
        exact List.Pairwise.cons (hhead) h.of_cons
      · next hne =>
        refine List.Pairwise.cons (fun b hb => ?_) (ih h.of_cons)
        rcases mem_insert hb with rfl | hb
        · exact Std.lt_of_le_of_ne (Std.not_lt.1 hge) (Ne.symm hne)
        · exact hhead b hb

theorem lookup_insert_self (name : String) (value : Value) (bindings : List Binding) :
    lookup name (insert name value bindings) = some value := by
  induction bindings with
  | nil => simp [insert, lookup]
  | cons head rest ih =>
    unfold insert
    split
    · simp [lookup]
    · split
      · simp [lookup]
      · next hne => simp [lookup, hne, ih]

theorem lookup_insert_of_ne {name other : String} (h : other ≠ name) (value : Value)
    (bindings : List Binding) :
    lookup other (insert name value bindings) = lookup other bindings := by
  induction bindings with
  | nil => simp [insert, lookup, h]
  | cons head rest ih =>
    unfold insert
    split
    · simp [lookup, h]
    · split
      · next heq => simp [lookup, h, ← heq]
      · simp [lookup, ih]

end Binding

/-! ## Environments -/

/-- Bindings in increasing order of their names. -/
@[ext]
structure Environment where
  /-- The bindings, each name once. -/
  bindings : List Binding
  /-- The names increase. -/
  sorted : Binding.Sorted bindings
  deriving DecidableEq

namespace Environment

/-- The environment without bindings. -/
def empty : Environment := ⟨[], List.Pairwise.nil⟩

/-- The value that the name is bound to. -/
def get? (env : Environment) (name : String) : Option Value := Binding.lookup name env.bindings

/-- Binds the name to the value, instead of an earlier one. -/
def assign (env : Environment) (name : String) (value : Value) : Environment :=
  ⟨Binding.insert name value env.bindings, Binding.sorted_insert name value env.sorted⟩

/-- The number of bindings. -/
def size (env : Environment) : Nat := env.bindings.length

/-- Whether nothing is bound. -/
def isEmpty (env : Environment) : Bool := env.bindings.isEmpty

/-- The environment that the assignments leave behind, the last one winning. -/
def ofList (bindings : List Binding) : Environment :=
  bindings.foldl (fun env b => env.assign b.1 b.2) empty

/-- An assignment binds its name. -/
theorem get?_assign_self (env : Environment) (name : String) (value : Value) :
    (env.assign name value).get? name = some value :=
  Binding.lookup_insert_self ..

/-- An assignment leaves the other names alone. -/
theorem get?_assign_of_ne {name other : String} (h : other ≠ name) (env : Environment)
    (value : Value) : (env.assign name value).get? other = env.get? other :=
  Binding.lookup_insert_of_ne h ..

end Environment

end MiniPascal
