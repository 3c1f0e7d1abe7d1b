/-!
Tables: values under keys, each key once.
-/

namespace SyntaxServer

/-- Values under keys. -/
structure Table (κ ν : Type) where
  rows : List (κ × ν)
  deriving Repr

namespace Table

variable {κ ν : Type} [DecidableEq κ]

def empty : Table κ ν := ⟨[]⟩

def get? (t : Table κ ν) (k : κ) : Option ν := t.rows.lookup k

/-- The rows of other keys. -/
def erase (t : Table κ ν) (k : κ) : Table κ ν := ⟨t.rows.filter (·.1 ≠ k)⟩

/-- Puts a value under a key, in place of the one that was there. -/
def insert (t : Table κ ν) (k : κ) (v : ν) : Table κ ν := ⟨(k, v) :: (t.erase k).rows⟩

def size (t : Table κ ν) : Nat := t.rows.length

def keys (t : Table κ ν) : List κ := t.rows.map (·.1)

@[simp] theorem get?_empty (k : κ) : (empty : Table κ ν).get? k = none := rfl

theorem get?_erase (t : Table κ ν) (k k' : κ) :
    (t.erase k).get? k' = if k' = k then none else t.get? k' := by
  obtain ⟨rows⟩ := t
  simp only [get?, erase]
  induction rows with
  | nil => simp
  | cons r rows ih =>
    obtain ⟨a, v⟩ := r
    rw [List.filter_cons]
    by_cases ha : a = k
    · subst ha
      by_cases hk : k' = a
      · rw [if_neg (by simp), ih]
        simp [hk]
      · rw [if_neg (by simp), ih, List.lookup_cons, beq_false_of_ne hk]
    · rw [if_pos (by simp [ha]), List.lookup_cons, List.lookup_cons]
      by_cases hk : k' = a
      · subst hk
        simp [ha]
      · rw [beq_false_of_ne hk]
        exact ih

theorem get?_insert (t : Table κ ν) (k k' : κ) (v : ν) :
    (t.insert k v).get? k' = if k' = k then some v else t.get? k' := by
  have he := get?_erase t k k'
  unfold insert
  simp only [get?] at he ⊢
  rw [List.lookup_cons]
  by_cases h : k' = k
  · simp [h]
  · rw [beq_false_of_ne h]
    simpa [h] using he

end Table

end SyntaxServer
