import Mathlib.Data.List.Nodup
import SyntaxServer.Rpc.ErrorCode

/-!
Error codes and their numbers. A code of the table has a reserved number (`reserved_of_mem`) and an
application's code has another (`ApplicationCode.ofInt?_eq_some_iff`), and no two codes of the table
share one (`mem_eq_of_code`). So a number is read as the code that has it, if there is one
(`ErrorCode.ofInt?_eq_some_iff`), and the numbers without one are the reserved ones that the table
leaves out (`codes_of_numbers`).
-/

namespace SyntaxServer

variable {n : Int} {c c' : ErrorCode} {a : ApplicationCode}

/-! ### Reserved numbers -/

/-- The numbers that the protocols keep for themselves: those of calls in general, the last hundred
of them for servers, and those of language servers. -/
def Reserved (n : Int) : Prop := (-32768 ≤ n ∧ n ≤ -32000) ∨ (-32899 ≤ n ∧ n ≤ -32800)

instance : Decidable (Reserved n) := instDecidableOr

theorem isReservedCode_iff : isReservedCode n = true ↔ Reserved n := by
  simp [isReservedCode, Reserved]

theorem isReservedCode_eq_false_iff : isReservedCode n = false ↔ ¬ Reserved n := by
  rw [← isReservedCode_iff, Bool.not_eq_true]

/-! ### Application codes -/

namespace ApplicationCode

theorem not_reserved (a : ApplicationCode) : ¬ Reserved a.code :=
  isReservedCode_eq_false_iff.1 a.free

theorem ofInt?_eq_some_iff : ofInt? n = some a ↔ a.code = n := by
  unfold ofInt?
  split
  case isTrue hfree =>
    rw [Option.some_inj]
    constructor
    · rintro rfl
      rfl
    · rintro rfl
      rfl
  case isFalse hfree =>
    refine iff_of_false nofun ?_
    rintro rfl
    exact hfree a.free

theorem ofInt?_eq_none_iff : ofInt? n = none ↔ Reserved n := by
  unfold ofInt?
  split
  case isTrue hfree => exact iff_of_false nofun (isReservedCode_eq_false_iff.1 hfree)
  case isFalse hfree =>
    exact iff_of_true rfl (isReservedCode_iff.1 (Bool.of_not_eq_false hfree))

/-- **A number where a code must be** is that code, or it is refused because it is reserved. -/
theorem ofInt_eq_ok_iff : ofInt n = .ok a ↔ a.code = n := by
  rw [← ofInt?_eq_some_iff]
  unfold ofInt
  cases ofInt? n <;> simp

theorem ofInt_eq_error_iff : ofInt n = .error refusal ↔ Reserved n := by
  rw [← ofInt?_eq_none_iff]
  unfold ofInt
  cases ofInt? n <;> simp

end ApplicationCode

/-! ### The table -/

namespace ErrorCode

theorem mem_reserved_or (c : ErrorCode) : c ∈ reserved ∨ ∃ a, c = .application a := by
  cases c with
  | application a => exact Or.inr ⟨a, rfl⟩
  | _ => exact Or.inl (by decide)

theorem reserved_of_mem (hc : c ∈ reserved) : Reserved c.code := by
  have hall : ∀ c ∈ reserved, Reserved c.code := by decide
  exact hall c hc

theorem mem_eq_of_code (hc : c ∈ reserved) (hc' : c' ∈ reserved) (h : c.code = c'.code) :
    c = c' := by
  have hnodup : (reserved.map code).Nodup := by decide
  exact List.inj_on_of_nodup_map hnodup hc hc' h

theorem find?_eq_none_iff :
    reserved.find? (·.code = n) = none ↔ ∀ c ∈ reserved, c.code ≠ n := by
  simp only [List.find?_eq_none, decide_eq_true_eq]

theorem find?_eq_some_iff : reserved.find? (·.code = n) = some c ↔ c ∈ reserved ∧ c.code = n := by
  have hfound : ∀ {c'}, reserved.find? (·.code = n) = some c' → c' ∈ reserved ∧ c'.code = n := by
    intro c' h
    have hcode := List.find?_some h
    exact ⟨List.mem_of_find?_eq_some h, of_decide_eq_true hcode⟩
  refine ⟨hfound, ?_⟩
  rintro ⟨hc, hcode⟩
  cases hfind : reserved.find? (·.code = n) with
  | none => exact absurd hcode (find?_eq_none_iff.1 hfind c hc)
  | some c' =>
    obtain ⟨hc', hcode'⟩ := hfound hfind
    rw [mem_eq_of_code hc' hc (hcode'.trans hcode.symm)]

theorem find?_application (a : ApplicationCode) : reserved.find? (·.code = a.code) = none := by
  rw [find?_eq_none_iff]
  intro c hc hcode
  exact a.not_reserved (hcode ▸ reserved_of_mem hc)

/-- **A number is read as the code that has it.** -/
theorem ofInt?_eq_some_iff : ofInt? n = some c ↔ c.code = n := by
  unfold ofInt?
  rw [Option.or_eq_some_iff, find?_eq_some_iff]
  constructor
  · rintro (⟨-, hcode⟩ | ⟨-, hmap⟩)
    · exact hcode
    · obtain ⟨a, ha, rfl⟩ := Option.map_eq_some_iff.1 hmap
      exact ApplicationCode.ofInt?_eq_some_iff.1 ha
  · rintro rfl
    rcases c.mem_reserved_or with hc | ⟨a, rfl⟩
    · exact Or.inl ⟨hc, rfl⟩
    · refine Or.inr ⟨find?_application a, ?_⟩
      exact Option.map_eq_some_iff.2 ⟨a, ApplicationCode.ofInt?_eq_some_iff.2 rfl, rfl⟩

/-- **A number has no code** if it is reserved and the table leaves it out. -/
theorem ofInt?_eq_none_iff : ofInt? n = none ↔ Reserved n ∧ ∀ c ∈ reserved, c.code ≠ n := by
  unfold ofInt?
  rw [Option.or_eq_none_iff, Option.map_eq_none_iff, find?_eq_none_iff,
    ApplicationCode.ofInt?_eq_none_iff, and_comm]

/-- **No two codes share a number.** -/
theorem code_injective : Function.Injective code := by
  intro c c' h
  have hc : ofInt? c'.code = some c := ofInt?_eq_some_iff.2 h
  exact Option.some.inj (hc.symm.trans (ofInt?_eq_some_iff.2 rfl))

end ErrorCode

/-- **Codes and numbers correspond one to one.** A number is read as a code if and only if that is
the code's number, so every code is read back, and no two share a number; it is read as none if and
only if it is reserved and the table leaves it out. An application's code is made of any number that
is not reserved, and of no other, and so it is never read as one of the table. -/
theorem codes_of_numbers :
    (∀ n c, ErrorCode.ofInt? n = some c ↔ c.code = n) ∧
      (∀ n, ErrorCode.ofInt? n = none ↔
        ((-32768 ≤ n ∧ n ≤ -32000) ∨ (-32899 ≤ n ∧ n ≤ -32800)) ∧
          ∀ c ∈ ErrorCode.reserved, c.code ≠ n) ∧
      Function.Injective ErrorCode.code ∧
      (∀ n a, (ApplicationCode.ofInt? n = some a ↔ a.code = n) ∧
        (ApplicationCode.ofInt n = .ok a ↔ a.code = n)) ∧
      (∀ n, (ApplicationCode.ofInt? n = none ↔ Reserved n) ∧
        (ApplicationCode.ofInt n = .error ApplicationCode.refusal ↔ Reserved n)) ∧
      ∀ a : ApplicationCode, ¬ Reserved a.code ∧
        ErrorCode.ofInt? a.code = some (.application a) ∧
        ∀ c ∈ ErrorCode.reserved, c.code ≠ a.code := by
  refine ⟨fun _ _ => ErrorCode.ofInt?_eq_some_iff, fun _ => ErrorCode.ofInt?_eq_none_iff,
    ErrorCode.code_injective, ?_, ?_, ?_⟩
  · intro n a
    exact ⟨ApplicationCode.ofInt?_eq_some_iff, ApplicationCode.ofInt_eq_ok_iff⟩
  · intro n
    exact ⟨ApplicationCode.ofInt?_eq_none_iff, ApplicationCode.ofInt_eq_error_iff⟩
  · intro a
    exact ⟨a.not_reserved, ErrorCode.ofInt?_eq_some_iff.2 rfl,
      ErrorCode.find?_eq_none_iff.1 (ErrorCode.find?_application a)⟩

end SyntaxServer
