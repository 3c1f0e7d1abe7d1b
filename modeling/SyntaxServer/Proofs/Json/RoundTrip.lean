import SyntaxServer.Proofs.Json.Written
import SyntaxServer.Proofs.Text.Utf8

/-!
What is written of a value is read as its normal form, if its numbers are integers and it nests at
most 127 deep; deeper values are not read at all (`ofBytes?_text`).
-/

namespace SyntaxServer

namespace JsonText

variable {cs rest : List Char} {v : Json} {vs : List Json} {ms : Members} {depth : Nat}

/-! ### Written values are read back -/

/-- A text that does not go on with a value before it: an end, or what stands between values. -/
def Follows (rest : List Char) : Prop := ∀ c ∈ rest.head?, c = ',' ∨ c = ']' ∨ c = '\x7d'

theorem Follows.ends (h : Follows rest) : Ends rest := by
  intro c hc
  rcases h c hc with rfl | rfl | rfl <;> decide

theorem follows_cons {c : Char} (h : c = ',' ∨ c = ']' ∨ c = '\x7d') (cs : List Char) :
    Follows (c :: cs) := fun _ hd => Option.some.inj hd ▸ h

/-- A text that starts as a value does: not with a blank, nor with what ends an array. -/
def Opens (cs : List Char) : Prop := ∃ c ds, cs = c :: ds ∧ isSpace c = false ∧ c ≠ ']'

theorem Opens.append (h : Opens cs) (ds : List Char) : Opens (cs ++ ds) := by
  obtain ⟨c, es, rfl, hc⟩ := h
  exact ⟨c, es ++ ds, rfl, hc⟩

theorem Opens.skip (h : Opens cs) : skip cs = cs := by
  obtain ⟨c, ds, rfl, hc, -⟩ := h
  exact List.dropWhile_cons_of_neg (Bool.eq_false_iff.1 hc)

theorem opens_chars (h : v.integral = true) : Opens v.chars := by
  cases v with
  | null => exact ⟨_, _, rfl, rfl, by decide⟩
  | bool b => cases b <;> exact ⟨_, _, rfl, rfl, by decide⟩
  | string s => exact ⟨_, _, rfl, rfl, by decide⟩
  | array vs => exact ⟨_, _, rfl, rfl, by decide⟩
  | object ms => exact ⟨_, _, rfl, rfl, by decide⟩
  | number x =>
    cases x with
    | float b y => cases h
    | integer n =>
      obtain ⟨c, cs, hcs, hc⟩ := head_integer n
      refine ⟨c, cs, hcs, ?_, ?_⟩
      · refine Bool.eq_false_iff.2 fun hspace => ?_
        simp only [isSpace, Bool.or_eq_true, decide_eq_true_eq] at hspace
        rcases hspace with ((rfl | rfl) | rfl) | rfl <;> simp at hc
      · rintro rfl
        simp at hc

theorem opens_elementsChars (h : v.integral = true) (vs : List Json) :
    Opens (Json.elementsChars (v :: vs)) := by
  cases vs with
  | nil => exact opens_chars h
  | cons w vs => exact (opens_chars h).append _

/-- What a reader of depth `depth` reads of a written value. -/
def ReadsBack (depth : Nat) (v : Json) : Prop :=
  ∀ rest, Follows rest → plain (JsonText.value depth (v.chars ++ rest)) =
    if v.nesting ≤ depth then some (v.normal, rest) else none

theorem plain_value_scalar (hs : skip cs = cs) (h₁ : ∀ ds, cs ≠ '[' :: ds)
    (h₂ : ∀ ds, cs ≠ '\x7b' :: ds) : plain (JsonText.value depth cs) = plain (scalar cs) := by
  cases depth with
  | zero =>
    rw [plain_value_zero, hs]
    split
    case h_1 => exact absurd rfl (h₁ _)
    case h_2 => exact absurd rfl (h₂ _)
    case h_3 => rfl
  | succ depth =>
    rw [plain_value_succ, hs]
    split
    case h_1 => exact absurd rfl (h₁ _)
    case h_2 => exact absurd rfl (h₂ _)
    case h_3 => rfl

theorem readsBack_scalar {c : Char} (hchars : v.chars = c :: cs) (hspace : isSpace c = false)
    (h₁ : c ≠ '[') (h₂ : c ≠ '\x7b') (hdeep : v.nesting = 0) (hnormal : v.normal = v)
    (h : ∀ rest, Follows rest → plain (scalar (v.chars ++ rest)) = some (v, rest)) :
    ReadsBack depth v := by
  intro rest hrest
  have hhead : ∀ {d : Char}, c ≠ d → ∀ ds, v.chars ++ rest ≠ d :: ds := by
    intro d hne ds heq
    rw [hchars] at heq
    exact hne (List.cons.inj heq).1
  have hskip : skip (v.chars ++ rest) = v.chars ++ rest := by
    rw [hchars]
    exact List.dropWhile_cons_of_neg (Bool.eq_false_iff.1 hspace)
  rw [plain_value_scalar hskip (hhead h₁) (hhead h₂), h rest hrest, hdeep, hnormal,
    if_pos (Nat.zero_le _)]

theorem readsBack_bool (b : Bool) : ReadsBack depth (.bool b) := by
  cases b with
  | true =>
    exact readsBack_scalar rfl rfl (by decide) (by decide) rfl rfl fun rest _ =>
      plain_word ['t', 'r', 'u', 'e'] (by simp) (.bool true) rest
  | false =>
    exact readsBack_scalar rfl rfl (by decide) (by decide) rfl rfl fun rest _ =>
      plain_word ['f', 'a', 'l', 's', 'e'] (by simp) (.bool false) rest

theorem readsBack_string (s : String) : ReadsBack depth (.string s) := by
  refine readsBack_scalar rfl rfl (by decide) (by decide) rfl rfl fun rest _ => ?_
  show plain ((string (Json.stringChars s ++ rest)).map fun p => (Json.string p.1, p.2)) = _
  rw [plain_map Json.string, plain_string]
  rfl

theorem readsBack_integer {n : Int}
    (hn : (Width.int64.holds n || Width.nat64.holds n) = true) :
    ReadsBack depth (.number (.integer n)) := by
  obtain ⟨c, cs, hcs, hc⟩ := head_integer n
  have hne : ∀ {d : Char}, d ≠ '-' → d.isDigit = false → c ≠ d := by
    rintro d hsign hdigit rfl
    rw [hdigit] at hc
    exact hc.elim hsign nofun
  obtain ⟨_, _, heq, hspace, -⟩ := opens_chars (v := .number (.integer n)) hn
  cases hcs.symm.trans heq
  refine readsBack_scalar hcs hspace (hne (by decide) rfl) (hne (by decide) rfl) rfl rfl
    fun rest hrest => ?_
  have hhead : ∀ {d : Char}, c ≠ d → ∀ ds, (toString n).toList ++ rest ≠ d :: ds := by
    intro d hd ds heq
    rw [hcs] at heq
    exact hd (List.cons.inj heq).1
  show plain (scalar ((toString n).toList ++ rest)) = _
  rw [scalar.eq_5 _ (hhead (hne (by decide) rfl)) (hhead (hne (by decide) rfl))
    (hhead (hne (by decide) rfl)) (hhead (hne (by decide) rfl)), plain_map Json.number,
    plain_number hn hrest.ends]
  rfl

/-- One reading and then another are possible if both are. -/
theorem bind_ite {α β : Type} {p q : Prop} [Decidable p] [Decidable q] {a : α} {b : β}
    {f : α → Option β} (h : f a = if q then some b else none) :
    (if p then some a else none).bind f = if p ∧ q then some b else none := by
  by_cases hp : p
  · rw [if_pos hp, Option.bind_some, h]
    simp only [hp, true_and]
  · rw [if_neg hp, if_neg fun hpq => hp hpq.1]
    rfl

theorem plain_elements_chars (hvs : ∀ v ∈ vs, ReadsBack depth v) (hne : vs ≠ [])
    (rest : List Char) :
    plain (elements (JsonText.value depth) (Json.elementsChars vs ++ ']' :: rest)) =
      if Json.nestingElements vs ≤ depth then some (Json.normalElements vs, rest) else none := by
  induction vs with
  | nil => exact absurd rfl hne
  | cons v vs ih =>
    obtain ⟨hv, hvs⟩ := List.forall_mem_cons.1 hvs
    rw [plain_elements]
    simp only [Json.nestingElements, Json.normalElements, Nat.max_le]
    cases vs with
    | nil =>
      rw [Json.elementsChars, hv _ (follows_cons (by simp) rest)]
      exact bind_ite (if_pos (Nat.zero_le depth)).symm
    | cons w vs =>
      have hrest := ih hvs (List.cons_ne_nil w vs)
      rw [Json.elementsChars, List.append_assoc, List.cons_append,
        hv _ (follows_cons (by simp) _)]
      refine bind_ite ?_
      show (plain (elements _ _)).map _ = _
      rw [hrest, apply_ite (Option.map _)]
      rfl

theorem readsBack_array (h : ∀ v ∈ vs, v.integral = true)
    (hvs : ∀ v ∈ vs, ∀ depth, ReadsBack depth v) : ReadsBack depth (.array vs) := by
  intro rest _
  show plain (JsonText.value depth ('[' :: Json.elementsChars vs ++ [']'] ++ rest)) = _
  rw [List.append_assoc, List.cons_append, List.singleton_append]
  rw [Json.nesting, Json.normal]
  cases depth with
  | zero =>
    rw [plain_value_zero, if_neg (Nat.not_succ_le_zero _)]
    rfl
  | succ depth =>
    rw [plain_value_succ]
    show plain (arrayBody _ _) = _
    rw [plain_arrayBody]
    cases vs with
    | nil =>
      exact (if_pos (Nat.succ_le_succ (Nat.zero_le depth))).symm
    | cons v vs =>
      have hopens := (opens_elementsChars (h v (List.mem_cons_self ..)) vs).append (']' :: rest)
      rw [hopens.skip]
      have hread := plain_elements_chars (fun w hw => hvs w hw depth) (List.cons_ne_nil v vs) rest
      obtain ⟨c, ds, heq, -, hc⟩ := hopens
      rw [heq] at hread ⊢
      split
      case h_1 es hes => exact absurd (List.cons.inj hes).1 hc
      case h_2 =>
        rw [hread, apply_ite (Option.map _)]
        simp only [Nat.add_le_add_iff_right]
        rfl

theorem plain_memberName_chars (n : String) (rest : List Char) :
    plain (memberName (Json.stringChars n ++ ':' :: rest)) = some (n, rest) := by
  rw [plain_memberName]
  show (plain (string (Json.stringChars n ++ ':' :: rest))).bind _ = _
  rw [plain_string]
  rfl

theorem plain_members_chars (hms : ∀ m ∈ ms, ReadsBack depth m.2) (hne : ms ≠ [])
    (rest : List Char) :
    plain (members (JsonText.value depth) (Json.membersChars ms ++ '\x7d' :: rest)) =
      if Json.nestingMembers ms ≤ depth then some (Json.normalMembers ms, rest) else none := by
  induction ms with
  | nil => exact absurd rfl hne
  | cons m ms ih =>
    obtain ⟨n, v⟩ := m
    obtain ⟨hv, hms⟩ := List.forall_mem_cons.1 hms
    rw [plain_members]
    simp only [Json.nestingMembers, Json.normalMembers, Nat.max_le]
    cases ms with
    | nil =>
      rw [Json.membersChars, List.append_assoc, List.cons_append, plain_memberName_chars,
        Option.bind_some, hv _ (follows_cons (by simp) rest)]
      exact bind_ite (if_pos (Nat.zero_le depth)).symm
    | cons m ms =>
      have hrest := ih hms (List.cons_ne_nil m ms)
      rw [Json.membersChars, List.append_assoc, List.cons_append, List.append_assoc,
        List.cons_append, plain_memberName_chars, Option.bind_some,
        hv _ (follows_cons (by simp) _)]
      refine bind_ite ?_
      show (plain (members _ _)).map _ = _
      rw [hrest, apply_ite (Option.map _)]
      rfl

theorem head_membersChars (m : String × Json) (ms : Members) (rest : List Char) :
    ∃ ds, Json.membersChars (m :: ms) ++ rest = '"' :: ds := by
  obtain ⟨n, v⟩ := m
  cases ms with
  | nil => exact ⟨_, rfl⟩
  | cons m ms => exact ⟨_, rfl⟩

theorem readsBack_object (hms : ∀ m ∈ ms, ∀ depth, ReadsBack depth m.2) :
    ReadsBack depth (.object ms) := by
  intro rest _
  show plain (JsonText.value depth ('\x7b' :: Json.membersChars ms ++ ['\x7d'] ++ rest)) = _
  rw [List.append_assoc, List.cons_append, List.singleton_append]
  rw [Json.nesting, Json.normal]
  cases depth with
  | zero =>
    rw [plain_value_zero, if_neg (Nat.not_succ_le_zero _)]
    rfl
  | succ depth =>
    rw [plain_value_succ]
    show plain (objectBody _ _) = _
    rw [plain_objectBody]
    cases ms with
    | nil =>
      exact (if_pos (Nat.succ_le_succ (Nat.zero_le depth))).symm
    | cons m ms =>
      have hread := plain_members_chars (fun w hw => hms w hw depth) (List.cons_ne_nil m ms) rest
      obtain ⟨ds, heq⟩ := head_membersChars m ms ('\x7d' :: rest)
      rw [heq] at hread ⊢
      show (plain (members _ _)).map _ = _
      rw [hread, apply_ite (Option.map _)]
      simp only [Nat.add_le_add_iff_right]
      rfl

/-- **What is written of a value is read as its normal form**, up to the depth of the reader. -/
theorem readsBack (h : v.integral = true) (depth : Nat) : ReadsBack depth v := by
  induction v using Json.induction generalizing depth with
  | null =>
    exact readsBack_scalar rfl rfl (by decide) (by decide) rfl rfl fun rest _ =>
      plain_word ['n', 'u', 'l', 'l'] (by simp) .null rest
  | bool b => exact readsBack_bool b
  | number x =>
    cases x with
    | integer n => exact readsBack_integer h
    | float b y => cases h
  | string s => exact readsBack_string s
  | array vs ih =>
    have hvs := Json.integralElements_iff.1 h
    exact readsBack_array hvs fun v hv depth => ih v hv (hvs v hv) depth
  | object ms ih =>
    have hms := Json.integralMembers_iff.1 h
    exact readsBack_object fun m hm depth => ih m hm (hms m hm) depth

end JsonText

namespace Json

/-- **Reading undoes writing**, for values whose numbers are integers and that nest at most 127
deep: what is read is the normal form. Deeper values are not read. -/
theorem ofBytes?_text {v : Json} (h : v.integral = true) :
    ofBytes? (Utf8.ofString v.text) = if v.nesting ≤ 127 then some v.normal else none := by
  have hread := JsonText.readsBack h JsonText.maxDepth [] nofun
  rw [List.append_nil] at hread
  unfold ofBytes? Utf8.ofString text
  rw [String.toList_ofList, Utf8.decode?_encode, Option.bind_some]
  unfold parse?
  by_cases hd : v.nesting ≤ 127
  · rw [if_pos (show v.nesting ≤ JsonText.maxDepth from hd)] at hread
    obtain ⟨hlt, hvalue⟩ := JsonText.plain_eq_some.1 hread
    rw [hvalue, if_pos hd]
    rfl
  · rw [if_neg (show ¬ v.nesting ≤ JsonText.maxDepth from hd)] at hread
    rw [JsonText.plain_eq_none.1 hread, if_neg hd]

end Json

end SyntaxServer
