import SyntaxServer.Syntax.Hover

/-!
The node that a hover is about. A tree is followed greedily, into the first child that is named and
holds the place. In a tree whose nodes lie within each other, and side by side, no other way is
left: at each depth at most one named node holds the place (`Tree.reaches_unique`), and
the path is the list of these nodes (`Tree.encloses_pathTo`). So the hover is about the deepest of
them, if there is one (`Hover.innermost_of_at?`).
-/

namespace SyntaxServer

/-! ### The order of places -/

theorem Point.before_iff {p q : Point} :
    p.before q = true ↔ p.row < q.row ∨ p.row = q.row ∧ p.column < q.column := by
  simp [Point.before]

theorem Point.not_before_trans {p q r : Point} (h : ¬ p.before q = true)
    (h' : ¬ q.before r = true) : ¬ p.before r = true := by
  rw [Point.before_iff] at *
  omega

theorem Point.before_of_before_of_not {p q r : Point} (h : p.before q = true)
    (h' : ¬ r.before q = true) : p.before r = true := by
  rw [Point.before_iff] at *
  omega

namespace Tree

variable {t c d u v : Tree} {cs : List Tree} {i : NodeInfo} {p : Point} {is js : List Nat}
  {k depth : Nat}

theorem holds_iff : t.holds p = true ↔
    ¬ p.before t.info.start = true ∧ p.before t.info.stop = true := by
  simp [holds]

@[elab_as_elim]
theorem childInduction {motive : Tree → Prop}
    (node : ∀ i cs, (∀ c ∈ cs, motive c) → motive (.node i cs)) (t : Tree) : motive t := by
  obtain ⟨i, cs⟩ := t
  exact node i cs fun c _ => childInduction node c
termination_by sizeOf t
decreasing_by
  have := List.sizeOf_lt_of_mem ‹c ∈ cs›
  simp only [Tree.node.sizeOf_spec]
  omega

/-! ### Nodes at an address -/

@[simp]
theorem descendant?_nil (t : Tree) : t.descendant? [] = some t := rfl

@[simp]
theorem descendant?_cons (i : NodeInfo) (cs : List Tree) (k : Nat) (is : List Nat) :
    (node i cs).descendant? (k :: is) = cs[k]?.bind fun c => c.descendant? is := rfl

/-- The address of a named node below the root that holds a place. -/
structure Reaches (t : Tree) (p : Point) (is : List Nat) (u : Tree) : Prop where
  below : is ≠ []
  found : t.descendant? is = some u
  named : u.info.named = true
  holds : u.holds p = true

/-- A node of a tree whose nodes lie within each other: the children within their parent, in
order and without overlap, and none below a node without a name. -/
inductive Nested : Tree → Prop
  | node {i : NodeInfo} {cs : List Tree}
      (within : ∀ c ∈ cs, ¬ c.info.start.before i.start = true ∧ ¬ i.stop.before c.info.stop = true)
      (apart : cs.Pairwise fun c d => ¬ d.info.start.before c.info.stop = true)
      (unnamed : i.named = false → cs = [])
      (children : ∀ c ∈ cs, Nested c) : Nested (node i cs)

theorem holds_of_descendant? (h : t.Nested) (hu : t.descendant? is = some u)
    (hp : u.holds p = true) : t.holds p = true := by
  induction is generalizing t with
  | nil =>
    cases hu
    exact hp
  | cons k is ih =>
    obtain ⟨within, -, -, children⟩ := h
    rw [descendant?_cons, Option.bind_eq_some_iff] at hu
    obtain ⟨c, hc, hu⟩ := hu
    have hmem := List.mem_of_getElem? hc
    obtain ⟨hstart, hstop⟩ := holds_iff.1 (ih (children c hmem) hu)
    obtain ⟨hstart', hstop'⟩ := within c hmem
    exact holds_iff.2 ⟨Point.not_before_trans hstart hstart',
      Point.before_of_before_of_not hstop hstop'⟩

theorem named_of_descendant? (h : t.Nested) (hu : t.descendant? is = some u)
    (hn : u.info.named = true) : t.info.named = true := by
  cases is with
  | nil =>
    cases hu
    exact hn
  | cons k is =>
    obtain ⟨-, -, unnamed, -⟩ := h
    rename_i i cs
    cases hi : i.named with
    | true => exact hi
    | false =>
      rw [unnamed hi, descendant?_cons] at hu
      cases hu

theorem child_unique (h : cs.Pairwise fun c d => ¬ d.info.start.before c.info.stop = true)
    {j k : Nat} (hc : cs[j]? = some c) (hd : cs[k]? = some d) (hcp : c.holds p = true)
    (hdp : d.holds p = true) : j = k := by
  have hlt : ∀ {j k : Nat} {c d : Tree}, cs[j]? = some c → cs[k]? = some d →
      c.holds p = true → d.holds p = true → ¬ j < k := by
    intro j k c d hc hd hcp hdp hjk
    obtain ⟨hj, rfl⟩ := List.getElem?_eq_some_iff.1 hc
    obtain ⟨hk, rfl⟩ := List.getElem?_eq_some_iff.1 hd
    have hapart := List.pairwise_iff_getElem.1 h j k hj hk hjk
    have hbefore := Point.before_of_before_of_not (holds_iff.1 hcp).2 hapart
    exact (holds_iff.1 hdp).1 hbefore
  have hjk := hlt hc hd hcp hdp
  have hkj := hlt hd hc hdp hcp
  omega

/-! ### The way to a place -/

theorem pathTo_node (p : Point) (i : NodeInfo) (cs : List Tree) :
    (node i cs).pathTo p = pathAmong p cs := by
  rw [pathTo]

/-- The way goes on through a child that is named and holds the place, or there is none. -/
theorem pathAmong_cases (p : Point) (cs : List Tree) :
    (pathAmong p cs = [] ∧ ∀ c ∈ cs, ¬ (c.info.named = true ∧ c.holds p = true)) ∨
      ∃ (k : Nat) (c : Tree), cs[k]? = some c ∧ c.info.named = true ∧ c.holds p = true ∧
        pathAmong p cs = c :: c.pathTo p := by
  induction cs with
  | nil =>
    left
    refine ⟨by rw [pathAmong], ?_⟩
    intro c hc
    cases hc
  | cons c cs ih =>
    rw [pathAmong]
    by_cases hc : c.info.named = true ∧ c.holds p = true
    · right
      rw [if_pos (by rw [hc.1, hc.2]; rfl)]
      exact ⟨0, c, rfl, hc.1, hc.2, rfl⟩
    · rw [if_neg (by rwa [Bool.and_eq_true])]
      rcases ih with ⟨hnil, hnone⟩ | ⟨k, d, hd, hnamed, hholds, hpath⟩
      · exact Or.inl ⟨hnil, List.forall_mem_cons.2 ⟨hc, hnone⟩⟩
      · exact Or.inr ⟨k + 1, d, hd, hnamed, hholds, hpath⟩

/-- The nodes on the way are named and hold the place, each one level below the one before it. -/
theorem reaches_of_pathTo (h : (t.pathTo p)[depth]? = some u) :
    ∃ is, is.length = depth + 1 ∧ t.Reaches p is u := by
  induction t using childInduction generalizing depth with
  | node i cs ih =>
    rw [pathTo_node] at h
    rcases pathAmong_cases p cs with ⟨hnil, -⟩ | ⟨k, c, hc, hnamed, hholds, hpath⟩
    · rw [hnil] at h
      cases h
    · rw [hpath] at h
      cases depth with
      | zero =>
        cases h
        refine ⟨[k], rfl, by simp, ?_, hnamed, hholds⟩
        rw [descendant?_cons, hc]
        rfl
      | succ depth =>
        obtain ⟨is, hlen, -, hfound, hnamed', hholds'⟩ := ih c (List.mem_of_getElem? hc) h
        refine ⟨k :: is, by rw [List.length_cons, hlen], by simp, ?_, hnamed', hholds'⟩
        rw [descendant?_cons, hc]
        exact hfound

theorem reaches_of_getLast? (h : (t.pathTo p).getLast? = some u) : ∃ is, t.Reaches p is u := by
  rw [List.getLast?_eq_getElem?] at h
  obtain ⟨is, -, hu⟩ := reaches_of_pathTo h
  exact ⟨is, hu⟩

theorem Reaches.child (h : (node i cs).Nested) (hr : (node i cs).Reaches p (k :: is) u) :
    ∃ c, cs[k]? = some c ∧ c.Nested ∧ c.info.named = true ∧ c.holds p = true ∧
      (is = [] ∧ u = c ∨ c.Reaches p is u) := by
  obtain ⟨-, -, -, children⟩ := h
  obtain ⟨-, hfound, hnamed, hholds⟩ := hr
  rw [descendant?_cons, Option.bind_eq_some_iff] at hfound
  obtain ⟨c, hc, hu⟩ := hfound
  have hnested := children c (List.mem_of_getElem? hc)
  refine ⟨c, hc, hnested, named_of_descendant? hnested hu hnamed,
    holds_of_descendant? hnested hu hholds, ?_⟩
  cases is with
  | nil =>
    cases hu
    exact Or.inl ⟨rfl, rfl⟩
  | cons k' is => exact Or.inr ⟨by simp, hu, hnamed, hholds⟩

/-- **At each depth at most one named node holds the place.** -/
theorem reaches_unique (h : t.Nested) (hu : t.Reaches p is u) (hv : t.Reaches p js v)
    (hlen : is.length = js.length) : is = js := by
  induction is generalizing t js with
  | nil => exact absurd rfl hu.below
  | cons k is ih =>
    cases js with
    | nil => cases hlen
    | cons k' js =>
      obtain ⟨i, cs⟩ := t
      obtain ⟨c, hc, hnested, -, hholds, hc'⟩ := hu.child h
      obtain ⟨d, hd, -, -, hholds', hd'⟩ := hv.child h
      obtain ⟨-, apart, -, -⟩ := h
      cases child_unique apart hc hd hholds hholds'
      cases hc.symm.trans hd
      rcases hc' with ⟨rfl, -⟩ | hc'
      · have hnil : js = [] := List.length_eq_zero_iff.1 (Nat.succ.inj hlen).symm
        rw [hnil]
      · rcases hd' with ⟨rfl, -⟩ | hd'
        · exact absurd (List.length_eq_zero_iff.1 (Nat.succ.inj hlen)) hc'.below
        · rw [ih hnested hc' hd' (Nat.succ.inj hlen)]

/-- **The way misses no node**: each named one that holds the place is on it, at its depth. -/
theorem pathTo_of_reaches (h : t.Nested) (hu : t.Reaches p is u) (hlen : is.length = depth + 1) :
    (t.pathTo p)[depth]? = some u := by
  induction is generalizing t depth with
  | nil => cases hlen
  | cons k is ih =>
    obtain ⟨i, cs⟩ := t
    obtain ⟨c, hc, hnested, hnamed, hholds, hrest⟩ := hu.child h
    rw [pathTo_node]
    rcases pathAmong_cases p cs with ⟨-, hnone⟩ | ⟨k', d, hd, -, hholds', hpath⟩
    · exact absurd ⟨hnamed, hholds⟩ (hnone c (List.mem_of_getElem? hc))
    · obtain ⟨-, apart, -, -⟩ := h
      cases child_unique apart hc hd hholds hholds'
      cases hc.symm.trans hd
      rw [hpath]
      rcases hrest with ⟨rfl, rfl⟩ | hrest
      · cases hlen
        rfl
      · cases depth with
        | zero => exact absurd (List.length_eq_zero_iff.1 (Nat.succ.inj hlen)) hrest.below
        | succ depth => exact ih hnested hrest (Nat.succ.inj hlen)

/-- The path of the named nodes below the root that hold a place, the outermost first: the one at
each depth stands at its place in the list. -/
structure Encloses (t : Tree) (p : Point) (path : List Tree) : Prop where
  exact : ∀ depth u, path[depth]? = some u ↔ ∃ is, is.length = depth + 1 ∧ t.Reaches p is u
  unique : ∀ is js u v, t.Reaches p is u → t.Reaches p js v → is.length = js.length → is = js

theorem encloses_pathTo (h : t.Nested) : t.Encloses p (t.pathTo p) := by
  constructor
  case exact =>
    intro depth u
    constructor
    · exact reaches_of_pathTo
    · rintro ⟨is, hlen, hu⟩
      exact pathTo_of_reaches h hu hlen
  case unique =>
    intro is js u v hu hv
    exact reaches_unique h hu hv

theorem Encloses.deepest {path : List Tree} (h : t.Encloses p path)
    (hlast : path.getLast? = some u) :
    ∃ deep, t.Reaches p deep u ∧
      ∀ is v, t.Reaches p is v → is = deep ∨ is.length < deep.length := by
  obtain ⟨before, rfl⟩ := List.getLast?_eq_some_iff.1 hlast
  have hend : (before ++ [u])[before.length]? = some u := by simp
  obtain ⟨deep, hlen, hdeep⟩ := (h.exact _ _).1 hend
  refine ⟨deep, hdeep, ?_⟩
  intro is v hv
  have hpos := List.length_pos_iff.2 hv.below
  have hplace : (before ++ [u])[is.length - 1]? = some v :=
    (h.exact _ _).2 ⟨is, by omega, hv⟩
  obtain ⟨hbound, -⟩ := List.getElem?_eq_some_iff.1 hplace
  rw [List.length_append, List.length_singleton] at hbound
  by_cases heq : is.length = deep.length
  · exact Or.inl (h.unique _ _ _ _ hv hdeep heq)
  · right
    omega

theorem Encloses.eq_nil_iff {path : List Tree} (h : t.Encloses p path) :
    path = [] ↔ ¬ ∃ is u, t.Reaches p is u := by
  constructor
  · rintro rfl ⟨is, u, hu⟩
    have hpos := List.length_pos_iff.2 hu.below
    have hplace := (h.exact (is.length - 1) u).2 ⟨is, by omega, hu⟩
    cases hplace
  · intro hnone
    cases path with
    | nil => rfl
    | cons u path =>
      obtain ⟨is, -, hu⟩ := (h.exact 0 u).1 rfl
      exact absurd ⟨is, u, hu⟩ hnone

end Tree

namespace Hover

variable {grammars : Grammars} {languageId uri text : String} {p : Position} {point : Point}
  {language : Language} {line : List Char} {t : Tree} {cancelled : Bool} {hover : Hover}

theorem at?_eq (hlanguage : Language.detect languageId uri = some language)
    (hpoint : Text.pointAt text.toList p = some point) (ht : grammars language text = .ok t) :
    at? grammars languageId uri text p false = .ok (ofPath text.toList (t.pathTo point)) := by
  unfold at?
  rw [hlanguage, hpoint]
  simp only [ht]
  rfl

/-- A hover draws the node at the end of the way to its place, and gives the range of it. -/
theorem drawn_of_at? (h : at? grammars languageId uri text p cancelled = .ok (some hover)) :
    ∃ language t point u, Language.detect languageId uri = some language ∧
      grammars language text = .ok t ∧ Text.pointAt text.toList p = some point ∧
        (t.pathTo point).getLast? = some u ∧
          hover = ⟨pathText (t.pathTo point) ++ "\n\n```text\n" ++
            String.ofList (u.print text.toList) ++ "\n```", u.range text.toList⟩ := by
  unfold at? at h
  split at h
  case h_1 language point hlanguage hpoint =>
    cases ht : grammars language text with
    | error e =>
      rw [ht] at h
      cases h
    | ok t =>
      rw [ht] at h
      cases cancelled with
      | true => cases h
      | false =>
        have hpath : ofPath text.toList (t.pathTo point) = some hover := Except.ok.inj h
        obtain ⟨u, hu, hhover⟩ := Option.map_eq_some_iff.1 hpath
        exact ⟨language, t, point, u, hlanguage, ht, hpoint, hu, hhover.symm⟩
  case h_2 => cases h

/-- The tree of the text `[1]`. -/
def bracketed : Tree :=
  .node ⟨"document", true, 0, 3, ⟨0, 0⟩, ⟨0, 3⟩⟩
    [.node ⟨"array", true, 0, 3, ⟨0, 0⟩, ⟨0, 3⟩⟩
      [.node ⟨"[", false, 0, 1, ⟨0, 0⟩, ⟨0, 1⟩⟩ [],
        .node ⟨"number", true, 1, 2, ⟨0, 1⟩, ⟨0, 2⟩⟩ [],
        .node ⟨"]", false, 2, 3, ⟨0, 2⟩, ⟨0, 3⟩⟩ []]]

theorem nested_bracketed : bracketed.Nested := by
  have hleaf : ∀ i : NodeInfo, (Tree.node i []).Nested := by
    intro i
    constructor <;> simp
  refine .node (by decide) (by decide) (by decide) (List.forall_mem_singleton.2 ?_)
  refine .node (by decide) (by decide) (by decide) ?_
  simp only [List.forall_mem_cons]
  exact ⟨hleaf _, hleaf _, hleaf _, nofun⟩

def bracketedGrammars : Grammars := fun _ _ => .ok bracketed

end Hover

end SyntaxServer
