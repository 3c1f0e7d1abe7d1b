import Mathlib.Data.List.Lex
import Mathlib.Logic.Function.Iterate
import SyntaxServer.Proofs.Syntax.Innermost

/-!
The drawing of a tree, made with a list of trees that wait, is the one that follows the tree
(`print_eq_render`): what is still to be drawn is, at each time, the drawings of the trees that
wait, one after the other (`printAll_eq`). The list is empty after at most as many rounds as the
tree has nodes (`iterate_round`). So each node down to the last depth that is drawn has its own part
of the drawing, and the parts stand in the order of the nodes (`render_eq_flatMap`).
-/

namespace SyntaxServer.Tree

variable {source margin own out : List Char} {t u c : Tree} {cs : List Tree} {i : NodeInfo}
  {is js : List Nat} {p : Pending} {ps : List Pending} {k n depth : Nat}

/-! ### The recursion -/

/-- A drawing of trees below a margin, at a depth, case by case: a leaf; a node at the last depth
that is drawn; a node with one leaf below it; and any other node, whose children follow in lines of
their own. -/
structure Recursion (source : List Char) (draw : List Char → Nat → Tree → List Char) : Prop where
  leaf : ∀ margin depth i, draw margin depth (node i []) = leafText source (node i [])
  elided : ∀ margin depth i cs, cs ≠ [] → maxDrawnDepth ≤ depth →
    draw margin depth (node i cs) = i.kind.toList ++ " …".toList
  single : ∀ margin depth i c, c.isLeaf = true → depth < maxDrawnDepth →
    draw margin depth (node i [c]) = i.kind.toList ++ " ── ".toList ++ leafText source c
  below : ∀ margin depth i cs, cs ≠ [] → (∀ c, cs = [c] → c.isLeaf = false) →
    depth < maxDrawnDepth → draw margin depth (node i cs) = i.kind.toList ++
      cs.zipIdx.flatMap fun (c, k) => '\n' :: margin ++ branch (k + 1 == cs.length) ++
        draw (margin ++ indent (k + 1 == cs.length)) (depth + 1) c

theorem ownText_leaf (source : List Char) (i : NodeInfo) (depth : Nat) :
    ownText source (node i []) depth = (leafText source (node i []), false) := rfl

theorem ownText_elided (hcs : cs ≠ []) (hdepth : maxDrawnDepth ≤ depth) :
    ownText source (node i cs) depth = (elidedText (node i cs), false) := by
  unfold ownText children
  rcases cs with _ | ⟨c, _ | ⟨d, cs⟩⟩
  · exact absurd rfl hcs
  · simp only [if_pos hdepth]
  · simp only [if_pos hdepth]

theorem ownText_single (hc : c.isLeaf = true) (hdepth : depth < maxDrawnDepth) :
    ownText source (node i [c]) depth = (singleText source (node i [c]) c, false) := by
  have hnot : ¬ maxDrawnDepth ≤ depth := by omega
  simp only [ownText, children, if_neg hnot, hc, if_true]

theorem ownText_below (hcs : cs ≠ []) (hsingle : ∀ c, cs = [c] → c.isLeaf = false)
    (hdepth : depth < maxDrawnDepth) :
    ownText source (node i cs) depth = (i.kind.toList, true) := by
  have hnot : ¬ maxDrawnDepth ≤ depth := by omega
  unfold ownText children
  rcases cs with _ | ⟨c, _ | ⟨d, cs⟩⟩
  · exact absurd rfl hcs
  · simp only [if_neg hnot, hsingle c rfl, Bool.false_eq_true, if_false]
    rfl
  · simp only [if_neg hnot]
    rfl

/-- The cases of a node that is not elided: one leaf is below it, or not. -/
theorem single_or (cs : List Tree) :
    (∃ c, cs = [c] ∧ c.isLeaf = true) ∨ ∀ c, cs = [c] → c.isLeaf = false := by
  by_cases h : ∃ c, cs = [c] ∧ c.isLeaf = true
  · exact Or.inl h
  · right
    intro c hc
    exact Bool.eq_false_iff.2 fun hleaf => h ⟨c, hc, hleaf⟩

theorem renderAll_eq (margin : List Char) (depth : Nat) (cs : List Tree) :
    renderAll source margin depth cs =
      cs.zipIdx.flatMap fun (c, k) => '\n' :: margin ++ branch (k + 1 == cs.length) ++
        render source (margin ++ indent (k + 1 == cs.length)) depth c := by
  induction cs with
  | nil => simp [renderAll]
  | cons c cs ih =>
    have hlast : cs.isEmpty = (0 + 1 == (c :: cs).length) := by cases cs <;> simp
    have hother : ∀ k, (k + 1 + 1 == (c :: cs).length) = (k + 1 == cs.length) := by simp
    simp only [renderAll, List.zipIdx_cons', List.flatMap_cons, List.flatMap_map, hother, ← hlast,
      Prod.map]
    rw [ih]
    rfl

theorem recursion_render (source : List Char) : Recursion source (render source) := by
  constructor
  case leaf =>
    intro margin depth i
    simp [render, ownText_leaf]
  case elided =>
    intro margin depth i cs hcs hdepth
    simp [render, ownText_elided hcs hdepth, elidedText, kind, info]
  case single =>
    intro margin depth i c hc hdepth
    simp [render, ownText_single hc hdepth, singleText, kind, info]
  case below =>
    intro margin depth i cs hcs hsingle hdepth
    simp only [render, ownText_below hcs hsingle hdepth, if_true, renderAll_eq]

/-! ### Trees that wait -/

/-- What is drawn of a tree that waits. -/
def Pending.drawing (source : List Char) (p : Pending) : List Char :=
  p.lead ++ render source p.margin p.depth p.tree

/-- The trees that wait after a tree was drawn, in place of it. -/
def Pending.below (source : List Char) (p : Pending) : List Pending :=
  if (ownText source p.tree p.depth).2 then pendingAll p.margin (p.depth + 1) p.tree.children
  else []

theorem renderAll_eq_flatMap (margin : List Char) (depth : Nat) (cs : List Tree) :
    renderAll source margin depth cs =
      (pendingAll margin depth cs).flatMap (Pending.drawing source) := by
  induction cs with
  | nil => simp [renderAll, pendingAll]
  | cons c cs ih => simp [renderAll, pendingAll, Pending.drawing, ih]

theorem Pending.drawing_eq (source : List Char) (p : Pending) :
    p.drawing source = p.lead ++ (ownText source p.tree p.depth).1 ++
      (p.below source).flatMap (Pending.drawing source) := by
  obtain ⟨⟨i, cs⟩, lead, margin, depth⟩ := p
  simp only [drawing, below, render, children]
  split
  · rw [renderAll_eq_flatMap, List.append_assoc]
  · simp

theorem printAll_cons (source : List Char) (p : Pending) (ps : List Pending) :
    printAll source (p :: ps) =
      p.lead ++ (ownText source p.tree p.depth).1 ++ printAll source (p.below source ++ ps) := by
  rw [printAll]
  rfl

/-- **What is still to be drawn**: the drawings of the trees that wait, one after the other. -/
theorem printAll_eq (source : List Char) (ps : List Pending) :
    printAll source ps = ps.flatMap (Pending.drawing source) := by
  induction ps using printAll.induct source with
  | case1 => simp [printAll]
  | case2 p ps own below ih =>
    have hbelow : printAll source (p.below source ++ ps) =
        (p.below source ++ ps).flatMap (Pending.drawing source) := ih
    rw [printAll_cons, hbelow, List.flatMap_cons, List.flatMap_append, p.drawing_eq]
    simp only [List.append_assoc]

theorem print_eq_render (source : List Char) (t : Tree) :
    t.print source = render source [] 0 t := by
  unfold print
  rw [printAll_eq]
  simp [Pending.drawing]

/-! ### Rounds -/

/-- One round: the first tree that waits is drawn behind what is drawn already, and its children
wait before the others. -/
def round (source : List Char) : List Char × List Pending → List Char × List Pending
  | (out, []) => (out, [])
  | (out, p :: ps) => (out ++ (p.lead ++ (ownText source p.tree p.depth).1), p.below source ++ ps)

theorem pendingSize_below_lt (source : List Char) (p : Pending) (ps : List Pending) :
    pendingSize (p.below source ++ ps) < pendingSize (p :: ps) := by
  obtain ⟨⟨i, cs⟩, lead, margin, depth⟩ := p
  unfold Pending.below pendingSize
  simp only [List.map_append, List.map_cons, sizeAll_append, sizeAll, size, children]
  split
  · rw [tree_pendingAll]
    omega
  · simp only [List.map_nil, sizeAll]
    omega

/-- **The rounds end**: no tree waits after as many of them as nodes waited. -/
theorem iterate_round (hn : pendingSize ps ≤ n) :
    (round source)^[n] (out, ps) = (out ++ printAll source ps, []) := by
  induction n generalizing out ps with
  | zero =>
    cases ps with
    | nil => simp [printAll]
    | cons p ps =>
      have hlt := pendingSize_below_lt source p ps
      omega
  | succ n ih =>
    rw [Function.iterate_succ_apply]
    cases ps with
    | nil => exact ih (Nat.zero_le n)
    | cons p ps =>
      have hlt := pendingSize_below_lt source p ps
      rw [round, ih (by omega), printAll_cons, List.append_assoc]

/-! ### The part of each node -/

/-- The addresses of the nodes at most some levels below the root, in the order of the text. -/
def addresses : Nat → Tree → List (List Nat)
  | 0, _ => [[]]
  | n + 1, node _ cs => [] :: cs.zipIdx.flatMap fun (c, k) => (addresses n c).map (k :: ·)

/-- What joins a child to the line of its parent or to a line of its own. -/
def joint (margin : List Char) (cs : List Tree) (k : Nat) : List Char :=
  if (cs.length == 1 && cs.all isLeaf) then " ── ".toList
  else '\n' :: margin ++ branch (k + 1 == cs.length)

/-- What stands before the node at an address, in a tree with some text of its own before it. -/
def leadAt (own margin : List Char) : Tree → List Nat → List Char
  | _, [] => own
  | node _ cs, k :: is =>
    (cs[k]?.map fun c =>
      leadAt (joint margin cs k) (margin ++ indent (k + 1 == cs.length)) c is).getD []

/-- What is written for a node at a depth, without those below it. -/
def token (source : List Char) (depth : Nat) (t : Tree) : List Char :=
  if t.isLeaf then leafText source t
  else if maxDrawnDepth ≤ depth then elidedText t
  else t.kind.toList

/-- The part of the node at an address in the drawing. -/
def partAt (source own margin : List Char) (depth : Nat) (t : Tree) (is : List Nat) : List Char :=
  leadAt own margin t is ++ ((t.descendant? is).map (token source (depth + is.length))).getD []

theorem partAt_nil (source own margin : List Char) (depth : Nat) (t : Tree) :
    partAt source own margin depth t [] = own ++ token source depth t := by
  simp [partAt, leadAt]

theorem partAt_cons (hc : cs[k]? = some c) :
    partAt source own margin depth (node i cs) (k :: is) =
      partAt source (joint margin cs k) (margin ++ indent (k + 1 == cs.length)) (depth + 1) c
        is := by
  have hdepth : depth + (is.length + 1) = depth + 1 + is.length := by omega
  simp [partAt, leadAt, hc, hdepth]

theorem render_node (hcs : cs ≠ []) (hdepth : depth < maxDrawnDepth) :
    render source margin depth (node i cs) = i.kind.toList ++
      cs.zipIdx.flatMap fun (c, k) => joint margin cs k ++
        render source (margin ++ indent (k + 1 == cs.length)) (depth + 1) c := by
  have hdraw := recursion_render source
  rcases single_or cs with ⟨c, rfl, hc⟩ | hnot
  · obtain ⟨j, ds⟩ := c
    obtain rfl : ds = [] := List.isEmpty_iff.1 hc
    simp [hdraw.single _ _ _ _ hc hdepth, hdraw.leaf, joint, hc]
  · have hjoint : ∀ k, joint margin cs k = '\n' :: margin ++ branch (k + 1 == cs.length) := by
      intro k
      unfold joint
      rw [if_neg]
      intro h
      obtain ⟨hlength, hall⟩ := Bool.and_eq_true_iff.1 h
      obtain ⟨c, rfl⟩ := List.length_eq_one_iff.1 (beq_iff_eq.1 hlength)
      simp [hnot c rfl] at hall
    rw [hdraw.below _ _ _ _ hcs hnot hdepth]
    simp only [hjoint]

theorem token_node (hcs : cs ≠ []) (hdepth : depth < maxDrawnDepth) :
    token source depth (node i cs) = i.kind.toList := by
  have hnot : ¬ maxDrawnDepth ≤ depth := by omega
  have hleaf : (node i cs).isLeaf = false := by simpa [isLeaf, children] using hcs
  simp [token, hnot, hleaf, kind, info]

theorem addresses_leaf (n : Nat) (i : NodeInfo) : addresses n (node i []) = [[]] := by
  cases n <;> simp [addresses]

/-- **The drawing is made of the parts of its nodes**, in their order. -/
theorem render_eq_flatMap (own margin : List Char) (t : Tree)
    (hn : depth + n = maxDrawnDepth) :
    own ++ render source margin depth t =
      (addresses n t).flatMap (partAt source own margin depth t) := by
  have hdraw := recursion_render source
  -- the text before the tree is generalized: for a child it is its joint
  induction t using childInduction generalizing own margin depth n with
  | node i cs ih =>
    by_cases hcs : cs = []
    · subst hcs
      rw [addresses_leaf, List.flatMap_singleton, partAt_nil, hdraw.leaf]
      simp [token, isLeaf, children]
    · cases n with
      | zero =>
        have hdepth : maxDrawnDepth ≤ depth := by omega
        have hleaf : (node i cs).isLeaf = false := by simpa [isLeaf, children] using hcs
        rw [addresses, List.flatMap_singleton, partAt_nil, hdraw.elided _ _ _ _ hcs hdepth]
        simp [token, hleaf, hdepth, elidedText, kind, info]
      | succ n =>
        have hdepth : depth < maxDrawnDepth := by omega
        rw [render_node hcs hdepth, addresses, List.flatMap_cons, partAt_nil,
          token_node hcs hdepth, List.append_assoc, List.flatMap_assoc]
        congr 2
        refine List.flatMap_congr ?_
        rintro ⟨c, k⟩ hc
        have hc : cs[k]? = some c := List.mem_zipIdx_iff_getElem?.1 hc
        have hchild : depth + 1 + n = maxDrawnDepth := by omega
        dsimp only
        rw [ih c (List.mem_of_getElem? hc) _ _ hchild, List.flatMap_map]
        simp only [partAt_cons hc]

/-! ### The nodes that are drawn -/

theorem mem_addresses_iff :
    is ∈ addresses n t ↔ is.length ≤ n ∧ ∃ u, t.descendant? is = some u := by
  induction n generalizing t is with
  | zero =>
    cases is <;> simp [addresses]
  | succ n ih =>
    obtain ⟨i, cs⟩ := t
    cases is with
    | nil => simp [addresses]
    | cons k is =>
      have hmem : k :: is ∈ addresses (n + 1) (node i cs) ↔
          ∃ c, cs[k]? = some c ∧ is ∈ addresses n c := by
        simp only [addresses, List.mem_cons, reduceCtorEq, false_or, List.mem_flatMap,
          List.mem_map, Prod.exists, List.mem_zipIdx_iff_getElem?, List.cons.injEq]
        constructor
        · rintro ⟨c, k', hc, is', his, rfl, rfl⟩
          exact ⟨c, hc, his⟩
        · rintro ⟨c, hc, his⟩
          exact ⟨c, k, hc, is, his, rfl, rfl⟩
      rw [hmem]
      simp only [ih, descendant?_cons, Option.bind_eq_some_iff, List.length_cons,
        Nat.add_le_add_iff_right]
      constructor
      · rintro ⟨c, hc, hlength, u, hu⟩
        exact ⟨hlength, u, c, hc, hu⟩
      · rintro ⟨hlength, u, c, hc, hu⟩
        exact ⟨c, hc, hlength, u, hu⟩

/-- A node comes before those below it, and those below a child before those below the next one. -/
theorem addresses_sorted (n : Nat) (t : Tree) : (addresses n t).Pairwise (· < ·) := by
  induction n generalizing t with
  | zero => simp [addresses]
  | succ n ih =>
    obtain ⟨i, cs⟩ := t
    have hnumbers : cs.zipIdx.Pairwise fun a b => a.2 < b.2 := by
      apply List.pairwise_map.1
      rw [List.zipIdx_map_snd]
      exact List.pairwise_lt_range'
    rw [addresses, List.pairwise_cons, List.pairwise_flatMap]
    refine ⟨?_, ?_, hnumbers.imp ?_⟩
    · intro is his
      obtain ⟨⟨c, k⟩, -, his⟩ := List.mem_flatMap.1 his
      obtain ⟨js, -, rfl⟩ := List.mem_map.1 his
      exact List.nil_lt_cons k js
    · rintro ⟨c, k⟩ -
      refine List.pairwise_map.2 ((ih c).imp ?_)
      intro is js hlt
      exact List.cons_lt_cons_iff.2 (Or.inr ⟨rfl, hlt⟩)
    · rintro ⟨c, k⟩ ⟨d, l⟩ hkl _ his _ hjs
      obtain ⟨is, -, rfl⟩ := List.mem_map.1 his
      obtain ⟨js, -, rfl⟩ := List.mem_map.1 hjs
      exact List.cons_lt_cons_iff.2 (Or.inl hkl)

theorem descendant?_append (t : Tree) (is js : List Nat) :
    t.descendant? (is ++ js) = (t.descendant? is).bind fun u => u.descendant? js := by
  induction is generalizing t with
  | nil => rfl
  | cons k is ih =>
    obtain ⟨i, cs⟩ := t
    rw [List.cons_append, descendant?_cons, descendant?_cons, Option.bind_assoc]
    simp only [ih]

/-- A node at the last depth that is drawn, with others below it. -/
def Elided (t : Tree) (is : List Nat) : Prop :=
  is.length = maxDrawnDepth ∧ ∃ u, t.descendant? is = some u ∧ u.children ≠ []

theorem exists_elided (hu : t.descendant? is = some u) (hlength : maxDrawnDepth < is.length) :
    t.Elided (is.take maxDrawnDepth) := by
  have hsplit := List.take_append_drop maxDrawnDepth is
  rw [← hsplit, descendant?_append, Option.bind_eq_some_iff] at hu
  obtain ⟨v, hv, hu⟩ := hu
  refine ⟨by rw [List.length_take]; omega, v, hv, ?_⟩
  have hrest : is.drop maxDrawnDepth ≠ [] := by
    rw [← List.length_pos_iff, List.length_drop]
    omega
  obtain ⟨k, js, hjs⟩ := List.exists_cons_of_ne_nil hrest
  obtain ⟨i, cs⟩ := v
  rintro rfl
  rw [hjs, descendant?_cons] at hu
  simp at hu

/-- The addresses of the nodes that are drawn: of all those down to the last depth that is drawn,
which are those below no elided node, each once and in the order of the text. -/
structure Outline (t : Tree) (nodes : List (List Nat)) : Prop where
  drawn : ∀ is, is ∈ nodes ↔ is.length ≤ maxDrawnDepth ∧ ∃ u, t.descendant? is = some u
  visible : ∀ is, is ∈ nodes ↔
    (∃ u, t.descendant? is = some u) ∧ ∀ js, js <+: is → js ≠ is → ¬ t.Elided js
  sorted : nodes.Pairwise (· < ·)

theorem outline_addresses (t : Tree) : t.Outline (addresses maxDrawnDepth t) := by
  refine ⟨fun is => mem_addresses_iff, ?_, addresses_sorted _ t⟩
  intro is
  rw [mem_addresses_iff]
  constructor
  · rintro ⟨hlength, hu⟩
    refine ⟨hu, ?_⟩
    rintro js hjs hne ⟨hdepth, -⟩
    exact hne (hjs.eq_of_length_le (by omega))
  · rintro ⟨⟨u, hu⟩, hvisible⟩
    refine ⟨?_, u, hu⟩
    by_contra hlength
    have hdeep : maxDrawnDepth < is.length := by omega
    apply hvisible _ (List.take_prefix ..) ?_ (exists_elided hu hdeep)
    intro htake
    have hshort := List.length_take_le maxDrawnDepth is
    rw [htake] at hshort
    omega

/-- **The drawing made with a list is the one by recursion on the tree.** Its rounds end, and each
node that is drawn has one part of it, in the order of the text. -/
theorem print_follows_tree (source : List Char) (t : Tree) :
    Recursion source (render source) ∧ t.print source = render source [] 0 t ∧
      (round source)^[t.size] ([], [⟨t, [], [], 0⟩]) = (t.print source, []) ∧
      ∃ nodes, t.Outline nodes ∧ t.print source = nodes.flatMap (partAt source [] [] 0 t) := by
  refine ⟨recursion_render source, print_eq_render source t, ?_, addresses maxDrawnDepth t,
    outline_addresses t, ?_⟩
  · have hsize : pendingSize [⟨t, [], [], 0⟩] ≤ t.size := by simp [pendingSize, sizeAll]
    exact iterate_round hsize
  · rw [print_eq_render]
    exact render_eq_flatMap [] [] t (Nat.zero_add _)

/-- The array is the only child of the document, and its brackets have no names. -/
example : Hover.bracketed.print "[1]".toList =
    "document\n└── array\n    ├── '['\n    ├── number '1'\n    └── ']'".toList := by
  rw [print_eq_render]
  decide

end SyntaxServer.Tree
