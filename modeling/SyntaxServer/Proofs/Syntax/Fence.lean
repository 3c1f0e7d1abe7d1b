import SyntaxServer.Proofs.Syntax.Drawing

/-!
The fenced block of a hover. The drawing of a tree stands between two fences, and a line of it that
looks like a fence closes the block too early. Kinds and branches never make such a line; the text
of a leaf does, with a line that is neither its first nor its last one, for these two share theirs
with the quotes around the text (`Text.holdsFence_quoted`). So the block is closed by its last line
only if no such line is in a leaf that is drawn (`Hover.sealed_iff_of_at?`), and a document can
break it (`Hover.not_sealed_fencedComment`).
-/

namespace SyntaxServer

/-! ### Lines that close a block -/

namespace Text

variable {as bs cs line : List Char}

/-- The character that fences are made of. -/
def backtick : Char := '\x60'

/-- A line that closes a fenced block: at most three spaces, at least three backticks, and
spaces. -/
def ClosesFence (line : List Char) : Prop :=
  ∃ a b c, a ≤ 3 ∧ 3 ≤ b ∧
    line = List.replicate a ' ' ++ List.replicate b backtick ++ List.replicate c ' '

/-- A text with a line that closes a fenced block. -/
def HoldsFence (cs : List Char) : Prop := ∃ line ∈ lines cs, ClosesFence line

/-- The lines of a text, without the first and the last one. -/
def innerLines (cs : List Char) : List (List Char) := (lines cs).tail.dropLast

/-- A text of one line, without backticks. -/
def Plain (cs : List Char) : Prop := ∀ c ∈ cs, c ≠ '\n' ∧ c ≠ backtick

instance (cs : List Char) : Decidable (Plain cs) := List.decidableBAll _ cs

theorem plain_append : Plain (as ++ bs) ↔ Plain as ∧ Plain bs := List.forall_mem_append

theorem Plain.notMem (h : Plain cs) : '\n' ∉ cs := fun hc => (h _ hc).1 rfl

theorem ClosesFence.backtick_mem (h : ClosesFence line) : backtick ∈ line := by
  obtain ⟨a, b, c, -, hb, rfl⟩ := h
  have hne : b ≠ 0 := by omega
  simp [hne]

theorem ClosesFence.eq_of_mem (h : ClosesFence line) {c : Char} (hc : c ∈ line) :
    c = ' ' ∨ c = backtick := by
  obtain ⟨a, b, d, -, -, rfl⟩ := h
  simp only [List.mem_append, List.mem_replicate] at hc
  rcases hc with (⟨-, rfl⟩ | ⟨-, rfl⟩) | ⟨-, rfl⟩
  · exact Or.inl rfl
  · exact Or.inr rfl
  · exact Or.inl rfl

theorem not_closesFence_of_quote (h : '\'' ∈ line) : ¬ ClosesFence line := by
  intro hline
  rcases hline.eq_of_mem h with hc | hc
  · cases hc
  · cases hc

/-! ### Lines of texts that are put together -/

theorem lines_of_notMem (h : '\n' ∉ cs) : lines cs = [cs] := List.splitOn_eq_singleton h

theorem lines_append_cons (as bs : List Char) : lines (as ++ '\n' :: bs) = lines as ++ lines bs :=
  List.splitOn_append_cons_self as bs

theorem notMem_intercalate {c : Char} {xs : List (List Char)} (has : c ∉ as)
    (hxs : ∀ x ∈ xs, c ∉ x) : c ∉ as.intercalate xs := by
  induction xs with
  | nil => simp
  | cons x xs ih =>
    obtain ⟨hx, hxs⟩ := List.forall_mem_cons.1 hxs
    cases xs with
    | nil => simpa using hx
    | cons y ys =>
      have hrest := ih hxs
      simp [List.intercalate_cons_cons, has, hx, hrest]

theorem exists_last_line (h : '\n' ∈ cs) : ∃ as bs, cs = as ++ '\n' :: bs ∧ '\n' ∉ bs := by
  obtain ⟨bs, as, hcs, hbs⟩ := List.eq_append_cons_of_mem (List.mem_reverse.2 h)
  refine ⟨as.reverse, bs.reverse, ?_, by simpa using hbs⟩
  rw [← List.reverse_reverse cs, hcs]
  simp

theorem not_holdsFence_of_plain (h : Plain cs) : ¬ HoldsFence cs := by
  rintro ⟨line, hline, hcloses⟩
  rw [lines_of_notMem h.notMem, List.mem_singleton] at hline
  subst hline
  exact (h _ hcloses.backtick_mem).2 rfl

theorem holdsFence_append_cons (as bs : List Char) :
    HoldsFence (as ++ '\n' :: bs) ↔ HoldsFence as ∨ HoldsFence bs := by
  unfold HoldsFence
  rw [lines_append_cons]
  simp only [List.mem_append, or_and_right, exists_or]

theorem holdsFence_flatMap {α : Type} (as : List Char) (xs : List α) (f : α → List Char) :
    HoldsFence (as ++ xs.flatMap fun x => '\n' :: f x) ↔
      HoldsFence as ∨ ∃ x ∈ xs, HoldsFence (f x) := by
  induction xs generalizing as with
  | nil => simp
  | cons x xs ih =>
    rw [List.flatMap_cons, List.cons_append, holdsFence_append_cons, ih]
    simp

theorem not_holdsFence_of_quote (hcs : '\n' ∉ cs) (hquote : '\'' ∈ cs) : ¬ HoldsFence cs := by
  rintro ⟨line, hline, hcloses⟩
  rw [lines_of_notMem hcs, List.mem_singleton] at hline
  subst hline
  exact not_closesFence_of_quote hquote hcloses

/-- **A text in quotes** closes a block by a line that is neither its first nor its last one. -/
theorem holdsFence_quoted (has : '\n' ∉ as) (cs : List Char) :
    HoldsFence (as ++ '\'' :: (cs ++ ['\''])) ↔ ∃ line ∈ innerLines cs, ClosesFence line := by
  by_cases hcs : '\n' ∈ cs
  · obtain ⟨first, rest, rfl, hfirst⟩ := List.eq_append_cons_of_mem hcs
    have hopen : ¬ HoldsFence (as ++ '\'' :: first) :=
      not_holdsFence_of_quote (by simp [has, hfirst]) (by simp)
    have hsplit : as ++ '\'' :: (first ++ '\n' :: rest ++ ['\'']) =
        (as ++ '\'' :: first) ++ '\n' :: (rest ++ ['\'']) := by simp
    rw [hsplit, holdsFence_append_cons, or_iff_right hopen]
    by_cases hrest : '\n' ∈ rest
    · obtain ⟨inner, last, rfl, hlast⟩ := exists_last_line hrest
      have hclose : ¬ HoldsFence (last ++ ['\'']) :=
        not_holdsFence_of_quote (by simp [hlast]) (by simp)
      have hinner : innerLines (first ++ '\n' :: (inner ++ '\n' :: last)) = lines inner := by
        unfold innerLines
        rw [lines_append_cons, lines_append_cons, lines_of_notMem hfirst, lines_of_notMem hlast]
        simp
      rw [List.append_assoc, List.cons_append, holdsFence_append_cons, or_iff_left hclose, hinner]
      rfl
    · have hclose : ¬ HoldsFence (rest ++ ['\'']) :=
        not_holdsFence_of_quote (by simp [hrest]) (by simp)
      have hinner : innerLines (first ++ '\n' :: rest) = [] := by
        unfold innerLines
        rw [lines_append_cons, lines_of_notMem hfirst, lines_of_notMem hrest]
        rfl
      simp [hclose, hinner]
  · have hone : ¬ HoldsFence (as ++ '\'' :: (cs ++ ['\''])) :=
      not_holdsFence_of_quote (by simp [has, hcs]) (by simp)
    have hinner : innerLines cs = [] := by
      unfold innerLines
      rw [lines_of_notMem hcs]
      rfl
    simp [hone, hinner]

end Text

/-! ### Drawings -/

namespace Tree

open Text

variable {source margin own : List Char} {t u c : Tree} {cs : List Tree} {i : NodeInfo}
  {k n depth : Nat}

/-- The part of a text that a node stands for. -/
def textIn (source : List Char) (t : Tree) : List Char :=
  (slice? t.info.startByte t.info.endByte source).getD []

/-- The kinds of all nodes are texts of one line, without backticks. -/
def Plain (t : Tree) : Prop := ∀ is u, t.descendant? is = some u → Text.Plain u.kind.toList

/-- A leaf at most some levels below the root has a line in its text, neither the first nor the
last one, that closes a fenced block. -/
def HoldsFence (source : List Char) (n : Nat) (t : Tree) : Prop :=
  ∃ is u, is.length ≤ n ∧ t.descendant? is = some u ∧ u.isLeaf = true ∧
    ∃ line ∈ innerLines (u.textIn source), ClosesFence line

theorem Plain.kind (h : (node i cs).Plain) : Text.Plain i.kind.toList := h [] _ rfl

theorem plain_node (hi : Text.Plain i.kind.toList) (h : ∀ c ∈ cs, c.Plain) : (node i cs).Plain := by
  intro is u hu
  cases is with
  | nil =>
    cases hu
    exact hi
  | cons k is =>
    rw [descendant?_cons, Option.bind_eq_some_iff] at hu
    obtain ⟨c, hc, hu⟩ := hu
    exact h c (List.mem_of_getElem? hc) is u hu

theorem Plain.descendant {is : List Nat} (h : t.Plain) (hu : t.descendant? is = some u) :
    u.Plain := by
  intro js v hv
  apply h (is ++ js) v
  rw [descendant?_append, hu]
  exact hv

theorem Plain.child (h : (node i cs).Plain) (hc : c ∈ cs) : c.Plain := by
  obtain ⟨k, hk⟩ := List.mem_iff_getElem?.1 hc
  have hchild : (node i cs).descendant? [k] = some c := by
    rw [descendant?_cons, hk]
    rfl
  exact h.descendant hchild

theorem plain_branch (last : Bool) : Text.Plain (branch last) := by
  cases last <;> decide

theorem plain_indent (last : Bool) : Text.Plain (indent last) := by
  cases last <;> decide

theorem leafText_eq (source : List Char) (t : Tree) :
    leafText source t = (if t.info.named then t.kind.toList ++ [' '] else []) ++
      '\'' :: (t.textIn source ++ ['\'']) := by
  simp [leafText, textIn]

theorem holdsFence_node_nil :
    (node i []).HoldsFence source n ↔
      ∃ line ∈ innerLines ((node i []).textIn source), ClosesFence line := by
  constructor
  · rintro ⟨is, u, -, hu, -, hline⟩
    cases is with
    | nil =>
      cases hu
      exact hline
    | cons k is => simp at hu
  · intro hline
    exact ⟨[], _, Nat.zero_le n, rfl, rfl, hline⟩

theorem holdsFence_node (hcs : cs ≠ []) :
    (node i cs).HoldsFence source (n + 1) ↔ ∃ c ∈ cs, c.HoldsFence source n := by
  constructor
  · rintro ⟨is, u, hlength, hu, hleaf, hline⟩
    cases is with
    | nil =>
      cases hu
      exact absurd (List.isEmpty_iff.1 hleaf) hcs
    | cons k is =>
      rw [descendant?_cons, Option.bind_eq_some_iff] at hu
      obtain ⟨c, hc, hu⟩ := hu
      rw [List.length_cons] at hlength
      exact ⟨c, List.mem_of_getElem? hc, is, u, by omega, hu, hleaf, hline⟩
  · rintro ⟨c, hc, is, u, hlength, hu, hleaf, hline⟩
    obtain ⟨k, hk⟩ := List.mem_iff_getElem?.1 hc
    refine ⟨k :: is, u, by rw [List.length_cons]; omega, ?_, hleaf, hline⟩
    rw [descendant?_cons, hk]
    exact hu

theorem not_holdsFence_node_zero (hcs : cs ≠ []) : ¬ (node i cs).HoldsFence source 0 := by
  rintro ⟨is, u, hlength, hu, hleaf, -⟩
  obtain rfl : is = [] := List.length_eq_zero_iff.1 (by omega)
  cases hu
  exact hcs (List.isEmpty_iff.1 hleaf)

theorem holdsFence_leafText (hown : Text.Plain own) (ht : (node i []).Plain) :
    Text.HoldsFence (own ++ leafText source (node i [])) ↔ (node i []).HoldsFence source n := by
  have hbefore : '\n' ∉ own ++ if i.named then i.kind.toList ++ [' '] else [] := by
    have hkind := ht.kind.notMem
    have hown := hown.notMem
    split <;> simp [hown, hkind]
  rw [leafText_eq, ← List.append_assoc, holdsFence_node_nil]
  exact holdsFence_quoted hbefore _

/-- **A drawing holds a line that closes a block** where the text of a leaf does. -/
theorem holdsFence_render (hn : depth + n = maxDrawnDepth) (hown : Text.Plain own)
    (hmargin : Text.Plain margin) (ht : t.Plain) :
    Text.HoldsFence (own ++ render source margin depth t) ↔ t.HoldsFence source n := by
  have hdraw := recursion_render source
  -- what stands before a node is on its line, so it is part of the statement: a leaf that is joined
  -- to its parent has the kind of the parent there
  induction t using childInduction generalizing own margin depth n with
  | node i cs ih =>
    by_cases hcs : cs = []
    · subst hcs
      rw [hdraw.leaf]
      exact holdsFence_leafText hown ht
    · cases n with
      | zero =>
        have hdepth : maxDrawnDepth ≤ depth := by omega
        have hline : Text.Plain (own ++ (i.kind.toList ++ " …".toList)) := by
          have hdots : Text.Plain " …".toList := by decide
          exact plain_append.2 ⟨hown, plain_append.2 ⟨ht.kind, hdots⟩⟩
        rw [hdraw.elided _ _ _ _ hcs hdepth]
        exact iff_of_false (not_holdsFence_of_plain hline) (not_holdsFence_node_zero hcs)
      | succ n =>
        have hdepth : depth < maxDrawnDepth := by omega
        rw [holdsFence_node hcs]
        rcases single_or cs with ⟨c, rfl, hc⟩ | hnot
        · have hchild : c.Plain := ht.child (List.mem_singleton_self c)
          obtain ⟨j, ds⟩ := c
          obtain rfl : ds = [] := List.isEmpty_iff.1 hc
          have hline : Text.Plain (own ++ (i.kind.toList ++ " ── ".toList)) := by
            have hjoint : Text.Plain " ── ".toList := by decide
            exact plain_append.2 ⟨hown, plain_append.2 ⟨ht.kind, hjoint⟩⟩
          rw [hdraw.single _ _ _ _ hc hdepth, ← List.append_assoc,
            holdsFence_leafText (n := n) hline hchild]
          simp
        · have hline : Text.Plain (own ++ i.kind.toList) := plain_append.2 ⟨hown, ht.kind⟩
          have hchild : ∀ c ∈ cs, ∀ last, Text.HoldsFence (margin ++ branch last ++
              render source (margin ++ indent last) (depth + 1) c) ↔ c.HoldsFence source n := by
            intro c hc last
            have hbranch := plain_append.2 ⟨hmargin, plain_branch last⟩
            have hindent := plain_append.2 ⟨hmargin, plain_indent last⟩
            exact ih c hc (by omega) hbranch hindent (ht.child hc)
          rw [hdraw.below _ _ _ _ hcs hnot hdepth, ← List.append_assoc]
          simp only [List.cons_append]
          rw [holdsFence_flatMap, or_iff_right (not_holdsFence_of_plain hline)]
          constructor
          · rintro ⟨⟨c, k⟩, hc, hfence⟩
            have hc := List.mem_of_getElem? (List.mem_zipIdx_iff_getElem?.1 hc)
            exact ⟨c, hc, (hchild c hc _).1 hfence⟩
          · rintro ⟨c, hc, hfence⟩
            obtain ⟨k, hk⟩ := List.mem_iff_getElem?.1 hc
            exact ⟨(c, k), List.mem_zipIdx_iff_getElem?.2 hk, (hchild c hc _).2 hfence⟩

end Tree

/-! ### Hovers -/

namespace Hover

open Text

variable {grammars : Grammars} {languageId uri text : String} {p : Position} {cancelled : Bool}
  {hover : Hover} {path : List Tree} {body : List Char}

/-- The block of a hover is closed by its last line only: none of those between it and the opening
fence, which is the third line, closes the block. -/
def Sealed (hover : Hover) : Prop :=
  ∀ line ∈ ((lines hover.markdown.toList).drop 3).dropLast, ¬ ClosesFence line

theorem notMem_pathText (h : ∀ t ∈ path, Text.Plain t.kind.toList) :
    '\n' ∉ (pathText path).toList := by
  unfold pathText
  rw [String.toList_intercalate]
  apply notMem_intercalate (by decide)
  intro kind hkind
  obtain ⟨s, hs, rfl⟩ := List.mem_map.1 hkind
  obtain ⟨t, ht, rfl⟩ := List.mem_map.1 hs
  have hnot := (h t ht).notMem
  simp [hnot]

/-- The lines of a hover: the path, an empty line, the opening fence, what is drawn, and the closing
fence. -/
theorem lines_markdown (h : '\n' ∉ (pathText path).toList) (body : List Char) :
    lines (pathText path ++ "\n\n```text\n" ++ String.ofList body ++ "\n```").toList =
      (pathText path).toList :: [] :: "```text".toList :: (lines body ++ ["```".toList]) := by
  have hchars : (pathText path ++ "\n\n```text\n" ++ String.ofList body ++ "\n```").toList =
      (pathText path).toList ++ '\n' :: ([] ++ '\n' :: ("```text".toList ++
        '\n' :: (body ++ '\n' :: "```".toList))) := by
    simp
  have hempty : lines [] = [[]] := rfl
  have hopen : lines "```text".toList = ["```text".toList] := lines_of_notMem (by decide)
  have hclose : lines "```".toList = ["```".toList] := lines_of_notMem (by decide)
  rw [hchars, lines_append_cons, lines_append_cons, lines_append_cons, lines_append_cons,
    lines_of_notMem h, hempty, hopen, hclose]
  rfl

/-- **When the block of a hover is closed by its last line only**: when no leaf that is drawn has a
line in its text, neither the first nor the last one, that would close it. -/
theorem sealed_iff_of_at?
    (hplain : ∀ language ∈ Language.detect languageId uri, ∀ t,
      grammars language text = .ok t → t.Plain)
    (h : at? grammars languageId uri text p cancelled = .ok (some hover)) :
    ∃ language t point u, Language.detect languageId uri = some language ∧
      grammars language text = .ok t ∧ pointAt text.toList p = some point ∧
        (t.pathTo point).getLast? = some u ∧
          hover.markdown = pathText (t.pathTo point) ++ "\n\n```text\n" ++
            String.ofList (u.print text.toList) ++ "\n```" ∧
              (hover.Sealed ↔ ¬ u.HoldsFence text.toList Tree.maxDrawnDepth) := by
  obtain ⟨language, t, point, u, hlanguage, ht, hpoint, hlast, rfl⟩ := drawn_of_at? h
  obtain ⟨is, hu⟩ := Tree.reaches_of_getLast? hlast
  have htree : t.Plain := hplain language hlanguage t ht
  refine ⟨language, t, point, u, hlanguage, ht, hpoint, hlast, rfl, ?_⟩
  have hpath : ∀ v ∈ t.pathTo point, Text.Plain v.kind.toList := by
    intro v hv
    obtain ⟨depth, hdepth⟩ := List.mem_iff_getElem?.1 hv
    obtain ⟨js, -, hreaches⟩ := Tree.reaches_of_pathTo hdepth
    exact htree js v hreaches.found
  have hfence : HoldsFence ([] ++ Tree.render text.toList [] 0 u) ↔
      u.HoldsFence text.toList Tree.maxDrawnDepth :=
    Tree.holdsFence_render (Nat.zero_add _) nofun nofun (htree.descendant hu.found)
  rw [List.nil_append, ← Tree.print_eq_render] at hfence
  rw [← hfence]
  unfold Sealed HoldsFence
  rw [lines_markdown (notMem_pathText hpath)]
  simp

/-- A comment of three lines. -/
def comment : Tree := .node ⟨"comment", true, 3, 12, ⟨0, 3⟩, ⟨2, 2⟩⟩ []

/-- An array of a number and the comment. -/
def commentedArray : Tree :=
  .node ⟨"array", true, 0, 13, ⟨0, 0⟩, ⟨2, 3⟩⟩
    [.node ⟨"[", false, 0, 1, ⟨0, 0⟩, ⟨0, 1⟩⟩ [],
      .node ⟨"number", true, 1, 2, ⟨0, 1⟩, ⟨0, 2⟩⟩ [], comment,
      .node ⟨"]", false, 12, 13, ⟨2, 2⟩, ⟨2, 3⟩⟩ []]

def commentedDocument : Tree :=
  .node ⟨"document", true, 0, 13, ⟨0, 0⟩, ⟨2, 3⟩⟩ [commentedArray]

def commentGrammars : Grammars := fun _ _ => .ok commentedDocument

theorem plain_commentGrammars {language : Language} {t : Tree}
    (h : commentGrammars language text = .ok t) : t.Plain := by
  have hleaf : ∀ i : NodeInfo, Text.Plain i.kind.toList → (Tree.node i []).Plain :=
    fun i hi => Tree.plain_node hi (List.forall_mem_nil _)
  cases h
  refine Tree.plain_node (by decide) (List.forall_mem_singleton.2 ?_)
  refine Tree.plain_node (by decide) ?_
  simp only [List.forall_mem_cons]
  refine ⟨hleaf _ ?_, hleaf _ ?_, hleaf _ ?_, hleaf _ ?_, nofun⟩ <;> decide

theorem at?_comment (hpoint : pointAt text.toList ⟨1, 1⟩ = some ⟨1, 1⟩) :
    at? commentGrammars "json" "" text ⟨1, 1⟩ false =
      .ok (some ⟨pathText [commentedArray, comment] ++ "\n\n```text\n" ++
        String.ofList (comment.print text.toList) ++ "\n```", comment.range text.toList⟩) := by
  have hlanguage : Language.detect "json" "" = some .json := by decide
  have hpath : commentedDocument.pathTo ⟨1, 1⟩ = [commentedArray, comment] := rfl
  have hat : at? commentGrammars "json" "" text ⟨1, 1⟩ false =
      .ok (ofPath text.toList (commentedDocument.pathTo ⟨1, 1⟩)) := at?_eq hlanguage hpoint rfl
  rw [hpath] at hat
  exact hat

/-- A comment without a fence leaves the block open. -/
theorem sealed_plainComment :
    ∃ hover, at? commentGrammars "json" "" "[1 /*\nabc\n*/]" ⟨1, 1⟩ false = .ok (some hover) ∧
      hover.Sealed := by
  have hpoint : pointAt "[1 /*\nabc\n*/]".toList ⟨1, 1⟩ = some ⟨1, 1⟩ := by decide
  have hat := at?_comment hpoint
  refine ⟨_, hat, ?_⟩
  obtain ⟨_, t, point, u, -, ht, hpoint', hlast, -, hiff⟩ :=
    sealed_iff_of_at? (fun _ _ _ => plain_commentGrammars) hat
  rw [hiff]
  cases ht
  cases hpoint.symm.trans hpoint'
  obtain rfl : comment = u := Option.some.inj hlast
  rw [comment, Tree.holdsFence_node_nil]
  rintro ⟨line, hline, hcloses⟩
  obtain rfl : line = "abc".toList := List.mem_singleton.1 hline
  exact absurd hcloses.backtick_mem (by decide)

/-- **A document can close the block** in the middle of what is drawn: here by a comment with a
fence. -/
theorem not_sealed_fencedComment :
    ∃ hover, at? commentGrammars "json" "" "[1 /*\n```\n*/]" ⟨1, 1⟩ false = .ok (some hover) ∧
      hover.markdown = "`array` › `comment`\n\n```text\ncomment '/*\n```\n*/'\n```" ∧
        ¬ hover.Sealed := by
  have hpoint : pointAt "[1 /*\n```\n*/]".toList ⟨1, 1⟩ = some ⟨1, 1⟩ := by decide
  have hprint : comment.print "[1 /*\n```\n*/]".toList = "comment '/*\n```\n*/'".toList := by
    rw [Tree.print_eq_render]
    decide
  refine ⟨_, at?_comment hpoint, ?_, ?_⟩
  · dsimp only
    rw [hprint]
    decide
  · intro hsealed
    unfold Sealed at hsealed
    rw [lines_markdown (by decide), hprint] at hsealed
    exact hsealed "```".toList (by decide) ⟨0, 3, 0, by decide, by decide, by decide⟩

end Hover

end SyntaxServer
