import Mathlib.Data.List.Perm.Subperm
import Mathlib.Data.Multiset.AddSub
import ModuleParts.Layout

/-! # The child test on sorted spans

Whether a node has children is decided by one walk over sorted spans. The walk is shown to look at
counts only: for a span with positive length some other node starts in it and ends by its end, or the
span itself comes twice; for any other span it comes twice and nothing sorts before it at its start.
Counts only grow when nodes are added, and so does the answer as long as no new node is inverted.
-/
namespace ModuleParts

namespace Span

theorem le_iff (a b : Span) :
    a.le b = true ↔ a.start < b.start ∨ a.start = b.start ∧ a.stop ≤ b.stop := by
  simp [le]

theorem le_trans (a b c : Span) (hab : a.le b = true) (hbc : b.le c = true) : a.le c = true := by
  rw [le_iff] at *
  omega

theorem le_total (a b : Span) : (a.le b || b.le a) = true := by
  rw [Bool.or_eq_true, le_iff, le_iff]
  omega

theorem start_le_of_le {a b : Span} (h : a.le b = true) : a.start ≤ b.start := by
  rw [le_iff] at h
  omega

end Span

namespace Layout

def Sorted (layout : Layout) : Prop := layout.nodes.Pairwise fun a b => a.le b = true

theorem ofProgram_sorted (program : Program) (attachComments : Bool) :
    (ofProgram program attachComments).Sorted := by
  unfold Sorted ofProgram
  cases attachComments with
  | false => exact .nil
  | true => exact List.pairwise_mergeSort Span.le_trans Span.le_total _

theorem Sorted.starts {layout : Layout} (h : layout.Sorted) :
    layout.nodes.Pairwise fun a b => a.start ≤ b.start :=
  h.imp Span.start_le_of_le

theorem nodes_ofProgram_perm (program : Program) :
    (ofProgram program true).nodes.Perm program.nodeSpans :=
  List.mergeSort_perm _ _

theorem mem_nodes_ofProgram {program : Program} {span : Span}
    (h : span ∈ Stmt.listSpans program.body) : span ∈ (ofProgram program true).nodes :=
  (nodes_ofProgram_perm program).mem_iff.mpr (List.mem_append_right _ h)

/-- Sorted entries that start before an offset stand before all others. -/
theorem dropWhile_start_lt {α : Type} (start : α → Nat) {entries : List α}
    (h : entries.Pairwise fun a b => start a ≤ start b) (offset : Nat) :
    entries.dropWhile (fun entry => start entry < offset) =
      entries.filter fun entry => offset ≤ start entry := by
  induction entries with
  | nil => rfl
  | cons entry rest ih =>
    rw [List.pairwise_cons] at h
    by_cases hn : start entry < offset
    · have hle : ¬ offset ≤ start entry := by omega
      simp only [List.dropWhile_cons, hn, decide_true, ↓reduceIte, List.filter_cons, hle,
        decide_false, Bool.false_eq_true]
      exact ih h.2
    · have hall : ∀ other ∈ entry :: rest, offset ≤ start other := by
        intro other hmem
        rcases List.mem_cons.mp hmem with rfl | hmem
        · omega
        · have := h.1 other hmem
          omega
      rw [List.dropWhile_cons_of_neg (by simpa using hn)]
      exact (List.filter_eq_self.mpr fun other hmem => by simpa using hall other hmem).symm

/-- Copies of a span that the walk must meet before one of them counts as a child. -/
def copiesNeeded (ownSeen : Bool) : Nat := if ownSeen then 1 else 2

theorem holdsChild_iff_of_lt {span : Span} (hspan : span.start < span.stop) {nodes : List Span}
    (h : nodes.Pairwise fun a b => a.le b = true) (ownSeen : Bool) :
    holdsChild span ownSeen nodes = true ↔
      (∃ node ∈ nodes, node ≠ span ∧ node.start < span.stop ∧ node.stop ≤ span.stop) ∨
        copiesNeeded ownSeen ≤ nodes.count span := by
  induction nodes generalizing ownSeen with
  | nil => cases ownSeen <;> simp [holdsChild, copiesNeeded]
  | cons node rest ih =>
    rw [List.pairwise_cons] at h
    by_cases hown : node = span
    · -- the walk meets a copy of the span: the first one is passed over, the second one ends it
      subst hown
      cases ownSeen with
      | false =>
        have hstep : holdsChild node false (node :: rest) = holdsChild node true rest := by
          simp [holdsChild]
        rw [hstep, ih h.2 true]
        simp [copiesNeeded]
      | true => simp [holdsChild, copiesNeeded]
    · have hcount : (node :: rest).count span = rest.count span := List.count_cons_of_ne hown
      rw [hcount, List.exists_mem_cons_iff]
      by_cases hstart : node.start < span.stop
      · by_cases hstop : node.stop ≤ span.stop
        · have hout : ¬ span.stop < node.stop := by omega
          simp [holdsChild, hstart, hown, hstop, hout]
        · have hout : span.stop < node.stop := by omega
          have hstep : holdsChild span ownSeen (node :: rest) = holdsChild span ownSeen rest := by
            simp [holdsChild, hstart, hout]
          rw [hstep, ih h.2 ownSeen]
          simp [hstop]
      · -- from here on every node starts behind the span
        have hlate : ∀ other ∈ rest, ¬ other.start < span.stop := by
          intro other hmem
          have := Span.start_le_of_le (h.1 other hmem)
          omega
        have hnone : rest.count span = 0 := List.count_eq_zero.mpr fun hmem => hlate span hmem hspan
        have hneeded : ¬ copiesNeeded ownSeen ≤ 0 := by cases ownSeen <;> simp [copiesNeeded]
        have hends : holdsChild span ownSeen (node :: rest) = false := by
          simp [holdsChild, hstart, hown]
        rw [hends, hnone]
        constructor
        · nofun
        · rintro ((⟨-, hnode, -⟩ | ⟨other, hmem, -, hother, -⟩) | hcopies)
          · exact (hstart hnode).elim
          · exact (hlate other hmem hother).elim
          · exact (hneeded hcopies).elim

theorem holdsChild_iff_of_le {span : Span} (hspan : span.stop ≤ span.start) {nodes : List Span}
    (h : nodes.Pairwise fun a b => a.le b = true)
    (hstart : ∀ node ∈ nodes, span.start ≤ node.start) (ownSeen : Bool) :
    holdsChild span ownSeen nodes = true ↔
      copiesNeeded ownSeen ≤ nodes.count span ∧
        ∀ node ∈ nodes, node.start = span.start → span.stop ≤ node.stop := by
  induction nodes generalizing ownSeen with
  | nil => cases ownSeen <;> simp [holdsChild, copiesNeeded]
  | cons node rest ih =>
    rw [List.pairwise_cons] at h
    rw [List.forall_mem_cons] at hstart
    have hlate : ¬ node.start < span.stop := by omega
    by_cases hown : node = span
    · subst hown
      cases ownSeen with
      | false =>
        have hstep : holdsChild node false (node :: rest) = holdsChild node true rest := by
          simp [holdsChild]
        rw [hstep, ih h.2 hstart.2 true, List.forall_mem_cons]
        simp [copiesNeeded]
      | true =>
        have hafter : ∀ other ∈ rest, other.start = node.start → node.stop ≤ other.stop := by
          intro other hmem heq
          have := (Span.le_iff node other).mp (h.1 other hmem)
          omega
        rw [List.forall_mem_cons]
        simpa [holdsChild, copiesNeeded] using hafter
    · -- a node before the first copy of the span has its start and an earlier end
      have hstop : holdsChild span ownSeen (node :: rest) = false := by
        simp [holdsChild, hlate, hown]
      rw [hstop, List.count_cons_of_ne hown, List.forall_mem_cons]
      simp only [Bool.false_eq_true, false_iff]
      rintro ⟨hcount, hfirst, -⟩
      have hpos : 0 < rest.count span := by
        cases ownSeen <;> simp only [copiesNeeded, Bool.false_eq_true, ↓reduceIte] at hcount <;> omega
      have hle := (Span.le_iff node span).mp (h.1 span (List.count_pos_iff.mp hpos))
      have heq : node.start = span.start := by omega
      have hends : node.stop = span.stop := by
        have := hfirst heq
        omega
      exact hown (Span.ext heq hends)

variable {layout : Layout}

theorem hasChildren_iff_of_lt (h : layout.Sorted) {span : Span} (hspan : span.start < span.stop) :
    layout.hasChildren span = true ↔
      (∃ node ∈ layout.nodes, node ≠ span ∧ span.start ≤ node.start ∧ node.start < span.stop ∧
        node.stop ≤ span.stop) ∨ 2 ≤ layout.nodes.count span := by
  rw [hasChildren, dropWhile_start_lt Span.start h.starts, holdsChild_iff_of_lt hspan (h.filter _),
    List.count_filter (by simp)]
  simp only [List.mem_filter, decide_eq_true_eq, copiesNeeded, Bool.false_eq_true, ↓reduceIte]
  constructor
  · rintro (⟨node, ⟨hmem, hstart⟩, hne, hin⟩ | hcount)
    · exact .inl ⟨node, hmem, hne, hstart, hin⟩
    · exact .inr hcount
  · rintro (⟨node, hmem, hne, hstart, hin⟩ | hcount)
    · exact .inl ⟨node, ⟨hmem, hstart⟩, hne, hin⟩
    · exact .inr hcount

theorem hasChildren_iff_of_le (h : layout.Sorted) {span : Span} (hspan : span.stop ≤ span.start) :
    layout.hasChildren span = true ↔ 2 ≤ layout.nodes.count span ∧
      ∀ node ∈ layout.nodes, node.start = span.start → span.stop ≤ node.stop := by
  have hstart : ∀ node ∈ layout.nodes.filter (fun node => span.start ≤ node.start),
      span.start ≤ node.start := by
    intro node hmem
    simpa using (List.mem_filter.mp hmem).2
  rw [hasChildren, dropWhile_start_lt Span.start h.starts, holdsChild_iff_of_le hspan (h.filter _) hstart,
    List.count_filter (by simp)]
  simp only [List.mem_filter, decide_eq_true_eq, copiesNeeded, Bool.false_eq_true, ↓reduceIte]
  constructor
  · rintro ⟨hcount, hall⟩
    exact ⟨hcount, fun node hmem heq => hall node ⟨hmem, by omega⟩ heq⟩
  · rintro ⟨hcount, hall⟩
    exact ⟨hcount, fun node hmem heq => hall node hmem.1 heq⟩

/-- More nodes can only turn the answer from no to yes, as long as no new one is inverted. -/
theorem hasChildren_mono {small large : Layout} (hsmall : small.Sorted) (hlarge : large.Sorted)
    (hnodes : small.nodes.Subperm large.nodes)
    (hupright : ∀ node ∈ large.nodes, node ∈ small.nodes ∨ node.start ≤ node.stop) {span : Span}
    (hspan : span.start ≤ span.stop) (h : small.hasChildren span = true) :
    large.hasChildren span = true := by
  by_cases hlt : span.start < span.stop
  · rw [hasChildren_iff_of_lt hlarge hlt]
    rcases (hasChildren_iff_of_lt hsmall hlt).mp h with ⟨node, hnode, hin⟩ | htwice
    · exact .inl ⟨node, hnodes.subset hnode, hin⟩
    · exact .inr (Nat.le_trans htwice (hnodes.count_le span))
  · have hle : span.stop ≤ span.start := by omega
    obtain ⟨htwice, hfirst⟩ := (hasChildren_iff_of_le hsmall hle).mp h
    rw [hasChildren_iff_of_le hlarge hle]
    refine ⟨Nat.le_trans htwice (hnodes.count_le span), fun node hnode heq => ?_⟩
    rcases hupright node hnode with hold | hnew
    · exact hfirst node hold heq
    · omega

end Layout

/-- The child test, said without order: without one copy of the span itself, the nodes of a program hold
one that starts in the span and ends by its end. A span without positive length has children when it
comes twice and no node with its start ends before it. -/
theorem Program.hasChildren_iff (program : Program) (span : Span) :
    let layout := Layout.ofProgram program true
    let nodes : Multiset Span := program.nodeSpans
    (span.start < span.stop → (layout.hasChildren span = true ↔
      ∃ node ∈ nodes.erase span,
        span.start ≤ node.start ∧ node.start < span.stop ∧ node.stop ≤ span.stop)) ∧
      (span.stop ≤ span.start → (layout.hasChildren span = true ↔
        2 ≤ nodes.count span ∧
          ¬ ∃ node ∈ nodes, node.start = span.start ∧ node.stop < span.stop)) := by
  intro layout nodes
  have hsorted : layout.Sorted := Layout.ofProgram_sorted program true
  have hnodes : (layout.nodes : Multiset Span) = nodes :=
    Multiset.coe_eq_coe.mpr (Layout.nodes_ofProgram_perm program)
  have hmem (node : Span) : node ∈ layout.nodes ↔ node ∈ nodes := by
    rw [← hnodes, Multiset.mem_coe]
  have hcount : layout.nodes.count span = nodes.count span := by
    rw [← hnodes, Multiset.coe_count]
  constructor
  · intro hlt
    rw [Layout.hasChildren_iff_of_lt hsorted hlt, hcount]
    constructor
    · rintro (⟨node, hnode, hne, hin⟩ | htwice)
      · exact ⟨node, (Multiset.mem_erase_of_ne hne).mpr ((hmem node).mp hnode), hin⟩
      · -- a second copy of the span is left and lies in the span
        refine ⟨span, Multiset.count_pos.mp ?_, Nat.le_refl _, hlt, Nat.le_refl _⟩
        rw [Multiset.count_erase_self]
        omega
    · rintro ⟨node, hnode, hin⟩
      by_cases hown : node = span
      · subst hown
        have hleft := Multiset.count_pos.mpr hnode
        rw [Multiset.count_erase_self] at hleft
        exact .inr (by omega)
      · have hnode := (hmem node).mpr (Multiset.mem_of_mem_erase hnode)
        exact .inl ⟨node, hnode, hown, hin⟩
  · intro hle
    rw [Layout.hasChildren_iff_of_le hsorted hle, hcount]
    simp only [hmem, not_exists, not_and, Nat.not_lt]

namespace Sample

/-- Two nodes with one span, then two empty ones at the start of an inverted one. -/
def doubled : Program where
  body := [.debugger ⟨4, 9⟩, .debugger ⟨4, 9⟩, .debugger ⟨2, 2⟩, .debugger ⟨2, 2⟩, .debugger ⟨2, 1⟩]

/-- A hashbang line and a directive before an empty body. -/
def directed : Program where
  source := "#!a\n\"use strict\";"
  hashbang := some ⟨0, 3⟩
  directives := [⟨⟨4, 17⟩, ⟨⟨4, 16⟩, "use strict"⟩⟩]
  body := []

end Sample

/-- A second copy counts as a child, unless the walk meets the inverted node before. The string of a
directive is a child of it, and the hashbang line one of the text up to it. -/
theorem Sample.hasChildren_doubled :
    (Layout.ofProgram doubled true).hasChildren ⟨4, 9⟩ = true ∧
      (Layout.ofProgram doubled true).hasChildren ⟨2, 2⟩ = false ∧
      (Layout.ofProgram directed true).hasChildren ⟨4, 17⟩ = true ∧
      (Layout.ofProgram directed true).hasChildren ⟨0, 4⟩ = true ∧
      (Layout.ofProgram directed true).hasChildren ⟨0, 3⟩ = false := by
  have hlong := (Program.hasChildren_iff doubled ⟨4, 9⟩).1 (by decide)
  have hempty := (Program.hasChildren_iff doubled ⟨2, 2⟩).2 (by decide)
  have hdirective := (Program.hasChildren_iff directed ⟨4, 17⟩).1 (by decide)
  have hline := (Program.hasChildren_iff directed ⟨0, 4⟩).1 (by decide)
  have hhashbang := (Program.hasChildren_iff directed ⟨0, 3⟩).1 (by decide)
  refine ⟨hlong.mpr ⟨⟨4, 9⟩, by decide, by decide⟩, ?_,
    hdirective.mpr ⟨⟨4, 16⟩, by decide, by decide⟩, hline.mpr ⟨⟨0, 3⟩, by decide, by decide⟩, ?_⟩
  · rw [← Bool.not_eq_true, hempty]
    rintro ⟨-, hnone⟩
    exact hnone ⟨⟨2, 1⟩, by decide, by decide⟩
  · have hothers : (directed.nodeSpans : Multiset Span).erase ⟨0, 3⟩ =
        ↑[Span.mk 4 17, Span.mk 4 16] := rfl
    rw [← Bool.not_eq_true, hhashbang, hothers]
    simp

end ModuleParts
