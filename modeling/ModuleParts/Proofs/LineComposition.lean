import Mathlib.Data.List.Basic
import ModuleParts.Proofs.Lines

/-! # Line tables of texts put together

The line table of two texts, one behind the other, is made of their own tables. The scan looks one
character ahead, so that only a carriage return at the end of the first text can be read differently:
before a line feed it ends no line any more, and the line that started at the cut is gone.
-/
namespace ModuleParts.Text

/-- The first text ends and the second one begins with the halves of one line break. -/
def MeetInBreak (first second : List Char) : Prop :=
  first.getLast? = some '\r' ∧ second.head? = some '\n'

instance (first second : List Char) : Decidable (MeetInBreak first second) :=
  inferInstanceAs (Decidable (_ ∧ _))

/-- Texts that meet in a break, with its two characters in sight. -/
theorem MeetInBreak.exists_eq {first second : List Char} (h : MeetInBreak first second) :
    ∃ before after, first = before ++ ['\r'] ∧ second = '\n' :: after := by
  obtain ⟨before, hfirst⟩ := List.getLast?_eq_some_iff.mp h.1
  obtain ⟨after, hsecond⟩ := List.head?_eq_some_iff.mp h.2
  exact ⟨before, after, hfirst, hsecond⟩

/-! ## A carriage return at the cut -/

/-- At the end of a text a carriage return ends a line. -/
theorem lineStarts_append_return (text : List Char) :
    lineStarts (text ++ ['\r']) = lineStarts text ++ [byteLength (text ++ ['\r'])] := by
  have hapart : text.getLast? = some '\r' → ['\r'].head? ≠ some '\n' := by simp
  rw [lineStarts, laterLineStarts_append hapart, byteLength_append]
  simp [lineStarts, laterLineStarts, isLineEnd, byteLength]

/-- Before a line feed it does not, and the scan goes on at the line feed. -/
theorem lineStarts_append_break (text rest : List Char) :
    lineStarts (text ++ '\r' :: '\n' :: rest) =
      lineStarts text ++ laterLineStarts (byteLength (text ++ ['\r'])) ('\n' :: rest) := by
  have hapart : text.getLast? = some '\r' → ('\r' :: '\n' :: rest).head? ≠ some '\n' := by simp
  have hpassed (offset : Nat) : laterLineStarts offset ('\r' :: '\n' :: rest) =
      laterLineStarts (offset + '\r'.utf8Size) ('\n' :: rest) := by
    rw [laterLineStarts]
    rfl
  have hlength : byteLength (text ++ ['\r']) = byteLength text + '\r'.utf8Size := by
    rw [byteLength_append]
    rfl
  rw [lineStarts, laterLineStarts_append hapart, hpassed, Nat.zero_add, hlength, lineStarts,
    List.cons_append]

theorem tail_lineStarts (text : List Char) : (lineStarts text).tail = laterLineStarts 0 text := rfl

/-! ## Two texts -/

theorem lineStarts_append_of_not_meetInBreak {first second : List Char}
    (h : ¬ MeetInBreak first second) :
    lineStarts (first ++ second) =
      lineStarts first ++ (lineStarts second).tail.map (· + byteLength first) := by
  have hapart : first.getLast? = some '\r' → second.head? ≠ some '\n' :=
    fun hlast hhead => h ⟨hlast, hhead⟩
  rw [lineStarts, laterLineStarts_append hapart, laterLineStarts_add, tail_lineStarts, lineStarts,
    List.cons_append]

theorem lineStarts_append_of_meetInBreak {first second : List Char}
    (h : MeetInBreak first second) :
    lineStarts (first ++ second) = (lineStarts first).erase (byteLength first) ++
      (lineStarts second).tail.map (· + byteLength first) := by
  obtain ⟨before, after, rfl, rfl⟩ := h.exists_eq
  -- the cut is larger than every other entry, so that the last entry is the one to go
  have hcut : byteLength (before ++ ['\r']) ∉ lineStarts before := by
    intro hmem
    have hle := (isCut_of_mem_lineStarts hmem).le_byteLength
    have hpos := byteLength_pos (List.cons_ne_nil '\r' [])
    rw [byteLength_append] at hle
    omega
  have herase : (lineStarts (before ++ ['\r'])).erase (byteLength (before ++ ['\r'])) =
      lineStarts before := by
    rw [lineStarts_append_return, List.erase_append_right _ hcut, List.erase_cons_head,
      List.append_nil]
  have hlater : laterLineStarts (byteLength (before ++ ['\r'])) ('\n' :: after) =
      (lineStarts ('\n' :: after)).tail.map (· + byteLength (before ++ ['\r'])) := by
    rw [tail_lineStarts, ← laterLineStarts_add, Nat.zero_add]
  rw [List.append_assoc, List.singleton_append, lineStarts_append_break, herase, hlater]

/-- The line table of two texts is that of the first, without the line that starts at the cut where a
carriage return and a line feed meet there, and then that of the second without its first entry, moved by
the bytes of the first. A carriage return at the end does give such a line. Every table begins with 0,
increases, and lists cuts of its text. -/
theorem lineStarts_concat (first second : List Char) :
    (lineStarts (first ++ second) =
      (if MeetInBreak first second then (lineStarts first).erase (byteLength first)
        else lineStarts first) ++ (lineStarts second).tail.map (· + byteLength first)) ∧
      (first.getLast? = some '\r' → byteLength first ∈ lineStarts first) ∧
      ∀ text, (lineStarts text).head? = some 0 ∧ (lineStarts text).Pairwise (· < ·) ∧
        ∀ start ∈ lineStarts text, IsCut text start ∧ start ≤ byteLength text := by
  refine ⟨?_, ?_, ?_⟩
  · split_ifs with hmeet
    · exact lineStarts_append_of_meetInBreak hmeet
    · exact lineStarts_append_of_not_meetInBreak hmeet
  · intro hlast
    obtain ⟨before, rfl⟩ := List.getLast?_eq_some_iff.mp hlast
    rw [lineStarts_append_return]
    exact List.mem_append_right _ (List.mem_singleton_self _)
  · intro text
    refine ⟨rfl, pairwise_lineStarts text, fun start hmem => ?_⟩
    have hcut := isCut_of_mem_lineStarts hmem
    exact ⟨hcut, hcut.le_byteLength⟩

/-- A break cut in two, behind a carriage return of its own and before a line feed of its own. -/
example : lineStarts ['a', '\r', '\r'] = [0, 2, 3] ∧ lineStarts ['\n', '\n', ' ', 'é'] = [0, 1, 2, 5] ∧
    lineStarts ['a', '\r', '\r', '\n', '\n', ' ', 'é'] = [0, 2, 4, 5, 8] := by decide +kernel

end ModuleParts.Text
