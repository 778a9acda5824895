import Mathlib.Data.List.Basic
import ModuleParts.Proofs.Cuts
import ModuleParts.Text.Lines

/-! # Line tables

Line starts are cuts of the text and grow from 0 on, so that halving finds the line of an offset as the
number of line starts up to it. Where a text that ends with a line feed stands before another one, all
line starts and positions of the second are found again: offsets are larger by the bytes of the first,
lines by its line breaks, and columns are the same. Nothing is asked of the offset.
-/
namespace ModuleParts

namespace Text

/-! ## Line starts -/

/-- The characters that end a line. -/
def lineEnds : List Char := ['\n', '\r', '\u2028', '\u2029']

theorem isLineEnd_iff {c : Char} : isLineEnd c = true ↔ c ∈ lineEnds := by
  have hseparators : lineSeparator = '\u2028' ∧ paragraphSeparator = '\u2029' := ⟨rfl, rfl⟩
  simp [isLineEnd, lineEnds, hseparators, or_assoc]

theorem lt_of_mem_laterLineStarts {offset start : Nat} {text : List Char}
    (h : start ∈ laterLineStarts offset text) : offset < start := by
  fun_induction laterLineStarts offset text with
  | case1 => simp at h
  | case2 offset c text next hends ih =>
    have hpos := c.utf8Size_pos
    rcases List.mem_cons.mp h with rfl | h
    · omega
    · have := ih h
      omega
  | case3 offset c text next hends ih =>
    have := ih h
    omega

/-- A line starts between two characters or at the end of the text. -/
theorem exists_split_of_mem_laterLineStarts {offset start : Nat} {text : List Char}
    (h : start ∈ laterLineStarts offset text) :
    ∃ before after, text = before ++ after ∧ offset + byteLength before = start := by
  fun_induction laterLineStarts offset text with
  | case1 => simp at h
  | case2 offset c text next hends ih =>
    rcases List.mem_cons.mp h with rfl | h
    · exact ⟨[c], text, rfl, rfl⟩
    · obtain ⟨before, after, rfl, rfl⟩ := ih h
      exact ⟨c :: before, after, rfl, by simp only [byteLength]; omega⟩
  | case3 offset c text next hends ih =>
    obtain ⟨before, after, rfl, rfl⟩ := ih h
    exact ⟨c :: before, after, rfl, by simp only [byteLength]; omega⟩

theorem isCut_of_mem_lineStarts {text : List Char} {start : Nat} (h : start ∈ lineStarts text) :
    IsCut text start := by
  rcases List.mem_cons.mp h with rfl | h
  · exact isCut_zero text
  · obtain ⟨before, after, htext, hlength⟩ := exists_split_of_mem_laterLineStarts h
    exact ⟨before, after, htext, by omega⟩

theorem pairwise_laterLineStarts (offset : Nat) (text : List Char) :
    (laterLineStarts offset text).Pairwise (· < ·) := by
  fun_induction laterLineStarts offset text with
  | case1 => exact .nil
  | case2 offset c text next hends ih =>
    exact List.pairwise_cons.mpr ⟨fun _ h => lt_of_mem_laterLineStarts h, ih⟩
  | case3 offset c text next hends ih => exact ih

theorem pairwise_lineStarts (text : List Char) : (lineStarts text).Pairwise (· < ·) :=
  List.pairwise_cons.mpr
    ⟨fun _ h => lt_of_mem_laterLineStarts h, pairwise_laterLineStarts 0 text⟩

theorem laterLineStarts_add (offset n : Nat) (text : List Char) :
    laterLineStarts (offset + n) text = (laterLineStarts offset text).map (· + n) := by
  induction text generalizing offset with
  | nil => rfl
  | cons c rest ih =>
    have hnext : offset + n + c.utf8Size = offset + c.utf8Size + n := by omega
    simp only [laterLineStarts, hnext, ih]
    split_ifs <;> rfl

/-- Line starts of two texts stand apart unless a carriage return and a line feed meet. -/
theorem laterLineStarts_append {first second : List Char}
    (h : first.getLast? = some '\r' → second.head? ≠ some '\n') (offset : Nat) :
    laterLineStarts offset (first ++ second) =
      laterLineStarts offset first ++ laterLineStarts (offset + byteLength first) second := by
  induction first generalizing offset with
  | nil => rfl
  | cons c rest ih =>
    have hnext : offset + byteLength (c :: rest) = offset + c.utf8Size + byteLength rest := by
      simp only [byteLength]
      omega
    have hends : (isLineEnd c && !(c == '\r' && (rest ++ second).head? == some '\n')) =
        (isLineEnd c && !(c == '\r' && rest.head? == some '\n')) := by
      cases rest with
      | nil =>
        by_cases hc : c = '\r'
        · have hsecond := h (by simp [hc])
          simp [hsecond]
        · simp [hc]
      | cons d rest => rfl
    have hrest : rest.getLast? = some '\r' → second.head? ≠ some '\n' := by
      intro hlast
      apply h
      rw [List.getLast?_cons, hlast, Option.getD_some]
    rw [List.cons_append, laterLineStarts, laterLineStarts, hends, hnext, ih hrest]
    split_ifs <;> rfl

/-- After a text that ends with a line feed, the last line is just about to start. -/
theorem getLast?_laterLineStarts {text : List Char} (h : text.getLast? = some '\n') (offset : Nat) :
    (laterLineStarts offset text).getLast? = some (offset + byteLength text) := by
  induction text generalizing offset with
  | nil => simp at h
  | cons c rest ih =>
    cases rest with
    | nil =>
      obtain rfl : c = '\n' := by simpa using h
      simp [laterLineStarts, isLineEnd, byteLength]
    | cons d rest =>
      have hrest := ih (by simpa using h) (offset + c.utf8Size)
      have hnext : offset + byteLength (c :: d :: rest) =
          offset + c.utf8Size + byteLength (d :: rest) := by
        simp only [byteLength]
        omega
      rw [laterLineStarts, hnext]
      split_ifs
      · rw [List.getLast?_cons, hrest, Option.getD_some]
      · exact hrest

/-- The line starts of a text that follows one with a line feed at its end. -/
theorem lineStarts_append {first second : List Char} (h : first.getLast? = some '\n') :
    lineStarts (first ++ second) =
      (lineStarts first).dropLast ++ (lineStarts second).map (· + byteLength first) := by
  have hapart : first.getLast? = some '\r' → second.head? ≠ some '\n' := by
    intro hcr
    rw [h] at hcr
    cases hcr
  have hlast : (lineStarts first).getLast? = some (0 + byteLength first) := by
    rw [lineStarts, List.getLast?_cons, getLast?_laterLineStarts h, Option.getD_some]
  calc lineStarts (first ++ second)
      = lineStarts first ++ laterLineStarts (0 + byteLength first) second := by
        rw [lineStarts, laterLineStarts_append hapart]
        rfl
    _ = (lineStarts first).dropLast ++
          (0 + byteLength first) :: laterLineStarts (0 + byteLength first) second := by
        nth_rewrite 1 [← List.dropLast_append_getLast? _ hlast]
        rw [List.append_assoc]
        rfl
    _ = _ := by rw [laterLineStarts_add]; rfl

/-- Number of line breaks; a carriage return and a line feed together are one. -/
def lineBreaks : List Char → Nat
  | [] => 0
  | '\r' :: '\n' :: text => 1 + lineBreaks text
  | c :: text => (if isLineEnd c then 1 else 0) + lineBreaks text

/-- A character that does not begin a pair of carriage return and line feed. -/
theorem not_pair {c : Char} {text : List Char}
    (h : ∀ rest, c = '\r' → text = '\n' :: rest → False) :
    (c == '\r' && text.head? == some '\n') = false := by
  have hpair : ¬ (c = '\r' ∧ text.head? = some '\n') := by
    rintro ⟨hc, hhead⟩
    obtain ⟨rest, hrest⟩ := List.head?_eq_some_iff.mp hhead
    exact h rest hc hrest
  simpa using hpair

theorem length_laterLineStarts (offset : Nat) (text : List Char) :
    (laterLineStarts offset text).length = lineBreaks text := by
  fun_induction lineBreaks text generalizing offset with
  | case1 => rfl
  | case2 text ih => simp [laterLineStarts, isLineEnd, ih, Nat.add_comm]
  | case3 c text hpair ih =>
    simp only [laterLineStarts, not_pair hpair, Bool.not_false, Bool.and_true]
    split_ifs
    · rw [List.length_cons, ih, Nat.add_comm]
    · rw [ih, Nat.zero_add]

theorem length_lineStarts (text : List Char) : (lineStarts text).length = lineBreaks text + 1 := by
  rw [lineStarts, List.length_cons, length_laterLineStarts]

end Text

/-! ## Positions -/

theorem not_le_of_mem_increasing {entry bound : Nat} {rest : List Nat}
    (h : (entry :: rest).Pairwise (· < ·)) (hlarge : ¬ entry ≤ bound) :
    ∀ other ∈ entry :: rest, ¬ other ≤ bound := by
  intro other hmem
  rcases List.mem_cons.mp hmem with rfl | hmem
  · exact hlarge
  · have := (List.pairwise_cons.mp h).1 other hmem
    omega

/-- The entries up to a bound stand at the front of an increasing list. -/
theorem getElem_le_iff_lt_countP {entries : List Nat} (h : entries.Pairwise (· < ·)) (bound : Nat)
    {i : Nat} (hi : i < entries.length) :
    entries[i] ≤ bound ↔ i < entries.countP (· ≤ bound) := by
  induction entries generalizing i with
  | nil => simp at hi
  | cons entry rest ih =>
    by_cases hle : entry ≤ bound
    · rw [List.countP_cons_of_pos (by simpa using hle)]
      cases i with
      | zero => simpa using hle
      | succ i =>
        rw [List.getElem_cons_succ, ih (List.pairwise_cons.mp h).2 (by simpa using hi)]
        omega
    · have hlarge := not_le_of_mem_increasing h hle
      have hnone : (entry :: rest).countP (· ≤ bound) = 0 :=
        List.countP_eq_zero.mpr fun other hmem => by simpa using hlarge other hmem
      rw [hnone]
      simpa using hlarge _ (List.getElem_mem hi)

theorem filter_le_eq_take {entries : List Nat} (h : entries.Pairwise (· < ·)) (bound : Nat) :
    entries.filter (· ≤ bound) = entries.take (entries.countP (· ≤ bound)) := by
  induction entries with
  | nil => rfl
  | cons entry rest ih =>
    by_cases hle : entry ≤ bound
    · rw [List.filter_cons_of_pos (by simpa using hle), List.countP_cons_of_pos (by simpa using hle),
        List.take_succ_cons, ih (List.pairwise_cons.mp h).2]
    · have hlarge := not_le_of_mem_increasing h hle
      have hnone : (entry :: rest).filter (· ≤ bound) = [] :=
        List.filter_eq_nil_iff.mpr fun other hmem => by simpa using hlarge other hmem
      rw [List.countP_eq_length_filter, hnone]
      rfl

/-- The position in the same column that many lines below. -/
def Position.below (position : Position) (lines : Nat) : Position :=
  ⟨position.line + UInt32.ofNat lines, position.column⟩

/-- Lines grow by the plain number as long as they have 32 bits. -/
theorem Position.toNat_line_below {position : Position} {lines : Nat}
    (h : position.line.toNat + lines < 4294967296) :
    (position.below lines).line.toNat = position.line.toNat + lines := by
  have hsize : lines < UInt32.size := Nat.lt_of_le_of_lt (Nat.le_add_left _ _) h
  rw [below, UInt32.toNat_add, UInt32.toNat_ofNat_of_lt' hsize]
  exact Nat.mod_eq_of_lt h

namespace LineTable

/-- What the end of a search says about the entries from `low` up to `high`. -/
def SearchResult.Fits (starts : Array Nat) (offset low high : Nat) : SearchResult → Prop
  | .hit index => low ≤ index ∧ index < high ∧ starts.getD index 0 = offset
  | .miss index => low ≤ index ∧ index ≤ high ∧
      (∀ i, low ≤ i → i < index → starts.getD i 0 < offset) ∧
      ∀ i, index ≤ i → i < high → offset < starts.getD i 0

/-- Halving finds the entry, or the index between smaller and larger entries. -/
theorem search_fits {starts : Array Nat} {offset low high : Nat} (hrange : low ≤ high)
    (h : ∀ i j, low ≤ i → i < j → j < high → starts.getD i 0 < starts.getD j 0) :
    (search starts offset low high).Fits starts offset low high := by
  fun_induction search starts offset low high with
  | case1 low high hempty =>
    exact ⟨Nat.le_refl _, hrange, fun i hi hi' => by omega, fun i hi hi' => by omega⟩
  | case2 low high hlong middle start heq => exact ⟨by omega, by omega, heq⟩
  | case3 low high hlong middle start hne hlt ih =>
    have hfits := ih (by omega) fun i j hi => h i j (by omega)
    revert hfits
    cases search starts offset (middle + 1) high with
    | hit index => exact fun ⟨hlow, hhigh, hentry⟩ => ⟨by omega, hhigh, hentry⟩
    | miss index =>
      rintro ⟨hlow, hhigh, hbefore, hafter⟩
      refine ⟨by omega, hhigh, fun i hi hi' => ?_, hafter⟩
      -- the entries left of the middle are below it
      rcases Nat.lt_trichotomy i middle with hleft | rfl | hright
      · have := h i middle hi hleft (by omega)
        omega
      · exact hlt
      · exact hbefore i hright hi'
  | case4 low high hlong middle start hne hnlt ih =>
    have hfits := ih (by omega) fun i j hi hij hj => h i j hi hij (by omega)
    revert hfits
    cases search starts offset low middle with
    | hit index => exact fun ⟨hlow, hhigh, hentry⟩ => ⟨hlow, by omega, hentry⟩
    | miss index =>
      rintro ⟨hlow, hhigh, hbefore, hafter⟩
      refine ⟨hlow, by omega, hbefore, fun i hi hi' => ?_⟩
      rcases Nat.lt_trichotomy i middle with hleft | rfl | hright
      · exact hafter i hi hleft
      · omega
      · have := h middle i (by omega) hright hi'
        omega

section OfText

variable (text : List Char) (offset : Nat)

theorem getD_starts_ofText {i : Nat} (h : i < (Text.lineStarts text).length) :
    (ofText text).starts.getD i 0 = (Text.lineStarts text)[i] := by
  simp [ofText, Array.getD_eq_getD_getElem?, h]

theorem find_ofText_fits :
    ((ofText text).find offset).Fits (ofText text).starts offset 0 (Text.lineStarts text).length := by
  apply search_fits (Nat.zero_le _)
  intro i j _ hij hj
  rw [getD_starts_ofText text (Nat.lt_trans hij hj), getD_starts_ofText text hj]
  exact List.pairwise_iff_getElem.mp (Text.pairwise_lineStarts text) i j _ hj hij

/-- The first line starts at 0, so that no offset is missed before it. -/
theorem pos_of_find_eq_miss {index : Nat} (h : (ofText text).find offset = .miss index) :
    0 < index := by
  have hfits := find_ofText_fits text offset
  rw [h] at hfits
  obtain ⟨-, -, -, hafter⟩ := hfits
  by_contra hzero
  have hfirst : offset < 0 := hafter 0 (by omega) (Nat.zero_lt_succ _)
  omega

theorem lineIndex_lt_length : (ofText text).lineIndex offset < (Text.lineStarts text).length := by
  have hfits := find_ofText_fits text offset
  unfold lineIndex
  cases hfind : (ofText text).find offset with
  | hit index =>
    rw [hfind] at hfits
    exact hfits.2.1
  | miss index =>
    have hpos := pos_of_find_eq_miss text offset hfind
    rw [hfind] at hfits
    have hle := hfits.2.1
    change index - 1 < _
    omega

/-- Lines up to the one that holds an offset start up to the offset, and the others after it. -/
theorem getElem_lineStarts_le_iff {i : Nat} (hi : i < (Text.lineStarts text).length) :
    (Text.lineStarts text)[i] ≤ offset ↔ i ≤ (ofText text).lineIndex offset := by
  have hfits := find_ofText_fits text offset
  have hincreasing := List.pairwise_iff_getElem.mp (Text.pairwise_lineStarts text)
  unfold lineIndex
  cases hfind : (ofText text).find offset with
  | hit index =>
    rw [hfind] at hfits
    obtain ⟨-, hindex, hentry⟩ := hfits
    rw [getD_starts_ofText text hindex] at hentry
    change _ ↔ i ≤ index
    rcases Nat.lt_trichotomy i index with hleft | rfl | hright
    · have := hincreasing i index hi hindex hleft
      omega
    · omega
    · have := hincreasing index i hindex hi hright
      omega
  | miss index =>
    have hpos := pos_of_find_eq_miss text offset hfind
    rw [hfind] at hfits
    obtain ⟨-, -, hbefore, hafter⟩ := hfits
    have hbefore := hbefore i (Nat.zero_le i)
    have hafter := fun hle => hafter i hle hi
    rw [getD_starts_ofText text hi] at hbefore hafter
    change _ ↔ i ≤ index - 1
    omega

/-- The line of an offset is the number of lines that start up to it. -/
theorem lineIndex_ofText :
    (ofText text).lineIndex offset + 1 = (Text.lineStarts text).countP (· ≤ offset) := by
  set count := (Text.lineStarts text).countP (· ≤ offset) with hcount
  have hlt := lineIndex_lt_length text offset
  have hle : count ≤ (Text.lineStarts text).length := List.countP_le_length
  have hcounted {i : Nat} (hi : i < (Text.lineStarts text).length) :
      i ≤ (ofText text).lineIndex offset ↔ i < count := by
    rw [← getElem_lineStarts_le_iff text offset hi,
      getElem_le_iff_lt_countP (Text.pairwise_lineStarts text) offset hi]
  have hown : (ofText text).lineIndex offset < count := (hcounted hlt).mp (Nat.le_refl _)
  by_contra hne
  have hnext : (ofText text).lineIndex offset + 1 < count := by omega
  have := (hcounted (Nat.lt_of_lt_of_le hnext hle)).mpr hnext
  omega

end OfText

theorem lineIndex_append {first second : List Char} (h : first.getLast? = some '\n')
    (offset : Nat) :
    (ofText (first ++ second)).lineIndex (offset + Text.byteLength first) =
      Text.lineBreaks first + (ofText second).lineIndex offset := by
  have hfirst : (Text.lineStarts first).dropLast.countP (· ≤ offset + Text.byteLength first) =
      Text.lineBreaks first := by
    rw [List.countP_eq_length.mpr, List.length_dropLast, Text.length_lineStarts,
      Nat.add_sub_cancel]
    intro start hmem
    have hle := (Text.isCut_of_mem_lineStarts (List.dropLast_subset _ hmem)).le_byteLength
    have hbound : start ≤ offset + Text.byteLength first := by omega
    simpa using hbound
  have hsecond : ((Text.lineStarts second).map (· + Text.byteLength first)).countP
      (· ≤ offset + Text.byteLength first) = (Text.lineStarts second).countP (· ≤ offset) := by
    simp only [List.countP_map, Function.comp_def, Nat.add_le_add_iff_right]
  have hwhole := lineIndex_ofText (first ++ second) (offset + Text.byteLength first)
  rw [Text.lineStarts_append h, List.countP_append, hfirst, hsecond,
    ← lineIndex_ofText second offset] at hwhole
  omega

/-- Offsets in a text that follows another one are found in the same columns, that many lines below. -/
theorem point_append {first second : List Char} (h : first.getLast? = some '\n') (offset : Nat) :
    (ofText (first ++ second)).point (offset + Text.byteLength first) =
      ((ofText second).point offset).below (Text.lineBreaks first) := by
  set index := (ofText second).lineIndex offset with hindex
  have hlt : index < (Text.lineStarts second).length := lineIndex_lt_length second offset
  have hstart : (ofText (first ++ second)).starts.getD (Text.lineBreaks first + index) 0 =
      (ofText second).starts.getD index 0 + Text.byteLength first := by
    have hlength : (Text.lineStarts first).dropLast.length = Text.lineBreaks first := by
      rw [List.length_dropLast, Text.length_lineStarts, Nat.add_sub_cancel]
    simp only [ofText, Text.lineStarts_append h, Array.getD_eq_getD_getElem?, List.getElem?_toArray]
    rw [List.getElem?_append_right (by omega), hlength, Nat.add_sub_cancel_left,
      List.getElem?_map, List.getElem?_eq_getElem hlt]
    rfl
  have hcut (start : Nat) : Text.slice? (ofText (first ++ second)).text
      (start + Text.byteLength first) (offset + Text.byteLength first) =
        Text.slice? (ofText second).text start offset :=
    Text.slice?_append first second start offset
  simp only [point, lineIndex_append h, ← hindex, hstart, hcut, Nat.add_sub_add_right,
    Position.below, Position.mk.injEq, and_true]
  rw [UInt32.ofNat_add, UInt32.add_assoc, UInt32.add_comm]

end LineTable

end ModuleParts
