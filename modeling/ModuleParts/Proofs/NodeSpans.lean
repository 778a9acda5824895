import ModuleParts.Proofs.Item

/-! # Spans of items and of what remains of them

The span of a node is one of the spans of its tree, and the spans of an item are among those of its
body. A statement that remains of an item stands at the span of a declarator, of a declaration or
default value under an export, or of the item itself; each of these is a node of the item.
-/
namespace ModuleParts

/-! ## Own spans among all spans -/

namespace Stmt

theorem listSpans_append (first second : List Stmt) :
    listSpans (first ++ second) = listSpans first ++ listSpans second := by
  induction first with
  | nil => simp [listSpans]
  | cons item rest ih => simp [listSpans, ih]

theorem spans_subset_listSpans {item : Stmt} {body : List Stmt} (h : item ∈ body) :
    item.spans ⊆ listSpans body := by
  induction body with
  | nil => simp at h
  | cons first rest ih =>
    intro span hspan
    rw [listSpans, List.mem_append]
    rcases List.mem_cons.mp h with rfl | h
    · exact .inl hspan
    · exact .inr (ih h hspan)

end Stmt

theorem Func.span_mem_spans (f : Func) : f.span ∈ f.spans := by
  cases f
  exact List.mem_cons_self

theorem ClassDef.span_mem_spans (c : ClassDef) : c.span ∈ c.spans := by
  cases c
  exact List.mem_cons_self

theorem Expr.span_mem_spans (e : Expr) : e.span ∈ e.spans := by
  cases e with
  | function f => exact f.span_mem_spans
  | classDef c => exact c.span_mem_spans
  | _ => exact List.mem_cons_self

theorem DefaultValue.span_mem_spans (value : DefaultValue) : value.span ∈ value.spans := by
  cases value with
  | function form f => exact f.span_mem_spans
  | classDef c => exact c.span_mem_spans
  | interface i => exact List.mem_cons_self
  | expr e => exact e.span_mem_spans

theorem Decl.span_mem_spans (d : Decl) : d.span ∈ d.spans := by
  cases d with
  | «variable» v =>
    cases v
    exact List.mem_cons_self
  | function form f => exact f.span_mem_spans
  | classDef c => exact c.span_mem_spans
  | _ => exact List.mem_cons_self

theorem Stmt.span_mem_spans (item : Stmt) : item.span ∈ item.spans := by
  cases item with
  | block b =>
    cases b
    exact List.mem_cons_self
  | decl d => exact d.span_mem_spans
  | _ => exact List.mem_cons_self

theorem Declarator.span_mem_listSpans {declarator : Declarator} {declarators : List Declarator}
    (h : declarator ∈ declarators) : declarator.span ∈ listSpans declarators := by
  induction declarators with
  | nil => simp at h
  | cons first rest ih =>
    rcases List.mem_cons.mp h with rfl | h
    · cases declarator
      exact List.mem_append_left _ List.mem_cons_self
    · exact List.mem_append_right _ (ih h)

/-! ## Where remaining statements stand -/

/-- The spans of the declarators of a variable declaration, or that of any other declaration. -/
def Decl.sourceSpans : Decl → List Span
  | .variable d => d.declarators.map Declarator.span
  | d => [d.span]

/-- The span of a default value that has to be declared. -/
def DefaultValue.sourceSpans : DefaultValue → List Span
  | .interface _ => []
  | .expr e => if e.reference?.isSome then [] else [e.span]
  | value => [value.span]

/-- The spans that give the statements that remain of an item their places. -/
def Stmt.sourceSpans : Stmt → List Span
  | .importDecl _ => []
  | .exportAll _ => []
  | .empty _ => []
  | .exportNamed _ none _ _ _ => []
  | .exportNamed _ (some d) _ _ _ => d.sourceSpans
  | .exportDefault _ value => value.sourceSpans
  | .decl d => d.sourceSpans
  | item => [item.span]

theorem Decl.map_span_pieces (d : Decl) : d.pieces.map Stmt.span = d.sourceSpans := by
  cases d with
  | «variable» v =>
    simp only [pieces, sourceSpans, List.map_map]
    rfl
  | _ => rfl

theorem DefaultValue.map_span_payload (value : DefaultValue) :
    value.payload.map Stmt.span = value.sourceSpans := by
  cases value with
  | function form f =>
    simp only [payload]
    split_ifs <;> rfl
  | classDef c =>
    simp only [payload]
    split_ifs <;> rfl
  | interface i => rfl
  | expr e =>
    simp only [payload, sourceSpans]
    split_ifs <;> rfl

theorem Stmt.map_span_payload (item : Stmt) : item.payload.map span = item.sourceSpans := by
  cases item with
  | exportNamed span declaration specifiers source typeOnly =>
    cases declaration with
    | none => rfl
    | some d => exact d.map_span_pieces
  | exportDefault span value => exact value.map_span_payload
  | decl d => exact d.map_span_pieces
  | _ => rfl

theorem Decl.sourceSpans_subset_spans (d : Decl) : d.sourceSpans ⊆ d.spans := by
  cases d with
  | «variable» v =>
    intro span hspan
    obtain ⟨declarator, hmem, rfl⟩ := List.mem_map.mp hspan
    cases v
    exact List.mem_cons_of_mem _ (Declarator.span_mem_listSpans hmem)
  | _ => exact List.cons_subset.mpr ⟨span_mem_spans _, List.nil_subset _⟩

theorem DefaultValue.sourceSpans_subset_spans (value : DefaultValue) :
    value.sourceSpans ⊆ value.spans := by
  have hown : [value.span] ⊆ value.spans :=
    List.cons_subset.mpr ⟨value.span_mem_spans, List.nil_subset _⟩
  cases value with
  | interface i => exact List.nil_subset _
  | expr e =>
    simp only [sourceSpans]
    split_ifs
    · exact List.nil_subset _
    · exact hown
  | _ => exact hown

namespace Stmt

theorem sourceSpans_subset_spans (item : Stmt) : item.sourceSpans ⊆ item.spans := by
  cases item with
  | importDecl | exportAll | empty => exact List.nil_subset _
  | exportNamed span declaration specifiers source typeOnly =>
    cases declaration with
    | none => exact List.nil_subset _
    | some d =>
      intro own hown
      have hmem := d.sourceSpans_subset_spans hown
      exact List.mem_append_left _ (List.mem_append_left _ (List.mem_cons_of_mem _ hmem))
  | exportDefault span value =>
    intro own hown
    exact List.mem_cons_of_mem _ (value.sourceSpans_subset_spans hown)
  | decl d => exact d.sourceSpans_subset_spans
  | _ => exact List.cons_subset.mpr ⟨span_mem_spans _, List.nil_subset _⟩

theorem span_mem_sourceSpans_of_mem_payload {item statement : Stmt} (h : statement ∈ item.payload) :
    statement.span ∈ item.sourceSpans := by
  rw [← map_span_payload]
  exact List.mem_map_of_mem h

/-- The spans of the statements that remain of an item are among those of its nodes. -/
theorem span_mem_spans_of_mem_payload {item statement : Stmt} (h : statement ∈ item.payload) :
    statement.span ∈ item.spans :=
  item.sourceSpans_subset_spans (span_mem_sourceSpans_of_mem_payload h)

end Stmt

end ModuleParts
