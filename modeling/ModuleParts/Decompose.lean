import ModuleParts.Binding
import ModuleParts.Layout
import ModuleParts.Tree.Names

/-! # Decomposition of modules

A module body is taken apart item by item. Imports and exports become records, declarations with
several declarators are split, default exports without a name are bound to one, empty statements
go, and everything else stays as it is. The first item that cannot be taken apart fails the whole.
-/
namespace ModuleParts

namespace ImportPhase

def name : ImportPhase → String
  | .source => "Source"
  | .defer => "Defer"

end ImportPhase

namespace Decomposition

/-- One statement and nothing else. -/
def ofStatement (statement : Stmt) (metadata : Metadata) : Decomposition :=
  { statements := [⟨statement, metadata⟩] }

end Decomposition

namespace ImportSpecifier

/-- The record of one specifier of a declaration. A type-only default import keeps the local name
on both sides. -/
def record (layout : Layout) (decl : ImportDecl) (specifier : ImportSpecifier) : Specifier :=
  let declKind : BindingKind := if decl.typeOnly then .type else .value
  let source := some decl.source.value
  let location := layout.location specifier.span
  match specifier with
  | .named _ imported binding typeOnly =>
    { kind := some (if typeOnly then .type else declKind)
      localName := some binding.name
      externalName := some imported.text
      source, location }
  | .default _ binding =>
    { kind := some declKind
      localName := some binding.name
      externalName := some (if declKind.isValue then "default" else binding.name)
      source, location }
  | .namespace _ binding => { localName := some binding.name, source, location }

end ImportSpecifier

namespace ImportDecl

/-- Records of an import. One that binds nothing leaves a record of its source; one that binds
something in a phase of its own has no record. -/
def decompose (layout : Layout) (decl : ImportDecl) : Except DecomposeError Decomposition :=
  match decl.specifiers.getD [] with
  | [] =>
    .ok { imports := [.sourceOnly (some decl.source.value) (layout.location decl.span)] }
  | first :: rest =>
    match decl.phase with
    | some phase =>
      .error (.unrecognizedSpecifier (first.kind ++ " (" ++ phase.name ++ " phase)")
        first.span.start)
    | none => .ok { imports := (first :: rest).map (ImportSpecifier.record layout decl) }

end ImportDecl

namespace ExportAll

def decompose (layout : Layout) (decl : ExportAll) : Decomposition :=
  { exports := [{ externalName := decl.exported.map ModuleName.text
                  source := some decl.source.value
                  location := layout.location decl.span }] }

end ExportAll

namespace DefaultValue

/-- A default value bound to the name that is kept for such values. -/
def synthesize (layout : Layout) (container : Span) (value : DefaultValue) :
    Except DecomposeError (String × Decomposition) :=
  match value.toExpr with
  | .error error => .error (.code error)
  | .ok init =>
    .ok (synthesizedDefault,
      .ofStatement (.decl (.variable (constBinding value.span synthesizedDefault init)))
        (layout.liftedMetadata value.span container))

/-- The local name of a default value, with the statement that declares it. An identifier, in
parentheses or not, names a binding that exists already. -/
def bind (layout : Layout) (container : Span) (value : DefaultValue) :
    Except DecomposeError (String × Decomposition) :=
  match value with
  | .function form f =>
    match f.id with
    | some id => .ok (id.name,
        .ofStatement (.decl (.function form f)) (layout.liftedMetadata f.span container))
    | none => value.synthesize layout container
  | .classDef c =>
    match c.id with
    | some id => .ok (id.name,
        .ofStatement (.decl (.classDef c)) (layout.liftedMetadata c.span container))
    | none => value.synthesize layout container
  | .interface i => .error (.unrecognizedDeclaration "TSInterfaceDeclaration" i.span.start)
  | .expr e =>
    match e.withoutParens with
    | .identifier id => .ok (id.name, {})
    | _ => value.synthesize layout container

def decompose (layout : Layout) (container : Span) (value : DefaultValue) :
    Except DecomposeError Decomposition :=
  match value.bind layout container with
  | .error error => .error error
  | .ok (name, parts) =>
    .ok { parts with
      exports := [{ localName := some name
                    externalName := some "default"
                    location := layout.location container }] }

end DefaultValue

namespace VariableDecl

/-- One statement for every declarator, with the comments around the container. -/
def decompose (layout : Layout) (container : Span) (decl : VariableDecl) : Decomposition :=
  { statements := decl.declarators.map fun declarator =>
      ⟨.decl (.variable (decl.single declarator)),
        layout.liftedMetadata declarator.span container⟩ }

end VariableDecl

namespace Decl

/-- The name under which an accepted declaration other than of variables is exported. -/
def exportedId? : Decl → Option Identifier
  | .function _ f => f.id
  | .classDef c => c.id
  | .typeAlias a => some a.id
  | .interface i => some i.id
  | _ => none

/-- Records and statements of an exported declaration. -/
def decomposeExported (layout : Layout) (container : Span) (source : Option String) (decl : Decl) :
    Except DecomposeError Decomposition :=
  let record (name : String) : Specifier :=
    { localName := some name, externalName := some name, source
      location := layout.location decl.span }
  match decl with
  | .variable declared =>
    .ok { declared.decompose layout container with exports := declared.boundNames.map record }
  | _ =>
    match decl.exportedId? with
    | some id =>
      .ok { exports := [record id.name]
            statements := [⟨.decl decl, layout.liftedMetadata decl.span container⟩] }
    | none => .error (.unrecognizedDeclaration decl.kind decl.span.start)

end Decl

namespace ExportSpecifier

def record (layout : Layout) (source : Option String) (specifier : ExportSpecifier) : Specifier :=
  { localName := some specifier.localName.text
    externalName := some specifier.exported.text
    source
    location := layout.location specifier.span }

end ExportSpecifier

namespace Stmt

/-- The parts of one item of a module body. -/
def decompose (layout : Layout) (item : Stmt) : Except DecomposeError Decomposition :=
  match item with
  | .importDecl d => d.decompose layout
  | .exportAll d => .ok (d.decompose layout)
  | .exportDefault span value => value.decompose layout span
  | .exportNamed span declaration specifiers source _ =>
    let request := source.map StringLiteral.value
    match declaration with
    | some d => d.decomposeExported layout span request
    | none => .ok { exports := specifiers.map (ExportSpecifier.record layout request) }
  | .decl (.variable d) => .ok (d.decompose layout d.span)
  | .empty _ => .ok {}
  | _ => .ok (.ofStatement item (layout.metadata item.span))

/-- The parts of the items of a body, one after another, up to the first failure. -/
def decomposeList (layout : Layout) : List Stmt → Except DecomposeError Decomposition
  | [] => .ok {}
  | item :: rest =>
    match item.decompose layout with
    | .error error => .error error
    | .ok first =>
      match decomposeList layout rest with
      | .error error => .error error
      | .ok later => .ok (first ++ later)

end Stmt

structure Options where
  attachComments : Bool := true
deriving DecidableEq, Repr, Inhabited

namespace Program

def decompose (program : Program) (options : Options := {}) :
    Except DecomposeError Decomposition :=
  Stmt.decomposeList (.ofProgram program options.attachComments) program.body

end Program

namespace Root

/-- The program to decompose; a single statement is none. -/
def program? : Root → Except DecomposeError Program
  | .unit u => .ok u.program
  | .program p => .ok p
  | .statement s => .error (.invalidRoot s.kind)

def decompose (root : Root) (options : Options := {}) : Except DecomposeError Decomposition :=
  match root.program? with
  | .error error => .error error
  | .ok p => p.decompose options

end Root

end ModuleParts
