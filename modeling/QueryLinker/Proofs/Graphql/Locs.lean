import QueryLinker.Proofs.Graphql.Spread

/-!
This module contains the stretches of text of all nodes in a syntax tree.
-/

namespace QueryLinker.Graphql

def Name.locs (n : Name) : List (Option Loc) :=
  [n.loc?]

def NamedType.locs (t : NamedType) : List (Option Loc) :=
  t.loc? :: t.name.locs

def TypeRef.locs : TypeRef → List (Option Loc)
  | .named t => t.locs
  | .list item loc? => loc? :: item.locs
  | .nonNull type loc? => loc? :: type.locs

def Variable.locs (v : Variable) : List (Option Loc) :=
  v.loc? :: v.name.locs

mutual

def Value.locs : Value → List (Option Loc)
  | .var v => v.locs
  | .int _ loc? => [loc?]
  | .float _ loc? => [loc?]
  | .string _ _ loc? => [loc?]
  | .boolean _ loc? => [loc?]
  | .null loc? => [loc?]
  | .enum _ loc? => [loc?]
  | .list items loc? => loc? :: valuesLocs items
  | .object fields loc? => loc? :: objectFieldsLocs fields
termination_by structural v => v

def valuesLocs : List Value → List (Option Loc)
  | [] => []
  | v :: vs => v.locs ++ valuesLocs vs
termination_by structural vs => vs

def ObjectField.locs : ObjectField → List (Option Loc)
  | .mk name value loc? => loc? :: (name.locs ++ value.locs)
termination_by structural f => f

def objectFieldsLocs : List ObjectField → List (Option Loc)
  | [] => []
  | f :: fs => f.locs ++ objectFieldsLocs fs
termination_by structural fs => fs

end

def Argument.locs (a : Argument) : List (Option Loc) :=
  a.loc? :: (a.name.locs ++ a.value.locs)

def Directive.locs (d : Directive) : List (Option Loc) :=
  d.loc? :: (d.name.locs ++ d.arguments.flatMap Argument.locs)

def FieldHead.locs (f : FieldHead) : List (Option Loc) :=
  f.loc? :: (f.alias?.toList.flatMap Name.locs ++ f.name.locs ++
    f.arguments.flatMap Argument.locs ++ f.directives.flatMap Directive.locs)

def FragmentSpread.locs (f : FragmentSpread) : List (Option Loc) :=
  f.loc? :: (f.name.locs ++ f.directives.flatMap Directive.locs)

def InlineHead.locs (f : InlineHead) : List (Option Loc) :=
  f.loc? :: (f.typeCondition?.toList.flatMap NamedType.locs ++
    f.directives.flatMap Directive.locs)

mutual

def Selection.locs : Selection → List (Option Loc)
  | .field head set => head.locs ++ set.locs
  | .spread f => f.locs
  | .inline head set => head.locs ++ set.locs
termination_by structural x => x

def SelectionSet.locs : SelectionSet → List (Option Loc)
  | .absent => []
  | .braces selections loc? => loc? :: selectionsLocs selections
termination_by structural set => set

def selectionsLocs : List Selection → List (Option Loc)
  | [] => []
  | x :: xs => x.locs ++ selectionsLocs xs
termination_by structural xs => xs

end

def VariableDefinition.locs (d : VariableDefinition) : List (Option Loc) :=
  d.loc? :: (d.var.locs ++ d.type.locs ++ d.default?.toList.flatMap Value.locs ++
    d.directives.flatMap Directive.locs)

def OperationDefinition.locs (d : OperationDefinition) : List (Option Loc) :=
  d.loc? :: (d.name?.toList.flatMap Name.locs ++
    d.variableDefinitions.flatMap VariableDefinition.locs ++
    d.directives.flatMap Directive.locs ++ d.selectionSet.locs)

def FragmentDefinition.locs (d : FragmentDefinition) : List (Option Loc) :=
  d.loc? :: (d.name.locs ++ d.typeCondition.locs ++ d.directives.flatMap Directive.locs ++
    d.selectionSet.locs)

def Description.locs (d : Description) : List (Option Loc) :=
  [d.loc?]

def InputValueDefinition.locs (d : InputValueDefinition) : List (Option Loc) :=
  d.loc? :: (d.description?.toList.flatMap Description.locs ++ d.name.locs ++ d.type.locs ++
    d.default?.toList.flatMap Value.locs ++ d.directives.flatMap Directive.locs)

def FieldDefinition.locs (d : FieldDefinition) : List (Option Loc) :=
  d.loc? :: (d.description?.toList.flatMap Description.locs ++ d.name.locs ++
    d.arguments.flatMap InputValueDefinition.locs ++ d.type.locs ++
    d.directives.flatMap Directive.locs)

def EnumValueDefinition.locs (d : EnumValueDefinition) : List (Option Loc) :=
  d.loc? :: (d.description?.toList.flatMap Description.locs ++ d.name.locs ++
    d.directives.flatMap Directive.locs)

def RootDefinition.locs (d : RootDefinition) : List (Option Loc) :=
  d.loc? :: d.type.locs

def TypeBody.locs : TypeBody → List (Option Loc)
  | .scalar => []
  | .object interfaces fields =>
    interfaces.flatMap NamedType.locs ++ fields.flatMap FieldDefinition.locs
  | .interface interfaces fields =>
    interfaces.flatMap NamedType.locs ++ fields.flatMap FieldDefinition.locs
  | .union members => members.flatMap NamedType.locs
  | .enum values => values.flatMap EnumValueDefinition.locs
  | .inputObject fields => fields.flatMap InputValueDefinition.locs

def TypeDefinition.locs (d : TypeDefinition) : List (Option Loc) :=
  d.loc? :: (d.description?.toList.flatMap Description.locs ++ d.name.locs ++
    d.directives.flatMap Directive.locs ++ d.body.locs)

def SchemaDefinition.locs (d : SchemaDefinition) : List (Option Loc) :=
  d.loc? :: (d.description?.toList.flatMap Description.locs ++
    d.directives.flatMap Directive.locs ++ d.roots.flatMap RootDefinition.locs)

def DirectiveDefinition.locs (d : DirectiveDefinition) : List (Option Loc) :=
  d.loc? :: (d.description?.toList.flatMap Description.locs ++ d.name.locs ++
    d.arguments.flatMap InputValueDefinition.locs ++ d.locations.flatMap Name.locs)

def Definition.locs : Definition → List (Option Loc)
  | .operation d => d.locs
  | .fragment d => d.locs
  | .schema d => d.locs
  | .type d => d.locs
  | .directive d => d.locs
  | .schemaExtension d => d.locs
  | .typeExtension d => d.locs

def Document.locs (d : Document) : List (Option Loc) :=
  d.definitions.flatMap Definition.locs

theorem valuesLocs_eq (vs : List Value) : valuesLocs vs = vs.flatMap Value.locs := by
  induction vs with
  | nil => rfl
  | cons v vs ih => rw [valuesLocs, List.flatMap_cons, ih]

theorem objectFieldsLocs_eq (fs : List ObjectField) :
    objectFieldsLocs fs = fs.flatMap ObjectField.locs := by
  induction fs with
  | nil => rfl
  | cons f fs ih => rw [objectFieldsLocs, List.flatMap_cons, ih]

theorem selectionsLocs_eq (xs : List Selection) :
    selectionsLocs xs = xs.flatMap Selection.locs := by
  induction xs with
  | nil => rfl
  | cons x xs ih => rw [selectionsLocs, List.flatMap_cons, ih]

mutual

theorem Selection.loc?_mem_locs {f : FragmentSpread} (x : Selection) (hf : f ∈ x.allSpreads) :
    f.loc? ∈ x.locs := by
  cases x with
  | field head set => exact List.mem_append_right _ (set.loc?_mem_locs hf)
  | spread g =>
    rw [Selection.allSpreads, List.mem_singleton] at hf
    rw [hf]
    exact List.mem_cons_self
  | inline head set => exact List.mem_append_right _ (set.loc?_mem_locs hf)
termination_by structural x

theorem SelectionSet.loc?_mem_locs {f : FragmentSpread} (set : SelectionSet)
    (hf : f ∈ set.allSpreads) : f.loc? ∈ set.locs := by
  cases set with
  | absent => cases hf
  | braces selections loc? => exact List.mem_cons_of_mem _ (loc?_mem_selectionsLocs selections hf)
termination_by structural set

theorem loc?_mem_selectionsLocs {f : FragmentSpread} (xs : List Selection)
    (hf : f ∈ allSpreadsIn xs) : f.loc? ∈ selectionsLocs xs := by
  cases xs with
  | nil => cases hf
  | cons x xs =>
    rw [allSpreadsIn] at hf
    rcases List.mem_append.mp hf with hf | hf
    . exact List.mem_append_left _ (x.loc?_mem_locs hf)
    . exact List.mem_append_right _ (loc?_mem_selectionsLocs xs hf)
termination_by structural xs

end

theorem Definition.loc?_mem_locs (d : Definition) : d.loc? ∈ d.locs := by
  cases d <;> exact List.mem_cons_self

end QueryLinker.Graphql
