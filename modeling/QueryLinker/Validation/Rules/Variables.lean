import QueryLinker.Validation.Subject

/-!
This module contains the rules about variables: they have different names, those that are used are
declared, those that are declared are used, and their types fit the places where they are used.
-/

namespace QueryLinker.Validation.Rules

open Graphql

def uniqueVariableNames : Rule :=
  .ofEntered fun e =>
    match e.node with
    | .operation o =>
      (repeated (·.var.name.value) o.variableDefinitions).map fun (name, definitions) =>
        ⟨"There can be only one variable named " ++ quoteName ("$" ++ name) ++ ".",
          definitions.map (·.var.name.loc?)⟩
    | _ => []

def leftOperation? (e : Event) : Option OperationDefinition :=
  match e.leaving, e.node with
  | true, .operation o => some o
  | _, _ => none

def noUndefinedVariables (s : Subject) : Rule :=
  .ofState () fun _ e =>
    match leftOperation? e with
    | some o =>
      let declared := o.variableDefinitions.map (·.var.name.value)
      let unknown := (s.usesOf o).filter fun u => !declared.contains u.name
      let place :=
        match o.name? with
        | some name => " by operation " ++ quoteName name.value
        | none => ""
      { state := ()
        errors := unknown.map fun u =>
          ⟨"Variable " ++ quoteName ("$" ++ u.name) ++ " is not defined" ++ place ++ ".",
            [u.loc?, o.loc?]⟩ }
    | none => { state := () }

def noUnusedVariables (s : Subject) : Rule :=
  .ofState () fun _ e =>
    match leftOperation? e with
    | some o =>
      let used := (s.usesOf o).map (·.name)
      let unused := o.variableDefinitions.filter fun d => !used.contains d.var.name.value
      let place :=
        match o.name? with
        | some name => " in operation " ++ quoteName name.value
        | none => ""
      { state := ()
        errors := unused.map fun d =>
          errorAt d.loc? ("Variable " ++ quoteName ("$" ++ d.var.name.value) ++ " is never used" ++
            place ++ ".") }
    | none => { state := () }

def hasValueDefault (d : VariableDefinition) : Bool :=
  d.default?.any fun v => !v.isNull

def fits (s : Schema) (type : Schema.TypeExpr) (d : VariableDefinition)
    (expected : Schema.TypeExpr) (placeHasDefault : Bool) : Bool :=
  if expected.isNonNull && !type.isNonNull then
    (hasValueDefault d || placeHasDefault) && s.isSubTypeExpr type expected.nullable
  else s.isSubTypeExpr type expected

def variablesInAllowedPosition (s : Subject) : Rule :=
  .ofState () fun _ e =>
    match leftOperation? e with
    | some o =>
      { state := ()
        errors := (s.usesOf o).filterMap fun u => do
          let d ← o.variableDefinitions.findRev? fun d => d.var.name.value == u.name
          let expected ← u.type?
          let type ← s.schema.ofRef? d.type
          if fits s.schema type d expected u.hasDefault then none
          else
            some ⟨"Variable " ++ quoteName ("$" ++ u.name) ++ " of type " ++
              quoteName type.text ++ " used in position expecting type " ++
              quoteName expected.text ++ ".", [d.loc?, u.loc?]⟩ }
    | none => { state := () }

end QueryLinker.Validation.Rules
