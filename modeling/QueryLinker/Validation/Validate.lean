import QueryLinker.Validation.Rules.Arguments
import QueryLinker.Validation.Rules.Directives
import QueryLinker.Validation.Rules.Fields
import QueryLinker.Validation.Rules.Overlap
import QueryLinker.Validation.Rules.Subscriptions
import QueryLinker.Validation.Rules.Types
import QueryLinker.Validation.Rules.Values
import QueryLinker.Validation.Rules.Variables

/-!
This module contains the validation of documents: against the rules that hold for a document by
itself, whatever fragments are defined elsewhere, and against all rules.
-/

namespace QueryLinker.Validation

open Graphql Rules

def structuralRules (s : Subject) : List Rule :=
  [loneAnonymousOperation s, knownTypeNames s, fragmentsOnCompositeTypes s,
   variablesAreInputTypes s, scalarLeafs s, possibleFragmentSpreads s, valuesOfCorrectType s,
   variablesInAllowedPosition s]

def allRules (s : Subject) : List Rule :=
  [executableDefinitions, uniqueOperationNames, loneAnonymousOperation s,
   singleFieldSubscriptions s, knownTypeNames s, fragmentsOnCompositeTypes s,
   variablesAreInputTypes s, scalarLeafs s, fieldsOnCorrectType s, uniqueFragmentNames,
   knownFragmentNames s, noUnusedFragments s, possibleFragmentSpreads s, noFragmentCycles s,
   uniqueVariableNames, noUndefinedVariables s, noUnusedVariables s, knownDirectives s,
   uniqueDirectivesPerLocation s, knownArgumentNames s, uniqueArgumentNames,
   valuesOfCorrectType s, providedRequiredArguments s, variablesInAllowedPosition s,
   overlappingFieldsCanBeMerged s, uniqueInputFieldNames]

def tooDeepError (d : Document) : Graphql.Error :=
  ⟨"Fragment chain too deep to validate (" ++ toString d.fragments.length ++ " fragments).", []⟩

inductive Failure where
  | broken (error : Graphql.Error)
  | number (flaw : Number.IntegerFlaw)
deriving Repr

def settle (d : Document) :
    Except Halt (List Graphql.Error) → Except Failure (List Graphql.Error)
  | .ok errors => .ok errors
  | .error .tooDeep => .ok [tooDeepError d]
  | .error (.broken e) => .error (.broken e)
  | .error (.number flaw) => .error (.number flaw)

def validateStructure (schema : Schema) (d : Document) : Except Failure (List Graphql.Error) :=
  settle d (validate (structuralRules { document := d, schema }) (events schema d))

def validateFull (schema : Schema) (d : Document) (nesting : Nat := usualNesting) :
    Except Failure (List Graphql.Error) :=
  settle d (validate (allRules { document := d, schema, nesting }) (events schema d))

end QueryLinker.Validation
