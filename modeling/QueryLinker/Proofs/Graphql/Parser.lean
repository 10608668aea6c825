import QueryLinker.Graphql.Parser
import QueryLinker.Proofs.Except
import QueryLinker.Proofs.Graphql.Locs
import QueryLinker.Text.Blank

/-!
This module contains that a parser which is to locate nodes gives every node a stretch of the text
that it parses. It also contains that a text of blanks does not parse.
-/

namespace QueryLinker.Graphql

def StemsFrom (source : Source) (loc? : Option Loc) : Prop :=
  ∃ loc, loc? = some loc ∧ loc.source = source

def AllFrom (source : Source) (locs : List (Option Loc)) : Prop :=
  ∀ loc? ∈ locs, StemsFrom source loc?

section

variable {source : Source} {α : Type}

@[simp]
theorem allFrom_nil : AllFrom source [] := by
  simp [AllFrom]

@[simp]
theorem allFrom_cons {loc? : Option Loc} {locs : List (Option Loc)} :
    AllFrom source (loc? :: locs) ↔ StemsFrom source loc? ∧ AllFrom source locs :=
  List.forall_mem_cons

@[simp]
theorem allFrom_append {locs locs' : List (Option Loc)} :
    AllFrom source (locs ++ locs') ↔ AllFrom source locs ∧ AllFrom source locs' :=
  List.forall_mem_append

end

namespace Parser

def Yields {α : Type} (source : Source) (locs : α → List (Option Loc)) (p : Parser α) : Prop :=
  ∀ c a c', c.source = source → c.located = true → p c = .ok (a, c') →
    c'.source = source ∧ c'.located = true ∧ AllFrom source (locs a)

abbrev Stays {α : Type} (source : Source) (p : Parser α) : Prop :=
  Yields source (fun _ => []) p

variable {source : Source} {α β : Type}

theorem Yields.pure {locs : α → List (Option Loc)} {a : α} (h : AllFrom source (locs a)) :
    Yields source locs (pure a) := by
  intro c a' c' hsource hlocated hp
  cases hp
  exact ⟨hsource, hlocated, h⟩

theorem Yields.bind {locs : α → List (Option Loc)} {locs' : β → List (Option Loc)}
    {p : Parser α} {q : α → Parser β} (hp : Yields source locs p)
    (hq : ∀ a, AllFrom source (locs a) → Yields source locs' (q a)) :
    Yields source locs' (p >>= q) := by
  intro c b c' hsource hlocated hrun
  rcases bind_eq_ok_iff.mp hrun with ⟨⟨a, c₁⟩, hfirst, hrest⟩
  rcases hp c a c₁ hsource hlocated hfirst with ⟨hsource₁, hlocated₁, ha⟩
  exact hq a ha c₁ b c' hsource₁ hlocated₁ hrest

theorem stays_pure (a : α) : Stays source (pure a) :=
  .pure allFrom_nil

theorem Yields.fail {locs : α → List (Option Loc)} (flaw : SyntaxFlaw) (offset : Nat) :
    Yields source locs (fail flaw offset) := by
  intro c a c' _ _ hp
  cases hp

theorem Yields.unexpected {locs : α → List (Option Loc)} (t : Token) :
    Yields source locs (unexpected t) :=
  .fail _ _

theorem Yields.get {locs : β → List (Option Loc)} {q : Cursor → Parser β}
    (hq : ∀ c : Cursor, c.source = source → c.located = true → Yields source locs (q c)) :
    Yields source locs (get >>= q) := by
  intro c b c' hsource hlocated hrun
  exact hq c hsource hlocated c b c' hsource hlocated hrun

theorem Yields.ite {locs : α → List (Option Loc)} {p q : Parser α} (b : Bool)
    (hp : Yields source locs p) (hq : Yields source locs q) :
    Yields source locs (if b then p else q) := by
  cases b
  . exact hq
  . exact hp

theorem stays_current : Stays source current :=
  .get fun c _ _ => stays_pure c.current

theorem stays_next : Stays source next := by
  refine .get fun c _ _ => ?_
  split
  . exact stays_pure _
  . split
    . exact stays_pure _
    . exact .fail _ _
    . exact stays_pure _

theorem stays_advance : Stays source advance := by
  refine .bind stays_next fun t _ => ?_
  intro c a c' hsource hlocated hp
  cases hp
  exact ⟨hsource, hlocated, allFrom_nil⟩

theorem yields_locFrom (start : Token) : Yields source (fun loc? => [loc?]) (locFrom start) := by
  refine .get fun c hsource hlocated => ?_
  rw [if_pos hlocated]
  apply Yields.pure
  rw [allFrom_cons]
  exact ⟨⟨_, rfl, hsource⟩, allFrom_nil⟩

theorem stays_peek (kind : TokenKind) : Stays source (peek kind) :=
  .bind stays_current fun _ _ => stays_pure _

theorem stays_expect (kind : TokenKind) : Stays source (expect kind) := by
  refine .bind stays_current fun t _ => ?_
  refine .ite _ ?_ (.fail _ _)
  exact .bind stays_advance fun _ _ => stays_pure t

theorem stays_skip (kind : TokenKind) : Stays source (skip kind) := by
  refine .bind (stays_peek kind) fun there _ => ?_
  refine .ite _ ?_ (stays_pure false)
  exact .bind stays_advance fun _ _ => stays_pure true

theorem stays_expectKeyword (word : String) : Stays source (expectKeyword word) := by
  refine .bind stays_current fun t _ => ?_
  exact .ite _ stays_advance (.fail _ _)

theorem stays_skipKeyword (word : String) : Stays source (skipKeyword word) := by
  refine .bind stays_current fun t _ => ?_
  refine .ite _ ?_ (stays_pure false)
  exact .bind stays_advance fun _ _ => stays_pure true

section

variable {locs : α → List (Option Loc)} {item : Parser α}

theorem yields_upTo (hitem : Yields source locs item) (fuel : Nat) (close : TokenKind) :
    Yields source (·.flatMap locs) (upTo fuel close item) := by
  induction fuel with
  | zero => exact .bind stays_current fun _ _ => .unexpected _
  | succ fuel ih =>
    refine .bind (stays_skip close) fun closed _ => ?_
    refine .ite _ (.pure allFrom_nil) ?_
    refine .bind hitem fun x hx => .bind ih fun xs hxs => .pure ?_
    simp [hx, hxs]

theorem yields_many (hitem : Yields source locs item) (fuel : Nat) (opening close : TokenKind) :
    Yields source (·.flatMap locs) (many fuel opening item close) := by
  refine .bind (stays_expect opening) fun _ _ => .bind hitem fun x hx => ?_
  refine .bind (yields_upTo hitem fuel close) fun xs hxs => .pure ?_
  simp [hx, hxs]

theorem yields_optionalMany (hitem : Yields source locs item) (fuel : Nat)
    (opening close : TokenKind) :
    Yields source (·.flatMap locs) (optionalMany fuel opening item close) := by
  refine .bind (stays_peek opening) fun there _ => ?_
  exact .ite _ (yields_many hitem fuel opening close) (.pure allFrom_nil)

theorem yields_delimited (hitem : Yields source locs item) (fuel : Nat) (delimiter : TokenKind) :
    Yields source (·.flatMap locs) (delimited fuel delimiter item) := by
  refine .bind (stays_skip delimiter) fun _ _ => ?_
  induction fuel with
  | zero => exact .bind stays_current fun _ _ => .unexpected _
  | succ fuel ih =>
    refine .bind hitem fun x hx => .bind (stays_skip delimiter) fun more _ => ?_
    refine .ite _ (.bind ih fun xs hxs => .pure ?_) (.pure ?_)
    . simp [hx, hxs]
    . simp [hx]

end

theorem yields_name : Yields source Name.locs name := by
  refine .bind (stays_expect .name) fun t _ => .bind (yields_locFrom t) fun loc? hloc => ?_
  exact .pure hloc

theorem yields_namedType : Yields source NamedType.locs namedType := by
  refine .bind stays_current fun start _ => .bind yields_name fun n hn => ?_
  refine .bind (yields_locFrom start) fun loc? hloc => .pure ?_
  simp_all [NamedType.locs]

theorem yields_typeRef (fuel : Nat) : Yields source TypeRef.locs (typeRef fuel) := by
  induction fuel with
  | zero => exact .bind stays_current fun _ _ => .unexpected _
  | succ fuel ih =>
    refine .bind stays_current fun start _ => .bind (stays_skip .bracketL) fun listed _ => ?_
    extract_lets rest
    have hrest (type : TypeRef) (htype : AllFrom source type.locs) :
        Yields source TypeRef.locs (rest type) := by
      refine .bind (stays_skip .bang) fun required _ => .ite _ ?_ (.pure htype)
      refine .bind (yields_locFrom start) fun loc? hloc => .pure ?_
      simp_all [TypeRef.locs]
    refine .ite _ ?_ (.bind yields_namedType fun t ht => hrest _ ht)
    refine .bind ih fun item hitem => .bind (stays_expect .bracketR) fun _ _ => ?_
    refine .bind (yields_locFrom start) fun loc? hloc => hrest _ ?_
    simp_all [TypeRef.locs]

theorem yields_var : Yields source Variable.locs var := by
  refine .bind stays_current fun start _ => .bind (stays_expect .dollar) fun _ _ => ?_
  refine .bind yields_name fun n hn => .bind (yields_locFrom start) fun loc? hloc => .pure ?_
  simp_all [Variable.locs]

theorem yields_variableValue (constant : Bool) :
    Yields source Value.locs (variableValue constant) := by
  refine .ite _ ?_ (.bind yields_var fun v hv => .pure ?_)
  . refine .bind (stays_expect .dollar) fun dollar _ => .bind stays_current fun t _ => ?_
    exact .ite _ (.fail _ _) (.unexpected _)
  . rw [Value.locs]
    exact hv

theorem yields_namedValue : Yields source Value.locs namedValue := by
  refine .bind stays_current fun t _ => .bind stays_advance fun _ _ => ?_
  refine .bind (yields_locFrom t) fun loc? hloc => .pure ?_
  split <;> simpa [Value.locs] using hloc

def ValuesYield (source : Source) (fuel : Nat) (constant : Bool) : Prop :=
  Yields source Value.locs (value fuel constant) ∧
    Yields source ObjectField.locs (objectField fuel constant)

theorem valuesYield (fuel : Nat) (constant : Bool) : ValuesYield source fuel constant := by
  induction fuel with
  | zero =>
    constructor
    . rw [value]
      exact .bind stays_current fun _ _ => .unexpected _
    . rw [objectField]
      exact .bind stays_current fun _ _ => .unexpected _
  | succ fuel ih =>
    constructor
    . rw [value]
      refine .bind stays_current fun t _ => ?_
      split
      . refine .bind stays_advance fun _ _ => ?_
        refine .bind (yields_upTo ih.1 fuel .bracketR) fun items hitems => ?_
        refine .bind (yields_locFrom t) fun loc? hloc => .pure ?_
        simp_all [Value.locs, valuesLocs_eq]
      . refine .bind stays_advance fun _ _ => ?_
        refine .bind (yields_upTo ih.2 fuel .braceR) fun fields hfields => ?_
        refine .bind (yields_locFrom t) fun loc? hloc => .pure ?_
        simp_all [Value.locs, objectFieldsLocs_eq]
      . refine .bind stays_advance fun _ _ => .bind (yields_locFrom t) fun loc? hloc => .pure ?_
        simpa [Value.locs] using hloc
      . refine .bind stays_advance fun _ _ => .bind (yields_locFrom t) fun loc? hloc => .pure ?_
        simpa [Value.locs] using hloc
      . refine .bind stays_advance fun _ _ => .bind (yields_locFrom t) fun loc? hloc => .pure ?_
        simpa [Value.locs] using hloc
      . refine .bind stays_advance fun _ _ => .bind (yields_locFrom t) fun loc? hloc => .pure ?_
        simpa [Value.locs] using hloc
      . exact yields_namedValue
      . exact yields_variableValue constant
      . exact .unexpected _
    . rw [objectField]
      refine .bind stays_current fun start _ => .bind yields_name fun n hn => ?_
      refine .bind (stays_expect .colon) fun _ _ => .bind ih.1 fun v hv => ?_
      refine .bind (yields_locFrom start) fun loc? hloc => .pure ?_
      simp_all [ObjectField.locs]

theorem yields_argument (fuel : Nat) (constant : Bool) :
    Yields source Argument.locs (argument fuel constant) := by
  refine .bind stays_current fun start _ => .bind yields_name fun n hn => ?_
  refine .bind (stays_expect .colon) fun _ _ => .bind (valuesYield fuel constant).1 fun v hv => ?_
  refine .bind (yields_locFrom start) fun loc? hloc => .pure ?_
  simp_all [Argument.locs]

theorem yields_arguments (fuel : Nat) (constant : Bool) :
    Yields source (·.flatMap Argument.locs) (arguments fuel constant) :=
  yields_optionalMany (yields_argument fuel constant) fuel .parenL .parenR

theorem yields_directive (fuel : Nat) (constant : Bool) :
    Yields source Directive.locs (directive fuel constant) := by
  refine .bind stays_current fun start _ => .bind (stays_expect .atSign) fun _ _ => ?_
  refine .bind yields_name fun n hn => .bind (yields_arguments fuel constant) fun args hargs => ?_
  refine .bind (yields_locFrom start) fun loc? hloc => .pure ?_
  simp_all [Directive.locs]

theorem yields_directives (fuel : Nat) (constant : Bool) :
    Yields source (·.flatMap Directive.locs) (directives fuel constant) := by
  induction fuel with
  | zero => exact .pure allFrom_nil
  | succ fuel ih =>
    refine .bind (stays_peek .atSign) fun there _ => .ite _ ?_ (.pure allFrom_nil)
    refine .bind (yields_directive _ constant) fun d hd => .bind ih fun ds hds => .pure ?_
    simp_all

theorem yields_fragmentName : Yields source Name.locs fragmentName := by
  refine .bind stays_current fun t _ => ?_
  exact .ite _ (.unexpected _) yields_name

theorem yields_field {fuel : Nat} (hset : Yields source SelectionSet.locs (selectionSet fuel)) :
    Yields source Selection.locs (field (fuel + 1)) := by
  rw [field]
  refine .bind stays_current fun start _ => .bind yields_name fun first hfirst => ?_
  refine .bind (stays_skip .colon) fun aliased _ => ?_
  extract_lets rest
  have hrest (names : Option Name × Name)
      (hnames : AllFrom source (names.1.toList.flatMap Name.locs ++ names.2.locs)) :
      Yields source Selection.locs (rest names) := by
    refine .bind (yields_arguments fuel false) fun args hargs => ?_
    refine .bind (yields_directives fuel false) fun ds hds => ?_
    refine .bind (stays_peek .braceL) fun nested _ => ?_
    extract_lets last
    have hlast (set : SelectionSet) (hset : AllFrom source set.locs) :
        Yields source Selection.locs (last set) := by
      refine .bind (yields_locFrom start) fun loc? hloc => .pure ?_
      simp_all [Selection.locs, FieldHead.locs]
    exact .ite _ (.bind hset hlast) (hlast .absent allFrom_nil)
  refine .ite _ (.bind yields_name fun n hn => hrest (some first, n) ?_) (hrest (none, first) ?_)
  . simp_all
  . simpa using hfirst

theorem yields_spread {fuel : Nat} (hset : Yields source SelectionSet.locs (selectionSet fuel)) :
    Yields source Selection.locs (spread (fuel + 1)) := by
  rw [spread]
  refine .bind stays_current fun start _ => .bind (stays_expect .spread) fun _ _ => ?_
  refine .bind (stays_skipKeyword "on") fun conditional _ => ?_
  refine .bind (stays_peek .name) fun named _ => .ite _ ?_ ?_
  . refine .bind yields_fragmentName fun n hn => ?_
    refine .bind (yields_directives fuel false) fun ds hds => ?_
    refine .bind (yields_locFrom start) fun loc? hloc => .pure ?_
    simp_all [Selection.locs, FragmentSpread.locs]
  . extract_lets rest
    have hrest (condition? : Option NamedType)
        (hcondition : AllFrom source (condition?.toList.flatMap NamedType.locs)) :
        Yields source Selection.locs (rest condition?) := by
      refine .bind (yields_directives fuel false) fun ds hds => .bind hset fun set hset => ?_
      refine .bind (yields_locFrom start) fun loc? hloc => .pure ?_
      simp_all [Selection.locs, InlineHead.locs]
    refine .ite _ ?_ (hrest none allFrom_nil)
    refine .bind yields_namedType fun t ht => hrest (some t) ?_
    simpa using ht

structure SelectionsYield (source : Source) (fuel : Nat) : Prop where
  selectionSet : Yields source SelectionSet.locs (selectionSet fuel)
  selection : Yields source Selection.locs (selection fuel)
  field : Yields source Selection.locs (field fuel)
  spread : Yields source Selection.locs (spread fuel)

theorem selectionsYield (fuel : Nat) : SelectionsYield source fuel := by
  induction fuel with
  | zero =>
    constructor
    . rw [selectionSet]
      exact .bind stays_current fun _ _ => .unexpected _
    . rw [selection]
      exact .bind stays_current fun _ _ => .unexpected _
    . rw [field]
      exact .bind stays_current fun _ _ => .unexpected _
    . rw [spread]
      exact .bind stays_current fun _ _ => .unexpected _
  | succ fuel ih =>
    refine ⟨?_, ?_, yields_field ih.selectionSet, yields_spread ih.selectionSet⟩
    . rw [selectionSet]
      refine .bind stays_current fun start _ => ?_
      refine .bind (yields_many ih.selection fuel .braceL .braceR) fun xs hxs => ?_
      refine .bind (yields_locFrom start) fun loc? hloc => .pure ?_
      simp_all [SelectionSet.locs, selectionsLocs_eq]
    . rw [selection]
      exact .bind (stays_peek .spread) fun there _ => .ite _ ih.spread ih.field

theorem stays_operationKind : Stays source operationKind := by
  refine .bind (stays_expect .name) fun t _ => ?_
  split
  . exact stays_pure _
  . exact .unexpected _

theorem yields_default? (fuel : Nat) {rest : Option Value → Parser α}
    {locs : α → List (Option Loc)}
    (hrest : ∀ initial?, AllFrom source (initial?.toList.flatMap Value.locs) →
      Yields source locs (rest initial?)) :
    Yields source locs (do
      if ← skip .equals then
        let v ← value fuel true
        let initial? ← pure (some v)
        rest initial?
      else
        let initial? ← pure none
        rest initial?) := by
  refine .bind (stays_skip .equals) fun given _ => .ite _ ?_ (hrest none allFrom_nil)
  refine .bind (valuesYield fuel true).1 fun v hv => hrest (some v) ?_
  simpa using hv

theorem yields_variableDefinition (fuel : Nat) :
    Yields source VariableDefinition.locs (variableDefinition fuel) := by
  refine .bind stays_current fun start _ => .bind yields_var fun v hv => ?_
  refine .bind (stays_expect .colon) fun _ _ => .bind (yields_typeRef fuel) fun type htype => ?_
  refine yields_default? fuel fun initial? hinitial => ?_
  refine .bind (yields_directives fuel true) fun ds hds => ?_
  refine .bind (yields_locFrom start) fun loc? hloc => .pure ?_
  simp_all [VariableDefinition.locs]

theorem yields_operation (fuel : Nat) : Yields source Definition.locs (operation fuel) := by
  refine .bind stays_current fun start _ => .bind (stays_peek .braceL) fun short _ => ?_
  refine .ite _ ?_ ?_
  . refine .bind (selectionsYield fuel).selectionSet fun set hset => ?_
    refine .bind (yields_locFrom start) fun loc? hloc => .pure ?_
    simp_all [Definition.locs, OperationDefinition.locs]
  . refine .bind stays_operationKind fun kind _ => .bind (stays_peek .name) fun named _ => ?_
    extract_lets rest
    have hrest (name? : Option Name) (hname : AllFrom source (name?.toList.flatMap Name.locs)) :
        Yields source Definition.locs (rest name?) := by
      refine .bind (yields_optionalMany (yields_variableDefinition fuel) fuel .parenL .parenR)
        fun definitions hdefinitions => ?_
      refine .bind (yields_directives fuel false) fun ds hds => ?_
      refine .bind (selectionsYield fuel).selectionSet fun set hset => ?_
      refine .bind (yields_locFrom start) fun loc? hloc => .pure ?_
      simp_all [Definition.locs, OperationDefinition.locs]
    refine .ite _ (.bind yields_name fun n hn => hrest (some n) ?_) (hrest none allFrom_nil)
    simpa using hn

theorem yields_fragment (fuel : Nat) : Yields source Definition.locs (fragment fuel) := by
  refine .bind stays_current fun start _ => .bind (stays_expectKeyword _) fun _ _ => ?_
  refine .bind yields_fragmentName fun n hn => .bind (stays_expectKeyword _) fun _ _ => ?_
  refine .bind yields_namedType fun condition hcondition => ?_
  refine .bind (yields_directives fuel false) fun ds hds => ?_
  refine .bind (selectionsYield fuel).selectionSet fun set hset => ?_
  refine .bind (yields_locFrom start) fun loc? hloc => .pure ?_
  simp_all [Definition.locs, FragmentDefinition.locs]

def descriptionLocs (text? : Option Description) : List (Option Loc) :=
  text?.toList.flatMap Description.locs

theorem yields_description? : Yields source descriptionLocs description? := by
  refine .bind stays_current fun t _ => .ite _ ?_ (.pure allFrom_nil)
  refine .bind stays_advance fun _ _ => .bind (yields_locFrom t) fun loc? hloc => .pure ?_
  simpa [descriptionLocs, Description.locs] using hloc

theorem yields_inputValueDefinition (fuel : Nat) :
    Yields source InputValueDefinition.locs (inputValueDefinition fuel) := by
  refine .bind stays_current fun start _ => .bind yields_description? fun text? htext => ?_
  refine .bind yields_name fun n hn => .bind (stays_expect .colon) fun _ _ => ?_
  refine .bind (yields_typeRef fuel) fun type htype => ?_
  refine yields_default? fuel fun initial? hinitial => ?_
  refine .bind (yields_directives fuel true) fun ds hds => ?_
  refine .bind (yields_locFrom start) fun loc? hloc => .pure ?_
  simp_all [InputValueDefinition.locs, descriptionLocs]

theorem yields_argumentDefinitions (fuel : Nat) :
    Yields source (·.flatMap InputValueDefinition.locs) (argumentDefinitions fuel) :=
  yields_optionalMany (yields_inputValueDefinition fuel) fuel .parenL .parenR

theorem yields_fieldDefinition (fuel : Nat) :
    Yields source FieldDefinition.locs (fieldDefinition fuel) := by
  refine .bind stays_current fun start _ => .bind yields_description? fun text? htext => ?_
  refine .bind yields_name fun n hn => .bind (yields_argumentDefinitions fuel) fun args hargs => ?_
  refine .bind (stays_expect .colon) fun _ _ => .bind (yields_typeRef fuel) fun type htype => ?_
  refine .bind (yields_directives fuel true) fun ds hds => ?_
  refine .bind (yields_locFrom start) fun loc? hloc => .pure ?_
  simp_all [FieldDefinition.locs, descriptionLocs]

theorem yields_enumValueDefinition (fuel : Nat) :
    Yields source EnumValueDefinition.locs (enumValueDefinition fuel) := by
  refine .bind stays_current fun start _ => .bind yields_description? fun text? htext => ?_
  have hname : Yields source Name.locs enumValueName :=
    .bind stays_current fun t _ => .ite _ (.fail _ _) yields_name
  refine .bind hname fun n hn => .bind (yields_directives fuel true) fun ds hds => ?_
  refine .bind (yields_locFrom start) fun loc? hloc => .pure ?_
  simp_all [EnumValueDefinition.locs, descriptionLocs]

theorem yields_rootDefinition : Yields source RootDefinition.locs rootDefinition := by
  refine .bind stays_current fun start _ => .bind stays_operationKind fun kind _ => ?_
  refine .bind (stays_expect .colon) fun _ _ => .bind yields_namedType fun type htype => ?_
  refine .bind (yields_locFrom start) fun loc? hloc => .pure ?_
  simp_all [RootDefinition.locs]

theorem yields_interfaces (fuel : Nat) :
    Yields source (·.flatMap NamedType.locs) (interfaces fuel) := by
  refine .bind (stays_skipKeyword _) fun given _ => .ite _ ?_ (.pure allFrom_nil)
  exact yields_delimited yields_namedType fuel .amp

theorem yields_fieldDefinitions (fuel : Nat) :
    Yields source (·.flatMap FieldDefinition.locs) (fieldDefinitions fuel) :=
  yields_optionalMany (yields_fieldDefinition fuel) fuel .braceL .braceR

def restLocs (rest : List Directive × TypeBody) : List (Option Loc) :=
  rest.1.flatMap Directive.locs ++ rest.2.locs

theorem yields_typeRest (fuel : Nat) (keyword : String) :
    Yields source restLocs (typeRest fuel keyword) := by
  unfold typeRest
  split
  . refine .bind (yields_directives fuel true) fun ds hds => .pure ?_
    simp_all [restLocs, TypeBody.locs]
  . refine .bind (yields_interfaces fuel) fun supers hsupers => ?_
    refine .bind (yields_directives fuel true) fun ds hds => ?_
    refine .bind (yields_fieldDefinitions fuel) fun fields hfields => .pure ?_
    simp_all [restLocs, TypeBody.locs]
  . refine .bind (yields_interfaces fuel) fun supers hsupers => ?_
    refine .bind (yields_directives fuel true) fun ds hds => ?_
    refine .bind (yields_fieldDefinitions fuel) fun fields hfields => .pure ?_
    simp_all [restLocs, TypeBody.locs]
  . refine .bind (yields_directives fuel true) fun ds hds => ?_
    refine .bind (stays_skip .equals) fun given _ => ?_
    extract_lets last
    have hlast (members : List NamedType)
        (hmembers : AllFrom source (members.flatMap NamedType.locs)) :
        Yields source restLocs (last members) := by
      refine .pure ?_
      simp_all [restLocs, TypeBody.locs]
    exact .ite _ (.bind (yields_delimited yields_namedType fuel .pipe) hlast)
      (hlast [] allFrom_nil)
  . refine .bind (yields_directives fuel true) fun ds hds => ?_
    refine .bind (yields_optionalMany (yields_enumValueDefinition fuel) fuel .braceL .braceR)
      fun values hvalues => .pure ?_
    simp_all [restLocs, TypeBody.locs]
  . refine .bind (yields_directives fuel true) fun ds hds => ?_
    refine .bind (yields_optionalMany (yields_inputValueDefinition fuel) fuel .braceL .braceR)
      fun fields hfields => .pure ?_
    simp_all [restLocs, TypeBody.locs]

theorem yields_typeDefinition (fuel : Nat) (keyword : String) :
    Yields source Definition.locs (typeDefinition fuel keyword) := by
  refine .bind stays_current fun start _ => .bind yields_description? fun text? htext => ?_
  refine .bind (stays_expectKeyword keyword) fun _ _ => .bind yields_name fun n hn => ?_
  refine .bind (yields_typeRest fuel keyword) fun rest hrest => ?_
  refine .bind (yields_locFrom start) fun loc? hloc => .pure ?_
  simp_all [Definition.locs, TypeDefinition.locs, descriptionLocs, restLocs]

theorem yields_schemaDefinition (fuel : Nat) :
    Yields source Definition.locs (schemaDefinition fuel) := by
  refine .bind stays_current fun start _ => .bind yields_description? fun text? htext => ?_
  refine .bind (stays_expectKeyword _) fun _ _ => ?_
  refine .bind (yields_directives fuel true) fun ds hds => ?_
  refine .bind (yields_many yields_rootDefinition fuel .braceL .braceR) fun roots hroots => ?_
  refine .bind (yields_locFrom start) fun loc? hloc => .pure ?_
  simp_all [Definition.locs, SchemaDefinition.locs, descriptionLocs]

theorem yields_directiveLocation : Yields source Name.locs directiveLocation := by
  refine .bind stays_current fun start _ => .bind yields_name fun n hn => ?_
  exact .ite _ (.pure hn) (.unexpected _)

theorem yields_directiveDefinition (fuel : Nat) :
    Yields source Definition.locs (directiveDefinition fuel) := by
  refine .bind stays_current fun start _ => .bind yields_description? fun text? htext => ?_
  refine .bind (stays_expectKeyword _) fun _ _ => .bind (stays_expect .atSign) fun _ _ => ?_
  refine .bind yields_name fun n hn => .bind (yields_argumentDefinitions fuel) fun args hargs => ?_
  refine .bind (stays_skipKeyword _) fun repeatable _ => ?_
  refine .bind (stays_expectKeyword _) fun _ _ => ?_
  refine .bind (yields_delimited yields_directiveLocation fuel .pipe) fun locations hlocations => ?_
  refine .bind (yields_locFrom start) fun loc? hloc => .pure ?_
  simp_all [Definition.locs, DirectiveDefinition.locs, descriptionLocs]

theorem yields_schemaExtension (fuel : Nat) :
    Yields source Definition.locs (schemaExtension fuel) := by
  refine .bind stays_current fun start _ => .bind (stays_expectKeyword _) fun _ _ => ?_
  refine .bind (stays_expectKeyword _) fun _ _ => ?_
  refine .bind (yields_directives fuel true) fun ds hds => ?_
  refine .bind (yields_optionalMany yields_rootDefinition fuel .braceL .braceR)
    fun roots hroots => ?_
  refine .ite _ (.bind stays_current fun _ _ => .unexpected _) ?_
  refine .bind (yields_locFrom start) fun loc? hloc => .pure ?_
  simp_all [Definition.locs, SchemaDefinition.locs]

theorem yields_typeExtension (fuel : Nat) (keyword : String) :
    Yields source Definition.locs (typeExtension fuel keyword) := by
  refine .bind stays_current fun start _ => .bind (stays_expectKeyword _) fun _ _ => ?_
  refine .bind (stays_expectKeyword keyword) fun _ _ => .bind yields_name fun n hn => ?_
  refine .bind (yields_typeRest fuel keyword) fun rest hrest => ?_
  refine .ite _ (.bind stays_current fun _ _ => .unexpected _) ?_
  refine .bind (yields_locFrom start) fun loc? hloc => .pure ?_
  simp_all [Definition.locs, TypeDefinition.locs, restLocs]

theorem yields_definition (fuel : Nat) : Yields source Definition.locs (definition fuel) := by
  refine .bind (stays_peek .braceL) fun short _ => .ite _ (yields_operation fuel) ?_
  refine .bind stays_current fun t _ => ?_
  extract_lets described rest
  have hrest (keyword : Token) : Yields source Definition.locs (rest keyword) := by
    refine .ite _ (.unexpected _) (.ite _ (yields_schemaDefinition fuel) ?_)
    refine .ite _ (yields_typeDefinition fuel _) (.ite _ (yields_directiveDefinition fuel) ?_)
    refine .ite _ (.bind stays_current fun _ _ => .fail _ _) (.ite _ (yields_operation fuel) ?_)
    refine .ite _ (yields_fragment fuel) (.ite _ ?_ (.unexpected _))
    refine .bind stays_next fun extended _ => .ite _ (.unexpected _) ?_
    refine .ite _ (yields_schemaExtension fuel) (.ite _ (yields_typeExtension fuel _) ?_)
    exact .unexpected _
  exact .ite _ (.bind stays_next fun keyword _ => hrest keyword)
    (.bind stays_current fun keyword _ => hrest keyword)

theorem yields_document (fuel : Nat) : Yields source Document.locs (document fuel) :=
  .bind (yields_many (yields_definition fuel) fuel .startOfFile .endOfFile)
    fun _ hds => .pure hds

end Parser

theorem allFrom_of_parse {source : Source} {d : Document} (h : parse source = .ok d) :
    AllFrom source d.locs := by
  rcases bind_eq_ok_iff.mp h with ⟨⟨d', c⟩, hrun, heq⟩
  cases heq
  exact (Parser.yields_document _ _ _ _ rfl rfl hrun).2.2

namespace Lexer

theorem exists_readLexeme_of_blank {c : Char} (hblank : Text.isBlank c) (halves : Halves)
    (offset : Nat) (cs : List Char) : ∃ e, readLexeme halves offset c cs = .error e := by
  have hne (d : Char) (hd : Text.isBlank d = false) : (c == d) = false := by
    rw [beq_eq_false_iff_ne]
    rintro rfl
    rw [hblank] at hd
    cases hd
  have hpunctuation : TokenKind.ofPunctuation? c = none := by
    unfold TokenKind.ofPunctuation?
    split <;> first | rfl | exact absurd hblank (by decide)
  have hplain : c.isAlpha = false ∧ c.isDigit = false := by
    simp only [Text.isBlank, Text.inRanges, Text.blankRanges, List.any_cons, List.any_nil,
      Bool.or_eq_true, Bool.and_eq_true, decide_eq_true_eq, Bool.or_false] at hblank
    have hval : c.val.toNat = c.toNat := rfl
    change (decide (_ ∧ _) || decide _ && decide _) = false ∧ (decide _ && decide _) = false
    simp [UInt32.le_iff_toNat_le, hval]
    omega
  unfold readLexeme isNameStart
  rw [hne '"' (by decide), hne '-' (by decide), hne '_' (by decide), hne '.' (by decide),
    hne '\'' (by decide), hpunctuation, hplain.1, hplain.2]
  cases halves.lookup offset <;> exact ⟨_, rfl⟩

theorem lexFrom_of_blank {cs : List Char} (hblank : ∀ c ∈ cs, Text.isBlank c) (halves : Halves)
    (offset : Nat) :
    (∃ stop, lexFrom halves offset cs = ⟨[⟨.endOfFile, "", stop, stop⟩], none⟩) ∨
      ∃ e, lexFrom halves offset cs = ⟨[], some e⟩ := by
  induction cs generalizing offset with
  | nil =>
    left
    exact ⟨offset, by rw [lexFrom]⟩
  | cons c cs ih =>
    rw [List.forall_mem_cons] at hblank
    rw [lexFrom]
    split
    . exact ih hblank.2 _
    . have hcomment : ¬ (c == '#') = true := by
        intro h
        rw [beq_iff_eq] at h
        rw [h] at hblank
        exact absurd hblank.1 (by decide)
      rcases exists_readLexeme_of_blank hblank.1 halves offset cs with ⟨e, he⟩
      right
      rw [if_neg hcomment, he]
      exact ⟨e, rfl⟩

end Lexer

theorem exists_parse_of_blank {source : Source} (h : Text.isBlankText source.body) :
    ∃ e, parse source = .error e := by
  have hlex := Lexer.lexFrom_of_blank (List.all_eq_true.mp h) source.halves 0
  unfold parse parseWith Parser.runOn Lexer.lex
  rcases hlex with ⟨stop, heq⟩ | ⟨e, heq⟩
  . rw [heq]
    exact ⟨_, rfl⟩
  . rw [heq]
    exact ⟨_, rfl⟩

end QueryLinker.Graphql
