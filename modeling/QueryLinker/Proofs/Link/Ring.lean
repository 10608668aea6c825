import QueryLinker.Proofs.Link.Agreement

/-!
This module contains rings of fragments, each of which spreads the next one. The resolver refuses
them whatever their length, but the search for cycles gives up if they are longer than it may nest.
-/

namespace QueryLinker

open Graphql DefinitionTable Validation Rules

namespace Sample

/-- This is `fragment <f> on Query { ...<g> }`. -/
def spreading (f g : String) : FragmentDefinition :=
  ⟨name f, ⟨name "Query", none⟩, [], .braces [.spread ⟨name g, [], none⟩] none, none⟩

theorem possible_spreading {f g : String} (hne : g ≠ f) :
    (possibleFragmentSpreads ⟨⟨[.fragment (spreading f g)]⟩, schema, false, usualNesting⟩).report
      (events schema ⟨[.fragment (spreading f g)]⟩) = {} := by
  have hnone :
      Subject.fragment? ⟨⟨[.fragment (spreading f g)]⟩, schema, false, usualNesting⟩ g = none := by
    rw [← Option.not_isSome_iff_eq_none, Subject.isSome_fragment?_iff]
    simpa [Document.fragments, spreading, name] using hne
  unfold possibleFragmentSpreads
  rw [Rule.report_ofEntered]
  congr 1
  rw [List.flatMap_eq_nil_iff]
  intro e he
  simp only [events, Event.around, Event.inside, definitionEvents, fragmentEvents, spreading,
    directivesEvents, selectionSetEvents, selectionsEvents, selectionEvents, namedTypeEvents,
    List.flatMap_cons, List.flatMap_nil, List.append_nil, List.nil_append, List.cons_append,
    List.mem_cons, List.not_mem_nil, or_false] at he
  rcases he with rfl | rfl | rfl | rfl | rfl | rfl | rfl | rfl | rfl | rfl
  case inr.inr.inr.inr.inr.inl =>
    -- The spread is of a fragment that the document does not have.
    dsimp only
    rw [if_neg Bool.false_ne_true]
    split
    next heq _ => cases heq
    next heq _ =>
      cases heq
      rw [show (name g).value = g from rfl, hnone]
      rfl
    next => rfl
  all_goals rfl

theorem accepted_spreading (path : String) {f g : String} (hne : g ≠ f) :
    (SourceDocument.ofDocument path ⟨[.fragment (spreading f g)]⟩).accepted schema := by
  have hreport : ∀ rule ∈
      structuralRules ⟨⟨[.fragment (spreading f g)]⟩, schema, false, usualNesting⟩,
      rule.report (events schema ⟨[.fragment (spreading f g)]⟩) = {} := by
    intro rule hrule
    simp only [structuralRules, List.mem_cons, List.not_mem_nil, or_false] at hrule
    rcases hrule with rfl | rfl | rfl | rfl | rfl | rfl | rfl | rfl
    case inr.inr.inr.inr.inr.inl => exact possible_spreading hne
    all_goals cbv
  rw [SourceDocument.accepted_iff]
  change validateStructure schema ⟨[.fragment (spreading f g)]⟩ = _
  unfold validateStructure
  rw [validate_of_report hreport]
  rfl

def ringName (k : Nat) : String :=
  "F" ++ toString k

theorem ringName_inj {k l : Nat} (h : ringName k = ringName l) : k = l := by
  rw [ringName, ringName, String.append_right_inj] at h
  have hdigits : Nat.toDigits 10 k = Nat.toDigits 10 l := String.ofList_injective h
  rw [← Nat.ofDigitChars_ten_toDigits (n := k), hdigits, Nat.ofDigitChars_ten_toDigits]

def ringFragment (n k : Nat) : FragmentDefinition :=
  spreading (ringName (k % n)) (ringName ((k + 1) % n))

def ringPart (n k : Nat) : SourceDocument :=
  .ofDocument (ringName k) ⟨[.fragment (ringFragment n k)]⟩

/-- This is `query Q { ...F0 }`. -/
def ringQuery : OperationDefinition :=
  ⟨.query, some (name "Q"), [], [], .braces [.spread ⟨name (ringName 0), [], none⟩] none, none⟩

def ring (n : Nat) : List SourceDocument :=
  .ofDocument "page" ⟨[.operation ringQuery]⟩ :: (List.range n).map (ringPart n)

variable {n : Nat}

theorem ringName_ne (hn : 1 < n) (k : Nat) : ringName ((k + 1) % n) ≠ ringName (k % n) := by
  intro h
  have hsame := ringName_inj h
  rw [Nat.add_mod_eq_ite] at hsame
  have hlt := Nat.mod_lt k (show 0 < n by omega)
  rw [Nat.mod_eq_of_lt hn] at hsame
  split at hsame <;> omega

theorem accepted_ring (hn : 1 < n) : ∀ d ∈ ring n, d.accepted schema := by
  unfold ring
  rw [List.forall_mem_cons, List.forall_mem_map]
  refine ⟨?_, fun k _ => accepted_spreading _ (ringName_ne hn k)⟩
  rw [SourceDocument.accepted_iff]
  change validateStructure schema ⟨[.operation ringQuery]⟩ = _
  cbv

theorem filter_ring (hn : 1 < n) : (ring n).filter (·.accepted schema) = ring n :=
  List.filter_eq_self.mpr (accepted_ring hn)

theorem exists_of_mem_ring {d : SourceDocument} (hd : d ∈ ring n) {f : Fragment}
    (hf : f ∈ d.fragments) : ∃ k < n, f.node = ringFragment n k := by
  have hnode : f.node ∈ d.document.fragments := by
    rw [← SourceDocument.fragments_map_node]
    exact List.mem_map_of_mem hf
  rcases List.mem_cons.mp hd with rfl | hd
  . cases hnode
  . rcases List.mem_map.mp hd with ⟨k, hk, rfl⟩
    exact ⟨k, List.mem_range.mp hk, List.mem_singleton.mp hnode⟩

theorem node_of_name_ring {f : Fragment} (hf : f ∈ (ring n).flatMap (·.fragments)) {k : Nat}
    (hname : f.name = ringName k) : f.node = ringFragment n k := by
  rcases List.mem_flatMap.mp hf with ⟨d, hd, hf⟩
  rcases exists_of_mem_ring hd hf with ⟨l, hl, hnode⟩
  rw [SourceDocument.fragment_name hf, hnode] at hname
  have hsame : l % n = k := ringName_inj hname
  rw [Nat.mod_eq_of_lt hl] at hsame
  rw [hnode, hsame]

theorem get?_ring (hn : 1 < n) {k : Nat} (hk : k < n) :
    ∃ f, (ofDocuments schema (ring n)).get? (ringName k) = some f ∧
      f.node = ringFragment n k := by
  have hrep := ofDocuments_represents schema (ring n)
  rw [filter_ring hn] at hrep
  have hpart : ringPart n k ∈ ring n :=
    List.mem_cons_of_mem _ (List.mem_map_of_mem (List.mem_range.mpr hk))
  obtain ⟨f, hf, hnode⟩ : ∃ f ∈ (ringPart n k).fragments, f.node = ringFragment n k := by
    rw [← List.mem_map, SourceDocument.fragments_map_node]
    exact List.mem_singleton_self _
  have hname : f.name = ringName k := by
    rw [SourceDocument.fragment_name hf, hnode]
    exact congrArg ringName (Nat.mod_eq_of_lt hk)
  have hunambiguous : ¬ Ambiguous ((ring n).flatMap (·.fragments)) f.name := by
    rw [hname]
    rintro ⟨f₁, hf₁, f₂, hf₂, hname₁, hname₂, htext⟩
    rcases List.mem_flatMap.mp hf₁ with ⟨_, _, hmem₁⟩
    rcases List.mem_flatMap.mp hf₂ with ⟨_, _, hmem₂⟩
    rw [SourceDocument.fragment_text hmem₁, SourceDocument.fragment_text hmem₂,
      node_of_name_ring hf₁ hname₁, node_of_name_ring hf₂ hname₂] at htext
    exact htext rfl
  rcases hrep.exists_get? (List.mem_flatMap.mpr ⟨_, hpart, hf⟩) hunambiguous with ⟨first, hfirst⟩
  rw [hname] at hfirst
  rcases hrep.mem hfirst with ⟨hmem, hfirstname⟩
  exact ⟨first, hfirst, node_of_name_ring hmem hfirstname⟩

theorem setSpreads_ringFragment (n k : Nat) :
    setSpreads (ringFragment n k).selectionSet = [⟨name (ringName ((k + 1) % n)), [], none⟩] :=
  rfl

theorem follows_ring (hn : 1 < n) {k : Nat} (hk : k < n) :
    (ofDocuments schema (ring n)).spreadGraph.Follows (ringName k) (ringName ((k + 1) % n)) := by
  rcases get?_ring hn hk with ⟨f, hf, hnode⟩
  refine ⟨_, spreadGraph_of_get? hf, ?_⟩
  rw [Fragment.spreads, hnode, SelectionSet.spreads_eq_allSpreads]
  exact List.mem_singleton_self _

theorem onCycle_ring (hn : 1 < n) :
    (ofDocuments schema (ring n)).spreadGraph.OnCycle (ringName 0) := by
  have hway (m : Nat) : Relation.TransGen (ofDocuments schema (ring n)).spreadGraph.Follows
      (ringName 0) (ringName ((m + 1) % n)) := by
    induction m with
    | zero => exact .single (follows_ring hn (by omega))
    | succ m ih =>
      have hnext := follows_ring hn (Nat.mod_lt (m + 1) (show 0 < n by omega))
      rw [Nat.mod_add_mod] at hnext
      exact ih.tail hnext
  have hback := hway (n - 1)
  rw [Nat.sub_add_cancel (by omega), Nat.mod_self] at hback
  exact hback

theorem ringFragment_mod (n k : Nat) : ringFragment n (k % n) = ringFragment n k := by
  rw [ringFragment, ringFragment, Nat.mod_mod, Nat.mod_add_mod]

theorem searchFragment_ring {s : Subject} (hn : 1 < n)
    (hring : ∀ k < n, s.fragment? (ringName k) = some (ringFragment n k)) (start : Nat)
    {fuel m : Nat} {way : List (String × FragmentSpread)} {search : CycleSearch}
    (hfuel : m + fuel < n)
    (hway : ∀ x ∈ way.map (·.1), ∃ i < m, x = ringName ((start + i) % n))
    (hvisited : ∀ x ∈ search.visited, ∃ i < m, x = ringName ((start + i) % n)) :
    searchFragment s fuel way search (ringFragment n (start + m)) = .error .tooDeep := by
  -- Places of the ring that are less than its length apart have different names.
  have hnew {i j : Nat} (hij : i < j) (hj : j < n) :
      ringName ((start + j) % n) ≠ ringName ((start + i) % n) := by
    intro h
    have hsame : j ≡ i [MOD n] := Nat.ModEq.add_left_cancel' start (ringName_inj h)
    unfold Nat.ModEq at hsame
    rw [Nat.mod_eq_of_lt hj, Nat.mod_eq_of_lt (by omega)] at hsame
    omega
  induction fuel generalizing m way search with
  | zero => rw [searchFragment]
  | succ fuel ih =>
    have hopen : ¬ search.visited.contains (ringFragment n (start + m)).name.value := by
      rw [List.contains_iff_mem]
      intro hmem
      rcases hvisited _ hmem with ⟨i, hi, heq⟩
      exact hnew hi (by omega) heq
    rw [searchFragment, if_neg hopen, setSpreads_ringFragment]
    have hahead : ringName ((start + (m + 1)) % n) ∉
        ringName ((start + m) % n) :: way.map (·.1) := by
      rw [List.mem_cons, not_or]
      refine ⟨hnew (by omega) (by omega), fun hmem => ?_⟩
      rcases hway _ hmem with ⟨i, hi, heq⟩
      exact hnew (Nat.lt_succ_of_lt hi) (by omega) heq
    have htarget := hring _ (Nat.mod_lt (start + (m + 1)) (show 0 < n by omega))
    rw [ringFragment_mod] at htarget
    have hlonger {names : List String} (h : ∀ x ∈ names, ∃ i < m, x = ringName ((start + i) % n)) :
        ∀ x ∈ ringName ((start + m) % n) :: names,
          ∃ i < m + 1, x = ringName ((start + i) % n) := by
      rw [List.forall_mem_cons]
      refine ⟨⟨m, by omega, rfl⟩, fun x hx => ?_⟩
      rcases h x hx with ⟨i, hi, heq⟩
      exact ⟨i, by omega, heq⟩
    exact searchSpreads_of_error hahead htarget
      (ih (by omega) (hlonger hway) (hlonger hvisited))

theorem collect_ring (hn : 1 < n) :
    ∃ collected, collect schema (ring n) = .ok (ofDocuments schema (ring n), collected) := by
  have hchecked : ∀ d ∈ ring n, d.Checked schema :=
    fun d hd => ⟨_, SourceDocument.accepted_iff.mp (accepted_ring hn d hd)⟩
  rcases (exists_collectDocuments_iff empty).mpr hchecked with ⟨⟨t, collected⟩, hdocuments⟩
  cases collectDocuments_table hdocuments
  exact ⟨_, collect_eq_ok_iff.mpr ⟨.inr schema_flaws, _, hdocuments, rfl⟩⟩

theorem exists_of_mem_allFragments {f : FragmentDefinition}
    (hf : f ∈ (ofDocuments schema (ring n)).allFragments.map (·.node)) :
    ∃ k, f = ringFragment n k := by
  rcases List.mem_map.mp hf with ⟨g, hg, rfl⟩
  rcases List.mem_map.mp hg with ⟨⟨m, g⟩, hentry, rfl⟩
  rw [← get?_eq_some_iff_mem (fragmentNames_nodup _ _)] at hentry
  rcases List.mem_flatMap.mp ((ofDocuments_represents _ _).mem hentry).1 with ⟨d, hd, hg⟩
  rcases exists_of_mem_ring (List.mem_of_mem_filter hd) hg with ⟨k, _, hnode⟩
  exact ⟨k, hnode⟩

theorem allFragments_ring_ne_nil (hn : 1 < n) :
    (ofDocuments schema (ring n)).allFragments.map (·.node) ≠ [] := by
  rcases get?_ring hn (show 0 < n by omega) with ⟨f, hf, _⟩
  rw [get?_eq_some_iff_mem (fragmentNames_nodup _ _)] at hf
  intro hnil
  rw [List.map_eq_nil_iff, allFragments, List.map_eq_nil_iff] at hnil
  rw [hnil] at hf
  cases hf

theorem isSome_get?_ring (hn : 1 < n) (k : Nat) :
    ((ofDocuments schema (ring n)).get? (ringName (k % n))).isSome := by
  rcases get?_ring hn (Nat.mod_lt k (show 0 < n by omega)) with ⟨f, hf, _⟩
  rw [hf]
  rfl

variable {o : Operation} {nesting : Nat}

theorem known_ring (hn : 1 < n) (ho : o.node = ringQuery) :
    (knownFragmentNames ⟨o.withAll (ofDocuments schema (ring n)), schema, false, nesting⟩).report
      (events schema (o.withAll (ofDocuments schema (ring n)))) = {} := by
  apply report_knownFragmentNames
  intro m hm
  rw [fragment?_withAll (o := o) rfl, Option.isSome_map]
  rw [Document.mem_spreadNames_ofOperation, ho] at hm
  rcases hm with ⟨f, hf, hm⟩ | hm
  . rcases exists_of_mem_allFragments hf with ⟨k, rfl⟩
    rw [List.mem_singleton.mp hm]
    exact isSome_get?_ring hn (k + 1)
  . rw [List.mem_singleton.mp hm]
    exact isSome_get?_ring hn 0

theorem search_ring (hring : 1 < n) (hn : nesting < n) (o : Operation) (k : Nat) :
    searchFragment ⟨o.withAll (ofDocuments schema (ring n)), schema, false, nesting⟩ nesting [] {}
      (ringFragment n k) = .error .tooDeep := by
  refine searchFragment_ring (m := 0) hring ?_ k (by omega) (by simp) (by simp)
  intro l hl
  rcases get?_ring hring hl with ⟨f, hf, hnode⟩
  rw [fragment?_withAll (o := o) rfl, hf, Option.map_some, hnode]

theorem cycles_ring (hring : 1 < n) (hn : nesting < n) (o : Operation) :
    (noFragmentCycles ⟨o.withAll (ofDocuments schema (ring n)), schema, false, nesting⟩).report
      (events schema (o.withAll (ofDocuments schema (ring n)))) = { halt? := some .tooDeep } := by
  cases hfs : (ofDocuments schema (ring n)).allFragments.map (·.node) with
  | nil => exact absurd hfs (allFragments_ring_ne_nil hring)
  | cons f fs =>
    rcases exists_of_mem_allFragments (by rw [hfs]; exact List.mem_cons_self) with ⟨k, rfl⟩
    have hdocument : o.withAll (ofDocuments schema (ring n)) =
        .ofOperation (ringFragment n k :: fs) o.node := by
      rw [Operation.withAll, hfs]
    have hsearch := search_ring hring hn o k
    rw [hdocument] at hsearch ⊢
    exact report_noFragmentCycles_of_error schema hsearch

end Sample

theorem long_ring_escapes_rules {n nesting : Nat} (hring : 1 < n) (hn : nesting < n) :
    ∃ t collected o, collect Sample.schema (Sample.ring n) = .ok (t, collected) ∧
      o ∈ t.operations ∧ ¬ ((Resolver.ofTable t 0).resolve t o).2.ok ∧
      let d := o.assemble t.allFragments
      let s : Subject := ⟨d, Sample.schema, false, nesting⟩
      ((knownFragmentNames s).report (events Sample.schema d)).errors = [] ∧
        ((noFragmentCycles s).report (events Sample.schema d)).errors = [] := by
  rcases Sample.collect_ring hring with ⟨collected, hc⟩
  obtain ⟨o, ho, hnode⟩ : ∃ o ∈ (ofDocuments Sample.schema (Sample.ring n)).operations,
      o.node = Sample.ringQuery := by
    rw [ofDocuments_operations, Sample.filter_ring hring]
    exact ⟨_, List.mem_flatMap.mpr ⟨_, List.mem_cons_self, List.mem_singleton_self _⟩, rfl⟩
  refine ⟨_, collected, o, hc, ho, ?_, ?_⟩
  . rw [Resolver.resolve_ok_iff (.nil _), Operation.spreadNames, hnode]
    intro hok
    exact (hok (Sample.ringName 0) (.of_mem (List.mem_singleton_self _))).2
      (Sample.onCycle_ring hring)
  . intro d s
    have hd : d = o.withAll (ofDocuments Sample.schema (Sample.ring n)) := assemble_eq o _
    dsimp only [s]
    rw [hd, Sample.known_ring hring hnode, Sample.cycles_ring hring hn o]
    exact ⟨rfl, rfl⟩

theorem ring_escapes_rules :
    ∃ t collected o, collect Sample.schema (Sample.ring 1301) = .ok (t, collected) ∧
      o ∈ t.operations ∧ ¬ ((Resolver.ofTable t 0).resolve t o).2.ok ∧
      let d := o.assemble t.allFragments
      let s : Subject := ⟨d, Sample.schema, false, usualNesting⟩
      ((knownFragmentNames s).report (events Sample.schema d)).errors = [] ∧
        ((noFragmentCycles s).report (events Sample.schema d)).errors = [] :=
  long_ring_escapes_rules (by decide) (by decide)

end QueryLinker
