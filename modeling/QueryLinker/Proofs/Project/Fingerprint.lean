import Mathlib.Data.List.Permutation
import QueryLinker.Proofs.Files.Written
import QueryLinker.Proofs.Json.Canonical
import QueryLinker.Proofs.Project.SchemaProfile

/-!
This module contains what the fingerprints of schemas and of documents tell: unless the digests of
two different texts agree, equal fingerprints stand for schemas that differ in the order of members
alone, and for files with the same templates.
-/

namespace QueryLinker

theorem Session.readable_of_readJson {nesting : Nat} {cwd path : String} {s later : Session}
    {v : Json} (h : (readJson nesting cwd path).run s = (.ok v, later)) : v.Readable := by
  unfold readJson at h
  rcases Work.run_bind_eq_ok.mp h with ⟨text, between, _, hread⟩
  split at hread
  next value hvalue =>
    cases hread
    exact (Json.readableIn_of_read hvalue).readable
  next => cases hread

namespace SchemaProfile

/-- A profile that is made of its schema: it is fetched from an endpoint or read from a file. -/
inductive IsMade (p : SchemaProfile) : Prop where
  | fetched {s : Surroundings} {url : String} {token? : Option String} {path : String}
    {before after : Session} (h : (fetch s url token? path).run before = (.ok p, after))
  | read {s : Surroundings} {path : String} {before after : Session}
    (h : (ofFile s path).run before = (.ok p, after))

variable {p q : SchemaProfile}

theorem IsMade.exists_eq (h : IsMade p) :
    ∃ url now data, Json.Readable data ∧ p = ofSchema url now data := by
  cases h with
  | fetched h =>
    rcases run_fetch_eq_ok.mp h with ⟨_, _, data, _, _, _, hdata, _, _, _, rfl, _⟩
    exact ⟨_, _, data, readable_ofOutcome hdata, rfl⟩
  | read h =>
    unfold ofFile at h
    dsimp only at h
    split at h
    . rcases Work.run_bind_eq_ok.mp h with ⟨text, _, _, hprofile⟩
      rcases Work.run_pure_eq_ok.mp hprofile with ⟨rfl, _⟩
      exact ⟨_, _, _, readable_ofString text, rfl⟩
    . rcases Work.run_bind_eq_ok.mp h with ⟨data, _, hdata, hprofile⟩
      rcases Work.run_pure_eq_ok.mp hprofile with ⟨rfl, _⟩
      exact ⟨_, _, data, Session.readable_of_readJson hdata, rfl⟩

theorem IsMade.hash_eq_iff (hp : IsMade p) (hq : IsMade q) :
    p.hash = q.hash ↔ p.schema.Alike q.schema ∨
      Json.Collide p.schema.canonicalText q.schema.canonicalText := by
  rcases hp.exists_eq with ⟨_, _, a, ha, rfl⟩
  rcases hq.exists_eq with ⟨_, _, b, hb, rfl⟩
  refine Iff.trans ?_ (Json.fingerprint_eq_iff ha.wellFormed hb.wellFormed)
  constructor
  . intro h
    exact Json.ofString_inj (Json.str.inj h)
  . intro h
    have hsame : a.fingerprint = b.fingerprint := h
    rw [ofSchema, ofSchema, hsame]

end SchemaProfile

namespace SourceFile

variable {path path' text text' : String} {d d' : SourceDocument}

def bodies (path text : String) : List String :=
  (templates path text).map (·.body)

theorem hash_of_document? (h : document? path text = .ok (some d)) :
    d.hash = (Json.ofStrings (bodies path text)).fingerprint := by
  unfold document? at h
  split at h
  . cases h
  next first others htemplates =>
    dsimp only at h
    rcases bind_eq_ok_iff.mp h with ⟨definitions, _, hdocument⟩
    cases hdocument
    rw [bodies, htemplates]

theorem hash_eq_iff (h : document? path text = .ok (some d))
    (h' : document? path' text' = .ok (some d')) :
    d.hash = d'.hash ↔ bodies path text = bodies path' text' ∨
      Json.Collide (Json.ofStrings (bodies path text)).canonicalText
        (Json.ofStrings (bodies path' text')).canonicalText := by
  rw [hash_of_document? h, hash_of_document? h',
    Json.fingerprint_eq_iff (Json.wellFormed_ofStrings _) (Json.wellFormed_ofStrings _),
    Json.alike_ofStrings_iff]

end SourceFile

/--
Equal canonical texts stand for values that differ in the order of members alone. So do equal hashes
of schemas, and equal hashes of documents stand for equal lists of templates, unless the digests of
two different texts agree.
-/
theorem fingerprints_tell :
    (∀ a b : Json, a.WellFormed → b.WellFormed →
      (a.canonicalText = b.canonicalText ↔ a.Alike b)) ∧
    (∀ p q : SchemaProfile, p.IsMade → q.IsMade →
      (p.hash = q.hash ↔ p.schema.Alike q.schema ∨
        Json.Collide p.schema.canonicalText q.schema.canonicalText)) ∧
    ∀ path text path' text' d d', SourceFile.document? path text = .ok (some d) →
      SourceFile.document? path' text' = .ok (some d') →
      (d.hash = d'.hash ↔ SourceFile.bodies path text = SourceFile.bodies path' text' ∨
        Json.Collide (Json.ofStrings (SourceFile.bodies path text)).canonicalText
          (Json.ofStrings (SourceFile.bodies path' text')).canonicalText) :=
  ⟨fun _ _ ha hb => Json.canonicalText_eq_iff ha hb, fun _ _ hp hq => hp.hash_eq_iff hq,
    fun _ _ _ _ _ _ h h' => SourceFile.hash_eq_iff h h'⟩

namespace Fingerprint.Sample

def description : Json :=
  .obj [("a", .obj [("b", .null), ("c", .arr [.int 1])]), ("d", .bool true)]

def reordered : Json :=
  .obj [("d", .bool true), ("a", .obj [("c", .arr [.int 1]), ("b", .null)])]

theorem readable_pair {k l : String} {v w : Json} (hne : k ≠ l) (hv : v.Readable)
    (hw : w.Readable) : Json.Readable (.obj [(k, v), (l, w)]) := by
  refine .obj ?_ ?_ ?_
  . have hkeys : LooseText.ofString k ≠ LooseText.ofString l := fun h => hne (Json.ofString_inj h)
    simpa using hkeys
  . simp only [List.forall_mem_cons]
    exact ⟨LooseText.paired_ofString k, LooseText.paired_ofString l, List.forall_mem_nil _⟩
  . simp only [List.forall_mem_cons]
    exact ⟨hv, hw, List.forall_mem_nil _⟩

theorem readable_list : Json.Readable (.arr [.int 1]) := by
  refine .arr ?_
  simp only [List.forall_mem_cons]
  exact ⟨.int (by decide), List.forall_mem_nil _⟩

theorem readable_description : description.Readable :=
  readable_pair (by decide) (readable_pair (by decide) .null readable_list) (.bool true)

theorem readable_reordered : reordered.Readable :=
  readable_pair (by decide) (.bool true) (readable_pair (by decide) readable_list .null)

def surroundings : Surroundings where
  directory := "/"
  home := "/"
  now := { year := 2024, month := 1, day := 1 }

theorem exists_made {v : Json} (hv : v.Readable) (hroom : v.levels ≤ surroundings.nesting - 1) :
    ∃ p : SchemaProfile, p.IsMade ∧ p.schema = v := by
  let session : Session := { files := .directory [("s.json", .file v.pretty.toUTF8)] }
  have hending : ¬ SchemaProfile.definitionEndings.any fun ending => "s.json".endsWith ending := by
    decide +kernel
  have hopens : FileTree.Opens surroundings.directory "s.json" ["s.json"] :=
    ⟨by decide, by decide, by decide, by decide, by decide⟩
  have hread : session.files.read surroundings.directory "s.json" = .ok v.pretty.toUTF8 :=
    hopens.read rfl rfl
  have hrun := SchemaProfile.run_ofFile_description hending hread hv hroom
  exact ⟨_, .read hrun, rfl⟩

def templates : String :=
  "graphql\x60query A \x7b a \x7d \x60graphql\x60query B \x7b a \x7d\x60"

def shifted : String :=
  "graphql\x60query A \x7b a \x7d\x60graphql\x60 query B \x7b a \x7d\x60"

theorem exists_documents : ∃ d d',
    SourceFile.document? "a.js" templates = .ok (some d) ∧
      SourceFile.document? "a.js" shifted = .ok (some d') := by
  have hfirst : (SourceFile.document? "a.js" templates).toOption.map (·.isSome) = some true := by
    decide +kernel
  have hsecond : (SourceFile.document? "a.js" shifted).toOption.map (·.isSome) = some true := by
    decide +kernel
  rcases Option.map_eq_some_iff.mp hfirst with ⟨d?, hd, hsome⟩
  rcases Option.map_eq_some_iff.mp hsecond with ⟨d'?, hd', hsome'⟩
  rcases Option.isSome_iff_exists.mp hsome with ⟨d, rfl⟩
  rcases Option.isSome_iff_exists.mp hsome' with ⟨d', rfl⟩
  exact ⟨d, d', toOption_eq_some_iff.mp hd, toOption_eq_some_iff.mp hd'⟩

theorem bodies_ne : SourceFile.bodies "a.js" templates ≠ SourceFile.bodies "a.js" shifted := by
  decide +kernel

theorem not_collide : ¬ Json.Collide
    (Json.ofStrings (SourceFile.bodies "a.js" templates)).canonicalText
    (Json.ofStrings (SourceFile.bodies "a.js" shifted)).canonicalText := by
  have hdigests : Json.shortDigest (Json.ofStrings
        (SourceFile.bodies "a.js" templates)).canonicalText ≠
      Json.shortDigest (Json.ofStrings (SourceFile.bodies "a.js" shifted)).canonicalText := by
    decide +kernel
  exact fun h => hdigests h.2

end Fingerprint.Sample

open Fingerprint.Sample in
theorem fingerprints_tell_sample :
    description.Alike reordered ∧
    (∃ p q : SchemaProfile, p.IsMade ∧ q.IsMade ∧ p.schema = description ∧ q.schema = reordered ∧
      p.hash = q.hash) ∧
    ∃ d d', SourceFile.document? "a.js" templates = .ok (some d) ∧
      SourceFile.document? "a.js" shifted = .ok (some d') ∧ d.hash ≠ d'.hash := by
  rcases fingerprints_tell with ⟨htexts, hschemas, hdocuments⟩
  have halike : description.Alike reordered :=
    (htexts _ _ readable_description.wellFormed readable_reordered.wellFormed).mp
      (by cbv)
  rcases exists_made readable_description (by decide) with ⟨p, hp, hpschema⟩
  rcases exists_made readable_reordered (by decide) with ⟨q, hq, hqschema⟩
  rcases exists_documents with ⟨d, d', hd, hd'⟩
  refine ⟨halike, ⟨p, q, hp, hq, hpschema, hqschema, ?_⟩, d, d', hd, hd', fun hsame => ?_⟩
  . refine (hschemas p q hp hq).mpr (.inl ?_)
    rw [hpschema, hqschema]
    exact halike
  . rcases (hdocuments _ _ _ _ _ _ hd hd').mp hsame with h | h
    . exact bodies_ne h
    . exact not_collide h

end QueryLinker
