import DocumentTemplates.Json.Writer
import DocumentTemplates.Proofs.Template.DirectiveCodes

/-!
# Fingerprints and results

Templates are assembled from lists of directives without functions. If their names are plain, the
NaNs in their literal data are the same, and no two fingerprints of nested templates have the same
digest, then equal fingerprints mean equal results. Names that hold marks of the fingerprint, a node
named by a dash, or NaNs that are sorted apart break this.
-/

namespace DocumentTemplates

namespace Template

/-- Templates with the same digest, whose builds always have the same outcome. -/
structure SameBehaviour (t u : Template) : Prop where
  digest : t.digest = u.digest
  build : ∀ setting options data, t.build setting options data = u.build setting options data
  buildAll : ∀ setting options objects,
    t.buildAll setting options objects = u.buildAll setting options objects

/-- A template is the same as itself, and assembled templates with readable directives count as the
same if their fingerprints and their NaNs agree. -/
def SameFingerprint (texts : List String) (t u : Template) : Prop :=
  t = u ∨
    (t = ofDirectives Digest.ofText t.directives ∧ u = ofDirectives Digest.ofText u.directives ∧
      Readable texts t.directives ∧ Readable texts u.directives ∧
      Fingerprint.ofDirectives t.directives = Fingerprint.ofDirectives u.directives ∧
      nans t.directives = nans u.directives)

section Nested

variable {texts : List String} {d e : Directive} {ds es : List Directive}

/-- Nested templates with the same digest have the same fingerprint. -/
theorem ofDirectives_body_eq (hfree : Digest.CollisionFree texts)
    (hds : Readable texts (d :: ds)) (hes : Readable texts (e :: es)) {b b' : Template}
    (hb : d.body? = some b) (hb' : e.body? = some b') (hdigest : b.digest = b'.digest) :
    Fingerprint.ofDirectives b.directives = Fingerprint.ofDirectives b'.directives := by
  rw [hds.body_digest hb, hes.body_digest hb'] at hdigest
  have htext : b.fingerprint = b'.fingerprint :=
    hfree _ (hds.body_known hb) _ (hes.body_known hb') hdigest
  exact String.ofList_inj.1 htext

theorem sameText_body (hfree : Digest.CollisionFree texts) (hds : Readable texts (d :: ds))
    (hes : Readable texts (e :: es)) {b b' : Template} (hb : d.body? = some b)
    (hb' : e.body? = some b') (hdigest : b.digest = b'.digest) :
    List.Forall₂ Directive.SameText b.directives b'.directives :=
  Fingerprint.ofDirectives_inj (hds.body hb) (hes.body hb')
    (ofDirectives_body_eq hfree hds hes hb hb' hdigest)

theorem length_everyIn_cons (d : Directive) (ds : List Directive) :
    (everyIn (d :: ds)).length = d.everyNested.length + (everyIn ds).length + 1 := by
  rw [everyIn, List.length_cons, List.length_append]

/-- Directives with the same text hold equally many NaNs, nested templates included. -/
theorem length_nans_eq (hfree : Digest.CollisionFree texts) (hds : Readable texts ds)
    (hes : Readable texts es) (h : List.Forall₂ Directive.SameText ds es) :
    (nans ds).length = (nans es).length := by
  -- On the number of directives at any depth, which is smaller in a nested template.
  induction hn : (everyIn ds).length using Nat.strongRecOn generalizing ds es with
  | ind n ih =>
    cases h with
    | nil => rfl
    | @cons d e ds es hde hrest =>
      rw [length_everyIn_cons] at hn
      have hnested : d.nestedNans.length = e.nestedNans.length := by
        refine hde.length_nestedNans fun b hb b' hb' hdigest => ?_
        have hbody := sameText_body hfree hds hes hb hb' hdigest
        have hsize := congrArg List.length (Directive.everyNested_of_body hb)
        exact ih _ (by omega) (hds.body hb) (hes.body hb') hbody rfl
      have hlater := ih _ (by omega) hds.tail hes.tail hrest rfl
      simp only [nans_cons, List.length_append, hde.length_nans, hnested, hlater]

/-- Directives with the same text and the same NaNs are alike, as their nested templates are. -/
theorem alike_of_sameText (hfree : Digest.CollisionFree texts) (hds : Readable texts ds)
    (hes : Readable texts es) (h : List.Forall₂ Directive.SameText ds es)
    (hnans : nans ds = nans es) :
    List.Forall₂ (Directive.Alike (SameFingerprint texts)) ds es := by
  induction h with
  | nil => exact .nil
  | @cons d e ds es hde hrest ih =>
    have hlengths : d.nestedNans.length = e.nestedNans.length :=
      hde.length_nestedNans fun b hb b' hb' hdigest =>
        length_nans_eq hfree (hds.body hb) (hes.body hb')
          (sameText_body hfree hds hes hb hb' hdigest)
    rw [nans_cons, nans_cons] at hnans
    obtain ⟨hown, hlater⟩ := List.append_inj hnans hde.length_nans
    obtain ⟨hnested, htail⟩ := List.append_inj hlater hlengths
    refine .cons (hde.alike hown fun b hb b' hb' hdigest => ?_) (ih hds.tail hes.tail htail)
    rw [Directive.nestedNans_of_body hb, Directive.nestedNans_of_body hb'] at hnested
    exact .inr ⟨hds.body_eq hb, hes.body_eq hb', hds.body hb, hes.body hb',
      ofDirectives_body_eq hfree hds hes hb hb' hdigest, hnested⟩

end Nested

/-- Builds cannot tell templates with the same fingerprint and the same NaNs apart. Nested templates
have the same fingerprints again, since their digests agree. -/
theorem indistinct_sameFingerprint {texts : List String} (hfree : Digest.CollisionFree texts) :
    Indistinct (SameFingerprint texts) := by
  have hrefl : ∀ t, SameFingerprint texts t t := fun t => .inl rfl
  refine ⟨hrefl, ?_⟩
  rintro t u (rfl | ⟨ht, hu, hrt, hru, h, hnans⟩)
  · exact ⟨rfl, List.forall₂_same.2 fun d _ => Directive.Alike.refl hrefl d⟩
  · have hname : t.name = u.name := by rw [ht, hu]; rfl
    have htext := Fingerprint.ofDirectives_inj hrt hru h
    exact ⟨hname, alike_of_sameText hfree hrt hru htext hnans⟩

/-- Directives without functions, with plain names and nested templates assembled from theirs,
build the same if they have the same fingerprint and the same NaNs in their literal data, and no two
fingerprints of nested templates share a digest. -/
theorem sameBehaviour_of_fingerprint_eq {ds es : List Directive}
    (hds : anyHasFunctions ds = false) (hes : anyHasFunctions es = false)
    (hads : ∀ d ∈ everyIn ds, d.IsAssembled) (haes : ∀ d ∈ everyIn es, d.IsAssembled)
    (hpds : ∀ d ∈ everyIn ds, d.HasPlainNames) (hpes : ∀ d ∈ everyIn es, d.HasPlainNames)
    (hnans : nans ds = nans es)
    (hfree : Digest.CollisionFree (nestedFingerprints ds ++ nestedFingerprints es))
    (h : Fingerprint.ofDirectives ds = Fingerprint.ofDirectives es) :
    SameBehaviour (ofDirectives Digest.ofText ds) (ofDirectives Digest.ofText es) := by
  have hrds : Readable (nestedFingerprints ds ++ nestedFingerprints es) ds :=
    ⟨hds, hpds, hads, fun s hs => List.mem_append_left _ hs⟩
  have hres : Readable (nestedFingerprints ds ++ nestedFingerprints es) es :=
    ⟨hes, hpes, haes, fun s hs => List.mem_append_right _ hs⟩
  have hsame : SameFingerprint (nestedFingerprints ds ++ nestedFingerprints es)
      (ofDirectives Digest.ofText ds) (ofDirectives Digest.ofText es) :=
    .inr ⟨rfl, rfl, hrds, hres, h, hnans⟩
  have hR := indistinct_sameFingerprint hfree
  refine ⟨?_, hR.build_eq hsame, hR.buildAll_eq hsame⟩
  exact congrArg (fun cs => Digest.ofText (String.ofList cs)) h

/-- Keys written as aliases or not, in nested templates of two kinds, and NaNs of either sign beside
them: the lists differ, their fingerprints and results do not. -/
theorem sameBehaviour_aliases :
    let ids : List Directive := [.attribute { name := "id" }]
    let ids' : List Directive := [.attribute { name := "id", shownAs := some "id" }]
    let names : List Directive :=
      [.node ⟨none, {}, .value (.document [("n", .float ⟨0xfff8000000000000⟩)])⟩]
    let ds : List Directive :=
      [.child (.value (.float ⟨0x7ff8000000000001⟩)) none {} (ofDirectives Digest.ofText ids),
        .glue .current {} (ofDirectives Digest.ofText names)]
    let es : List Directive :=
      [.child (.value (.float ⟨0x7ff8000000000001⟩)) none {} (ofDirectives Digest.ofText ids'),
        .glue .current {} (ofDirectives Digest.ofText names)]
    anyHasFunctions ds = false ∧ anyHasFunctions es = false ∧
      nans ds = [⟨0x7ff8000000000001⟩, ⟨0xfff8000000000000⟩] ∧ nans es = nans ds ∧
      Digest.CollisionFree (nestedFingerprints ds ++ nestedFingerprints es) ∧
      SameBehaviour (ofDirectives Digest.ofText ds) (ofDirectives Digest.ofText es) := by
  intro ids ids' names ds es
  have hfree : Digest.CollisionFree (nestedFingerprints ds ++ nestedFingerprints es) := by
    decide +kernel
  have hads : ∀ d ∈ everyIn ds, d.IsAssembled := by
    simp [ds, ids, names, everyIn, everyDirective, Directive.everyNested, ofDirectives,
      Directive.IsAssembled, Directive.body?, directives]
  have haes : ∀ d ∈ everyIn es, d.IsAssembled := by
    simp [es, ids', names, everyIn, everyDirective, Directive.everyNested, ofDirectives,
      Directive.IsAssembled, Directive.body?, directives]
  have hpds : ∀ d ∈ everyIn ds, d.HasPlainNames := by decide +kernel
  have hpes : ∀ d ∈ everyIn es, d.HasPlainNames := by decide +kernel
  have hnans : nans ds = [⟨0x7ff8000000000001⟩, ⟨0xfff8000000000000⟩] := by decide +kernel
  have h : Fingerprint.ofDirectives ds = Fingerprint.ofDirectives es := rfl
  exact ⟨rfl, rfl, hnans, rfl, hfree,
    sameBehaviour_of_fingerprint_eq rfl rfl hads haes hpds hpes rfl hfree h⟩

/-! ## Collisions -/

/-- What can be seen of a build without templates to load: the characters of the result as JSON, or
the wording of the error. -/
def shown (t : Template) (options : BuildOptions) (object : Data) : Except String (List Char) :=
  match t.build ⟨{}, .empty, .nowhere, Digest.ofText⟩ options object with
  | .ok v => .ok (Json.compactText v)
  | .error e => .error e.message

theorem SameBehaviour.shown_eq {t u : Template} (h : SameBehaviour t u) (options : BuildOptions)
    (object : Data) : t.shown options object = u.shown options object := by
  rw [shown, shown, h.build]

/-- A node with a list of two documents, one with the given double and one with the number one. -/
def listed (x : Double) : List Directive :=
  [.node ⟨some "items", {}, .value (.array
    [.document [("n", .float x)], .document [("n", .float (.ofInt 1))]])⟩]

/-- Lists of directives with the same fingerprint, the second with plain names. In the first, one
name holds a mark. -/
def collisions : List (List Directive × List Directive) := [
  -- A node that is named like a missing name.
  ([.node ⟨some "-", {}, .value (.document [("a", .null)])⟩],
    [.node ⟨none, {}, .value (.document [("a", .null)])⟩]),
  -- An arrow in the name of an attribute.
  ([.attribute { name := "a=>b", shownAs := some "c" }],
    [.attribute { name := "a", shownAs := some "b=>c" }]),
  -- A guard in the key of an attribute.
  ([.attribute { name := "x", shownAs := some "x;if=-;unless=:z" }],
    [.attribute { name := "x", guard := ⟨none, some (.member "z;if=-;unless=-")⟩ }]),
  -- The second condition in the name of the first.
  ([.attribute { name := "a", guard := ⟨some (.member "x;unless=:y"), none⟩ }],
    [.attribute { name := "a", guard := ⟨some (.member "x"), some (.member "y;unless=-")⟩ }]),
  -- Another directive of any kind in the name of the second condition.
  ([.attribute
      { name := "a", guard := ⟨none, some (.member "z)\nattribute(b=>b;if=-;unless=-")⟩ }],
    [.attribute { name := "a", guard := ⟨none, some (.member "z")⟩ },
      .attribute { name := "b" }]),
  ([.attribute
      { name := "a", guard := ⟨none, some (.member "z)\nnode(b;value:Null;if=-;unless=-")⟩ }],
    [.attribute { name := "a", guard := ⟨none, some (.member "z")⟩ },
      .node ⟨some "b", {}, .value .null⟩]),
  ([.child (.named .current "b") none
      ⟨none, some (.member ("z)[" ++ Digest.ofText "" ++ "]\nchild(Current;None;if=-;unless=-"))⟩
      (ofDirectives Digest.ofText [])],
    [.child (.named .current "b") none ⟨none, some (.member "z")⟩ (ofDirectives Digest.ofText []),
      .child .current none {} (ofDirectives Digest.ofText [])]),
  ([.child (.named .current "b") none
      ⟨none, some (.member ("z)[" ++ Digest.ofText "" ++ "]\nglue(Current;if=-;unless=-"))⟩
      (ofDirectives Digest.ofText [])],
    [.child (.named .current "b") none ⟨none, some (.member "z")⟩ (ofDirectives Digest.ofText []),
      .glue .current {} (ofDirectives Digest.ofText [])]),
  ([.child (.named .current "b") none
      ⟨none, some (.member ("z)[" ++ Digest.ofText "" ++ "]\nextends(b;None;if=-;unless=-"))⟩
      (ofDirectives Digest.ofText [])],
    [.child (.named .current "b") none ⟨none, some (.member "z")⟩ (ofDirectives Digest.ofText []),
      .extend "b" none {} (ofDirectives Digest.ofText [])]),
  -- A helper in the name of a node.
  ([.node ⟨some "a;helper:b", {}, .helper "c"⟩], [.node ⟨some "a", {}, .helper "b;helper:c"⟩]),
  -- A value in the name of a node.
  ([.node ⟨some "a;value:Null;if=-;unless=:z", {}, .helper "c"⟩],
    [.node ⟨some "a", ⟨none, some (.member "z;helper:c;if=-;unless=-")⟩, .value .null⟩]),
  -- A guard in the name of a helper.
  ([.node ⟨some "a", {}, .helper "b;if=-;unless=:z"⟩],
    [.node ⟨some "a", ⟨none, some (.member "z;if=-;unless=-")⟩, .helper "b"⟩]),
  -- No object, or an object, in the name of a base.
  ([.extend "b;None;if=-;unless=:z" none {} (ofDirectives Digest.ofText [])],
    [.extend "b" none ⟨none, some (.member "z;None;if=-;unless=-")⟩
      (ofDirectives Digest.ofText [])]),
  ([.extend "b;Some(Current);if=-;unless=:z" none {} (ofDirectives Digest.ofText [])],
    [.extend "b" (some .current) ⟨none, some (.member "z;None;if=-;unless=-")⟩
      (ofDirectives Digest.ofText [])])]

/-- Directives without functions, assembled as they should be and free of collisions, that have the
same fingerprint and still build differently. The names of the second list are plain. -/
structure Confused (ds es : List Directive) : Prop where
  functionFree : anyHasFunctions ds = false ∧ anyHasFunctions es = false
  assembled : (∀ d ∈ everyIn ds, d.IsAssembled) ∧ ∀ d ∈ everyIn es, d.IsAssembled
  collisionFree : Digest.CollisionFree (nestedFingerprints ds ++ nestedFingerprints es)
  plain : ∀ d ∈ everyIn es, d.HasPlainNames
  fingerprint : Fingerprint.ofDirectives ds = Fingerprint.ofDirectives es
  differs : ¬ SameBehaviour (ofDirectives Digest.ofText ds) (ofDirectives Digest.ofText es)

/-- One name that holds a mark is enough to confuse templates, and so are two NaNs of different
sign. -/
theorem confused_collisions :
    (collisions.Forall fun p => Confused p.1 p.2 ∧ nans p.1 = nans p.2) ∧
      Confused (listed ⟨0x7ff8000000000000⟩) (listed ⟨0xfff8000000000000⟩) ∧
      ∀ d ∈ everyIn (listed ⟨0x7ff8000000000000⟩), d.HasPlainNames := by
  -- The only digest in these fingerprints, worked out once.
  have hempty : Digest.ofText "" =
      "sha256:e3b0c44298fc1c149afbf4c8996fb92427ae41e4649b934ca495991b7852b855" := by
    decide +kernel
  have hchecked : ∀ p ∈ collisions,
      (anyHasFunctions p.1 = false ∧ anyHasFunctions p.2 = false) ∧
      Digest.CollisionFree (nestedFingerprints p.1 ++ nestedFingerprints p.2) ∧
      (∀ d ∈ everyIn p.2, d.HasPlainNames) ∧ nans p.1 = nans p.2 := by
    decide +kernel
  have hassembled : ∀ p ∈ collisions,
      (∀ d ∈ everyIn p.1, d.IsAssembled) ∧ ∀ d ∈ everyIn p.2, d.IsAssembled := by
    simp [collisions, everyIn, everyDirective, Directive.everyNested, ofDirectives,
      Directive.IsAssembled, Directive.body?, directives]
  have hequal : ∀ p ∈ collisions,
      Fingerprint.ofDirectives p.1 = Fingerprint.ofDirectives p.2 := by
    have hbody : Digest.ofText (String.ofList (Fingerprint.ofDirectives [])) = Digest.ofText "" :=
      rfl
    simp only [collisions, ofDirectives, hbody, hempty]
    decide +kernel
  have hshown : ∀ p ∈ collisions,
      (ofDirectives Digest.ofText p.1).shown {}
        (.record none none [("a", .integer 1), ("b", .integer 2), ("x", .integer 3),
          ("z", .integer 4)]) ≠
      (ofDirectives Digest.ofText p.2).shown {}
        (.record none none [("a", .integer 1), ("b", .integer 2), ("x", .integer 3),
          ("z", .integer 4)]) := by
    simp only [collisions, hempty]
    decide +kernel
  refine ⟨List.forall_iff_forall_mem.2 fun p hp => ?_, ?_, by decide +kernel⟩
  · obtain ⟨hf, hfree, hplain, hnans⟩ := hchecked p hp
    exact ⟨⟨hf, hassembled p hp, hfree, hplain, hequal p hp,
      fun hsame => hshown p hp (hsame.shown_eq _ _)⟩, hnans⟩
  · have hassembled : ∀ x, ∀ d ∈ everyIn (listed x), d.IsAssembled := by
      simp [listed, everyIn, Directive.everyNested, Directive.IsAssembled, Directive.body?]
    refine ⟨⟨rfl, rfl⟩, ⟨hassembled _, hassembled _⟩, by decide, by decide +kernel,
      by decide +kernel, fun hsame => ?_⟩
    -- Sorted, the one NaN comes behind the number and the other in front of it.
    have hsorted := hsame.shown_eq
      { filter := some (.mk none [.mk "items" [⟨.sort, ["n"]⟩] none]) } (.record none none [])
    exact absurd hsorted (by decide +kernel)

end Template

end DocumentTemplates
