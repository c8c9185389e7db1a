import DocumentTemplates.Cache.Memory
import DocumentTemplates.Proofs.Build.Registered
import DocumentTemplates.Proofs.Build.SelectedKeys

/-!
# Several objects one by one

Objects that are built together have the results that they have when each is built alone, in the
same order, and the first object whose build fails gives the error. Where no child is reached,
leaving out empty results is a last step over these results; children may be lists, which the
setting thins out as well.
-/

namespace DocumentTemplates

/-- What calls on the elements of a list come to, one after the other: their results in order, or
the error of the first call that fails. -/
inductive OneByOne {ε α β : Type} (f : α → Except ε β) : List α → Except ε (List β) → Prop
  | done {xs : List α} {ys : List β} (h : List.Forall₂ (fun x y => f x = .ok y) xs ys) :
    OneByOne f xs (.ok ys)
  | failed (before after : List α) {x : α} {e : ε} (hbefore : ∀ y ∈ before, ∃ z, f y = .ok z)
    (hx : f x = .error e) : OneByOne f (before ++ x :: after) (.error e)

theorem oneByOne_mapM {ε α β : Type} (f : α → Except ε β) (xs : List α) :
    OneByOne f xs (xs.mapM f) := by
  induction xs with
  | nil => exact .done .nil
  | cons x rest ih =>
    rw [List.mapM_cons]
    cases hx : f x with
    | error e => exact .failed [] rest (fun y hy => (nomatch hy)) hx
    | ok y =>
      generalize rest.mapM f = r at ih
      cases ih with
      | done h => exact .done (.cons hx h)
      | failed before after hbefore hz =>
        exact .failed (x :: before) after (List.forall_mem_cons.2 ⟨⟨y, hx⟩, hbefore⟩) hz

/-- The setting with empty results left out of lists, or kept. -/
def Setting.withExclusion (S : Setting) (exclude : Bool) : Setting :=
  { S with config := { S.config with excludeEmpty := exclude } }

@[simp] theorem Setting.digestOf_withExclusion (S : Setting) (exclude : Bool) :
    (S.withExclusion exclude).digestOf = S.digestOf := rfl

/-- The results that are kept of those of a list: all, or those that are not empty. -/
def Setting.kept (S : Setting) (results : List Value) : List Value :=
  if S.config.excludeEmpty then results.filter fun v => !v.isEmpty else results

/-- The plan for one item of a list with a name, under a filter. -/
def Plan.ofItem (elementRoot : RootSetting) (collection : Option String) (f : Option Filter)
    (item : Data) : Plan :=
  let root := elementRoot.resolve? (deriveName? none item collection)
  ⟨item, root, Filter.scoped f root⟩

namespace BuildOptions

/-- The options with the result wrapped in the given way. -/
def withRoot (options : BuildOptions) (root : RootSetting) : BuildOptions :=
  { options with root := some root }

/-- The options with the elements of lists wrapped in the given way. -/
def withElementRoot (options : BuildOptions) (root : RootSetting) : BuildOptions :=
  { options with objectRoot := some root }

end BuildOptions

namespace Strategy

variable {S : Setting} {load : String → Except BuildError Template} {t u : Template}

/-- The items of a list are built one after the other, and the results that are kept are listed. -/
theorem items_loading (document : Template → Data → Option Filter → Except BuildError Document)
    (t : Template) (elementRoot : RootSetting) (collection : Option String) (f : Option Filter)
    (items : List Data) :
    (loading load).items S document t elementRoot collection f items =
      (items.mapM fun item => compute document t (.ofItem elementRoot collection f item)).map
        S.kept := by
  have hplans : Plan.ofItems elementRoot collection f items =
      items.map (Plan.ofItem elementRoot collection f) := rfl
  simp only [Strategy.items, hplans, loading, List.mapM_map, bind_pure_comp]
  rfl

/-- Every object of a batch is planned as it would be alone. -/
theorem buildAll_eq (options : BuildOptions) (root : RootSetting) (t : Template)
    {objects : List Data} (ho : ∀ o ∈ objects, o.isObject = true) :
    (loading load).buildAll S (options.withElementRoot root) t objects =
      (objects.mapM fun o => (loading load).build S (options.withRoot root) t o).map S.kept := by
  have hsingle : ∀ o ∈ objects,
      compute ((loading load).document S) t (.ofItem root none options.activeFilter o) =
        (loading load).build S (options.withRoot root) t o :=
    fun o h => (build_object (loading load) (options.withRoot root) t (ho o h)).symm
  rw [← mapM_congr_mem hsingle]
  exact items_loading ((loading load).document S) t root none options.activeFilter objects

/-! ## Without children -/

variable {e₁ e₂ : Template → Data → Option Filter → Except BuildError Document}

/-- No directive but a child reads whether empty results are left out. -/
theorem contribution_withExclusion (exclude₁ exclude₂ : Bool) (ht : t.Childless S load)
    (he : ∀ u, t.Includes S load u → e₁ u = e₂ u) (hu : t.Includes S load u) {d : Directive}
    (hd : d ∈ u.directives) (object : Data) (f : Option Filter) :
    (loading load).contribution (S.withExclusion exclude₁) e₁ object f d =
      (loading load).contribution (S.withExclusion exclude₂) e₂ object f d := by
  cases d with
  | «attribute» a => rfl
  | node n => rfl
  | child selector objectRoot guard body => exact absurd hd (ht u hu selector objectRoot guard body)
  | glue selector guard body =>
    simp only [contribution, glue, he body (hu.glue hd)]
    rfl
  | extend base target guard extra =>
    cases hload : load base with
    | error e =>
      simp only [contribution, extension, loading, hload]
      rfl
    | ok b =>
      simp only [contribution, extension, loading, hload, Setting.digestOf_withExclusion, bind,
        Except.bind, he _ (hu.extend hd hload)]
      rfl

theorem gather_withExclusion (exclude₁ exclude₂ : Bool) (ht : t.Childless S load)
    (he : ∀ u, t.Includes S load u → e₁ u = e₂ u) (hu : t.Includes S load u)
    {ds : List Directive} (hd : ∀ d ∈ ds, d ∈ u.directives) (object : Data) (f : Option Filter) :
    (loading load).gather (S.withExclusion exclude₁) e₁ object f ds =
      (loading load).gather (S.withExclusion exclude₂) e₂ object f ds := by
  induction ds with
  | nil => rfl
  | cons d rest ih =>
    rw [gather, gather, ih fun d h => hd d (List.mem_cons_of_mem _ h),
      contribution_withExclusion exclude₁ exclude₂ ht he hu (hd d List.mem_cons_self)]

theorem evaluate_withExclusion (exclude₁ exclude₂ : Bool) (ht : t.Childless S load) (levels : Nat)
    (hu : t.Includes S load u) :
    (loading load).evaluate (S.withExclusion exclude₁) levels u =
      (loading load).evaluate (S.withExclusion exclude₂) levels u := by
  induction levels generalizing u with
  | zero => rfl
  | succ levels ih =>
    funext object f
    rw [evaluate, evaluate,
      gather_withExclusion exclude₁ exclude₂ ht (fun _ hu => ih hu) hu fun _ hd => hd]
    rfl

/-- Without children, an object is built alike whether empty results are left out or not. -/
theorem build_withExclusion (exclude₁ exclude₂ : Bool) (ht : t.Childless S load)
    (options : BuildOptions) {object : Data} (ho : object.isObject = true) :
    (loading load).build (S.withExclusion exclude₁) options t object =
      (loading load).build (S.withExclusion exclude₂) options t object := by
  have hdocument : (loading load).document (S.withExclusion exclude₁) t =
      (loading load).document (S.withExclusion exclude₂) t :=
    evaluate_withExclusion exclude₁ exclude₂ ht _ .self
  rw [build_object _ options t ho, build_object _ options t ho]
  change compute _ t _ = compute _ t _
  rw [compute, compute, hdocument]
  rfl

end Strategy

/-- Where no results are kept, objects built together come to what they come to one by one, wrapped
alike. With empty results left out, and no child reached, the same results are given without the
empty ones. -/
theorem StoreBuild.batch_elementwise {σ : Type} [ResultCache σ] (S : Setting)
    (options : BuildOptions) (t : Template) (root : RootSetting) {store : Store σ}
    (hu : store.Uncached S) {objects : List Data}
    (ho : ∀ object ∈ objects, object.isObject = true) :
    let alone (exclude : Bool) (object : Data) : Except BuildError Value :=
      ((Strategy.stored (S.withExclusion exclude) (options.withRoot root)).build
        (S.withExclusion exclude) (options.withRoot root) t object |>.runOn store).1
    let together (exclude : Bool) : Except BuildError (List Value) :=
      ((Strategy.stored (S.withExclusion exclude) (options.withElementRoot root)).buildAll
        (S.withExclusion exclude) (options.withElementRoot root) t objects |>.runOn store).1
    OneByOne (alone false) objects (together false) ∧
      (t.Childless S (store.load S) →
        OneByOne (alone true) objects (together false) ∧
          together true = (together false).map fun results =>
            results.filter fun v => !v.isEmpty) := by
  intro alone together
  have halone : ∀ exclude, alone exclude = fun object =>
      (Strategy.loading (store.load S)).build (S.withExclusion exclude) (options.withRoot root) t
        object :=
    fun exclude => funext fun object =>
      Strategy.runOn_stored_build_of_uncached (S := S.withExclusion exclude) _ t object hu
  have htogether : ∀ exclude, together exclude =
      (objects.mapM (alone exclude)).map fun results =>
        if exclude then results.filter fun v => !v.isEmpty else results := by
    intro exclude
    rw [halone]
    exact (Strategy.runOn_stored_buildAll_of_uncached (S := S.withExclusion exclude) _ t objects
      hu).trans (Strategy.buildAll_eq options root t ho)
  have hkept : together false = objects.mapM (alone false) := by
    rw [htogether]
    cases objects.mapM (alone false) <;> rfl
  refine ⟨hkept ▸ oneByOne_mapM _ _, fun ht => ?_⟩
  have hsame : objects.mapM (alone true) = together false := by
    rw [hkept, halone, halone]
    exact mapM_congr_mem fun object h =>
      Strategy.build_withExclusion true false ht (options.withRoot root) (ho object h)
  refine ⟨hsame ▸ oneByOne_mapM _ _, ?_⟩
  rw [htogether, hsame]
  rfl

/-- A user, a nameless record and a string, by a template that glues in the object at hand. Only
the user has a kind to be wrapped under and a nick to show. -/
theorem StoreBuild.batch_elementwise_nicks :
    let nick := Template.mk none [.attribute { name := "nick" }, .attribute { name := "id" }] "nick"
    let t := Template.mk none [.glue .current {} nick] "t"
    let objects := [Data.record (some "user") none [("nick", .string "leo"), ("id", .integer 1)],
      .record none none [("id", .integer 2)], .string "ida"]
    let filter := Filter.mk none [.mk "nick" [] none]
    let S : Setting := ⟨{}, .empty, .nowhere, id⟩
    let options : BuildOptions := { filter := some filter }
    let store : Store MemoryCache := {}
    let together (exclude : Bool) : Except BuildError (List Value) :=
      ((Strategy.stored (S.withExclusion exclude) (options.withElementRoot (.enabled true))).buildAll
        (S.withExclusion exclude) (options.withElementRoot (.enabled true)) t objects
          |>.runOn store).1
    let user := Value.document [("user", .document [("nick", .string "leo")])]
    (store.Uncached S ∧ (∀ object ∈ objects, object.isObject = true) ∧
      t.Childless S (store.load S)) ∧
      together true = (together false).map (fun results => results.filter fun v => !v.isEmpty) ∧
      together false = .ok [user, .document [], .document []] ∧ together true = .ok [user] := by
  intro nick t objects filter S options store together user
  have hu : store.Uncached S := .inl rfl
  have ho : ∀ object ∈ objects, object.isObject = true :=
    List.forall_mem_cons.2 ⟨rfl, List.forall_mem_cons.2 ⟨rfl, List.forall_mem_singleton.2 rfl⟩⟩
  have hincluded : ∀ u, t.Includes S (store.load S) u → u = t ∨ u = nick := by
    intro u hu
    induction hu with
    | self => exact .inl rfl
    | glue _ hd ih =>
      rcases ih with rfl | rfl
      · cases List.mem_singleton.1 hd
        exact .inr rfl
      · simp [nick, Template.directives] at hd
    | extend _ hd _ ih => rcases ih with rfl | rfl <;> simp [t, nick, Template.directives] at hd
  have ht : t.Childless S (store.load S) := by
    intro u hu selector objectRoot guard body hd
    rcases hincluded u hu with rfl | rfl <;> simp [t, nick, Template.directives] at hd
  have hbatch := StoreBuild.batch_elementwise S options t (.enabled true) hu ho
  exact ⟨⟨hu, ho, ht⟩, (hbatch.2 ht).2, rfl, rfl⟩

end DocumentTemplates
